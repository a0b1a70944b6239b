import AvcDriver.Proofs.Driver.Sound

/-!
# Sessions that recover

Ending a picture leads its session back to where the next picture can begin, whatever the
client has put into the buffers and whatever the engine says. There is one exception: of an
intra picture of order count type 1 no parameter set can be written. Its submission stops before
the session has let go of it, and no picture can begin in a session that waits to submit one.

* `Decoder.run_answered`: a run is answered or rejected, and its session is idle.
* `endPicture_recovers`: the same for a request to a driver, and what follows for the next one.
* `serveAll_enqueuing`: what the requests of a client come to that is about to end a picture.
-/

namespace AvcDriver

open Engine (Behaves Factory passed wanted)

variable {ε : Type}

namespace Session.Decoder

variable [Engine ε] {d d' : Decoder ε} {target : SurfaceRef} {work : Work} {patience : Nat}
  {buffers : BufferStore} {owned : SurfaceRef → Bool} {shared shared' : Shared}
  {outcome : Except (Failure DecodeError) (List ReadyPicture)}

/-- A run whose stream cannot be made stops and leaves the session as it is. -/
theorem run_unwritable (hphase : d.phase = .queued target work) (h : work.Unwritable buffers)
    (patience : Nat) (owned : SurfaceRef → Bool) (shared : Shared) :
    d.run patience buffers owned shared = (.error (.faulted .pictureOrderType), d, shared) := by
  rw [run, hphase]
  simp only [Work.stream_faults h]

/-- **Any other run is answered or rejected**, and its session is idle again, if the calls of its
engine return, it settles within the patience of the run, and it asks for no more than there can
be. -/
theorem run_answered {good : ε → Prop} (hreturns : Behaves good fun _ => False) {surfaces : Nat}
    (hd : d.Sound good surfaces buffers.size) (hphase : d.phase = .queued target work)
    (hwritable : ¬ work.Unwritable buffers)
    (hplaced : ∀ surface ∈ shared.surfaces, surface.Placed shared.memories.size) {bound : Nat}
    (hsettles : ∀ stream, work.stream buffers d.profile d.options = .ok stream →
      Settles stream d.tag bound 0 d.engine)
    (hpatience : bound ≤ patience)
    (hrun : d.run patience buffers owned shared = (outcome, d', shared')) :
    ∃ calls,
      shared'.events = shared.events ++ (calls.map (Engine.Event.mk d.engineIndex)).toArray ∧
      (passed calls < 2 ^ 64 →
        (∀ info ∈ wanted calls, 0 < info.count → info.size ≤ Memory.maxSize) →
        (∃ answer : Except DecodeError (List ReadyPicture), outcome = answer.mapError .rejected) ∧
          d'.phase = .idle) := by
  have hrefs := hd.work
  rw [hphase] at hrefs
  rcases d.run_cases patience buffers owned shared with
    ⟨cause, hstream, -⟩ | ⟨_, _, error, -, -, hdrops⟩ |
      ⟨target', work', stream, hphase', hstream, hsubmits⟩
  · exact absurd (hstream target work hphase) (Work.stream_settles hrefs hwritable cause)
  · rw [hdrops] at hrun
    cases hrun
    exact ⟨[], (Array.append_empty).symm, fun _ _ => ⟨⟨.error error, rfl⟩, rfl⟩⟩
  · rw [hphase] at hphase'
    cases hphase'
    rw [hsubmits] at hrun
    obtain ⟨calls, hevents, hconverses⟩ :=
      submit_converses hreturns hd.engine hplaced (hsettles stream hstream) hpatience hrun
    refine ⟨calls, hevents, fun hpassed hsizes => ?_⟩
    obtain ⟨pictures, ending, -, houtcome, hidle, -⟩ := hconverses hpassed hsizes
    exact ⟨⟨_, houtcome⟩, hidle⟩

end Session.Decoder

namespace Context

open Session (Decoder Phase ReadyPicture Work)

variable {c : Context ε} {session : Decoder ε} {phase : Phase} {target : SurfaceRef}

/-- Which calls are next is up to where the session stands. -/
theorem check_of_phase (hsession : c.session = .decoder session) (hphase : session.phase = phase)
    (call : Session.Call) :
    c.check call =
      if phase.state.accepts call then .ok () else .error (.outOfOrder call phase.state) := by
  rw [check, hsession, ← hphase]
  rfl

/-- A context with work enqueued runs its session. -/
theorem endPicture_of_queued [Engine ε] {work : Work}
    (hsession : c.session = .decoder session) (hphase : session.phase = .queued target work)
    {patience : Nat} {buffers : BufferStore} {owned : SurfaceRef → Bool}
    {shared shared' : Session.Shared}
    {outcome : Except (Failure DecodeError) (List ReadyPicture)} {session' : Decoder ε}
    (hrun : session.run patience buffers owned shared = (outcome, session', shared')) :
    c.endPicture patience buffers owned shared =
      (outcome.mapError (Failure.map .decode), { c with session := .decoder session' },
        shared') := by
  rw [endPicture, check_of_phase hsession hphase]
  simp only [hsession, Session.run, hrun]
  rfl

/-- A session that accepts a render target takes it for the current tag. -/
theorem beginPicture_of_accepts (hsession : c.session = .decoder session)
    (h : session.state.accepts .setRenderTarget = true) (target : SurfaceRef) :
    c.beginPicture target = .ok { c with
      session := .decoder { session with
        recent := session.recent.put session.tag target
        phase := .targetSet target } } := by
  have hcheck : c.check .setRenderTarget = .ok () :=
    (check_of_phase hsession rfl .setRenderTarget).trans (if_pos h)
  rw [beginPicture, hcheck, hsession, Session.setRenderTarget, Decoder.setRenderTarget, if_pos h]
  rfl

/-- A picture that is begun is out of order as long as work is enqueued. -/
theorem beginPicture_of_queued {work : Work} (hsession : c.session = .decoder session)
    (hphase : session.phase = .queued target work) (other : SurfaceRef) :
    c.beginPicture other = .error (.rejected (.outOfOrder .setRenderTarget .workEnqueued)) := by
  rw [beginPicture, check_of_phase hsession hphase]
  rfl

end Context

namespace Driver

open AvcDriver.Action (run_bind_ok run_get_bind)
open Session (Decoder ReadyPicture Settles Work)

variable {d : Driver ε} {handle surface : Nat} {c : Context ε} {session : Decoder ε}
  {target : SurfaceRef}

/-! ## Requests on a context that is there -/

/-- A picture of a context is ended by the context. -/
theorem endPicture_run [Engine ε] (hfind : d.contexts.find? handle = some c)
    {result : Except (Failure DriverError) (List ReadyPicture)} {c' : Context ε}
    {shared' : Session.Shared}
    (hend : c.endPicture d.settings.patience d.bufferStore (isHeld d.surfaces d.contexts)
      { surfaces := d.surfaceStore, memories := d.memories, dump := d.dump, events := d.events } =
        (result, c', shared')) :
    (endPicture handle).run d = (result, { d with
      contexts := d.contexts.modify handle fun _ => c'
      memories := shared'.memories
      dump := shared'.dump
      events := shared'.events }) := by
  rw [endPicture, run_bind_ok (context_run hfind), run_get_bind]
  dsimp only
  rw [hend]
  cases result <;> rfl

theorem beginPicture_run (hfind : d.contexts.find? handle = some c)
    (hsurface : d.surfaces.find? surface = some target) :
    (beginPicture handle surface).run d =
      match c.beginPicture target with
      | .ok c' => (.ok (), { d with contexts := d.contexts.modify handle fun _ => c' })
      | .error failure => (.error failure, d) := by
  rw [beginPicture, run_bind_ok (surface_run hsurface), run_bind_ok (context_run hfind)]
  cases c.beginPicture target <;> rfl

theorem sessionState_run (hfind : d.contexts.find? handle = some c) :
    (sessionState handle).run d = (.ok c.session.state, d) := by
  rw [sessionState, run_bind_ok (context_run hfind)]
  rfl

/-- A picture whose parameter sets cannot be written stops the request to end it, and its context
stays as it is. -/
theorem endPicture_of_unwritable [Engine ε] (hfind : d.contexts.find? handle = some c)
    (hsession : c.session = .decoder session) {work : Work}
    (hphase : session.phase = .queued target work) (h : work.Unwritable d.bufferStore) :
    ∃ d', (endPicture handle).run d = (.error (.faulted .pictureOrderType), d') ∧
      d'.contexts.find? handle = some c ∧ d'.surfaces = d.surfaces ∧ d'.events = d.events := by
  have hrun := session.run_unwritable hphase h d.settings.patience (isHeld d.surfaces d.contexts)
    { surfaces := d.surfaceStore, memories := d.memories, dump := d.dump, events := d.events }
  have hsame : ({ c with session := .decoder session } : Context ε) = c := by rw [← hsession]
  refine ⟨_, endPicture_run hfind (Context.endPicture_of_queued hsession hphase hrun), ?_, rfl, rfl⟩
  rw [hsame, Handle.Table.find?_modify, hfind, Option.map_some, if_pos rfl]

/-! ## Recovery -/

/-- **Ending a picture leads back to where the next one begins.** After any history of requests
to a driver with a mapper that can be relied on and engines whose calls return, let a context have
work enqueued, and let its engine reach a final answer on the stream of that work, if there is
one, within the patience of the driver. If the engine consumes less than `2 ^ 64` bytes in all
and wants no buffer larger than there can be, the request to end the picture is answered or
rejected, the session is idle, and the next picture can begin on any surface, except if the work
is an intra picture whose parameter sets cannot be written: that stops the request and leaves the
context as it was, where no picture can begin. -/
theorem endPicture_recovers [Engine ε] {good : ε → Prop} (hreturns : Behaves good fun _ => False)
    {settings : Settings} {mapper : Memory.Mapper} {factory : Factory ε} (hmapper : mapper.Sound)
    (hfactory : ∀ earlier params engine, factory earlier params = .ok engine → good engine)
    {history : List Request} {d' : Driver ε}
    (hd : (make settings mapper factory).serveAll history = d)
    (hfind : d.contexts.find? handle = some c) (hsession : c.session = .decoder session)
    {work : Work} (hphase : session.phase = .queued target work) {bound : Nat}
    (hsettles : ∀ stream, work.stream d.bufferStore session.profile session.options = .ok stream →
      Settles stream session.tag bound 0 session.engine)
    (hpatience : bound ≤ d.settings.patience)
    {outcome : Except (Failure DriverError) (List ReadyPicture)}
    (hend : (endPicture handle).run d = (outcome, d')) :
    ∃ calls,
      d'.events = d.events ++ (calls.map (Engine.Event.mk session.engineIndex)).toArray ∧
      (passed calls < 2 ^ 64 →
        (∀ info ∈ wanted calls, 0 < info.count → info.size ≤ Memory.maxSize) →
        (¬ work.Unwritable d.bufferStore →
          (∃ answer : Except DriverError (List ReadyPicture),
            outcome = answer.mapError .rejected) ∧
          (∃ session', d'.contexts.find? handle = some { c with session := .decoder session' } ∧
            session'.phase = .idle) ∧
          ∀ surface target, d'.surfaces.find? surface = some target →
            ((beginPicture handle surface).run d').1 = .ok ())) ∧
      (work.Unwritable d.bufferStore →
        outcome = .error (.faulted .pictureOrderType) ∧ d'.contexts.find? handle = some c ∧
        ∀ surface target, d'.surfaces.find? surface = some target →
          (beginPicture handle surface).run d' =
            (.error (.rejected (.outOfOrder .setRenderTarget .workEnqueued)), d')) := by
  by_cases hwritable : work.Unwritable d.bufferStore
  · -- the engine is not even called
    obtain ⟨stopped, hstopped, hfind', -, hevents⟩ :=
      endPicture_of_unwritable hfind hsession hphase hwritable
    rw [hstopped] at hend
    cases hend
    refine ⟨[], hevents.trans (Array.append_empty).symm, fun _ _ h => absurd hwritable h, ?_⟩
    refine fun _ => ⟨rfl, hfind', ?_⟩
    intro surface target hsurface
    rw [beginPicture_run hfind' hsurface, Context.beginPicture_of_queued hsession hphase]
  · -- the history is needed for this: nothing that the session names is missing
    have hsound : d.Sound good := hd ▸ sound_serveAll hreturns hmapper hfactory history
    have hsession' : session.Sound good d.surfaceStore.size d.bufferStore.size := by
      have hsessions := hsound.sessions c (Handle.Table.mem_objects_of_find? hfind)
      rwa [hsession] at hsessions
    rcases hran : session.run d.settings.patience d.bufferStore (isHeld d.surfaces d.contexts)
      { surfaces := d.surfaceStore, memories := d.memories, dump := d.dump, events := d.events }
      with ⟨ran, session', shared'⟩
    rw [endPicture_run hfind (Context.endPicture_of_queued hsession hphase hran)] at hend
    obtain ⟨rfl, rfl⟩ := Prod.mk.inj hend
    obtain ⟨calls, hevents, hanswered⟩ := Decoder.run_answered hreturns hsession' hphase hwritable
      hsound.placed hsettles hpatience hran
    refine ⟨calls, hevents, ?_, fun h => absurd h hwritable⟩
    intro hpassed hsizes _
    obtain ⟨⟨answer, rfl⟩, hidle⟩ := hanswered hpassed hsizes
    have hfind' : (d.contexts.modify handle fun _ =>
        { c with session := .decoder session' }).find? handle =
          some { c with session := .decoder session' } := by
      rw [Handle.Table.find?_modify, hfind, Option.map_some, if_pos rfl]
    refine ⟨⟨answer.mapError .decode, ?_⟩, ⟨session', hfind', hidle⟩, ?_⟩
    · cases answer <;> rfl
    · intro surface target hsurface
      have haccepts : session'.state.accepts .setRenderTarget = true :=
        congrArg (fun phase : Session.Phase => phase.state.accepts .setRenderTarget) hidle
      rw [beginPicture_run hfind' hsurface, Context.beginPicture_of_accepts rfl haccepts]

/-! ### Drivers about to end a picture -/

/-- A client makes a context and a surface for it, fills a picture record and a slice record, and
hands them over with two bytes of a slice. -/
def enqueuing (picture slice : Memory) : List Request := [
  .createConfig .h264Main .vld [],
  .createSurfaces Config.formatYuv420 16 16 1 [],
  .createContext 0 16 16 0 [],
  .createBuffer 0 .pictureParameter 672 1 none,
  .createBuffer 0 .sliceParameter 25 1 none,
  .createBuffer 0 .sliceData 2 1 (some (.ofBytes [0x41, 0x9a])),
  .mapBuffer 0 fun _ => picture,
  .mapBuffer 1 fun _ => slice,
  .beginPicture 0 0,
  .renderPicture 0 [0, 1, 2]]

/-- A driver of engines that follow a script. -/
def following (script : Engine.Script) : Driver Engine.Script :=
  make {} Memory.Mapper.heap fun _ _ => .ok script

/-- A driver of engines that process every stream at once. -/
def scripted : Driver Engine.Script := following { entries := [] }

/-- A driver that follows a script, with the client's configuration and surface. -/
def furnished (script : Engine.Script) : Driver Engine.Script :=
  let yuv420 : Config.Attribute := { kind := 0, value := 1 }
  let config : Config := {
    id := 0, profile := .h264Main, entrypoint := .vld, attributes := [yuv420] }
  let surface : Surface := {
    id := 0, format := Config.formatYuv420, fourcc := 0, width := 16, height := 16
    attributes := [], mapping := none }
  { following script with
    configs := { live := [(0, config)], next := 1 }
    surfaces := { live := [(0, ⟨0⟩)], next := 1 }
    surfaceStore := #[surface] }

/-- The session of the client's context, once the work is enqueued. -/
def waiting : Decoder Engine.Script where
  engine := { entries := [] }
  engineIndex := 0
  profile := .main
  options := { width := 16, height := 16 }
  phase := .queued ⟨0⟩ Decoder.smallWork
  recent := { capacity := 128, entries := [(0, ⟨0⟩)], order := [0] }

/-- Such a driver that has a context of the client, too, with a session and with buffers. -/
def hosting (script : Engine.Script) (session : Decoder Engine.Script)
    (buffers : List (Nat × BufferRef)) (bufferStore : BufferStore) : Driver Engine.Script :=
  let yuv420 : Config.Attribute := { kind := 0, value := 1 }
  let config : Config := {
    id := 0, profile := .h264Main, entrypoint := .vld, attributes := [yuv420] }
  let context : Context Engine.Script := {
    id := 0, config, width := 16, height := 16, flag := 0, targets := []
    session := .decoder session }
  let params : Engine.Params := { profile := .main, width := 16, height := 16, settings := {} }
  { furnished script with
    contexts := { live := [(0, context)], next := 1 }
    engines := 1
    events := #[{ engine := 0, call := .create params }]
    buffers := { live := buffers, next := buffers.length }
    bufferStore }

/-- The buffer of a picture record. -/
def pictureBuffer (memory : Memory) : Buffer where
  id := 0
  context := some 0
  kind := .pictureParameter
  memory := memory

/-- The buffer of a slice record. -/
def sliceBuffer (memory : Memory) : Buffer where
  id := 1
  context := some 0
  kind := .sliceParameter
  memory := memory

/-- All buffers of the client, with two bytes of a slice in the last. -/
def clientBuffers (picture slice : Memory) : BufferStore := #[
  pictureBuffer picture, sliceBuffer slice,
  { id := 2, context := some 0, kind := .sliceData, memory := .ofBlock (.ofBytes [0x41, 0x9a]) }]

/-- A driver with the client's work enqueued. -/
def enqueued (script : Engine.Script) (picture slice : Memory) : Driver Engine.Script :=
  hosting script { waiting with engine := script } [(2, ⟨2⟩), (1, ⟨1⟩), (0, ⟨0⟩)]
    (clientBuffers picture slice)

/-- A history goes on from where its first requests lead. -/
theorem serveAll_of_take {d d' : Driver Engine.Script} {requests : List Request} (count : Nat)
    (h : d.serveAll (requests.take count) = d') :
    d.serveAll requests = d'.serveAll (requests.drop count) := by
  rw [← h, serveAll, serveAll, serveAll, ← List.foldl_append, List.take_append_drop]

/-- **What the client's requests come to**, one after the other. -/
theorem serveAll_enqueuing (script : Engine.Script) (picture slice : Memory) :
    (following script).serveAll (enqueuing picture slice) = enqueued script picture slice := by
  let requests := enqueuing picture slice
  let start : Decoder Engine.Script :=
    { waiting with engine := script, phase := .idle, recent := { capacity := 128 } }
  let handles : List (Nat × BufferRef) := [(2, ⟨2⟩), (1, ⟨1⟩), (0, ⟨0⟩)]
  let zeroPicture := pictureBuffer (.zeros 672)
  let zeroSlice := sliceBuffer (.zeros 25)
  calc (following script).serveAll requests
    _ = (furnished script).serveAll (requests.drop 2) := serveAll_of_take 2 rfl
    _ = (hosting script start [] #[]).serveAll (requests.drop 3) := serveAll_of_take 1 rfl
    _ = (hosting script start [(0, ⟨0⟩)] #[zeroPicture]).serveAll (requests.drop 4) :=
      serveAll_of_take 1 rfl
    _ = (hosting script start [(1, ⟨1⟩), (0, ⟨0⟩)] #[zeroPicture, zeroSlice]).serveAll
          (requests.drop 5) := serveAll_of_take 1 rfl
    _ = (hosting script start handles (clientBuffers (.zeros 672) (.zeros 25))).serveAll
          (requests.drop 6) := serveAll_of_take 1 rfl
    _ = (hosting script start handles (clientBuffers picture (.zeros 25))).serveAll
          (requests.drop 7) := serveAll_of_take 1 rfl
    _ = (hosting script start handles (clientBuffers picture slice)).serveAll
          (requests.drop 8) := serveAll_of_take 1 rfl
    _ = enqueued script picture slice := serveAll_of_take 2 rfl

theorem enqueuing_session (script : Engine.Script) (picture slice : Memory) :
    ∃ c, ((following script).serveAll (enqueuing picture slice)).contexts.find? 0 = some c ∧
      c.session = .decoder { waiting with engine := script } := by
  rw [serveAll_enqueuing]
  exact ⟨_, rfl, rfl⟩

theorem enqueuing_surface (script : Engine.Script) (picture slice : Memory) :
    ((following script).serveAll (enqueuing picture slice)).surfaces.find? 0 = some ⟨0⟩ := by
  rw [serveAll_enqueuing]
  rfl

theorem enqueuing_settings (script : Engine.Script) (picture slice : Memory) :
    ((following script).serveAll (enqueuing picture slice)).settings = {} := by
  rw [serveAll_enqueuing]
  rfl

theorem enqueuing_buffers (script : Engine.Script) (picture slice : Memory) :
    ((following script).serveAll (enqueuing picture slice)).bufferStore =
      clientBuffers picture slice := by
  rw [serveAll_enqueuing]
  rfl

/-- The records that are read are those that the client filled in. -/
theorem enqueuing_records (script : Engine.Script) (picture slice : Memory) :
    Decoder.smallWork.records
        ((following script).serveAll (enqueuing picture slice)).bufferStore =
      (do
        let picture ← Record.Picture.parse picture.toBytes
        let slice ← Record.Slice.parse slice.toBytes
        pure (picture, slice)).mapError fun error => .rejected (.malformedParameters error) := by
  have hrefs : ∀ ref ∈ Decoder.smallWork.refs, ref.index < 3 := by decide
  rw [enqueuing_buffers, Work.records_eq hrefs ⟨0⟩ rfl ⟨1⟩ rfl,
    Work.contents_eq picture rfl, Work.contents_eq slice rfl]

/-- Records of zeros are those of a predicted picture: ending it is answered, and the next picture
begins. -/
theorem endPicture_recovers_small :
    let d := scripted.serveAll (enqueuing (.zeros 672) (.zeros 25))
    (∃ answer : Except DriverError (List ReadyPicture),
      ((endPicture 0).run d).1 = answer.mapError .rejected) ∧
      ((sessionState 0).run ((endPicture 0).run d).2).1 = .ok .idle ∧
      ((beginPicture 0 0).run ((endPicture 0).run d).2).1 = .ok () := by
  intro d
  have hd : d = scripted.serveAll (enqueuing (.zeros 672) (.zeros 25)) := rfl
  clear_value d
  obtain ⟨c, hfind, hsession⟩ : ∃ c, d.contexts.find? 0 = some c ∧ c.session = .decoder waiting :=
    hd ▸ enqueuing_session _ _ _
  have hsurface : d.surfaces.find? 0 = some ⟨0⟩ := hd ▸ enqueuing_surface _ _ _
  have hbuffers : d.bufferStore = Decoder.smallBuffers := hd ▸ enqueuing_buffers _ _ _
  have hstream : Decoder.smallWork.stream d.bufferStore waiting.profile waiting.options =
      .ok [0, 0, 0, 1, 0x41, 0x9a] := hbuffers ▸ Decoder.smallWork_stream _ _
  have hwritable : ¬ Decoder.smallWork.Unwritable d.bufferStore := by
    intro h
    rw [Work.stream_faults h] at hstream
    cases hstream
  let shared : Session.Shared :=
    { surfaces := d.surfaceStore, memories := d.memories, dump := d.dump, events := d.events }
  obtain ⟨ran, hran⟩ : ∃ ran, ran = waiting.submit d.settings.patience
    (isHeld d.surfaces d.contexts) shared ⟨0⟩ Decoder.smallWork [0, 0, 0, 1, 0x41, 0x9a] := ⟨_, rfl⟩
  have hrun : waiting.run d.settings.patience d.bufferStore (isHeld d.surfaces d.contexts) shared =
      (ran.1, ran.2.1, ran.2.2) := (Decoder.run_eq_submit rfl hstream _ _ _).trans hran.symm
  have hend := endPicture_run hfind (Context.endPicture_of_queued hsession rfl hrun)
  have hsettles : ∀ stream, Decoder.smallWork.stream d.bufferStore waiting.profile waiting.options =
      .ok stream → Settles stream waiting.tag 1 0 waiting.engine :=
    fun _ _ => .ends rfl trivial
  have hpatience : 1 ≤ d.settings.patience := by
    rw [hd, scripted, enqueuing_settings]
    decide
  have hserved : (make {} Memory.Mapper.heap fun _ _ => .ok { entries := [] }).serveAll
    (enqueuing (.zeros 672) (.zeros 25)) = d := hd.symm
  have hfactory : ∀ (earlier : Nat) (params : Engine.Params) (engine : Engine.Script),
      (.ok { entries := [] } : Except DecodeError Engine.Script) = .ok engine →
        ∀ entry ∈ engine.entries, entry.status ≠ none := by
    rintro _ _ _ ⟨⟩ _ ⟨⟩
  obtain ⟨calls, hevents, hsettled, -⟩ := endPicture_recovers Engine.Script.behaves
    Memory.Mapper.sound_heap hfactory hserved hfind hsession rfl hsettles hpatience hend
  have hcalls : calls = (ran.2.2.events.toList.drop d.events.size).map (·.call) := by
    rw [show ran.2.2.events = _ from hevents, Array.toList_append, ← Array.length_toList,
      List.drop_left]
    simp [Function.comp_def]
  have hpassed : passed calls < 2 ^ 64 := by
    subst hd
    rw [hcalls, hran]
    decide +kernel
  have hwanted : ∀ info ∈ wanted calls, 0 < info.count → info.size ≤ Memory.maxSize := by
    subst hd
    rw [hcalls, hran]
    decide +kernel
  obtain ⟨⟨answer, hanswer⟩, ⟨session', hfind', hidle⟩, hbegin⟩ :=
    hsettled hpassed hwanted hwritable
  rw [hend]
  refine ⟨⟨answer, hanswer⟩, ?_, hbegin 0 ⟨0⟩ hsurface⟩
  rw [sessionState_run hfind']
  exact congrArg (fun phase : Session.Phase => Except.ok phase.state) hidle

/-- A picture record of order count type 1. -/
def orderOneBytes : Bytes :=
  let zeros := Record.Picture.codec.decode (List.replicate Record.Picture.size 0)
  Record.Picture.encode { zeros with sequence := { zeros.sequence with picOrderCntType := 1 } }

/-- A slice record of an intra picture. -/
def intraBytes : Bytes := Record.Slice.encode { sliceType := .i }

theorem order_one_unwritable :
    Decoder.smallWork.Unwritable (scripted.serveAll (enqueuing (.ofBlock (.ofBytes orderOneBytes))
      (.ofBlock (.ofBytes intraBytes)))).bufferStore := by
  have hpicture : Record.Picture.parse orderOneBytes =
      .ok (Record.Picture.codec.decode orderOneBytes) := by
    rw [Record.Picture.parse, if_neg (by decide +kernel)]
  have hslice : Record.Slice.parse intraBytes = .ok { sliceType := .i } := by decide +kernel
  refine ⟨Record.Picture.codec.decode orderOneBytes, { sliceType := .i }, ?_, rfl,
    by decide +kernel⟩
  rw [scripted, enqueuing_records, Memory.toBytes_ofBytes, Memory.toBytes_ofBytes, hpicture,
    ok_bind, hslice]
  rfl

/-- A client may hand over a picture that stops the request to end it. The work is still enqueued
after the request, and the next picture does not begin. -/
theorem order_one_picture_stays :
    let d := scripted.serveAll (enqueuing (.ofBlock (.ofBytes orderOneBytes))
      (.ofBlock (.ofBytes intraBytes)))
    (∃ c, d.contexts.find? 0 = some c ∧ c.session = .decoder waiting ∧
      waiting.phase.state = .workEnqueued) ∧
      (∀ entry ∈ waiting.engine.entries, entry.status ≠ none) ∧
      ((endPicture 0).run d).1 = .error (.faulted .pictureOrderType) ∧
      ((sessionState 0).run ((endPicture 0).run d).2).1 = .ok .workEnqueued ∧
      ((beginPicture 0 0).run ((endPicture 0).run d).2).1 =
        .error (.rejected (.outOfOrder .setRenderTarget .workEnqueued)) := by
  intro d
  obtain ⟨c, hfind, hsession⟩ : ∃ c, d.contexts.find? 0 = some c ∧ c.session = .decoder waiting :=
    enqueuing_session _ _ _
  obtain ⟨d', hend, hfind', hsurfaces, -⟩ :=
    endPicture_of_unwritable hfind hsession rfl order_one_unwritable
  refine ⟨⟨c, hfind, hsession, rfl⟩, by rintro _ ⟨⟩, ?_, ?_, ?_⟩
  · rw [hend]
  · rw [hend, sessionState_run hfind', hsession]
    rfl
  · have hsurface : d'.surfaces.find? 0 = some ⟨0⟩ := hsurfaces ▸ enqueuing_surface _ _ _
    rw [hend, beginPicture_run hfind' hsurface, Context.beginPicture_of_queued hsession rfl]

end Driver

end AvcDriver
