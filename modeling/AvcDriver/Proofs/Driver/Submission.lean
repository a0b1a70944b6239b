import AvcDriver.Proofs.Driver.Custody
import AvcDriver.Proofs.Driver.Ledger
import AvcDriver.Proofs.Session.Submission

/-!
# What a client submits

A client hands over buffers by their handles, and they are read when the picture ends. In between
it may write into them, destroy their handles, and give the handles to other buffers: what is
submitted are the buffers that were meant, with what they hold in the end.

* `Driver.Fitted`: sessions decode for the profile and the size of their contexts.
* `Meanwhile`: requests between handing over and ending, which leave the context alone.
* `named_storedAs`: buffers that were named stay what they are.
* `submitted_stream_laid_out`: the stream that is submitted, or what is wrong with it.
-/

namespace AvcDriver

open Engine (Factory)
open Session (Decoder Dump Work contentsOf recordsOf SetsOf StoredAs)

variable {ε : Type}

/-! ## What sessions decode for -/

/-- A session decodes for a profile and a size, if it decodes. -/
def Session.outfit? : Session ε → Option (Header.Profile × Header.Options)
  | .noOp => none
  | .decoder d => some (d.profile, d.options)

namespace Session

variable {session session' : Session ε}

theorem outfit?_setRenderTarget {target : SurfaceRef}
    (h : session.setRenderTarget target = .ok session') : session'.outfit? = session.outfit? := by
  cases session with
  | noOp =>
    cases h
    rfl
  | decoder d =>
    rw [setRenderTarget, Decoder.setRenderTarget] at h
    split at h
    · cases h
      rfl
    · cases h

theorem outfit?_enqueueWork {buffers : List (BufferRef × BufferKind)}
    (h : session.enqueueWork buffers = .ok session') : session'.outfit? = session.outfit? := by
  cases session with
  | noOp =>
    cases h
    rfl
  | decoder d =>
    rw [enqueueWork, Decoder.enqueueWork] at h
    split at h
    · cases h
      rfl
    · cases h

/-- A run does not change what its session was started for. -/
theorem outfit?_run [Engine ε] (session : Session ε) (patience : Nat) (buffers : BufferStore)
    (owned : SurfaceRef → Bool) (shared : Shared) :
    (session.run patience buffers owned shared).2.1.outfit? = session.outfit? := by
  cases session with
  | noOp => rfl
  | decoder d =>
    rw [run]
    rcases d.run_cases patience buffers owned shared with
      ⟨_, -, hrun⟩ | ⟨_, _, _, -, -, hrun⟩ | ⟨target, work, stream, -, -, hrun⟩
    · simp only [hrun, outfit?]
    · simp only [hrun, outfit?]
    · obtain ⟨engine, phase, -, hsession⟩ :=
        d.submit_session patience owned shared target work stream
      simp only [hrun, outfit?, hsession]

/-- A session is started for the profile that is coded, and for the size. -/
theorem outfit?_start {factory : Factory ε} {asked : Nat} {mode : Mode} {profile : Config.Profile}
    {entrypoint : Config.Entrypoint} {options : Options}
    (h : (start factory asked mode profile entrypoint options).1 = .ok session) :
    ∀ coded header, session.outfit? = some (coded, header) → profile.coded? = some coded ∧
      header = { width := options.width, height := options.height } := by
  rw [start] at h
  split at h
  · cases h
  · cases h
    rintro _ _ ⟨⟩
  · next params hparams =>
    obtain ⟨engine, -, h⟩ := bind_eq_ok.1 h
    obtain ⟨decoder, hmake, h⟩ := bind_eq_ok.1 h
    cases h
    obtain ⟨recent, -, hdecoder⟩ := bind_eq_ok.1 (mapError_eq_ok.1 hmake)
    cases hdecoder
    rintro _ _ ⟨⟩
    cases mode with
    | noOp => cases hparams
    | hardware =>
      simp only [engineParams?] at hparams
      split at hparams
      · cases hparams
      · split at hparams
        · cases hparams
        · next hcoded =>
          cases hparams
          exact ⟨hcoded, rfl⟩

end Session

/-- The session of a context decodes for the profile and the size of the context. -/
def Context.Fitted (c : Context ε) : Prop :=
  ∀ coded header, c.session.outfit? = some (coded, header) →
    c.config.profile.coded? = some coded ∧ header = { width := c.width, height := c.height }

namespace Driver

open AvcDriver.Action (run_bind_ok)

variable {d d' : Driver ε} {handle : Nat} {c : Context ε}

/-- All sessions decode for the profiles and the sizes of their contexts. -/
def Fitted (d : Driver ε) : Prop := ∀ c ∈ d.contexts.objects, c.Fitted

section Fitted

theorem Fitted.setContext (hd : d.Fitted) (hfind : d.contexts.find? handle = some c)
    {session : Session ε} (houtfit : session.outfit? = c.session.outfit?) :
    ∀ other ∈ (d.contexts.modify handle fun _ => { c with session }).objects, other.Fitted := by
  intro other hmem
  rcases Handle.Table.mem_objects_modify hmem with hold | ⟨-, -, rfl⟩
  · exact hd other hold
  · intro coded header h
    exact hd c (Handle.Table.mem_objects_of_find? hfind) coded header (houtfit.symm.trans h)

variable [Engine ε]

/-- Sessions go on decoding for what they were made for, whatever step the driver makes. -/
theorem Fitted.step (h : Step d d') (hd : d.Fitted) : d'.Fitted := by
  cases h with
  | addContext _ hstart hcreate =>
    intro c hmem
    rw [Handle.Table.objects_create hcreate] at hmem
    rcases List.mem_cons.1 hmem with rfl | hold
    · exact Session.outfit?_start hstart
    · exact hd c hold
  | removeContext hremove => exact fun c hmem => hd c (Handle.Table.objects_removeIf hremove hmem)
  | beginPicture hfind _ hbegin =>
    obtain ⟨-, -, hbegin⟩ := bind_eq_ok.1 hbegin
    obtain ⟨session, hset, hc'⟩ := bind_eq_ok.1 hbegin
    cases hc'
    exact hd.setContext hfind (Session.outfit?_setRenderTarget (mapError_eq_ok.1 hset))
  | renderPicture hfind _ hrender =>
    obtain ⟨-, -, hrender⟩ := bind_eq_ok.1 hrender
    obtain ⟨session, hset, hc'⟩ := bind_eq_ok.1 hrender
    cases hc'
    exact hd.setContext hfind (Session.outfit?_enqueueWork (mapError_eq_ok.1 hset))
  | @endPicture handle c _ _ _ hfind hend =>
    rw [Context.endPicture] at hend
    split at hend
    · cases hend
      exact hd.setContext hfind rfl
    · have hsession := c.session.outfit?_run d.settings.patience d.bufferStore
        (isHeld d.surfaces d.contexts)
        { surfaces := d.surfaceStore, memories := d.memories, dump := d.dump, events := d.events }
      generalize c.session.run _ _ _ _ = ran at hend hsession
      obtain ⟨result, session, after⟩ := ran
      cases hend
      exact hd.setContext hfind hsession
  | _ => exact hd

/-- Sessions decode for their contexts after every history. -/
theorem fitted_serveAll (settings : Settings) (mapper : Memory.Mapper) (factory : Factory ε)
    (history : List Request) : ((make settings mapper factory).serveAll history).Fitted :=
  invariant_of_step Fitted.step (by rintro _ ⟨⟩) (steps_serveAll history _)

end Fitted

/-! ## Buffers that were named -/

/-- The buffers that handles name in one driver, as they are in another one later. -/
def namedThen (d later : Driver ε) (handles : List Nat) : List Buffer :=
  handles.filterMap fun handle =>
    (d.buffers.find? handle).bind fun target => later.bufferStore[target.index]?

section Named

variable [Engine ε]

/-- A buffer stays in the store and is of the same kind, whatever becomes of its handle. -/
theorem stored_of_steps {index : Nat} {buffer : Buffer} (h : d.bufferStore[index]? = some buffer)
    (hsteps : Steps d d') :
    ∃ later, d'.bufferStore[index]? = some later ∧ later.kind = buffer.kind := by
  refine invariant_of_step (I := fun d' => ∃ later, d'.bufferStore[index]? = some later ∧
    later.kind = buffer.kind) ?_ ⟨buffer, h, rfl⟩ hsteps
  rintro d₁ d₂ hstep ⟨later, hlater, hkind⟩
  have hpush (added : Buffer) : (d₁.bufferStore.push added)[index]? = some later := by
    have hlt := (Array.getElem?_eq_some_iff.1 hlater).1
    rw [Array.getElem?_push_lt hlt, ← Array.getElem?_eq_getElem hlt, hlater]
  cases hstep with
  | addBuffer => exact ⟨later, hpush _, hkind⟩
  | addImage => exact ⟨later, hpush _, hkind⟩
  | strandBuffer => exact ⟨later, hpush _, hkind⟩
  | @setMemory target _ memory =>
    by_cases htarget : target.index = index
    · refine ⟨{ later with memory }, ?_, hkind⟩
      rw [Array.getElem?_modify, if_pos htarget, hlater]
      rfl
    · refine ⟨later, ?_, hkind⟩
      rw [Array.getElem?_modify, if_neg htarget, hlater]
  | _ => exact ⟨later, hlater, hkind⟩

/-- **Buffers that were named stay what they are**: later as well, the references that were handed
over lead to them. -/
theorem named_storedAs (hd : d.Custody) {handles : List Nat}
    (hlive : ∀ handle ∈ handles, ∃ target, d.buffers.find? handle = some target) :
    ∃ items, handles.mapM d.named = .ok items ∧ ∀ later, Steps d later →
      StoredAs later.bufferStore items (namedThen d later handles) ∧
        (namedThen d later handles).length = handles.length := by
  induction handles with
  | nil => exact ⟨[], rfl, fun later _ => ⟨.nil, rfl⟩⟩
  | cons handle rest ih =>
    obtain ⟨⟨target, hfind⟩, hrest⟩ := List.forall_mem_cons.1 hlive
    obtain ⟨items, hitems, hstored⟩ := ih hrest
    obtain ⟨buffer, hbuffer, -⟩ := hd.stored handle target hfind
    have hnamed : d.named handle = .ok (target, buffer.kind) := by
      simp only [named, hfind, hbuffer]
    refine ⟨(target, buffer.kind) :: items, ?_, fun later hsteps => ?_⟩
    · rw [List.mapM_cons, hnamed, ok_bind, hitems]
      rfl
    · obtain ⟨found, hfound, hkind⟩ := stored_of_steps hbuffer hsteps
      obtain ⟨hall, hlength⟩ := hstored later hsteps
      have hcons : namedThen d later (handle :: rest) = found :: namedThen d later rest := by
        rw [namedThen, List.filterMap_cons, hfind, Option.bind_some, hfound]
        rfl
      rw [hcons]
      exact ⟨.cons ⟨hfound, hkind⟩ hall, congrArg (· + 1) hlength⟩

end Named

/-! ## Between handing over and ending -/

/-- A request that makes, writes or destroys buffers. -/
def Request.IsOnBuffers : Request → Prop
  | createBuffer .. => True
  | mapBuffer .. => True
  | resizeBuffer .. => True
  | destroyBuffer .. => True
  | _ => False

section Meanwhile

variable [Engine ε]

/-- Requests on buffers, and any others that leave a context alone. -/
inductive Meanwhile (handle : Nat) (start : Driver ε) : Driver ε → Prop
  | start : Meanwhile handle start start
  | onBuffers {d : Driver ε} (before : Meanwhile handle start d) {request : Request}
      (h : request.IsOnBuffers) : Meanwhile handle start (d.serve request)
  | aside {d : Driver ε} (before : Meanwhile handle start d) (request : Request)
      (apart : (d.serve request).contexts.find? handle = d.contexts.find? handle) :
      Meanwhile handle start (d.serve request)

/-- Requests on buffers leave all contexts alone. -/
theorem contexts_serve_of_isOnBuffers {request : Request} (h : request.IsOnBuffers)
    (d : Driver ε) : (d.serve request).contexts = d.contexts := by
  refine contexts_serve ?_ d
  cases request with
  | createBuffer => exact id
  | mapBuffer => exact id
  | resizeBuffer => exact id
  | destroyBuffer => exact id
  | _ => exact h.elim

theorem Meanwhile.steps {start : Driver ε} (h : Meanwhile handle start d) : Steps start d := by
  induction h with
  | start => exact .refl
  | onBuffers _ _ ih => exact ih.trans (keeps_steps_perform _ _ .refl)
  | aside _ request _ ih => exact ih.trans (keeps_steps_perform request _ .refl)

/-- The requests in between leave the context alone. -/
theorem Meanwhile.find?_eq {start : Driver ε} (h : Meanwhile handle start d) :
    d.contexts.find? handle = start.contexts.find? handle := by
  induction h with
  | start => rfl
  | onBuffers _ hrequest ih => rw [contexts_serve_of_isOnBuffers hrequest, ih]
  | aside _ _ apart ih => exact apart.trans ih

end Meanwhile

/-! ## Handing over and ending -/

section Submitting

/-- A picture gets its buffers if all of them are named and its context accepts them. -/
theorem renderPicture_run (hfind : d.contexts.find? handle = some c) {handles : List Nat}
    {items : List (BufferRef × BufferKind)} (hitems : handles.mapM d.named = .ok items)
    {c' : Context ε} (hrender : c.renderPicture items = .ok c') :
    (renderPicture handle handles).run d =
      (.ok (), { d with contexts := d.contexts.modify handle fun _ => c' }) := by
  have hnamed : (handles.mapM namedBuffer).run d = (.ok items, d) :=
    (run_namedBuffers d handles).trans (by rw [hitems])
  rw [renderPicture, run_bind_ok (context_run hfind), run_bind_ok hnamed, hrender]
  rfl

variable [Engine ε]

/-- **What is submitted is laid out by the kinds of buffers.** A context that decodes has begun a
picture, after any history, and buffers are handed over for it: any live ones, of any kinds, in any
order. Whatever is done with buffers then, and whatever else is requested that leaves the context
alone, ending the picture looks at the buffers that were meant, as they are then. If the last
picture parameters or the first slice parameters are missing or malformed, this is answered, the
missing before the malformed and the picture before the slice, and nothing is submitted. If not, the
stream consists of the parameter sets, if the first slice is intra, and all slices in their order,
each behind a start code and nothing else; this is what the engine is given first, and what the dump
holds behind all that it held before, if it is a file that can be written to. An intra picture of
order count type 1 is left out: it has no parameter sets. -/
theorem submitted_stream_laid_out {settings : Settings} {mapper : Memory.Mapper}
    {factory : Factory ε} {history : List Request}
    (hserved : (make settings mapper factory).serveAll history = d)
    (hpatience : 0 < settings.patience) {session : Decoder ε} {target : SurfaceRef}
    (hfind : d.contexts.find? handle = some c) (hsession : c.session = .decoder session)
    (hphase : session.phase = .targetSet target) {handles : List Nat}
    (hlive : ∀ handle ∈ handles, ∃ target, d.buffers.find? handle = some target) :
    ((renderPicture handle handles).run d).1 = .ok () ∧
    ∀ d', Meanwhile handle (d.serve (.renderPicture handle handles)) d' →
      (d.namedThen d' handles).length = handles.length ∧
      match recordsOf (d.namedThen d' handles) with
      | .error error =>
        ∃ d'', (endPicture handle).run d' = (.error (.rejected (.decode error)), d'') ∧
          d''.InPhase handle .idle ∧ d''.events = d'.events ∧ d''.dump = d'.dump ∧
          d''.memories = d'.memories
      | .ok (picture, slice) =>
        (slice.sliceType.isIntra = true → picture.sequence.picOrderCntType ≠ 1) →
        ∃ profile sets, c.config.profile.coded? = some profile ∧
          SetsOf profile { width := c.width, height := c.height } picture slice sets ∧
          let stream := Nal.Stream.join (sets ++ contentsOf .sliceData (d.namedThen d' handles))
          let d'' := d'.serve (.endPicture handle)
          (∀ before, d'.dump = .file before →
            d''.dump.contents? = some (before.getD #[] ++ stream)) ∧
          ((∀ before, d'.dump ≠ .file before) → d''.dump = d'.dump) ∧
          ∃ answer calls, d''.events = d'.events ++
            ((.decode { stream, tag := session.tag } answer :: calls).map
              (Engine.Event.mk session.engineIndex)).toArray := by
  have hd : d.Custody := hserved ▸ custody_serveAll settings mapper factory history
  obtain ⟨items, hitems, hstored⟩ := named_storedAs hd hlive
  have hrender := renderPicture_run hfind hitems
    (Context.renderPicture_of_targetSet hsession hphase items)
  refine ⟨congrArg Prod.fst hrender, fun d' hmeanwhile => ?_⟩
  -- the context has the buffers enqueued, and has not been changed since
  let queued : Decoder ε := { session with phase := .queued target (.ofBuffers items) }
  have hserve : d.serve (.renderPicture handle handles) = { d with
      contexts := d.contexts.modify handle fun _ => { c with session := .decoder queued } } :=
    congrArg Prod.snd hrender
  have hfind' : d'.contexts.find? handle = some { c with session := .decoder queued } := by
    rw [hmeanwhile.find?_eq, hserve, Handle.Table.find?_modify, hfind, Option.map_some, if_pos rfl]
  have hsteps : Steps d d' :=
    (keeps_steps_perform (.renderPicture handle handles) d .refl).trans hmeanwhile.steps
  obtain ⟨hstoredAs, hlength⟩ := hstored d' hsteps
  refine ⟨hlength, ?_⟩
  have hstream := Work.stream_ofBuffers hstoredAs queued.profile queued.options
  rcases hrecords : recordsOf (d.namedThen d' handles) with error | ⟨picture, slice⟩
  · rw [hrecords] at hstream
    have hrun : queued.run d'.settings.patience d'.bufferStore (isHeld d'.surfaces d'.contexts)
        d'.shared = (.error (.rejected error), { queued with phase := .idle }, d'.shared) := by
      simp only [Decoder.run, queued, hstream]
    exact ⟨_, endPicture_run hfind' (Context.endPicture_of_queued rfl rfl hrun),
      inPhase_withMove hfind' rfl d'.shared, rfl, rfl, rfl⟩
  · intro hwritable
    rw [hrecords] at hstream
    obtain ⟨sets, hsets, hstream⟩ := hstream hwritable
    have hfitted : d.Fitted := hserved ▸ fitted_serveAll settings mapper factory history
    obtain ⟨hcoded, hoptions⟩ := hfitted c (Handle.Table.mem_objects_of_find? hfind)
      session.profile session.options (by rw [hsession]; rfl)
    have hsettings : d'.settings = settings := by
      refine invariant_of_step (fun hstep hsame => hstep.settings_eq.trans hsame) ?_ hsteps
      rw [← hserved]
      exact settings_serveAll history _
    have hrun := Decoder.run_eq_submit rfl hstream d'.settings.patience
      (isHeld d'.surfaces d'.contexts) d'.shared
    obtain ⟨hdump, answer, calls, hevents⟩ := queued.submit_decodes
      (hsettings ▸ hpatience : 0 < d'.settings.patience) (isHeld d'.surfaces d'.contexts) d'.shared
      target (.ofBuffers items)
      (Nal.Stream.join (sets ++ contentsOf .sliceData (d.namedThen d' handles)))
    generalize queued.submit _ _ _ _ _ _ = submitted at hrun hdump hevents
    obtain ⟨outcome, session', shared'⟩ := submitted
    have hend : d'.serve (.endPicture handle) =
        d'.withMove handle { c with session := .decoder session' } shared' := by
      change (((endPicture handle >>= fun _ => pure () : DriverM ε Unit)).run d').2 = _
      rw [Action.run_bind, endPicture_run hfind' (Context.endPicture_of_queued rfl rfl hrun)]
      rcases outcome with failure | pictures
      · rfl
      · rfl
    refine ⟨session.profile, sets, hcoded, hoptions ▸ hsets, ?_⟩
    dsimp only
    rw [hend]
    obtain ⟨hfile, hnone⟩ := d'.dump.append_cases
      (Nal.Stream.join (sets ++ contentsOf .sliceData (d.namedThen d' handles)))
    rw [← show shared'.dump = d'.dump.append _ from hdump] at hfile hnone
    exact ⟨hfile, hnone, answer, calls, hevents⟩

/-- A driver of engines that process every stream at once. Its dump is a file with a byte in it. -/
def dumping : Driver Engine.Script :=
  make { dump := .file (some #[0xff]) } Memory.Mapper.heap fun _ _ => .ok { entries := [] }

/-- The driver with three buffers and a picture that has begun. -/
def begun : Driver Engine.Script :=
  dumping.serveAll (enqueuing (.zeros 672) (.zeros 25)).dropLast

/-- The buffers are handed over, the slice first. Then the slice is written, and destroyed. -/
def rewritten : Driver Engine.Script :=
  ((begun.serve (.renderPicture 0 [2, 0, 1])).serve
    (.mapBuffer 2 fun _ => .ofBlock (.ofBytes [0x41, 0x9b]))).serve (.destroyBuffer 2)

theorem rewritten_then : begun.namedThen rewritten [2, 0, 1] = [
    { id := 2, context := some 0, kind := .sliceData, memory := .ofBlock (.ofBytes [0x41, 0x9b]) },
    { id := 0, context := some 0, kind := .pictureParameter, memory := .zeros 672 },
    { id := 1, context := some 0, kind := .sliceParameter, memory := .zeros 25 }] := rfl

theorem rewritten_slices :
    contentsOf .sliceData (begun.namedThen rewritten [2, 0, 1]) = [[0x41, 0x9b]] := by
  rw [rewritten_then]
  exact congrArg ([·]) (Memory.toBytes_ofBytes _)

theorem rewritten_records : recordsOf (begun.namedThen rewritten [2, 0, 1]) =
    .ok (Record.Picture.codec.decode (List.replicate 672 0), { sliceType := .p }) := by
  have hpicture : contentsOf .pictureParameter (begun.namedThen rewritten [2, 0, 1]) =
      [List.replicate 672 0] := by
    rw [rewritten_then]
    exact congrArg ([·]) (Memory.toBytes_zeros 672)
  have hslice : contentsOf .sliceParameter (begun.namedThen rewritten [2, 0, 1]) =
      [List.replicate 25 0] := by
    rw [rewritten_then]
    exact congrArg ([·]) (Memory.toBytes_zeros 25)
  exact Session.recordsOf_singletons hpicture hslice Decoder.parse_zeroPicture
    Decoder.parse_zeroSlice

/-- What was written in the end is submitted, and lies in the dump behind what was there. -/
theorem submitted_stream_laid_out_rewritten :
    ((renderPicture 0 [2, 0, 1]).run begun).1 = .ok () ∧
      rewritten.dump.contents? = some #[0xff] ∧
      (rewritten.serve (.endPicture 0)).dump.contents? = some #[0xff, 0, 0, 0, 1, 0x41, 0x9b] ∧
      ∃ answer calls, (rewritten.serve (.endPicture 0)).events = rewritten.events ++
        ((.decode { stream := [0, 0, 0, 1, 0x41, 0x9b], tag := 0 } answer :: calls).map
          (Engine.Event.mk 0)).toArray := by
  obtain ⟨c, hfind, hsession⟩ : ∃ c, begun.contexts.find? 0 = some c ∧
      c.session = .decoder { waiting with phase := .targetSet ⟨0⟩ } := ⟨_, rfl, rfl⟩
  have hlive : ∀ handle ∈ [2, 0, 1], ∃ target, begun.buffers.find? handle = some target := by
    simp only [List.forall_mem_cons]
    exact ⟨⟨_, rfl⟩, ⟨_, rfl⟩, ⟨_, rfl⟩, by rintro _ ⟨⟩⟩
  have hserved : dumping.serveAll (enqueuing (.zeros 672) (.zeros 25)).dropLast = begun := rfl
  have hmeanwhile : Meanwhile 0 (begun.serve (.renderPicture 0 [2, 0, 1])) rewritten :=
    (Meanwhile.start.onBuffers (show Request.IsOnBuffers (.mapBuffer 2 _) from trivial)).onBuffers
      (show Request.IsOnBuffers (.destroyBuffer 2) from trivial)
  have hdump : rewritten.dump = .file (some #[0xff]) := rfl
  obtain ⟨hanswer, hend⟩ :=
    submitted_stream_laid_out hserved (by decide) hfind hsession rfl hlive
  obtain ⟨-, hend⟩ := hend rewritten hmeanwhile
  rw [rewritten_records] at hend
  obtain ⟨profile, sets, -, hsets, hfile, -, hevents⟩ := hend (by rintro ⟨⟩)
  obtain rfl : sets = [] := hsets
  rw [rewritten_slices] at hfile hevents
  exact ⟨hanswer, congrArg Session.Dump.contents? hdump, hfile _ hdump, hevents⟩

end Submitting

end Driver

end AvcDriver
