import AvcDriver.Proofs.Memory.Bytes
import AvcDriver.Proofs.Session.Settling
import AvcDriver.Proofs.Session.Stream
import AvcDriver.Session.Decoder

/-!
# Runs of a session

A run makes a stream of the buffers that were enqueued and submits it. What comes of the
submission is decided by the conversation with the engine.

* `Decoder.run_cases`: all that a run can do.
* `Decoder.submit_does`: a submission is a conversation, or it stops with an excuse.
* `Decoder.submit_converses`: it is a conversation if the engine's calls return and it settles.
* `Decoder.run_conversation`: a run ends as its conversation does, and lists the pictures that
  were shown in it.
-/

namespace AvcDriver.Session

open Engine (Behaves passed shown wanted)

variable {ε : Type}

/-! ## Surroundings -/

/-- Surroundings in which every call returns. -/
def Surroundings.returning (good : ε → Prop) (memories : Nat) : Surroundings ε :=
  { good, stops := fun _ => False, memories }

/-- Writing into surfaces that lie in memory gives no cause to stop. -/
theorem Surroundings.fit_of_placed [Engine ε] {s : Surroundings ε}
    (hengine : Behaves s.good s.stops) {f : Flight}
    (hplaced : ∀ surface ∈ f.surfaces, surface.Placed s.memories) : s.Fit f where
  engine := hengine
  write surface hmem memories hsize picture cause hfaults := by
    rw [← hsize] at hplaced
    exact absurd hfaults (surface.write_never_faults (hplaced surface hmem) picture cause)

/-- Surroundings of which nothing is asked: a call may stop for any cause. -/
def Surroundings.unruly (memories : Nat) : Surroundings ε :=
  { good := fun _ => True, stops := fun _ => True, memories }

theorem Surroundings.fit_unruly [Engine ε] (memories : Nat) (f : Flight) :
    (unruly memories : Surroundings ε).Fit f where
  engine := Engine.behaves_any
  write _ _ _ _ _ _ _ := trivial

/-- Where every call returns, amounts in their words leave one excuse. -/
theorem Excused.eq_stuck {calls : List Engine.Call} {cause : Fault}
    (h : Excused (fun _ => False) calls cause) (hpassed : passed calls < 2 ^ 64)
    (hsizes : ∀ info ∈ wanted calls, 0 < info.count → info.size ≤ Memory.maxSize) :
    cause = .engineStuck := by
  cases h with
  | outside h => exact h.elim
  | stuck => rfl
  | overflow h => exact absurd hpassed (Nat.not_lt.2 h)
  | allocation hmem hcount hsize =>
    exact absurd (hsizes _ hmem hcount) (Nat.not_le.2 hsize)

/-! ## Submissions -/

namespace Decoder

/-- Where pictures go during a run with a render target. -/
def flight (d : Decoder ε) (target : SurfaceRef) (owned : SurfaceRef → Bool)
    (surfaces : SurfaceStore) : Flight where
  engineIndex := d.engineIndex
  recent := d.recent
  surfaces := surfaces
  held surface := surface = target || owned surface

variable [Engine ε]

theorem run_eq_submit {d : Decoder ε} {target : SurfaceRef} {work : Work}
    (hphase : d.phase = .queued target work) {buffers : BufferStore} {stream : Bytes}
    (hstream : work.stream buffers d.profile d.options = .ok stream) (patience : Nat)
    (owned : SurfaceRef → Bool) (shared : Shared) :
    d.run patience buffers owned shared = d.submit patience owned shared target work stream := by
  rw [run, hphase]
  simp only [hstream]

/-- All that a run can do: it stops and changes nothing, it drops what was enqueued, or it makes
a submission. -/
theorem run_cases (d : Decoder ε) (patience : Nat) (buffers : BufferStore)
    (owned : SurfaceRef → Bool) (shared : Shared) :
    (∃ cause, (∀ target work, d.phase = .queued target work →
        work.stream buffers d.profile d.options = .error (.faulted cause)) ∧
      d.run patience buffers owned shared = (.error (.faulted cause), d, shared)) ∨
    (∃ target work error, d.phase = .queued target work ∧
      work.stream buffers d.profile d.options = .error (.rejected error) ∧
      d.run patience buffers owned shared =
        (.error (.rejected error), { d with phase := .idle }, shared)) ∨
    (∃ target work stream, d.phase = .queued target work ∧
      work.stream buffers d.profile d.options = .ok stream ∧
      d.run patience buffers owned shared = d.submit patience owned shared target work stream) := by
  rcases hphase : d.phase with _ | target | ⟨target, work⟩ | ⟨target, work⟩
  · refine .inl ⟨.runOutOfTurn, by rintro _ _ ⟨⟩, ?_⟩
    rw [run, hphase]
  · refine .inl ⟨.runOutOfTurn, by rintro _ _ ⟨⟩, ?_⟩
    rw [run, hphase]
  · rcases hstream : work.stream buffers d.profile d.options with (error | cause) | stream
    · refine .inr (.inl ⟨target, work, error, rfl, hstream, ?_⟩)
      simp only [run, hphase, hstream]
    · refine .inl ⟨cause, ?_, ?_⟩
      · rintro _ _ ⟨⟩
        exact hstream
      · simp only [run, hphase, hstream]
    · exact .inr (.inr ⟨target, work, stream, rfl, hstream, run_eq_submit hphase hstream ..⟩)
  · refine .inl ⟨.runOutOfTurn, by rintro _ _ ⟨⟩, ?_⟩
    rw [run, hphase]

/-- A submission moves the tag on, and the session is idle again unless the engine stops. -/
theorem submit_session (d : Decoder ε) (patience : Nat) (owned : SurfaceRef → Bool)
    (shared : Shared) (target : SurfaceRef) (work : Work) (stream : Bytes) :
    ∃ engine phase, (phase = .idle ∨ phase = .running target work) ∧
      (d.submit patience owned shared target work stream).2.1 =
        { d with engine, tag := d.tag + 1, phase } := by
  refine ⟨_, _, ?_, rfl⟩
  split
  · exact .inr rfl
  · exact .inl rfl

/-- A session that stops in the engine stays there. -/
theorem submit_phase_of_faulted {d : Decoder ε} {patience : Nat} {owned : SurfaceRef → Bool}
    {shared : Shared} {target : SurfaceRef} {work : Work} {stream : Bytes} {cause : Fault}
    (h : (d.submit patience owned shared target work stream).1 = .error (.faulted cause)) :
    (d.submit patience owned shared target work stream).2.1.phase = .running target work := by
  rcases hdrive : (drive (d.flight target owned shared.surfaces) stream d.tag patience).run
    { engine := d.engine, memories := shared.memories, events := shared.events }
    with ⟨result, progress⟩
  simp only [flight] at hdrive
  simp only [submit, hdrive] at h ⊢
  rw [h]

/-- A submission is a conversation, or it stops with an excuse and the session with it. -/
theorem submit_does {s : Surroundings ε} {d d' : Decoder ε} {target : SurfaceRef}
    {owned : SurfaceRef → Bool} {shared shared' : Shared}
    (hfit : s.Fit (d.flight target owned shared.surfaces)) (hgood : s.good d.engine)
    (hmemories : shared.memories.size = s.memories) {patience : Nat} {work : Work}
    {stream : Bytes} {outcome : Except (Failure DecodeError) (List ReadyPicture)}
    (hsubmit : d.submit patience owned shared target work stream = (outcome, d', shared')) :
    ∃ calls,
      shared'.events = shared.events ++ (calls.map (Engine.Event.mk d.engineIndex)).toArray ∧
      shared'.memories = copyAll (d.flight target owned shared.surfaces).surface? shared.memories
        (shown calls) ∧
      s.good d'.engine ∧ d'.tag = d.tag + 1 ∧
      ((∃ pictures ending, Conversation stream d.tag 0 calls pictures ending ∧ d'.phase = .idle ∧
          outcome = (ending.map fun _ => pictures.map (ReadyPicture.of
            (d.flight target owned shared.surfaces).surface?)).mapError .rejected) ∨
        ∃ cause, outcome = .error (.faulted cause) ∧ d'.phase = .running target work ∧
          Excused s.stops calls cause) := by
  have hdrive := driveFrom_does hfit stream d.tag patience patience [] []
  rw [show min (passed []) stream.length = 0 from Nat.zero_min _] at hdrive
  obtain ⟨calls, hadv, hholds, hend⟩ := hdrive
    { engine := d.engine, memories := shared.memories, events := shared.events }
    ⟨hgood, hmemories⟩
  rcases hrun : (driveFrom (d.flight target owned shared.surfaces) stream d.tag patience patience
    0 []).run { engine := d.engine, memories := shared.memories, events := shared.events }
    with ⟨result, progress⟩
  rw [hrun] at hadv hholds hend
  simp only [flight] at hrun
  simp only [submit, drive, hrun] at hsubmit
  cases hsubmit
  refine ⟨calls, hadv.events, hadv.memories, hholds.good, rfl, ?_⟩
  rcases hend with ⟨_, rfl, pictures, ending, hconv, rfl⟩ | ⟨cause, rfl, hexc⟩
  · refine .inl ⟨pictures, ending, hconv, ?_, rfl⟩
    cases ending <;> rfl
  · exact .inr ⟨cause, rfl, rfl, hexc⟩

/-- A submission does not give up an engine that settles within its patience. -/
theorem submit_unstuck {good : ε → Prop} (hreturns : Behaves good fun _ => False) {d : Decoder ε}
    (hgood : good d.engine) {shared : Shared}
    (hplaced : ∀ surface ∈ shared.surfaces, surface.Placed shared.memories.size) {stream : Bytes}
    {bound : Nat} (hsettles : Settles stream d.tag bound 0 d.engine) {patience : Nat}
    (hpatience : bound ≤ patience) (owned : SurfaceRef → Bool) (target : SurfaceRef) (work : Work) :
    (d.submit patience owned shared target work stream).1 ≠ .error (.faulted .engineStuck) := by
  have hunstuck := driveFrom_unstuck (f := d.flight target owned shared.surfaces)
    (s := .returning good _) (Surroundings.fit_of_placed hreturns hplaced) id hsettles hpatience
    hpatience []
  rw [show min 0 stream.length = 0 from Nat.zero_min _] at hunstuck
  exact (hunstuck { engine := d.engine, memories := shared.memories, events := shared.events }
    ⟨hgood, rfl⟩ rfl).1

/-- The calls of a submission to an engine that settles are a conversation, provided that what it
consumes in all and each buffer it wants are within what there can be. The submission ends as the
conversation does; if that is well, it lists what was shown, in this order. -/
theorem submit_converses {good : ε → Prop} (hreturns : Behaves good fun _ => False)
    {d d' : Decoder ε} (hgood : good d.engine) {shared shared' : Shared}
    (hplaced : ∀ surface ∈ shared.surfaces, surface.Placed shared.memories.size) {stream : Bytes}
    {bound : Nat} (hsettles : Settles stream d.tag bound 0 d.engine) {patience : Nat}
    (hpatience : bound ≤ patience) {owned : SurfaceRef → Bool} {target : SurfaceRef} {work : Work}
    {outcome : Except (Failure DecodeError) (List ReadyPicture)}
    (hsubmit : d.submit patience owned shared target work stream = (outcome, d', shared')) :
    ∃ calls,
      shared'.events = shared.events ++ (calls.map (Engine.Event.mk d.engineIndex)).toArray ∧
      (passed calls < 2 ^ 64 →
        (∀ info ∈ wanted calls, 0 < info.count → info.size ≤ Memory.maxSize) →
        ∃ pictures ending, Conversation stream d.tag 0 calls pictures ending ∧
          outcome = (ending.map fun _ => pictures.map (ReadyPicture.of
            (d.flight target owned shared.surfaces).surface?)).mapError .rejected ∧
          d'.phase = .idle ∧ d'.tag = d.tag + 1) := by
  obtain ⟨calls, hevents, -, -, htag, hend⟩ :=
    submit_does (s := .returning good _) (Surroundings.fit_of_placed hreturns hplaced) hgood rfl
      hsubmit
  refine ⟨calls, hevents, fun hpassed hsizes => ?_⟩
  rcases hend with ⟨pictures, ending, hconv, hidle, houtcome⟩ | ⟨cause, rfl, -, hexc⟩
  · exact ⟨pictures, ending, hconv, houtcome, hidle, htag⟩
  · -- the one excuse that is left is an engine that does not settle
    have hunstuck := submit_unstuck hreturns hgood hplaced hsettles hpatience owned target work
    rw [hsubmit, hexc.eq_stuck hpassed hsizes] at hunstuck
    exact absurd rfl hunstuck

/-- **A run is a conversation.** A session whose stream is made submits it under the tag it had
before. The engine is one whose calls return and that settles on this stream: it reaches a final
answer after finitely many calls. Then, with any patience from the bound on, the calls are a
conversation over the stream, provided that what the engine consumes in all and each buffer it
wants are within what there can be. The run ends as the conversation does; if that is well, it
lists what was shown, in this order. -/
theorem run_conversation {good : ε → Prop} (hreturns : Behaves good fun _ => False)
    {d d' : Decoder ε} (hgood : good d.engine) {target : SurfaceRef} {work : Work}
    (hphase : d.phase = .queued target work) {buffers : BufferStore} {stream : Bytes}
    (hstream : work.stream buffers d.profile d.options = .ok stream) {shared shared' : Shared}
    (hplaced : ∀ surface ∈ shared.surfaces, surface.Placed shared.memories.size)
    {bound patience : Nat} (hsettles : Settles stream d.tag bound 0 d.engine)
    (hpatience : bound ≤ patience) {owned : SurfaceRef → Bool}
    {outcome : Except (Failure DecodeError) (List ReadyPicture)}
    (hrun : d.run patience buffers owned shared = (outcome, d', shared')) :
    ∃ calls,
      shared'.events = shared.events ++ (calls.map (Engine.Event.mk d.engineIndex)).toArray ∧
      (passed calls < 2 ^ 64 →
        (∀ info ∈ wanted calls, 0 < info.count → info.size ≤ Memory.maxSize) →
        ∃ pictures ending, Conversation stream d.tag 0 calls pictures ending ∧
          outcome = (ending.map fun _ => pictures.map (ReadyPicture.of
            (d.flight target owned shared.surfaces).surface?)).mapError .rejected ∧
          d'.phase = .idle ∧ d'.tag = d.tag + 1) := by
  rw [run_eq_submit hphase hstream] at hrun
  exact submit_converses hreturns hgood hplaced hsettles hpatience hrun

/-! ### A submission with little in it -/

/-- Buffers that hold a picture record and a slice record of zeros, and two bytes of a slice. -/
def smallBuffers : BufferStore := #[
  { id := 0, context := some 0, kind := .pictureParameter, memory := .zeros 672 },
  { id := 1, context := some 0, kind := .sliceParameter, memory := .zeros 25 },
  { id := 2, context := some 0, kind := .sliceData, memory := .ofBlock (.ofBytes [0x41, 0x9a]) }]

/-- The submission of these buffers. -/
def smallWork : Work := {
  pictureParameters := some ⟨0⟩
  sliceParameters := [⟨1⟩]
  sliceData := [⟨2⟩] }

/-- A picture record of zeros is one. -/
theorem parse_zeroPicture : Record.Picture.parse (List.replicate 672 0) =
    .ok (Record.Picture.codec.decode (List.replicate 672 0)) := by
  rw [Record.Picture.parse, if_neg (by rw [List.length_replicate]; decide)]

/-- A slice record of zeros is that of a predicted slice. -/
theorem parse_zeroSlice : Record.Slice.parse (List.replicate 25 0) = .ok { sliceType := .p } := rfl

theorem smallWork_stream (profile : Header.Profile) (options : Header.Options) :
    smallWork.stream smallBuffers profile options = .ok [0, 0, 0, 1, 0x41, 0x9a] := by
  have hrefs : ∀ ref ∈ smallWork.refs, ref.index < smallBuffers.size := by decide
  have hpicture : Work.contents smallBuffers ⟨0⟩ = List.replicate 672 0 :=
    (Work.contents_eq (.zeros 672) rfl).trans (Memory.toBytes_zeros 672)
  have hslice : Work.contents smallBuffers ⟨1⟩ = List.replicate 25 0 :=
    (Work.contents_eq (.zeros 25) rfl).trans (Memory.toBytes_zeros 25)
  have hdata : Work.contents smallBuffers ⟨2⟩ = [0x41, 0x9a] :=
    (Work.contents_eq (.ofBlock (.ofBytes [0x41, 0x9a])) rfl).trans (Memory.toBytes_ofBytes _)
  have hrecords := Work.records_eq hrefs ⟨0⟩ rfl ⟨1⟩ rfl
  rw [hpicture, hslice, parse_zeroPicture, ok_bind, parse_zeroSlice, ok_bind] at hrecords
  rw [Work.stream_of_records hrecords,
    Work.write_eq_of_predicted (fun ref hmem => hrefs ref (List.mem_append_right _ hmem)) rfl,
    Work.sliceBytes, show smallWork.sliceData = [⟨2⟩] from rfl, List.flatMap_singleton, hdata]
  rfl

/-- A session with an engine that is called three times over these buffers. It wants two output
buffers first, then shows a picture of the submission and one of a tag that nothing is known
of, consuming more than there is, and then is done. -/
def smallDecoder : Decoder Engine.Script :=
  let picture : Engine.Picture := {
    tag := 0
    width := 1
    height := 1
    luma := .zeros 1
    lumaStride := 1
    chroma := .zeros 2
    chromaStride := 2 }
  { engine := {
      entries := [
        { status := some .waitingForBuffer, consumed := 4,
          info := some { size := 16, count := 2 } },
        { status := some .pictureDecoded, consumed := 9,
          pictures := [(none, picture), (some 5, picture)] }] }
    engineIndex := 0
    profile := .main
    options := { width := 16, height := 16 }
    phase := .queued ⟨0⟩ smallWork
    tag := 3
    recent := { capacity := 1, entries := [(3, ⟨0⟩)], order := [3] } }

/-- One surface without memory. -/
def smallShared : Shared := {
  surfaces := #[{
    id := 7, format := 0, fourcc := 0, width := 16, height := 16, attributes := [],
    mapping := none }]
  memories := #[]
  dump := .off
  events := #[] }

/-- The engine settles: it is supplied with two buffers, relieved of two pictures, and done. -/
theorem smallDecoder_settles :
    Settles [0, 0, 0, 1, 0x41, 0x9a] smallDecoder.tag 4 0 smallDecoder.engine := by
  refine .wants rfl rfl rfl (.cons rfl (.cons rfl .nil)) ?_
  refine .shows rfl (.inl rfl) (.cons rfl rfl (.cons rfl rfl (.nil rfl))) (Nat.le_refl 2) ?_
  exact .ends rfl trivial

theorem run_conversation_small :
    Settles [0, 0, 0, 1, 0x41, 0x9a] smallDecoder.tag 4 0 smallDecoder.engine ∧
      ∃ calls pictures, Conversation [0, 0, 0, 1, 0x41, 0x9a] 3 0 calls pictures (.ok ()) ∧
        (smallDecoder.run 4 smallBuffers (fun _ => false) smallShared).1 =
          .ok (pictures.map (ReadyPicture.of
            (smallDecoder.flight ⟨0⟩ (fun _ => false) smallShared.surfaces).surface?)) ∧
        pictures.map (·.tag) = [3, 5] := by
  have hgood : ∀ entry ∈ smallDecoder.engine.entries, entry.status ≠ none := by
    simp [smallDecoder]
  have hplaced : ∀ surface ∈ smallShared.surfaces, surface.Placed smallShared.memories.size := by
    simp [smallShared, Surface.Placed]
  have hstream := smallWork_stream smallDecoder.profile smallDecoder.options
  obtain ⟨ran, hran⟩ : ∃ ran, ran = smallDecoder.submit 4 (fun _ => false) smallShared ⟨0⟩ smallWork
    [0, 0, 0, 1, 0x41, 0x9a] := ⟨_, rfl⟩
  have hrun : smallDecoder.run 4 smallBuffers (fun _ => false) smallShared = ran :=
    (run_eq_submit rfl hstream 4 _ _).trans hran.symm
  obtain ⟨calls, hevents, hconv⟩ := run_conversation Engine.Script.behaves hgood rfl hstream
    hplaced smallDecoder_settles (Nat.le_refl 4) hrun
  have hcalls : calls = ran.2.2.events.toList.map (·.call) := by
    rw [hevents]
    simp [smallShared, Function.comp_def]
  have hpassed : passed calls < 2 ^ 64 := by
    rw [hcalls, hran]
    decide +kernel
  have hwanted : ∀ info ∈ wanted calls, 0 < info.count → info.size ≤ Memory.maxSize := by
    rw [hcalls, hran]
    decide +kernel
  have htags : (shown calls).map (·.tag) = [3, 5] := by
    rw [hcalls, hran]
    decide +kernel
  have hwell : ran.1.toOption.isSome = true := by
    rw [hran]
    decide +kernel
  obtain ⟨pictures, ending, hconversation, houtcome, -, -⟩ := hconv hpassed hwanted
  rw [hconversation.shown_eq] at htags
  rw [houtcome] at hwell
  cases ending with
  | error error => cases hwell
  | ok _ =>
    refine ⟨smallDecoder_settles, calls, pictures, hconversation, ?_, htags⟩
    rw [hrun, houtcome]
    rfl

/-- An engine may ask for a buffer larger than there can be. It returns from every call and settles,
as it would be done with the next one, but the run stops, and what was said until then is no
conversation. -/
theorem oversized_buffer_stops_run :
    let d : Decoder Engine.Script := { smallDecoder with
      engine := { entries := [
        { status := some .waitingForBuffer, info := some { size := 2 ^ 63, count := 1 } }] } }
    (∀ entry ∈ d.engine.entries, entry.status ≠ none) ∧
      Settles [0, 0, 0, 1, 0x41, 0x9a] d.tag 3 0 d.engine ∧ d.phase = .queued ⟨0⟩ smallWork ∧
      smallWork.stream smallBuffers d.profile d.options = .ok [0, 0, 0, 1, 0x41, 0x9a] ∧
      (d.run 3 smallBuffers (fun _ => false) smallShared).1 =
        .error (.faulted .allocationTooLarge) ∧
      ∃ calls, (d.run 3 smallBuffers (fun _ => false) smallShared).2.2.events =
          (calls.map (Engine.Event.mk 0)).toArray ∧ passed calls = 0 ∧
        ¬ ∃ pictures ending,
          Conversation [0, 0, 0, 1, 0x41, 0x9a] d.tag 0 calls pictures ending := by
  intro d
  have hstream := smallWork_stream d.profile d.options
  have hrun := run_eq_submit (d := d) rfl hstream 3 (fun _ => false) smallShared
  rw [hrun]
  have hsettles : Settles [0, 0, 0, 1, 0x41, 0x9a] d.tag 3 0 d.engine :=
    .wants rfl rfl rfl (.cons rfl .nil) (.ends rfl trivial)
  refine ⟨by simp [d], hsettles, rfl, hstream, by decide +kernel, ?_⟩
  refine ⟨[.decode (remainder [0, 0, 0, 1, 0x41, 0x9a] 3 0) (.ok ⟨.waitingForBuffer, 0⟩),
    .info ⟨2 ^ 63, 1⟩], rfl, rfl, ?_⟩
  rintro ⟨pictures, ending, hconv⟩
  generalize hcalls : [Engine.Call.decode _ _, .info _] = calls at hconv
  cases hconv with
  | goOn hstatus _ =>
    cases hcalls
    simp at hstatus
  | supply _ _ =>
    -- the buffer that was asked for is missing
    injection hcalls with _ hcalls
    injection hcalls with hinfo hcalls
    cases hinfo
    cases hcalls
  | collect hstatus _ =>
    injection hcalls with hdecode _
    cases hdecode
    simp at hstatus
  | processed hstatus => cases hcalls
  | unsupported hstatus => cases hcalls
  | failed hstatus => cases hcalls

end Decoder

end AvcDriver.Session
