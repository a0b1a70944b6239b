import AvcDriver.Proofs.Session.Sound

/-!
# Engines that keep within limits

Amounts fit a word of 64 bits, and no memory has more than `Memory.maxSize` bytes. An engine can
say that it consumed so much that the offset into its stream leaves its word, or want a buffer
larger than there can be. Apart from that, and from an engine that never settles, nothing an
engine says stops a submission.

* `Engine.Call.Within`: what a call may say.
* `Heeds`: a part of a run that only stops after a call that was not within the limits, or with an
  engine given up as stuck; one rule for each thing a run is made of.
* `Decoder.submit_within`, `Decoder.run_within`: so does a submission, and a run.
-/

namespace AvcDriver

/-- What a call says over a stream keeps within the limits. What is left of the stream tells how
far the calls before it came. -/
def Engine.Call.Within (stream : Bytes) : Engine.Call → Prop
  | .decode input (.ok output) =>
    stream.length - input.stream.length + output.consumed < 2 ^ 64
  | .info answer => 0 < answer.count → answer.size ≤ Memory.maxSize
  | _ => True

instance (stream : Bytes) : (call : Engine.Call) → Decidable (call.Within stream)
  | .create _ => inferInstanceAs (Decidable True)
  | .decode _ (.ok _) => inferInstanceAs (Decidable (_ < _))
  | .decode _ (.error _) => inferInstanceAs (Decidable True)
  | .next _ => inferInstanceAs (Decidable True)
  | .consumed _ => inferInstanceAs (Decidable True)
  | .info _ => inferInstanceAs (Decidable (_ → _))
  | .add _ => inferInstanceAs (Decidable True)
  | .abort => inferInstanceAs (Decidable True)

namespace Session

open Engine (Behaves OutputBuffer Picture)

variable {ε α β : Type}

/-- Wherever its surroundings hold, `m` makes calls and keeps to its surroundings. It stops only
with an engine given up as stuck, or after a call that is not within the limits, unless there is an
excuse already. -/
def Heeds (s : Surroundings ε) (f : Flight) (stream : Bytes) (excused : Prop) (m : RunM ε α) :
    Prop :=
  ∀ p, s.Holds p → s.Holds (m.run p).2 ∧ ∃ calls : List Engine.Call,
    (m.run p).2.events = p.events ++ (calls.map (Engine.Event.mk f.engineIndex)).toArray ∧
    ∀ cause, (m.run p).1 = .error (.faulted cause) →
      cause = .engineStuck ∨ excused ∨ ∃ call ∈ calls, ¬ call.Within stream

namespace Heeds

variable {s : Surroundings ε} {f : Flight} {stream : Bytes} {excused excused' : Prop}

/-- What makes no call and does not stop. -/
theorem of_settled {m : RunM ε α} {result : Except (Failure DecodeError) α}
    (hrun : ∀ p, m.run p = (result, p)) (h : ∀ cause, result ≠ .error (.faulted cause)) :
    Heeds s f stream excused m := by
  intro p hp
  rw [hrun]
  exact ⟨hp, [], (Array.append_empty).symm, fun cause hcause => absurd hcause (h cause)⟩

theorem pure (a : α) : Heeds s f stream excused (pure a : RunM ε α) :=
  of_settled (fun _ => rfl) (by rintro _ ⟨⟩)

theorem reject (error : DecodeError) :
    Heeds s f stream excused (Action.reject error : RunM ε α) :=
  of_settled (fun _ => rfl) (by rintro _ ⟨⟩)

theorem fault {cause : Fault} (h : cause = .engineStuck ∨ excused) :
    Heeds s f stream excused (Action.fault cause : RunM ε α) := by
  intro p hp
  refine ⟨hp, [], (Array.append_empty).symm, ?_⟩
  rintro _ ⟨⟩
  exact h.imp_right .inl

/-- Two parts of a run, one after the other. -/
theorem bind {m : RunM ε α} {next : α → RunM ε β} (hm : Heeds s f stream excused m)
    (hnext : ∀ a, Heeds s f stream excused (next a)) : Heeds s f stream excused (m >>= next) := by
  intro p hp
  obtain ⟨hp', calls, hevents, hend⟩ := hm p hp
  rcases hrun : m.run p with ⟨failure | a, p'⟩
  · rw [hrun] at hp' hevents hend
    rw [Action.run_bind_error hrun]
    refine ⟨hp', calls, hevents, ?_⟩
    rintro cause ⟨⟩
    exact hend cause rfl
  · rw [hrun] at hp' hevents
    rw [Action.run_bind_ok hrun]
    obtain ⟨hp'', more, hevents', hend'⟩ := hnext a p' hp'
    refine ⟨hp'', calls ++ more, ?_, fun cause hcause => ?_⟩
    · rw [hevents', hevents, List.map_append, ← List.append_toArray, Array.append_assoc]
    · rcases hend' cause hcause with hstuck | hexcused | ⟨call, hmem, hcall⟩
      · exact .inl hstuck
      · exact .inr (.inl hexcused)
      · exact .inr (.inr ⟨call, List.mem_append_right _ hmem, hcall⟩)

/-- A check that only fails with an excuse. -/
theorem ofFaulting_bind {result : Except Fault α} {next : α → RunM ε β}
    (hok : ∀ a, result = .ok a → Heeds s f stream excused (next a))
    (herror : ∀ cause, result = .error cause → excused) :
    Heeds s f stream excused (Action.ofFaulting result >>= next) := by
  cases result with
  | ok a => exact hok a rfl
  | error cause => exact fault (.inr (herror cause rfl))

/-- A call is noted. If it is not within the limits, it excuses what follows. -/
theorem tell_bind (call : Engine.Call) {next : Unit → RunM ε β}
    (hnext : Heeds s f stream (excused ∨ ¬ call.Within stream) (next ())) :
    Heeds s f stream excused (tell f call >>= next) := by
  intro p hp
  have htell : (tell f call : RunM ε Unit).run p =
      (.ok (), { p with events := p.events.push ⟨f.engineIndex, call⟩ }) := rfl
  rw [Action.run_bind_ok htell]
  obtain ⟨hp', calls, hevents, hend⟩ :=
    hnext { p with events := p.events.push ⟨f.engineIndex, call⟩ } ⟨hp.good, hp.memories⟩
  refine ⟨hp', call :: calls, ?_, fun cause hcause => ?_⟩
  · rw [hevents]
    exact List.push_append_toArray
  · rcases hend cause hcause with hstuck | (hexcused | hcall) | ⟨other, hmem, hother⟩
    · exact .inl hstuck
    · exact .inr (.inl hexcused)
    · exact .inr (.inr ⟨call, List.mem_cons_self, hcall⟩)
    · exact .inr (.inr ⟨other, List.mem_cons_of_mem _ hmem, hother⟩)

theorem callEngine_bind {act : Engine.Act ε α} (hact : act.Keeps s.good s.stops)
    {next : Except Fault α → RunM ε β}
    (hnext : ∀ answer, (∀ cause, answer = .error cause → s.stops cause) →
      Heeds s f stream excused (next answer)) :
    Heeds s f stream excused (callEngine act >>= next) := by
  intro p hp
  obtain ⟨hgood, hstops⟩ := hact p.engine hp.good
  have hcall : (callEngine act).run p =
    (.ok (act p.engine).1, { p with engine := (act p.engine).2 }) := rfl
  rw [Action.run_bind_ok hcall]
  exact hnext _ hstops { p with engine := (act p.engine).2 } ⟨hgood, hp.memories⟩

variable [Engine ε]

/-- A picture is delivered if its surface lies in memory. -/
theorem deliver (hfit : s.Fit f) (hstops : ∀ cause, ¬ s.stops cause) (picture : Picture) :
    Heeds s f stream excused (deliver f picture : RunM ε ReadyPicture) := by
  intro p hp
  obtain ⟨result, hrun, hresult⟩ := deliver_run f picture p
  rw [hrun]
  refine ⟨⟨hp.good, (size_copyInto _ _ _).trans hp.memories⟩, [], (Array.append_empty).symm, ?_⟩
  intro cause hcause
  rcases hresult with rfl | ⟨surface, hmem, cause', hwrite, rfl⟩
  · cases hcause
  · exact absurd (hfit.write surface hmem _ hp.memories _ _ hwrite) (hstops cause')

end Heeds

/-! ## Loops -/

section Loops

variable {s : Surroundings ε} {f : Flight} {stream : Bytes} {excused : Prop}

/-- A call that returns. -/
theorem Heeds.call_bind {act : Engine.Act ε α} (hact : act.Keeps s.good s.stops)
    (hstops : ∀ cause, ¬ s.stops cause) {next : α → RunM ε β}
    (hnext : ∀ a, Heeds s f stream excused (next a)) :
    Heeds s f stream excused
      (callEngine act >>= fun answer => Action.ofFaulting answer >>= next) := by
  refine callEngine_bind hact fun answer hanswer => ofFaulting_bind (fun a _ => hnext a) ?_
  exact fun cause hcause => absurd (hanswer cause hcause) (hstops cause)

variable [Engine ε]

theorem heeds_collect (hfit : s.Fit f) (hstops : ∀ cause, ¬ s.stops cause) (patience : Nat) :
    ∀ {excused : Prop}, Heeds s f stream excused (collect f patience) := by
  induction patience with
  | zero => exact fun {_} => Heeds.fault (.inl rfl)
  | succ patience ih =>
    intro excused
    rw [collect]
    refine Heeds.call_bind hfit.engine.nextPicture hstops fun picture? => Heeds.tell_bind _ ?_
    rcases picture? with _ | picture
    · exact Heeds.pure []
    · refine (Heeds.deliver hfit hstops picture).bind fun ready => ?_
      refine Heeds.call_bind (hfit.engine.pictureConsumed picture) hstops fun _ => ?_
      exact Heeds.tell_bind _ (ih.bind fun rest => Heeds.pure _)

theorem heeds_supply (hfit : s.Fit f) (hstops : ∀ cause, ¬ s.stops cause) {size : Nat}
    (count : Nat) :
    ∀ {excused : Prop}, (0 < count → size ≤ Memory.maxSize ∨ excused) →
      Heeds s f stream excused (supply f size count) := by
  induction count with
  | zero => exact fun {_} _ => Heeds.pure ()
  | succ count ih =>
    intro excused hsize
    rw [supply]
    refine Heeds.ofFaulting_bind (fun buffer _ => ?_) ?_
    · refine Heeds.call_bind (hfit.engine.addBuffer buffer) hstops fun _ => Heeds.tell_bind _ ?_
      exact ih fun _ => (hsize (Nat.succ_pos count)).imp_right .inl
    · intro cause hcause
      refine (hsize (Nat.succ_pos count)).resolve_left fun hle => ?_
      rw [zeroed_eq_ok hle] at hcause
      cases hcause

theorem heeds_supplyWanted (hfit : s.Fit f) (hstops : ∀ cause, ¬ s.stops cause) :
    Heeds s f stream excused (supplyWanted f) := by
  rw [supplyWanted]
  refine Heeds.call_bind hfit.engine.bufferInfo hstops fun info => Heeds.tell_bind _ ?_
  refine heeds_supply hfit hstops info.count fun hcount => ?_
  by_cases hsize : info.size ≤ Memory.maxSize
  · exact .inl hsize
  · exact .inr (.inr fun hwithin => hsize (hwithin hcount))

theorem heeds_giveUp (hfit : s.Fit f) (hstops : ∀ cause, ¬ s.stops cause) (error : DecodeError) :
    Heeds s f stream excused (giveUp f error : RunM ε α) :=
  Heeds.call_bind hfit.engine.abort hstops fun _ => Heeds.tell_bind _ (Heeds.reject error)

theorem heeds_respond (hfit : s.Fit f) (hstops : ∀ cause, ¬ s.stops cause) (patience : Nat)
    {proceed : List ReadyPicture → RunM ε (List ReadyPicture)}
    (hproceed : ∀ ready, Heeds s f stream excused (proceed ready)) (ready : List ReadyPicture)
    (status : Engine.Status) :
    Heeds s f stream excused (respond f patience proceed ready status) := by
  cases status with
  | ok => exact hproceed ready
  | headersReady => exact hproceed ready
  | waitingForBuffer => exact (heeds_supplyWanted hfit hstops).bind fun _ => hproceed ready
  | pictureDecoded => exact (heeds_collect hfit hstops patience).bind fun _ => hproceed _
  | pendingFlush => exact (heeds_collect hfit hstops patience).bind fun _ => hproceed _
  | streamProcessed => exact Heeds.pure ready
  | streamNotSupported => exact heeds_giveUp hfit hstops _
  | error code => exact heeds_giveUp hfit hstops _

/-- **A run only stops after a call that was not within the limits**, or with its engine given up as
stuck. The induction is on the rounds that the engine is still given. -/
theorem heeds_driveFrom (hfit : s.Fit f) (hstops : ∀ cause, ¬ s.stops cause) (tag : UInt32)
    (patience rounds : Nat) :
    ∀ {excused : Prop} {offset : Nat} (ready : List ReadyPicture), offset ≤ stream.length →
      Heeds s f stream excused (driveFrom f stream tag patience rounds offset ready) := by
  induction rounds with
  | zero => exact fun {_ _} _ _ => Heeds.fault (.inl rfl)
  | succ rounds ih =>
    intro excused offset ready hoffset
    rw [driveFrom_succ]
    refine Heeds.callEngine_bind (hfit.engine.decode _) fun answer hanswer => ?_
    refine Heeds.tell_bind _ (Heeds.ofFaulting_bind (fun output houtput => ?_) ?_)
    · refine Heeds.ofFaulting_bind (fun reached _ => ?_) fun cause hcause => .inr fun hwithin => ?_
      · exact heeds_respond hfit hstops patience
          (fun ready => ih ready (Nat.min_le_right _ _)) ready output.status
      · -- what is left of the stream tells the offset
        rw [houtput, Engine.Call.Within, List.length_drop, Nat.sub_sub_self hoffset] at hwithin
        rw [checkedWord_eq_ok.2 ⟨hwithin, rfl⟩] at hcause
        cases hcause
    · exact fun cause hcause => absurd (hanswer cause hcause) (hstops cause)

end Loops

namespace Decoder

variable [Engine ε] {d d' : Decoder ε}

/-- **A submission whose calls keep within the limits is answered or rejected**, and its session is
idle, if the engine returns and settles. -/
theorem submit_within {good : ε → Prop} (hreturns : Behaves good fun _ => False)
    (hgood : good d.engine) {target : SurfaceRef} {work : Work} {stream : Bytes}
    {shared shared' : Shared} {owned : SurfaceRef → Bool}
    (hplaced : ∀ surface ∈ shared.surfaces, surface.Placed shared.memories.size) {patience : Nat}
    {outcome : Except (Failure DecodeError) (List ReadyPicture)}
    (hsubmit : d.submit patience owned shared target work stream = (outcome, d', shared'))
    (hsettles : outcome ≠ .error (.faulted .engineStuck)) :
    ∃ calls : List Engine.Call,
      shared'.events = shared.events ++ (calls.map (Engine.Event.mk d.engineIndex)).toArray ∧
      ((∀ call ∈ calls, call.Within stream) →
        (∀ cause, outcome ≠ .error (.faulted cause)) ∧ d'.phase = .idle) := by
  have hfit : (Surroundings.returning good shared.memories.size).Fit
      (d.flight target owned shared.surfaces) := Surroundings.fit_of_placed hreturns hplaced
  have hheeds : Heeds _ (d.flight target owned shared.surfaces) stream False
      (driveFrom _ stream d.tag patience patience 0 []) :=
    heeds_driveFrom hfit (fun _ => id) d.tag patience patience [] (Nat.zero_le _)
  obtain ⟨-, calls, hevents, hend⟩ := hheeds
    { engine := d.engine, memories := shared.memories, events := shared.events } ⟨hgood, rfl⟩
  rcases hrun : (driveFrom (d.flight target owned shared.surfaces) stream d.tag patience patience
    0 []).run { engine := d.engine, memories := shared.memories, events := shared.events }
    with ⟨result, progress⟩
  rw [hrun] at hevents hend
  simp only [flight] at hrun
  simp only [submit, drive, hrun] at hsubmit
  cases hsubmit
  refine ⟨calls, hevents, fun hwithin => ?_⟩
  have hanswered : ∀ cause, outcome ≠ .error (.faulted cause) := by
    rintro cause rfl
    rcases hend cause rfl with rfl | hfalse | ⟨call, hmem, hcall⟩
    · exact hsettles rfl
    · exact hfalse
    · exact hcall (hwithin call hmem)
  refine ⟨hanswered, ?_⟩
  rcases outcome with (error | cause) | pictures
  · rfl
  · exact absurd rfl (hanswered cause)
  · rfl

/-- So is a run, except of work whose parameter sets cannot be written. -/
theorem run_within {good : ε → Prop} (hreturns : Behaves good fun _ => False) {surfaces : Nat}
    {buffers : BufferStore} (hd : d.Sound good surfaces buffers.size) {target : SurfaceRef}
    {work : Work} (hphase : d.phase = .queued target work) (hwritable : ¬ work.Unwritable buffers)
    {shared shared' : Shared}
    (hplaced : ∀ surface ∈ shared.surfaces, surface.Placed shared.memories.size) {patience : Nat}
    {owned : SurfaceRef → Bool} {outcome : Except (Failure DecodeError) (List ReadyPicture)}
    (hrun : d.run patience buffers owned shared = (outcome, d', shared'))
    (hsettles : outcome ≠ .error (.faulted .engineStuck)) :
    ∃ calls : List Engine.Call,
      shared'.events = shared.events ++ (calls.map (Engine.Event.mk d.engineIndex)).toArray ∧
      ((∀ stream, work.stream buffers d.profile d.options = .ok stream →
          ∀ call ∈ calls, call.Within stream) →
        (∀ cause, outcome ≠ .error (.faulted cause)) ∧ d'.phase = .idle) := by
  rcases d.run_cases patience buffers owned shared with
    ⟨cause, hstream, -⟩ | ⟨_, _, error, -, -, hdrops⟩ |
      ⟨target', work', stream, hphase', hstream, hsubmits⟩
  · have hrefs := hd.work
    rw [hphase] at hrefs
    exact absurd (hstream target work hphase) (Work.stream_settles hrefs hwritable cause)
  · rw [hdrops] at hrun
    cases hrun
    exact ⟨[], (Array.append_empty).symm, fun _ => ⟨by rintro _ ⟨⟩, rfl⟩⟩
  · rw [hphase] at hphase'
    cases hphase'
    rw [hsubmits] at hrun
    obtain ⟨calls, hevents, hend⟩ := submit_within hreturns hd.engine hplaced hrun hsettles
    exact ⟨calls, hevents, fun hwithin => hend (hwithin stream hstream)⟩

end Decoder

end Session

end AvcDriver
