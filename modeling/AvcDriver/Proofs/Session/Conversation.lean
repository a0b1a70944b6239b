import AvcDriver.Proofs.Session.Trace

/-!
# The conversation with an engine

A `Conversation` is the list of calls that one submission takes. It goes in rounds, each of
which begins with a decode call on what is left of the stream; the engine's answer says what
belongs to the round besides, and whether another one follows. An engine that is done ends
it, and so does one that fails, after it was told to drop what is in flight.

* `respond_does`: a round is made as the engine's answer says.
* `driveFrom_does`: the calls of a run are a conversation, whatever the engine says.
* `Conversation.shown_eq`: the pictures of a conversation are those that were shown in it.
-/

namespace AvcDriver.Session

open Engine (BufferInfo Input Output OutputBuffer Picture passed passed_append shown shown_append)

variable {ε : Type}

/-! ## What is said -/

/-- What an engine is given when `count` bytes of the stream of a submission have been passed
over. -/
def remainder (stream : Bytes) (tag : UInt32) (count : Nat) : Input :=
  { stream := stream.drop (min count stream.length), tag }

/-- Supplying the output buffers that an engine wants. -/
def suppliedCalls (info : BufferInfo) : List Engine.Call :=
  List.replicate info.count (.add { size := info.size, memory := .zeros info.size })

/-- Collecting pictures until there is none: each is handed back before the next is asked
for. -/
def collectedCalls : List Picture → List Engine.Call
  | [] => [.next none]
  | picture :: rest => .next (some picture) :: .consumed picture :: collectedCalls rest

/-- The calls of a submission from where `count` bytes of its stream have been passed over, the
pictures shown in them, and how the submission ends. -/
inductive Conversation (stream : Bytes) (tag : UInt32) :
    Nat → List Engine.Call → List Picture → Except DecodeError Unit → Prop
  /-- the engine goes on -/
  | goOn {count : Nat} {output : Output} {calls : List Engine.Call} {pictures : List Picture}
      {ending : Except DecodeError Unit}
      (hstatus : output.status = .ok ∨ output.status = .headersReady)
      (hrest : Conversation stream tag (count + output.consumed) calls pictures ending) :
      Conversation stream tag count (.decode (remainder stream tag count) (.ok output) :: calls)
        pictures ending
  /-- the engine is supplied with output buffers -/
  | supply {count : Nat} {output : Output} {info : BufferInfo} {calls : List Engine.Call}
      {pictures : List Picture} {ending : Except DecodeError Unit}
      (hstatus : output.status = .waitingForBuffer)
      (hrest : Conversation stream tag (count + output.consumed) calls pictures ending) :
      Conversation stream tag count
        (.decode (remainder stream tag count) (.ok output) ::
          .info info :: (suppliedCalls info ++ calls)) pictures ending
  /-- pictures are collected -/
  | collect {count : Nat} {output : Output} {collected : List Picture} {calls : List Engine.Call}
      {pictures : List Picture} {ending : Except DecodeError Unit}
      (hstatus : output.status = .pictureDecoded ∨ output.status = .pendingFlush)
      (hrest : Conversation stream tag (count + output.consumed) calls pictures ending) :
      Conversation stream tag count
        (.decode (remainder stream tag count) (.ok output) :: (collectedCalls collected ++ calls))
        (collected ++ pictures) ending
  /-- the engine is done -/
  | processed {count : Nat} {output : Output} (hstatus : output.status = .streamProcessed) :
      Conversation stream tag count [.decode (remainder stream tag count) (.ok output)] [] (.ok ())
  /-- the engine cannot decode the stream -/
  | unsupported {count : Nat} {output : Output} (hstatus : output.status = .streamNotSupported) :
      Conversation stream tag count
        [.decode (remainder stream tag count) (.ok output), .abort] [] (.error .streamNotSupported)
  /-- the engine fails -/
  | failed {count : Nat} {output : Output} {code : Int32} (hstatus : output.status = .error code) :
      Conversation stream tag count
        [.decode (remainder stream tag count) (.ok output), .abort] [] (.error (.hardware code))

/-- Supplying buffers consumes nothing and shows nothing, and collecting pictures consumes nothing.
-/
theorem passed_suppliedCalls (info : BufferInfo) : passed (suppliedCalls info) = 0 := by
  rw [suppliedCalls, passed, List.map_replicate, List.sum_replicate_nat]
  rfl

theorem passed_collectedCalls (pictures : List Picture) : passed (collectedCalls pictures) = 0 := by
  induction pictures with
  | nil => rfl
  | cons picture rest ih =>
    change 0 + (0 + passed (collectedCalls rest)) = 0
    rw [ih]

theorem shown_suppliedCalls (info : BufferInfo) : shown (suppliedCalls info) = [] := by
  rw [suppliedCalls, shown, List.filterMap_replicate_of_none rfl]

/-- The pictures that are collected are those that are shown. -/
theorem shown_collectedCalls (pictures : List Picture) :
    shown (collectedCalls pictures) = pictures := by
  induction pictures with
  | nil => rfl
  | cons picture rest ih => exact congrArg (picture :: ·) ih

/-- A conversation lists the pictures that were shown in it. -/
theorem Conversation.shown_eq {stream : Bytes} {tag : UInt32} {count : Nat}
    {calls : List Engine.Call} {pictures : List Picture} {ending : Except DecodeError Unit}
    (h : Conversation stream tag count calls pictures ending) : shown calls = pictures := by
  induction h with
  | goOn _ _ ih => exact ih
  | supply _ _ ih =>
    rw [← ih]
    exact (shown_append _ _).trans (by rw [shown_suppliedCalls, List.nil_append])
  | collect _ _ ih =>
    rw [← ih]
    exact (shown_append _ _).trans (by rw [shown_collectedCalls])
  | processed _ => rfl
  | unsupported _ => rfl
  | failed _ => rfl

/-! ## What a run says -/

section Loops

variable [Engine ε] {s : Surroundings ε} {f : Flight}

/-- Pictures are collected until there are no more, and each is put on the surface of its tag. -/
theorem collect_does (hfit : s.Fit f) (patience : Nat) :
    ∀ before, Does s f before (collect f patience) fun result calls =>
      ∃ pictures, calls = collectedCalls pictures ∧
        result = .ok (pictures.map (ReadyPicture.of f.surface?)) := by
  induction patience with
  | zero =>
    intro before
    exact Does.fault .stuck
  | succ patience ih =>
    intro before
    rw [collect]
    refine Does.call_bind hfit.engine.nextPicture ?_
    rintro (_ | picture)
    · exact Does.tell_bind rfl (Does.pure ⟨[], rfl, rfl⟩)
    · refine Does.deliver_bind hfit (Does.call_bind (hfit.engine.pictureConsumed picture) ?_)
      rintro ⟨⟩
      refine Does.tell_bind rfl ((ih _).bind ?_ ?_)
      · rintro _ _ ⟨pictures, rfl, ⟨⟩⟩
        refine Does.pure ⟨picture :: pictures, ?_, rfl⟩
        rw [List.append_nil, collectedCalls]
      · rintro _ _ ⟨_, -, ⟨⟩⟩

/-- A buffer is made if it is no larger than memory can be, and else stops the run. -/
theorem zeroed_eq_ok {size : Nat} (h : size ≤ Memory.maxSize) :
    OutputBuffer.zeroed size = .ok { size, memory := .zeros size } := by
  rw [OutputBuffer.zeroed, Memory.allocate, Memory.checkSize, if_pos h]
  rfl

theorem zeroed_eq_error {size : Nat} (h : ¬ size ≤ Memory.maxSize) :
    OutputBuffer.zeroed size = .error .allocationTooLarge := by
  rw [OutputBuffer.zeroed, Memory.allocate, Memory.checkSize, if_neg h]
  rfl

/-- As many buffers are added as were wanted, all of one size. -/
theorem supply_does (hfit : s.Fit f) {size : Nat} (hsize : size ≤ Memory.maxSize) (count : Nat) :
    ∀ before, Does s f before (supply f size count) fun result calls =>
      calls = suppliedCalls { size, count } ∧ result = .ok () := by
  induction count with
  | zero =>
    intro before
    exact Does.pure ⟨rfl, rfl⟩
  | succ count ih =>
    intro before
    rw [supply, zeroed_eq_ok hsize]
    refine Does.ofFaulting_bind ?_ (by rintro _ ⟨⟩)
    rintro buffer ⟨⟩
    refine Does.call_bind (hfit.engine.addBuffer _) ?_
    rintro ⟨⟩
    refine Does.tell_bind rfl ((ih _).mono ?_)
    rintro _ _ ⟨rfl, rfl⟩
    exact ⟨rfl, rfl⟩

/-- An engine that wants buffers is asked which, and gets them. -/
theorem supplyWanted_does (hfit : s.Fit f) (before : List Engine.Call) :
    Does s f before (supplyWanted f) fun result calls =>
      ∃ info, calls = .info info :: suppliedCalls info ∧ result = .ok () := by
  rw [supplyWanted]
  refine Does.call_bind hfit.engine.bufferInfo ?_
  rintro ⟨size, count⟩
  refine Does.tell_bind rfl ?_
  by_cases hsize : size ≤ Memory.maxSize
  · refine (supply_does hfit hsize count _).mono ?_
    rintro _ _ ⟨rfl, rfl⟩
    exact ⟨⟨size, count⟩, rfl, rfl⟩
  · cases count with
    | zero => exact Does.pure ⟨⟨size, 0⟩, rfl, rfl⟩
    | succ count =>
      -- the first of the buffers is one too many already
      rw [supply, zeroed_eq_error hsize]
      refine Does.ofFaulting_bind (by rintro _ ⟨⟩) ?_
      · rintro _ ⟨⟩
        have hmem : (⟨size, count + 1⟩ : BufferInfo) ∈
            Engine.wanted (before ++ [.info ⟨size, count + 1⟩]) :=
          List.mem_filterMap.2 ⟨_, List.mem_append_right _ (List.mem_singleton_self _), rfl⟩
        exact .allocation hmem (Nat.succ_pos count) (Nat.lt_of_not_le hsize)

/-- An engine that is given up is aborted, and the run fails with what it was given up for. -/
theorem giveUp_does {α : Type} (hfit : s.Fit f) (error : DecodeError) (before : List Engine.Call) :
    Does s f before (giveUp f error : RunM ε α) fun result calls =>
      calls = [.abort] ∧ result = .error error := by
  rw [giveUp]
  refine Does.call_bind hfit.engine.abort ?_
  rintro ⟨⟩
  exact Does.tell_bind rfl (Does.reject ⟨rfl, rfl⟩)

/-- A run that had `ready` pictures already ends as a conversation that is `count` bytes into its
stream. -/
def Concludes (f : Flight) (stream : Bytes) (tag : UInt32) (count : Nat)
    (ready : List ReadyPicture) (result : Except DecodeError (List ReadyPicture))
    (calls : List Engine.Call) : Prop :=
  ∃ pictures ending, Conversation stream tag count calls pictures ending ∧
    result = ending.map fun _ => ready ++ pictures.map (ReadyPicture.of f.surface?)

/-- What a run does about an answer. If the submission is not done with, it goes on with
`proceed`. -/
def respond (f : Flight) (patience : Nat)
    (proceed : List ReadyPicture → RunM ε (List ReadyPicture)) (ready : List ReadyPicture) :
    Engine.Status → RunM ε (List ReadyPicture)
  | .ok | .headersReady => proceed ready
  | .waitingForBuffer => do
    supplyWanted f
    proceed ready
  | .pictureDecoded | .pendingFlush => do
    let collected ← collect f patience
    proceed (ready ++ collected)
  | .streamProcessed => pure ready
  | .streamNotSupported => giveUp f .streamNotSupported
  | .error code => giveUp f (.hardware code)

/-- One round of a run: the engine gets what is left of the stream, and is answered by its status.
-/
theorem driveFrom_succ (f : Flight) (stream : Bytes) (tag : UInt32)
    (patience rounds offset : Nat) (ready : List ReadyPicture) :
    (driveFrom f stream tag patience (rounds + 1) offset ready : RunM ε (List ReadyPicture)) = (do
      let input : Input := { stream := stream.drop offset, tag }
      let answer ← callEngine (Engine.decode input)
      tell f (.decode input answer)
      let output ← Action.ofFaulting answer
      let reached ← Action.ofFaulting (checkedWord 64 (offset + output.consumed))
      respond f patience (driveFrom f stream tag patience rounds (min reached stream.length)) ready
        output.status) := by
  rw [driveFrom]
  rfl

/-- Each answer is responded to as a conversation goes on from it, if what follows goes on so. -/
theorem respond_does (hfit : s.Fit f) {patience count : Nat} {stream : Bytes} {tag : UInt32}
    {output : Output} {before : List Engine.Call}
    {proceed : List ReadyPicture → RunM ε (List ReadyPicture)}
    (hproceed : ∀ more ready, passed more = 0 → Does s f (before ++ more) (proceed ready)
      (Concludes f stream tag (count + output.consumed) ready))
    (ready : List ReadyPicture) :
    Does s f before (respond f patience proceed ready output.status) fun result calls =>
      Concludes f stream tag count ready result
        (.decode (remainder stream tag count) (.ok output) :: calls) := by
  have hgoOn := hproceed [] ready rfl
  rw [List.append_nil] at hgoOn
  -- two answers have pictures collected before the run goes on
  have hcollect : Does s f before
      (collect f patience >>= fun collected => proceed (ready ++ collected))
      fun result calls => ∃ collected more pictures ending,
        calls = collectedCalls collected ++ more ∧
          Conversation stream tag (count + output.consumed) more pictures ending ∧
          result = ending.map fun _ =>
            ready ++ (collected ++ pictures).map (ReadyPicture.of f.surface?) := by
    refine (collect_does hfit patience before).bind ?_ ?_
    · rintro _ _ ⟨collected, rfl, ⟨⟩⟩
      refine (hproceed _ _ (passed_collectedCalls collected)).mono ?_
      rintro _ more ⟨pictures, ending, hconv, rfl⟩
      refine ⟨collected, more, pictures, ending, rfl, hconv, ?_⟩
      rw [List.map_append, List.append_assoc]
    · rintro _ _ ⟨_, -, ⟨⟩⟩
  cases hstatus : output.status with
  | ok =>
    refine hgoOn.mono ?_
    rintro _ calls ⟨pictures, ending, hconv, rfl⟩
    exact ⟨pictures, ending, .goOn (.inl hstatus) hconv, rfl⟩
  | headersReady =>
    refine hgoOn.mono ?_
    rintro _ calls ⟨pictures, ending, hconv, rfl⟩
    exact ⟨pictures, ending, .goOn (.inr hstatus) hconv, rfl⟩
  | pictureDecoded =>
    refine hcollect.mono ?_
    rintro _ _ ⟨collected, more, pictures, ending, rfl, hconv, rfl⟩
    exact ⟨_, ending, .collect (.inl hstatus) hconv, rfl⟩
  | pendingFlush =>
    refine hcollect.mono ?_
    rintro _ _ ⟨collected, more, pictures, ending, rfl, hconv, rfl⟩
    exact ⟨_, ending, .collect (.inr hstatus) hconv, rfl⟩
  | waitingForBuffer =>
    refine (supplyWanted_does hfit before).bind ?_ ?_
    · rintro _ _ ⟨info, rfl, ⟨⟩⟩
      refine (hproceed (.info info :: suppliedCalls info) ready ?_).mono ?_
      · exact (Nat.zero_add _).trans (passed_suppliedCalls info)
      rintro _ more ⟨pictures, ending, hconv, rfl⟩
      exact ⟨pictures, ending, .supply hstatus hconv, rfl⟩
    · rintro _ _ ⟨_, -, ⟨⟩⟩
  | streamProcessed =>
    refine Does.pure ⟨[], .ok (), .processed hstatus, ?_⟩
    rw [List.map_nil, List.append_nil]
    rfl
  | streamNotSupported =>
    refine (giveUp_does hfit _ before).mono ?_
    rintro _ _ ⟨rfl, rfl⟩
    exact ⟨[], _, .unsupported hstatus, rfl⟩
  | error code =>
    refine (giveUp_does hfit _ before).mono ?_
    rintro _ _ ⟨rfl, rfl⟩
    exact ⟨[], _, .failed hstatus, rfl⟩

/-- **The calls of a run are a conversation.** The induction is on the rounds that the engine is
still given; what has been passed over so far is told by the calls before. -/
theorem driveFrom_does (hfit : s.Fit f) (stream : Bytes) (tag : UInt32) (patience rounds : Nat) :
    ∀ before ready, Does s f before
      (driveFrom f stream tag patience rounds (min (passed before) stream.length) ready)
      (Concludes f stream tag (passed before) ready) := by
  induction rounds with
  | zero =>
    intro before ready
    exact Does.fault .stuck
  | succ rounds ih =>
    intro before ready
    rw [driveFrom_succ]
    refine Does.decode_bind (hfit.engine.decode _) ?_
    intro output
    have hpassed : ∀ input, passed (before ++ [.decode input (.ok output)]) =
        passed before + output.consumed := fun input => passed_append ..
    refine Does.ofFaulting_bind ?_ ?_
    · intro reached hreached
      obtain ⟨-, rfl⟩ := checkedWord_eq_ok.1 hreached
      refine respond_does hfit ?_ ready
      intro more ready hmore
      -- cutting off at the end of the stream each time is cutting off once
      have hoffset : min (min (passed before) stream.length + output.consumed) stream.length =
          min (passed before + output.consumed) stream.length := by omega
      have hrest := ih (before ++ [.decode (remainder stream tag (passed before)) (.ok output)] ++
        more) ready
      rw [passed_append _ more, hpassed, hmore, Nat.add_zero] at hrest
      rw [hoffset]
      exact hrest
    · intro cause hcause
      by_cases hfits : min (passed before) stream.length + output.consumed < 2 ^ 64
      · rw [checkedWord_eq_ok.2 ⟨hfits, rfl⟩] at hcause
        cases hcause
      · rw [checkedWord_eq_error hfits] at hcause
        cases hcause
        refine .overflow ?_
        rw [hpassed]
        omega

end Loops

end AvcDriver.Session
