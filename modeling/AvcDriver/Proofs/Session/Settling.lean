import AvcDriver.Proofs.Session.Conversation

/-!
# Engines that settle

A run goes on as long as its engine has it go on. Whether that comes to an end is up to the
engine alone: it settles on a submission if, called as the answers it gives ask for, it is done or
fails after finitely many calls. `Settles` says so of the states of the engine. Surfaces, memories
and the patience of a run do not come into it.

* `Drains`, `Fills`: an engine is relieved of its pictures, and supplied with output buffers.
* `Settles`: an engine is done with the rest of a stream, or fails on it, within a bound.
* `driveFrom_unstuck`: no run gives up an engine that settles within its patience.
-/

namespace AvcDriver

/-- After such an answer an engine is not given the rest of its stream. -/
def Engine.Status.Final : Engine.Status → Prop
  | .streamProcessed | .streamNotSupported | .error _ => True
  | _ => False

namespace Session

open AvcDriver.Action (Ends run_bind_ok)
open Engine (Act Behaves BufferInfo Output Picture)

variable {ε α β : Type}

/-! ## What engines do -/

section Engines

variable [Engine ε]

/-- Asked for pictures until it has none, an engine gets from one state to another and shows so
many. Each is handed back before the next is asked for. -/
inductive Drains : Nat → ε → ε → Prop
  | nil {e e' : ε} (hnext : Engine.nextPicture e = (.ok none, e')) : Drains 0 e e'
  | cons {count : Nat} {e shown back e' : ε} {picture : Picture}
      (hnext : Engine.nextPicture e = (.ok (some picture), shown))
      (hconsumed : Engine.pictureConsumed picture shown = (.ok (), back))
      (hrest : Drains count back e') : Drains (count + 1) e e'

/-- Given so many zeroed buffers of a size, an engine gets from one state to another. -/
inductive Fills (size : Nat) : Nat → ε → ε → Prop
  | nil {e : ε} : Fills size 0 e e
  | cons {count : Nat} {e between e' : ε}
      (hadd : Engine.addBuffer { size, memory := .zeros size } e = (.ok (), between))
      (hrest : Fills size count between e') : Fills size (count + 1) e e'

/-- An engine is done with a stream of which `count` bytes have been passed over, or fails on it.
The bound is one for all that could go on for ever: it is at least the number of decode calls, and
more than the number of pictures that are collected at once. -/
inductive Settles (stream : Bytes) (tag : UInt32) : Nat → Nat → ε → Prop
  | ends {bound count : Nat} {e e' : ε} {output : Output}
      (hdecode : Engine.decode (remainder stream tag count) e = (.ok output, e'))
      (hstatus : output.status.Final) : Settles stream tag (bound + 1) count e
  | goesOn {bound count : Nat} {e e' : ε} {output : Output}
      (hdecode : Engine.decode (remainder stream tag count) e = (.ok output, e'))
      (hstatus : output.status = .ok ∨ output.status = .headersReady)
      (hrest : Settles stream tag bound (count + output.consumed) e') :
      Settles stream tag (bound + 1) count e
  | wants {bound count : Nat} {e e' told filled : ε} {output : Output} {info : BufferInfo}
      (hdecode : Engine.decode (remainder stream tag count) e = (.ok output, e'))
      (hstatus : output.status = .waitingForBuffer)
      (hinfo : Engine.bufferInfo e' = (.ok info, told))
      (hfills : Fills info.size info.count told filled)
      (hrest : Settles stream tag bound (count + output.consumed) filled) :
      Settles stream tag (bound + 1) count e
  | shows {bound count pictures : Nat} {e e' drained : ε} {output : Output}
      (hdecode : Engine.decode (remainder stream tag count) e = (.ok output, e'))
      (hstatus : output.status = .pictureDecoded ∨ output.status = .pendingFlush)
      (hdrains : Drains pictures e' drained) (hfew : pictures ≤ bound)
      (hrest : Settles stream tag bound (count + output.consumed) drained) :
      Settles stream tag (bound + 1) count e

end Engines

/-! ## Parts of a run that are not given up -/

/-- Begun with its engine in the state `e`, a part of a run is not given up as stuck. If it
succeeds, its engine is in a state of which `post` holds, and the surroundings hold. -/
def Unstuck (s : Surroundings ε) (m : RunM ε α) (e : ε) (post : ε → Prop) : Prop :=
  ∀ p, s.Holds p → p.engine = e → Ends m p fun result p' =>
    result ≠ .error (.faulted .engineStuck) ∧ ∀ a, result = .ok a → s.Holds p' ∧ post p'.engine

namespace Unstuck

variable {s : Surroundings ε} {f : Flight} {e : ε} {mid post : ε → Prop}

theorem pure {a : α} (h : post e) : Unstuck s (pure a : RunM ε α) e post := by
  rintro p hp rfl
  exact ⟨by rintro ⟨⟩, fun _ _ => ⟨hp, h⟩⟩

theorem reject (error : DecodeError) :
    Unstuck s (Action.reject error : RunM ε α) e post := by
  rintro p hp rfl
  exact ⟨by rintro ⟨⟩, by rintro _ ⟨⟩⟩

/-- Two parts of a run, one after the other. -/
theorem bind {m : RunM ε α} {next : α → RunM ε β} (hm : Unstuck s m e mid)
    (hnext : ∀ a e', mid e' → Unstuck s (next a) e' post) : Unstuck s (m >>= next) e post := by
  intro p hp hengine
  refine (hm p hp hengine).bind ?_ ?_
  · rintro a p' ⟨-, hok⟩
    obtain ⟨hp', hmid⟩ := hok a rfl
    exact hnext a p'.engine hmid p' hp' rfl
  · rintro failure p' ⟨hfailure, -⟩
    refine ⟨?_, by rintro _ ⟨⟩⟩
    rintro ⟨⟩
    exact hfailure rfl

theorem tell_bind {call : Engine.Call} {next : Unit → RunM ε β} (h : Unstuck s (next ()) e post) :
    Unstuck s (tell f call >>= next) e post := fun _ hp hengine =>
  Ends.modify_bind (h _ ⟨hp.good, hp.memories⟩ hengine)

/-- A check that does not find an engine stuck. -/
theorem ofFaulting_bind {result : Except Fault α} {next : α → RunM ε β}
    (hok : ∀ a, result = .ok a → Unstuck s (next a) e post)
    (herror : result ≠ .error .engineStuck) :
    Unstuck s (Action.ofFaulting result >>= next) e post := by
  intro p hp hengine
  refine Ends.ofFaulting_bind (fun a ha => hok a ha p hp hengine) ?_
  rintro cause rfl
  refine ⟨?_, by rintro _ ⟨⟩⟩
  rintro ⟨⟩
  exact herror rfl

/-- A call. It stops only for a cause of the surroundings. -/
theorem callEngine_bind {act : Act ε α} (hact : act.Keeps s.good s.stops)
    {answer : Except Fault α} {e' : ε} (hanswer : act e = (answer, e'))
    {next : Except Fault α → RunM ε β}
    (h : (∀ cause, answer = .error cause → s.stops cause) → Unstuck s (next answer) e' post) :
    Unstuck s (callEngine act >>= next) e post := by
  rintro p hp rfl
  obtain ⟨hgood, hstops⟩ := hact p.engine hp.good
  rw [hanswer] at hgood hstops
  have hcall : (callEngine act).run p = (.ok answer, { p with engine := e' }) := by
    change (Except.ok (act p.engine).1, { p with engine := (act p.engine).2 }) = _
    rw [hanswer]
  rw [Ends, run_bind_ok hcall]
  exact h hstops _ ⟨hgood, hp.memories⟩ rfl

/-- A call that returns. -/
theorem call_bind {act : Act ε α} (hact : act.Keeps s.good s.stops) {a : α} {e' : ε}
    (hanswer : act e = (.ok a, e')) {next : α → RunM ε β} (h : Unstuck s (next a) e' post) :
    Unstuck s (callEngine act >>= fun answer => Action.ofFaulting answer >>= next) e post :=
  callEngine_bind hact hanswer fun _ => h

end Unstuck

/-! ## Loops -/

section Loops

variable [Engine ε] {s : Surroundings ε} {f : Flight} {e e' : ε} {post : ε → Prop}

theorem deliver_unstuck (hfit : s.Fit f) (hstops : ¬ s.stops .engineStuck) (picture : Picture) :
    Unstuck s (deliver f picture) e (· = e) := by
  rintro p hp rfl
  obtain ⟨result, hrun, hresult⟩ := deliver_run f picture p
  rw [Action.ends_of_run hrun]
  refine ⟨?_, fun _ _ => ⟨⟨hp.good, (size_copyInto _ _ _).trans hp.memories⟩, rfl⟩⟩
  rintro rfl
  rcases hresult with hdelivered | ⟨surface, hmem, cause, hwrite, hcause⟩
  · cases hdelivered
  · cases hcause
    exact hstops (hfit.write surface hmem _ hp.memories _ _ hwrite)

theorem collect_unstuck (hfit : s.Fit f) (hstops : ¬ s.stops .engineStuck) {count : Nat}
    (hdrains : Drains count e e') {patience : Nat} (hfew : count < patience) :
    Unstuck s (collect f patience) e (· = e') := by
  induction hdrains generalizing patience with
  | nil hnext =>
    obtain ⟨more, rfl⟩ : ∃ more, patience = more + 1 := ⟨patience - 1, by omega⟩
    rw [collect]
    exact .call_bind hfit.engine.nextPicture hnext (.tell_bind (.pure rfl))
  | cons hnext hconsumed _ ih =>
    obtain ⟨more, rfl⟩ : ∃ more, patience = more + 1 := ⟨patience - 1, by omega⟩
    rw [collect]
    refine .call_bind hfit.engine.nextPicture hnext (.tell_bind ?_)
    refine (deliver_unstuck hfit hstops _).bind ?_
    rintro ready _ rfl
    refine .call_bind (hfit.engine.pictureConsumed _) hconsumed (.tell_bind ?_)
    refine (ih (by omega)).bind ?_
    rintro rest _ rfl
    exact .pure rfl

theorem supply_unstuck (hfit : s.Fit f) {size count : Nat} (hfills : Fills size count e e') :
    Unstuck s (supply f size count) e (· = e') := by
  induction hfills with
  | nil => exact .pure rfl
  | cons hadd _ ih =>
    rw [supply]
    by_cases hsize : size ≤ Memory.maxSize
    · rw [zeroed_eq_ok hsize]
      refine .ofFaulting_bind ?_ (by rintro ⟨⟩)
      rintro buffer ⟨⟩
      exact .call_bind (hfit.engine.addBuffer _) hadd (.tell_bind ih)
    · -- a buffer that is too large stops the run, but not as stuck
      rw [zeroed_eq_error hsize]
      exact .ofFaulting_bind (by rintro _ ⟨⟩) (by rintro ⟨⟩)

theorem supplyWanted_unstuck (hfit : s.Fit f) {info : BufferInfo} {told : ε}
    (hinfo : Engine.bufferInfo e = (.ok info, told)) (hfills : Fills info.size info.count told e') :
    Unstuck s (supplyWanted f) e (· = e') := by
  rw [supplyWanted]
  exact .call_bind hfit.engine.bufferInfo hinfo (.tell_bind (supply_unstuck hfit hfills))

theorem giveUp_unstuck (hfit : s.Fit f) (hstops : ¬ s.stops .engineStuck) (error : DecodeError) :
    Unstuck s (giveUp f error : RunM ε α) e post := by
  rw [giveUp]
  refine .callEngine_bind hfit.engine.abort rfl fun habort => ?_
  refine .ofFaulting_bind (fun _ _ => .tell_bind (.reject error)) ?_
  exact fun hstuck => hstops (habort _ hstuck)

/-- After a final answer there is no more of the stream to be given. -/
theorem respond_unstuck_of_final (hfit : s.Fit f) (hstops : ¬ s.stops .engineStuck)
    {status : Engine.Status} (hstatus : status.Final) (patience : Nat)
    (proceed : List ReadyPicture → RunM ε (List ReadyPicture)) (ready : List ReadyPicture) :
    Unstuck s (respond f patience proceed ready status) e fun _ => True := by
  cases status with
  | streamProcessed => exact .pure trivial
  | streamNotSupported => exact giveUp_unstuck hfit hstops _
  | error code => exact giveUp_unstuck hfit hstops _
  | ok => exact hstatus.elim
  | headersReady => exact hstatus.elim
  | pictureDecoded => exact hstatus.elim
  | pendingFlush => exact hstatus.elim
  | waitingForBuffer => exact hstatus.elim

/-- One round: the answer to a decode call is responded to, unless what it says to be consumed
leaves its word. There is one round less to go then. -/
theorem round_unstuck (hfit : s.Fit f) {stream : Bytes} {tag : UInt32} {count : Nat}
    {output : Output} (hdecode : Engine.decode (remainder stream tag count) e = (.ok output, e'))
    {patience bound rounds : Nat} (hrounds : bound < rounds) {ready : List ReadyPicture}
    (hrespond : ∀ fewer, bound ≤ fewer → Unstuck s (respond f patience (driveFrom f stream tag
      patience fewer (min (count + output.consumed) stream.length)) ready output.status) e' post) :
    Unstuck s (driveFrom f stream tag patience rounds (min count stream.length) ready) e post := by
  obtain ⟨fewer, rfl⟩ : ∃ fewer, rounds = fewer + 1 := ⟨rounds - 1, by omega⟩
  rw [driveFrom_succ]
  refine .callEngine_bind (hfit.engine.decode _) hdecode fun _ => .tell_bind ?_
  refine .ofFaulting_bind ?_ (by rintro ⟨⟩)
  rintro _ ⟨⟩
  by_cases hfits : min count stream.length + output.consumed < 2 ^ 64
  · rw [checkedWord_eq_ok.2 ⟨hfits, rfl⟩]
    refine .ofFaulting_bind ?_ (by rintro ⟨⟩)
    rintro _ ⟨⟩
    -- cutting off at the end of the stream each time is cutting off once
    rw [show min (min count stream.length + output.consumed) stream.length =
      min (count + output.consumed) stream.length by omega]
    exact hrespond fewer (Nat.le_of_lt_succ hrounds)
  · rw [checkedWord_eq_error hfits]
    exact .ofFaulting_bind (by rintro _ ⟨⟩) (by rintro ⟨⟩)

/-- **An engine that settles is not given up**, if the patience of the run is the bound or more.
The induction is on how the engine settles; each round leaves one less to go. -/
theorem driveFrom_unstuck (hfit : s.Fit f) (hstops : ¬ s.stops .engineStuck) {stream : Bytes}
    {tag : UInt32} {bound count : Nat} (hsettles : Settles stream tag bound count e)
    {patience rounds : Nat} (hrounds : bound ≤ rounds) (hpatience : bound ≤ patience)
    (ready : List ReadyPicture) :
    Unstuck s (driveFrom f stream tag patience rounds (min count stream.length) ready) e
      fun _ => True := by
  induction hsettles generalizing rounds ready with
  | ends hdecode hstatus =>
    refine round_unstuck hfit hdecode hrounds fun fewer hfewer => ?_
    exact respond_unstuck_of_final hfit hstops hstatus _ _ _
  | goesOn hdecode hstatus _ ih =>
    refine round_unstuck hfit hdecode hrounds fun fewer hfewer => ?_
    have hrest := ih hfewer (Nat.le_of_lt hpatience) ready
    rcases hstatus with hstatus | hstatus
    · rw [hstatus]
      exact hrest
    · rw [hstatus]
      exact hrest
  | wants hdecode hstatus hinfo hfills _ ih =>
    refine round_unstuck hfit hdecode hrounds fun fewer hfewer => ?_
    rw [hstatus]
    refine (supplyWanted_unstuck hfit hinfo hfills).bind ?_
    rintro _ _ rfl
    exact ih hfewer (Nat.le_of_lt hpatience) ready
  | shows hdecode hstatus hdrains hfew _ ih =>
    refine round_unstuck hfit hdecode hrounds fun fewer hfewer => ?_
    have hcollect := (collect_unstuck hfit hstops hdrains (Nat.lt_of_le_of_lt hfew hpatience)).bind
      fun collected _ hdrained => hdrained ▸ ih hfewer (Nat.le_of_lt hpatience) (ready ++ collected)
    rcases hstatus with hstatus | hstatus
    · rw [hstatus]
      exact hcollect
    · rw [hstatus]
      exact hcollect

end Loops

end Session

end AvcDriver
