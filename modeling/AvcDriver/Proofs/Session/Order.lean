import AvcDriver.Session.Decoder
import Mathlib.Computability.Language
import Mathlib.Order.CompletePartialOrder

/-!
# The order of calls

A client decodes picture after picture. For each it sets a render target, which it may replace,
then enqueues work, then has it run. Calls are in order as long as they can be completed to whole
pictures. A session decides whether a call is the next one from where it stands alone, and where it
stands is told by its last call.

* `protocol`, `Viable`: the calls of whole pictures, and the calls that are in order so far.
* `viable_concat`: the calls that a session accepts are the next ones of the protocol.
* `standing`: the phase of a session after its calls; work goes to the last target that was set.
-/

namespace AvcDriver.Session

open Computability

/-! ## The protocol -/

/-- The calls of one picture. -/
def onePicture : Language Call :=
  {[.setRenderTarget]} * ({[.setRenderTarget]}∗ * ({[.enqueueWork]} * {[.run]}))

/-- The calls of whole pictures. -/
def protocol : Language Call := onePicture∗

/-- Calls that can be completed to whole pictures. -/
def Viable (calls : List Call) : Prop := ∃ rest, calls ++ rest ∈ protocol

/-- Where a call leads a session that accepts it. -/
def Call.leadsTo : Call → State
  | setRenderTarget => .renderTargetSet
  | enqueueWork => .workEnqueued
  | run => .idle

namespace State

/-- Where calls that are accepted one after the other lead. -/
def after (state : State) (calls : List Call) : State := calls.getLast?.elim state Call.leadsTo

/-- Whether calls are accepted one after the other. -/
def AcceptsAll : State → List Call → Prop
  | _, [] => True
  | state, call :: rest => state.accepts call = true ∧ call.leadsTo.AcceptsAll rest

/-- The calls that complete a picture that was begun, and further pictures. A run that stopped is
never completed. -/
def completions : State → Language Call
  | idle => protocol
  | renderTargetSet => {[.setRenderTarget]}∗ * ({[.enqueueWork]} * ({[.run]} * protocol))
  | workEnqueued => {[.run]} * protocol
  | running => 0

variable {state : State} {call : Call} {calls more : List Call}

theorem after_cons (state : State) (call : Call) (calls : List Call) :
    state.after (call :: calls) = call.leadsTo.after calls := by
  cases calls with
  | nil => rfl
  | cons next rest =>
    rw [after, after, List.getLast?_cons_cons, List.getLast?_eq_some_getLast (List.cons_ne_nil _ _)]
    rfl

/-- Calls are accepted in one go if they are accepted in two. -/
theorem acceptsAll_append :
    state.AcceptsAll (calls ++ more) ↔
      state.AcceptsAll calls ∧ (state.after calls).AcceptsAll more := by
  induction calls generalizing state with
  | nil => exact ⟨fun h => ⟨trivial, h⟩, And.right⟩
  | cons first rest ih => rw [List.cons_append, AcceptsAll, AcceptsAll, ih, after_cons, and_assoc]

/-- A session that accepts a call is completed by the call and what completes it then. -/
theorem mul_completions_le (h : state.accepts call = true) :
    {[call]} * call.leadsTo.completions ≤ state.completions := by
  cases state <;> cases call <;> cases h
  · change {[Call.setRenderTarget]} * ({[Call.setRenderTarget]}∗ *
      ({[Call.enqueueWork]} * ({[Call.run]} * onePicture∗))) ≤ onePicture∗
    have hwhole := mul_kstar_le_kstar (a := onePicture)
    rwa [onePicture, mul_assoc, mul_assoc, mul_assoc] at hwhole
  · simp only [completions, Call.leadsTo, ← mul_assoc]
    gcongr
    exact mul_kstar_le_kstar
  · exact le_mul_of_one_le_left' one_le_kstar
  · exact le_rfl

theorem cons_mem_completions (h : state.accepts call = true)
    (hcalls : calls ∈ call.leadsTo.completions) : call :: calls ∈ state.completions :=
  mul_completions_le h (Language.append_mem_mul (Set.mem_singleton [call]) hcalls)

/-- The calls that are accepted one after the other. -/
def accepted (state : State) : Language Call := {calls | state.AcceptsAll calls}

theorem mul_accepted_le (h : state.accepts call = true) :
    {[call]} * call.leadsTo.accepted ≤ state.accepted := by
  rintro _ ⟨_, rfl, calls, hcalls, rfl⟩
  exact ⟨h, hcalls⟩

/-- All calls of the protocol are accepted in turn. -/
theorem protocol_le_accepted : protocol ≤ idle.accepted := by
  have hset : {[Call.setRenderTarget]}∗ * renderTargetSet.accepted ≤ renderTargetSet.accepted :=
    kstar_mul_le_self (mul_accepted_le (rfl : accepts _ .setRenderTarget = true))
  have hone : onePicture * idle.accepted ≤ idle.accepted := by
    rw [onePicture, mul_assoc, mul_assoc, mul_assoc]
    calc ({[Call.setRenderTarget]} * ({[Call.setRenderTarget]}∗ *
          ({[Call.enqueueWork]} * ({[Call.run]} * idle.accepted))) : Language Call)
        ≤ {[.setRenderTarget]} * ({[.setRenderTarget]}∗ *
          ({[.enqueueWork]} * workEnqueued.accepted)) := by
          gcongr
          exact mul_accepted_le (rfl : accepts _ .run = true)
      _ ≤ {[.setRenderTarget]} * ({[.setRenderTarget]}∗ * renderTargetSet.accepted) := by
          gcongr
          exact mul_accepted_le (rfl : accepts _ .enqueueWork = true)
      _ ≤ {[.setRenderTarget]} * renderTargetSet.accepted := by gcongr
      _ ≤ idle.accepted := mul_accepted_le (rfl : accepts _ .setRenderTarget = true)
  refine kstar_le_of_mul_le_right ?_ hone
  rintro _ rfl
  trivial

/-- Any session whose run did not stop can be completed. -/
theorem exists_mem_completions (h : state ≠ running) : ∃ calls, calls ∈ state.completions := by
  have hidle : [] ∈ idle.completions := one_le_kstar (a := onePicture) rfl
  have henqueued : [Call.run] ∈ workEnqueued.completions := cons_mem_completions rfl hidle
  have hset : [Call.enqueueWork, .run] ∈ renderTargetSet.completions :=
    cons_mem_completions rfl henqueued
  cases state with
  | idle => exact ⟨_, hidle⟩
  | renderTargetSet => exact ⟨_, hset⟩
  | workEnqueued => exact ⟨_, henqueued⟩
  | running => exact absurd rfl h

/-- Calls that are accepted are completed by what completes the session that they lead to. -/
theorem append_mem_completions (h : state.AcceptsAll calls)
    (hmore : more ∈ (state.after calls).completions) : calls ++ more ∈ state.completions := by
  induction calls generalizing state with
  | nil => exact hmore
  | cons call rest ih =>
    rw [after_cons] at hmore
    exact cons_mem_completions h.1 (ih h.2 hmore)

/-- No call leads a session to where it is running. -/
theorem after_ne_running (h : state ≠ running) : state.after calls ≠ running := by
  rw [after]
  rcases calls.getLast? with _ | ⟨_ | _ | _⟩
  · exact h
  all_goals rintro ⟨⟩

end State

/-- Calls can be completed to whole pictures exactly if an idle session accepts them one after the
other. -/
theorem viable_iff {calls : List Call} : Viable calls ↔ State.idle.AcceptsAll calls := by
  constructor
  · rintro ⟨rest, hwhole⟩
    exact (State.acceptsAll_append.1 (State.protocol_le_accepted hwhole)).1
  · intro h
    have hstate : State.idle.after calls ≠ .running := State.after_ne_running (by rintro ⟨⟩)
    obtain ⟨rest, hrest⟩ := State.exists_mem_completions hstate
    exact ⟨rest, State.append_mem_completions h hrest⟩

theorem viable_nil : Viable [] := viable_iff.2 trivial

/-- **The next calls of the protocol are those that are accepted** where the calls before have
led. -/
theorem viable_concat {calls : List Call} {call : Call} (h : Viable calls) :
    Viable (calls ++ [call]) ↔ (State.idle.after calls).accepts call = true := by
  rw [viable_iff, State.acceptsAll_append, and_iff_right (viable_iff.1 h)]
  exact and_iff_left trivial

/-! ## Where a session stands -/

/-- A call together with what it is given. -/
inductive Move where
  | begin (target : SurfaceRef)
  | render (buffers : List (BufferRef × BufferKind))
  | finish

namespace Move

/-- The call that is made. -/
def call : Move → Call
  | begin _ => .setRenderTarget
  | render _ => .enqueueWork
  | finish => .run

/-- The render target that is set. -/
def target? : Move → Option SurfaceRef
  | begin target => some target
  | render _ => none
  | finish => none

end Move

/-- The buffers of one picture. -/
def Work.ofBuffers (buffers : List (BufferRef × BufferKind)) : Work :=
  buffers.foldl (fun work (buffer, kind) => work.add buffer kind) {}

/-- The render target that was set last. -/
def lastTarget? (moves : List Move) : Option SurfaceRef := (moves.filterMap Move.target?).getLast?

/-- The phase of a session after calls that were in order. -/
def standing (moves : List Move) : Phase :=
  match moves.getLast?, lastTarget? moves with
  | some (.begin _), some target => .targetSet target
  | some (.render buffers), some target => .queued target (.ofBuffers buffers)
  | _, _ => .idle

variable {moves : List Move}

/-- The last target counts. -/
@[simp] theorem standing_begin (moves : List Move) (target : SurfaceRef) :
    standing (moves ++ [.begin target]) = .targetSet target := by
  simp [standing, lastTarget?, Move.target?]

@[simp] theorem standing_finish (moves : List Move) : standing (moves ++ [.finish]) = .idle := by
  simp [standing]

theorem standing_render {target : SurfaceRef} (h : lastTarget? moves = some target)
    (buffers : List (BufferRef × BufferKind)) :
    standing (moves ++ [.render buffers]) = .queued target (.ofBuffers buffers) := by
  have hlast : lastTarget? (moves ++ [.render buffers]) = some target := by
    rw [← h, lastTarget?, List.filterMap_append]
    simp [Move.target?, lastTarget?]
  simp [standing, hlast]

/-- A session that accepts work has the last target that was set. -/
theorem lastTarget?_of_standing {target : SurfaceRef} (h : standing moves = .targetSet target) :
    lastTarget? moves = some target := by
  rw [standing] at h
  split at h
  · next hlast =>
    cases h
    exact hlast
  · cases h
  · cases h

/-- The phase of a session and the calls that led there tell the same state. -/
theorem state_standing (h : Viable (moves.map Move.call)) :
    (standing moves).state = State.idle.after (moves.map Move.call) := by
  induction moves using List.reverseRecOn with
  | nil => rfl
  | append_singleton moves move ih =>
    rw [List.map_append] at h ⊢
    have hbefore : Viable (moves.map Move.call) := by
      obtain ⟨rest, hwhole⟩ := h
      rw [List.append_assoc] at hwhole
      exact ⟨_, hwhole⟩
    have hafter : State.idle.after (moves.map Move.call ++ [move].map Move.call) =
        move.call.leadsTo := by
      rw [State.after, List.map_singleton, List.getLast?_concat]
      rfl
    rw [hafter]
    cases move with
    | begin target =>
      rw [standing_begin]
      rfl
    | finish =>
      rw [standing_finish]
      rfl
    | render buffers =>
      -- work is accepted behind a target only
      have haccepts := (viable_concat hbefore).1 h
      rw [← ih hbefore] at haccepts
      rcases hphase : standing moves with _ | target | _ | _
      · rw [hphase] at haccepts
        cases haccepts
      · rw [standing_render (lastTarget?_of_standing hphase)]
        rfl
      · rw [hphase] at haccepts
        cases haccepts
      · rw [hphase] at haccepts
        cases haccepts

/-- Which calls are next is told by the phase. -/
theorem viable_concat_iff (h : Viable (moves.map Move.call)) (move : Move) :
    Viable ((moves ++ [move]).map Move.call) ↔ (standing moves).state.accepts move.call = true := by
  rw [state_standing h, List.map_append]
  exact viable_concat h

end AvcDriver.Session
