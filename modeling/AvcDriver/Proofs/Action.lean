import AvcDriver.Fault
import Mathlib.Algebra.Group.Nat.Defs

/-!
# Running actions

An action is run from a state. What it does after its first part depends on whether that
part failed: a failure is passed on with the state that was reached.

* `bind_eq_ok`: a check in two parts succeeds if both do.
* `checkedWord_eq_ok`: which amounts fit their word.
* `Action.run_bind`: the run of an action in two parts.
* `Action.Ends`: how an action ends from a given state, with one rule for each part it may
  begin with.
* `Action.Keeps`: what holds after an action if it held before, however the action ends.
-/

namespace AvcDriver

theorem bind_eq_ok {ε α β : Type} {first : Except ε α} {next : α → Except ε β} {b : β} :
    (first >>= next) = .ok b ↔ ∃ a, first = .ok a ∧ next a = .ok b := by
  cases first with
  | ok a => simp
  | error e =>
    constructor
    · rintro ⟨⟩
    · rintro ⟨a, ⟨⟩, -⟩

theorem mapError_ok {ε ε' α : Type} (a : α) (f : ε → ε') :
    (Except.ok a).mapError f = .ok a := rfl

theorem mapError_eq_ok {ε ε' α : Type} {result : Except ε α} {f : ε → ε'} {a : α} :
    result.mapError f = .ok a ↔ result = .ok a := by
  constructor
  · intro h
    cases result with
    | ok b =>
      cases h
      rfl
    | error e => cases h
  · rintro rfl
    exact mapError_ok a f

/-- What is rejected does not stop. -/
theorem rejected_ne_faulted {ε E α : Type} (result : Except ε α) (f : ε → E) (cause : Fault) :
    (result.mapError fun error => Failure.rejected (f error)) ≠ .error (.faulted cause) := by
  cases result <;> rintro ⟨⟩

/-- A check in two parts that do not stop does not stop. -/
theorem ne_faulted_bind {E α β : Type} {first : Except (Failure E) α}
    {next : α → Except (Failure E) β} {cause : Fault} (hfirst : first ≠ .error (.faulted cause))
    (hnext : ∀ a, first = .ok a → next a ≠ .error (.faulted cause)) :
    (first >>= next) ≠ .error (.faulted cause) := by
  cases first with
  | ok a => exact hnext a rfl
  | error failure =>
    rintro ⟨⟩
    exact hfirst rfl

theorem checkedWord_eq_ok {bits amount word : Nat} :
    checkedWord bits amount = .ok word ↔ amount < 2 ^ bits ∧ word = amount := by
  rw [checkedWord, Nat.one_shiftLeft]
  split
  · next h => simp [h, eq_comm]
  · next h => simp [h]

theorem checkedWord_eq_error {bits amount : Nat} (h : ¬ amount < 2 ^ bits) :
    checkedWord bits amount = .error .overflow := by
  rw [checkedWord, Nat.one_shiftLeft, if_neg h]

/-- What overflows in the end overflows, whether or not an amount before it fits. -/
theorem checkedWord_bind_overflows {α : Type} {bits amount : Nat} {next : Nat → Except Fault α}
    (h : next amount = .error .overflow) :
    (checkedWord bits amount >>= next) = .error .overflow := by
  rw [checkedWord]
  split
  · exact h
  · rfl

namespace Action

variable {σ E α β : Type}

theorem run_bind (m : Action σ E α) (next : α → Action σ E β) (s : σ) :
    (m >>= next).run s =
      match m.run s with
      | (.ok a, s') => (next a).run s'
      | (.error failure, s') => (.error failure, s') := by
  change (ExceptT.bindCont next (m.run s).1).run (m.run s).2 = _
  rcases m.run s with ⟨_ | _, _⟩ <;> rfl

/-- The rest of an action is run from where its first part got. -/
theorem run_bind_ok {m : Action σ E α} {next : α → Action σ E β} {s s' : σ} {a : α}
    (h : m.run s = (.ok a, s')) : (m >>= next).run s = (next a).run s' := by
  rw [run_bind, h]

/-- What is read is where the action is run from. -/
theorem run_get_bind (next : σ → Action σ E β) (s : σ) :
    ((get : Action σ E σ) >>= next).run s = (next s).run s := rfl

/-- A failure is passed on. -/
theorem run_bind_error {m : Action σ E α} {next : α → Action σ E β} {s s' : σ}
    {failure : Failure E} (h : m.run s = (.error failure, s')) :
    (m >>= next).run s = (.error failure, s') := by
  rw [run_bind, h]

/-- A failure is handled from where it was met. -/
theorem run_tryCatch (m : Action σ E α) (handle : Failure E → Action σ E α) (s : σ) :
    (tryCatch m handle).run s =
      match m.run s with
      | (.ok a, s') => (.ok a, s')
      | (.error failure, s') => (handle failure).run s' := by
  rcases hrun : m.run s with ⟨failure | a, s'⟩
  · have hm : m s = (.error failure, s') := hrun
    simp [tryCatch, tryCatchThe, MonadExceptOf.tryCatch, ExceptT.tryCatch, ExceptT.mk, bind,
      StateT.bind, ExceptT.run, hm]
  · have hm : m s = (.ok a, s') := hrun
    simp [tryCatch, tryCatchThe, MonadExceptOf.tryCatch, ExceptT.tryCatch, ExceptT.mk, bind,
      StateT.bind, ExceptT.run, hm]
    rfl

/-! ## How actions end -/

/-- Run from `s`, an action ends with a result and a state of which `Q` holds. -/
def Ends (m : Action σ E α) (s : σ) (Q : Except (Failure E) α → σ → Prop) : Prop :=
  Q (m.run s).1 (m.run s).2

section Ends

variable {γ : Type} {s : σ} {Q : Except (Failure E) β → σ → Prop} {next : α → Action σ E β}

theorem ends_of_run {m : Action σ E α} {s s' : σ} {result : Except (Failure E) α}
    {Q : Except (Failure E) α → σ → Prop} (h : m.run s = (result, s')) :
    Ends m s Q ↔ Q result s' := by
  rw [Ends, h]

theorem Ends.mono {m : Action σ E α} {Q R : Except (Failure E) α → σ → Prop} (h : Ends m s Q)
    (himp : ∀ result s', Q result s' → R result s') : Ends m s R :=
  himp _ _ h

/-- Two parts of an action, one after the other. -/
theorem Ends.bind {m : Action σ E α} {R : Except (Failure E) α → σ → Prop} (hm : Ends m s R)
    (hok : ∀ a s', R (.ok a) s' → Ends (next a) s' Q)
    (herror : ∀ failure s', R (.error failure) s' → Q (.error failure) s') :
    Ends (m >>= next) s Q := by
  rcases hrun : m.run s with ⟨failure | a, s'⟩
  · rw [ends_of_run (run_bind_error hrun)]
    exact herror failure s' ((ends_of_run hrun).1 hm)
  · rw [Ends, run_bind_ok hrun]
    exact hok a s' ((ends_of_run hrun).1 hm)

/-- What is read is where the action is run from. -/
theorem Ends.get_bind {next : σ → Action σ E β} (h : Ends (next s) s Q) :
    Ends ((get : Action σ E σ) >>= next) s Q := h

theorem Ends.set_bind {s' : σ} {next : PUnit → Action σ E β} (h : Ends (next ⟨⟩) s' Q) :
    Ends ((set s' : Action σ E PUnit) >>= next) s Q := h

theorem Ends.modify_bind {f : σ → σ} {next : PUnit → Action σ E β} (h : Ends (next ⟨⟩) (f s) Q) :
    Ends ((modify f : Action σ E PUnit) >>= next) s Q := h

/-- A check without effects. -/
theorem Ends.ofExcept_bind {result : Except E α} (hok : ∀ a, result = .ok a → Ends (next a) s Q)
    (herror : ∀ error, result = .error error → Q (.error (.rejected error)) s) :
    Ends (ofExcept result >>= next) s Q := by
  cases result with
  | ok a => exact hok a rfl
  | error error => exact herror error rfl

/-- A check that may only fault. -/
theorem Ends.ofFaulting_bind {result : Except Fault α}
    (hok : ∀ a, result = .ok a → Ends (next a) s Q)
    (herror : ∀ cause, result = .error cause → Q (.error (.faulted cause)) s) :
    Ends (ofFaulting result >>= next) s Q := by
  cases result with
  | ok a => exact hok a rfl
  | error cause => exact herror cause rfl

/-- Parts that leave the state alone, one for each item of a list. -/
theorem Ends.mapM_bind {part : γ → Action σ E α} {P : α → Prop} {items : List γ}
    {next : List α → Action σ E β}
    (hpart : ∀ item, Ends (part item) s fun result s' => s' = s ∧ ∀ a, result = .ok a → P a)
    (hok : ∀ as : List α, (∀ a ∈ as, P a) → Ends (next as) s Q)
    (herror : ∀ failure, Q (.error failure) s) :
    Ends (items.mapM part >>= next) s Q := by
  induction items generalizing next with
  | nil => exact hok [] (by rintro _ ⟨⟩)
  | cons item rest ih =>
    rw [List.mapM_cons, bind_assoc]
    refine (hpart item).bind ?_ ?_
    · rintro a s' ⟨rfl, ha⟩
      rw [bind_assoc]
      refine ih ?_
      intro as has
      exact hok (a :: as) (List.forall_mem_cons.2 ⟨ha a rfl, has⟩)
    · rintro failure s' ⟨rfl, -⟩
      exact herror failure

end Ends

/-- Where `I` held before an action, it holds after it. -/
def Keeps (I : σ → Prop) (m : Action σ E α) : Prop := ∀ s, I s → Ends m s fun _ s' => I s'

section Keeps

variable {I : σ → Prop}

theorem Keeps.pure (a : α) : Keeps I (pure a : Action σ E α) := fun _ hs => hs

theorem Keeps.reject (error : E) : Keeps I (reject error : Action σ E α) := fun _ hs => hs

theorem Keeps.bind {m : Action σ E α} {next : α → Action σ E β} (hm : Keeps I m)
    (hnext : ∀ a, Keeps I (next a)) : Keeps I (m >>= next) := fun s hs =>
  (hm s hs).bind (fun a s' hs' => hnext a s' hs') fun _ _ hs' => hs'

end Keeps

end Action

end AvcDriver
