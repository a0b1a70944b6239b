/-!
# Stores

Objects that are named by reference are kept in stores, at the places that their references
name. What is put into a store is put behind what is there, so that no reference is given
out twice and each goes on naming the same object.

* `Kept`: every object of a store is still in its place.
-/

namespace AvcDriver

variable {α : Type} {store store' store'' : Array α}

/-- What was in a store is still there, in its place. -/
def Kept (store store' : Array α) : Prop :=
  ∀ (index : Nat) (object : α), store[index]? = some object → store'[index]? = some object

namespace Kept

theorem refl (store : Array α) : Kept store store := fun _ _ h => h

theorem trans (h : Kept store store') (h' : Kept store' store'') : Kept store store'' :=
  fun index object hold => h' index object (h index object hold)

theorem push (store : Array α) (object : α) : Kept store (store.push object) := by
  intro index old hold
  have hlt := (Array.getElem?_eq_some_iff.1 hold).1
  rw [Array.getElem?_push_lt hlt, ← Array.getElem?_eq_getElem hlt, hold]

/-- A store that keeps its objects does not shrink. -/
theorem size_le (h : Kept store store') : store.size ≤ store'.size := by
  rcases Nat.eq_zero_or_pos store.size with hempty | hpos
  · rw [hempty]
    exact Nat.zero_le _
  · have hlast : store.size - 1 < store.size := Nat.sub_one_lt_of_lt hpos
    have hlast' := (Array.getElem?_eq_some_iff.1 (h _ _ (Array.getElem?_eq_getElem hlast))).1
    omega

end Kept

end AvcDriver
