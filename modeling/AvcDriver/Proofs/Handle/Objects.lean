import AvcDriver.Handle.Table
import AvcDriver.Proofs.Action

/-!
# The objects of a handle table

What a table holds after it was changed, in terms of what it held before.

* `mem_objects_of_find?`: what is found is held.
* `live_reserve`: setting a handle aside changes no object.
* `objects_removeIf`, `mem_objects_modify`: objects go or are changed, and none appears.
* `find?_modify`: an object is changed under its own handle only.
-/

namespace AvcDriver.Handle.Table

variable {α : Type} {t t' : Table α} {handle : Nat} {object : α}

/-- What is found under a handle is an object of the table. -/
theorem mem_objects_of_find? (h : t.find? handle = some object) : object ∈ t.objects := by
  obtain ⟨item, hitem, rfl⟩ := Option.map_eq_some_iff.1 h
  exact List.mem_map_of_mem (List.mem_of_find?_eq_some hitem)

/-- Setting a handle aside makes no object. -/
theorem live_reserve (h : t.reserve = .ok (handle, t')) : t'.live = t.live := by
  rw [reserve] at h
  split at h
  · cases h
  · cases h
    rfl

theorem objects_commit (t : Table α) (handle : Nat) (object : α) :
    (t.commit handle object).objects = object :: t.objects := rfl

/-- A handle is set aside and an object put under it. -/
theorem objects_reserve_commit (h : t.reserve = .ok (handle, t')) (object : α) :
    (t'.commit handle object).objects = object :: t.objects := by
  rw [objects_commit, objects, live_reserve h]
  rfl

/-- A new object is the newest. -/
theorem objects_create {make : Nat → α} (h : t.create make = .ok (handle, t')) :
    t'.objects = make handle :: t.objects := by
  obtain ⟨⟨id, reserved⟩, hreserve, hcommit⟩ := bind_eq_ok.1 h
  cases hcommit
  exact objects_reserve_commit hreserve _

theorem objects_removeIf {wanted : α → Bool} (h : t.removeIf handle wanted = some (object, t')) :
    t'.objects ⊆ t.objects := by
  rw [removeIf] at h
  split at h
  · cases h
  · split at h
    · cases h
      exact List.map_subset _ (List.eraseP_subset)
    · cases h

/-- The objects of a table that was changed are those it had, or come of them by the change. -/
theorem mem_objects_modify {change : α → α} (h : object ∈ (t.modify handle change).objects) :
    object ∈ t.objects ∨ ∃ old ∈ t.objects, object = change old := by
  rw [objects, modify, List.map_map] at h
  obtain ⟨item, hmem, rfl⟩ := List.mem_map.1 h
  have hold : item.2 ∈ t.objects := List.mem_map_of_mem hmem
  by_cases hhandle : item.1 = handle
  · exact .inr ⟨item.2, hold, by rw [Function.comp_apply, if_pos hhandle]⟩
  · exact .inl (by rwa [Function.comp_apply, if_neg hhandle])

/-- An object is changed under its own handle only. -/
theorem find?_modify (t : Table α) (handle other : Nat) (change : α → α) :
    (t.modify handle change).find? other =
      (t.find? other).map fun object => if other = handle then change object else object := by
  have hkeeps : (fun item => item.1 == other) ∘ (fun item : Nat × α =>
      if item.1 = handle then (item.1, change item.2) else item) = fun item => item.1 == other := by
    funext item
    rw [Function.comp_apply]
    split <;> rfl
  rw [find?, modify, List.find?_map, hkeeps, find?, Option.map_map, Option.map_map]
  cases hfind : t.live.find? fun item => item.1 == other with
  | none => rfl
  | some item =>
    have hother : item.1 = other := eq_of_beq (List.find?_some hfind :)
    simp only [Option.map_some, Function.comp_apply, hother]
    split <;> rfl

end AvcDriver.Handle.Table
