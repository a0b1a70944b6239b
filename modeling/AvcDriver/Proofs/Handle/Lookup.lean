import AvcDriver.Proofs.Handle.Allocation
import AvcDriver.Proofs.Handle.Objects
import Mathlib.Data.List.Nodup

/-!
# Looking up in a table at rest

Between two requests nothing is half made. A table is then *at rest*: its handles are
allocated, and none is set aside. Every handle leads to one object, so that what a change
does to a table is what it does to each lookup.

* `AtRest`: a table with no object unfinished, kept by making and removing objects.
* `find?_reserve_commit`, `find?_removeIf`: what is found under each handle afterwards.
* `ext_find?`: tables with the same handles under which the same is found.
* `Grown`: a table with objects made on top of another's. Destroying them, the oldest first,
  leaves the table as it was, the counter included.
-/

namespace AvcDriver.Handle.Table

variable {α : Type} {t t' : Table α} {handle : Nat} {object : α} {wanted : α → Bool}

/-- A handle is live if it leads to an object. -/
theorem mem_handles_iff : handle ∈ t.handles ↔ ∃ object, t.find? handle = some object := by
  rw [← Option.ne_none_iff_exists', ne_eq, find?_eq_none_iff, not_not]

/-- No handle is live twice, so each leads to the object it was given to. -/
theorem find?_of_mem (hnodup : t.handles.Nodup) (hmem : (handle, object) ∈ t.live) :
    t.find? handle = some object := by
  have hhandles : handle ∈ t.handles := List.mem_map_of_mem hmem
  obtain ⟨found, hfound⟩ := mem_handles_iff.1 hhandles
  obtain ⟨item, hitem, rfl⟩ := Option.map_eq_some_iff.1 hfound
  have hhandle : item.1 = handle := eq_of_beq (List.find?_some hitem :)
  have hsame := List.inj_on_of_nodup_map hnodup (List.mem_of_find?_eq_some hitem) hmem hhandle
  rw [hfound, hsame]

/-! ## Making -/

theorem find?_commit (t : Table α) (handle other : Nat) (object : α) :
    (t.commit handle object).find? other =
      if other = handle then some object else t.find? other := by
  rw [find?, commit, List.find?_cons]
  by_cases h : other = handle
  · rw [if_pos h, beq_iff_eq.2 h.symm]
    rfl
  · rw [if_neg h, beq_eq_false_iff_ne.2 (Ne.symm h)]
    rfl

/-- An object that is made is found under its handle, and all others as before. -/
theorem find?_reserve_commit (h : t.reserve = .ok (handle, t')) (other : Nat) (object : α) :
    (t'.commit handle object).find? other =
      if other = handle then some object else t.find? other := by
  rw [find?_commit, find?, live_reserve h, ← find?]

/-- A handle that is set aside was free. -/
theorem Allocated.find?_reserve (ht : t.Allocated) (h : t.reserve = .ok (handle, t')) :
    t.find? handle = none := by
  obtain ⟨rfl, -, -, -⟩ := ht.reserve h
  rw [find?_eq_none_iff]
  exact fun hmem => ht.least.1 (List.mem_append_left _ hmem)

/-! ## Removing -/

/-- All that a removal does: the object goes, and its handle may be the next one. -/
theorem removeIf_eq_some : t.removeIf handle wanted = some (object, t') ↔
    t.find? handle = some object ∧ wanted object = true ∧
      t' = { t with live := t.live.eraseP (·.1 == handle), next := min handle t.next } := by
  rw [removeIf]
  rcases hfind : t.find? handle with _ | found
  · simp
  · dsimp only
    split <;> grind

theorem handles_removeIf (h : t.removeIf handle wanted = some (object, t')) :
    t'.handles = t.handles.erase handle := by
  obtain ⟨-, -, rfl⟩ := removeIf_eq_some.1 h
  rw [List.erase_eq_eraseP', handles, handles, List.eraseP_map]
  rfl

/-- An object that is removed is not found any more, and all others are as before. -/
theorem find?_removeIf (hnodup : t.handles.Nodup)
    (h : t.removeIf handle wanted = some (object, t')) (other : Nat) :
    t'.find? other = if other = handle then none else t.find? other := by
  have hhandles := handles_removeIf h
  split
  · next heq =>
    rw [find?_eq_none_iff, hhandles, heq]
    exact hnodup.not_mem_erase
  · next hne =>
    have hnodup' : t'.handles.Nodup := hhandles ▸ hnodup.erase handle
    rcases hfind : t.find? other with _ | found
    · rw [find?_eq_none_iff] at hfind ⊢
      exact fun hmem => hfind (List.mem_of_mem_erase (hhandles ▸ hmem))
    · obtain ⟨item, hitem, rfl⟩ := Option.map_eq_some_iff.1 hfind
      obtain rfl : item.1 = other := eq_of_beq (List.find?_some hitem :)
      obtain ⟨-, -, rfl⟩ := removeIf_eq_some.1 h
      refine find?_of_mem hnodup' ?_
      exact (List.mem_eraseP_of_neg (by simpa using hne)).2 (List.mem_of_find?_eq_some hitem)

/-! ## Changing -/

/-- A change to an object moves no handle. -/
theorem handles_modify (t : Table α) (handle : Nat) (change : α → α) :
    (t.modify handle change).handles = t.handles := by
  rw [handles, modify, List.map_map, handles]
  refine List.map_congr_left fun item _ => ?_
  rw [Function.comp_apply]
  split <;> rfl

/-- An object that is replaced by itself leaves the table as it was. -/
theorem modify_of_find? (hnodup : t.handles.Nodup) (h : t.find? handle = some object) :
    (t.modify handle fun _ => object) = t := by
  have hlive : (t.live.map fun item => if item.1 = handle then (item.1, object) else item) =
      t.live := by
    refine (List.map_congr_left fun item hitem => ?_).trans (List.map_id' t.live)
    split
    · next heq =>
      have hfound := find?_of_mem hnodup (show (item.1, item.2) ∈ t.live from hitem)
      rw [heq, h] at hfound
      rw [Option.some.inj hfound]
    · rfl
  rw [modify, hlive]

/-- Tables with the same handles are equal if the same is found under each of them. -/
theorem ext_find? (hnodup : t.handles.Nodup) (hhandles : t'.handles = t.handles)
    (hreserved : t'.reserved = t.reserved) (hnext : t'.next = t.next)
    (hfind : ∀ handle, t'.find? handle = t.find? handle) : t' = t := by
  have hlength : t'.live.length = t.live.length := by
    rw [← List.length_map Prod.fst, ← List.length_map Prod.fst]
    exact congrArg List.length hhandles
  have hlive : t'.live = t.live := by
    refine List.ext_getElem hlength fun index hindex hindex' => ?_
    have hhandle : t'.live[index].1 = t.live[index].1 := by
      have hmap : (t'.live.map Prod.fst)[index]? = (t.live.map Prod.fst)[index]? :=
        congrArg (·[index]?) hhandles
      rw [List.getElem?_map, List.getElem?_map, List.getElem?_eq_getElem hindex,
        List.getElem?_eq_getElem hindex'] at hmap
      exact Option.some.inj hmap
    have hfound : t.find? t.live[index].1 = some t.live[index].2 :=
      find?_of_mem hnodup (List.getElem_mem hindex')
    have hfound' : t'.find? t'.live[index].1 = some t'.live[index].2 :=
      find?_of_mem (hhandles ▸ hnodup) (List.getElem_mem hindex)
    rw [hfind, hhandle, hfound] at hfound'
    exact Prod.ext hhandle (Option.some.inj hfound').symm
  obtain ⟨live, reserved, next⟩ := t
  obtain ⟨live', reserved', next'⟩ := t'
  cases hlive
  cases hreserved
  cases hnext
  rfl

/-! ## Tables at rest -/

/-- A table whose handles are allocated and none of which is set aside. -/
structure AtRest (t : Table α) : Prop where
  allocated : t.Allocated
  reserved : t.reserved = []

theorem atRest_empty : AtRest (Table.empty : Table α) := ⟨allocated_empty, rfl⟩

namespace AtRest

/-- At rest, no handles are taken but those of live objects. -/
theorem taken_eq (ht : t.AtRest) : t.taken = t.handles := by
  rw [taken, ht.reserved, List.append_nil]

theorem nodup (ht : t.AtRest) : t.handles.Nodup := ht.taken_eq ▸ ht.allocated.nodup

/-- A table is at rest again when the object is finished. -/
theorem reserve_commit (ht : t.AtRest) (h : t.reserve = .ok (handle, t')) (object : α) :
    (t'.commit handle object).AtRest := by
  obtain ⟨-, -, hreserved, ht'⟩ := ht.allocated.reserve h
  obtain ⟨hcommitted, hallocated⟩ := ht'.commit (hreserved ▸ List.mem_cons_self) object
  refine ⟨hallocated, ?_⟩
  rw [hcommitted, hreserved, ht.reserved, List.erase_cons_head]

theorem create (ht : t.AtRest) {make : Nat → α} (h : t.create make = .ok (handle, t')) :
    t'.AtRest := by
  obtain ⟨⟨id, reserved⟩, hreserve, hcommit⟩ := bind_eq_ok.1 h
  cases hcommit
  exact ht.reserve_commit hreserve _

/-- A table stays at rest when an object goes. -/
theorem removeIf (ht : t.AtRest) (h : t.removeIf handle wanted = some (object, t')) :
    t'.AtRest := by
  obtain ⟨hreserved, hallocated⟩ := ht.allocated.removeIf h
  exact ⟨hallocated, hreserved.trans ht.reserved⟩

theorem modify (ht : t.AtRest) (handle : Nat) (change : α → α) :
    (t.modify handle change).AtRest := by
  refine ⟨ht.allocated.of_perm ?_ rfl, ht.reserved⟩
  rw [taken, handles_modify]
  exact List.Perm.refl _

end AtRest

/-- At rest, the counter is up to the handles, so that a table is its live objects. -/
theorem AtRest.ext_live (ht : t.AtRest) (ht' : t'.AtRest) (hlive : t'.live = t.live) : t' = t := by
  have htaken : t'.taken = t.taken := by
    rw [ht.taken_eq, ht'.taken_eq, handles, handles, hlive]
  have hnext : t'.next = t.next := by
    have hleast := ht'.allocated.least
    rw [htaken] at hleast
    exact hleast.unique ht.allocated.least
  have hreserved := ht'.reserved.trans ht.reserved.symm
  obtain ⟨live, reserved, next⟩ := t
  obtain ⟨live', reserved', next'⟩ := t'
  cases hlive
  cases hreserved
  cases hnext
  rfl

/-! ## Objects on top of others -/

/-- A table at rest with the objects of another and, on top of them, objects under the given
handles, the oldest first. -/
structure Grown (t : Table α) (handles : List Nat) (t' : Table α) : Prop where
  rest : t'.AtRest
  live : ∃ made : List (Nat × α), made.map (·.1) = handles ∧ t'.live = made.reverse ++ t.live

namespace Grown

variable {t'' : Table α} {handles : List Nat}

theorem refl (ht : t.AtRest) : Grown t [] t := ⟨ht, [], rfl, rfl⟩

/-- A table with nothing on top of another is the other, also in its counter. -/
theorem eq_of_nil (ht : t.AtRest) (h : Grown t [] t') : t' = t := by
  obtain ⟨made, hhandles, hlive⟩ := h.live
  rw [List.map_eq_nil_iff.1 hhandles] at hlive
  exact ht.ext_live h.rest hlive

/-- An object that is made comes to lie on top of those before it. -/
theorem reserve_commit (h : Grown t handles t') (hreserve : t'.reserve = .ok (handle, t''))
    (object : α) : Grown t (handles ++ [handle]) (t''.commit handle object) := by
  obtain ⟨made, rfl, hlive⟩ := h.live
  refine ⟨h.rest.reserve_commit hreserve object, made ++ [(handle, object)], List.map_append, ?_⟩
  rw [commit, live_reserve hreserve, hlive, List.reverse_append]
  rfl

/-- The oldest of the objects on top can be destroyed. The others stay. -/
theorem destroy (h : Grown t (handle :: handles) t') :
    ∃ object t'', t'.destroy handle = .ok (object, t'') ∧ Grown t handles t'' := by
  obtain ⟨made, hhandles, hlive⟩ := h.live
  obtain ⟨⟨oldest, object⟩, made, rfl, holdest, rfl⟩ := List.map_eq_cons_iff.1 hhandles
  obtain rfl : handle = oldest := holdest.symm
  rw [List.reverse_cons, List.append_assoc, List.singleton_append] at hlive
  have hmem : (handle, object) ∈ t'.live :=
    hlive ▸ List.mem_append_right _ List.mem_cons_self
  have hfind := find?_of_mem h.rest.nodup hmem
  have hnew : ∀ item ∈ made.reverse, ¬ (item.1 == handle) = true := by
    intro item hitem heq
    have hnodup := h.rest.nodup
    rw [Table.handles, hlive, List.map_append, List.map_cons] at hnodup
    refine List.disjoint_of_nodup_append hnodup (List.mem_map_of_mem hitem) ?_
    rw [eq_of_beq heq]
    exact List.mem_cons_self
  have hremove : t'.remove handle = some (object, { t' with
      live := made.reverse ++ t.live
      next := min handle t'.next }) := by
    rw [remove, removeIf_eq_some, hlive, List.eraseP_append_right _ hnew,
      List.eraseP_cons_of_pos (by simp)]
    exact ⟨hfind, rfl, rfl⟩
  refine ⟨object, _, ?_, h.rest.removeIf hremove, made, rfl, rfl⟩
  rw [Table.destroy, hremove]

end Grown

end AvcDriver.Handle.Table
