import AvcDriver.Handle.Request
import Mathlib.Order.Bounds.Basic

/-!
# Allocation of handles

A handle is *taken* while an object is live under it or a constructor holds it.
`Allocated` is the invariant of a table: no handle is taken twice, none of them is
the greatest handle, and the counter `next` is the least handle that is not taken.

* `isLeast_freeFrom`: the search for a free handle finds the least one. It looks at
  as many handles as are taken, and one more cannot all be taken.
* `Allocated.reserve`, `Allocated.release`, `Allocated.commit`, `Allocated.removeIf`:
  what each operation does to the taken handles, and that it keeps the invariant.
* `Allocated.reserve_eq_ok`: a handle can be reserved as long as fewer are taken than
  there are to give out.
-/

namespace AvcDriver.Handle.Table

variable {α : Type} {t t' : Table α} {handle : Nat}

/-- The handles of live objects and those that constructors hold. -/
def taken (t : Table α) : List Nat := t.handles ++ t.reserved

/-- No handle is taken twice, and the counter is the least that is not taken. -/
structure Allocated (t : Table α) : Prop where
  /-- no handle is live twice, reserved twice, or live and reserved -/
  nodup : t.taken.Nodup
  /-- the greatest handle is never taken -/
  lt_max : ∀ h ∈ t.taken, h < maxHandle
  /-- the counter is the least free handle -/
  least : IsLeast {h | h ∉ t.taken} t.next

/-! ## Looking up -/

theorem contains_iff : t.contains handle = true ↔ handle ∈ t.handles := by
  simp [contains, handles]

theorem isTaken_iff : t.isTaken handle = true ↔ handle ∈ t.taken := by
  rw [isTaken, Bool.or_eq_true, contains_iff, List.contains_iff_mem, taken, List.mem_append]

theorem length_taken : t.taken.length = t.size + t.reserved.length := by
  rw [taken, List.length_append, handles, List.length_map, size]

/-- A handle leads nowhere exactly if it is not live. -/
theorem find?_eq_none_iff : t.find? handle = none ↔ handle ∉ t.handles := by
  rw [find?, Option.map_eq_none_iff, List.find?_eq_none, handles]
  constructor
  · intro h hmem
    obtain ⟨item, hitem, rfl⟩ := List.mem_map.mp hmem
    exact h item hitem (beq_self_eq_true _)
  · intro h item hitem heq
    exact h (List.mem_map.mpr ⟨item, hitem, beq_iff_eq.mp heq⟩)

/-! ## The search for a free handle -/

/-- Distinct numbers below a bound that are all in a list are no more than the list. -/
theorem le_length_of_forall_mem {l : List Nat} (first : Nat) {count : Nat}
    (h : ∀ x, first ≤ x → x < first + count → x ∈ l) : count ≤ l.length := by
  have hsub : List.range' first count ⊆ l := by
    intro x hx
    rw [List.mem_range'_1] at hx
    exact h x hx.1 hx.2
  have := List.Nodup.length_le_of_subset (List.nodup_range' (s := first)) hsub
  rwa [List.length_range'] at this

/-- What the search passes over is taken, and it stops at a free handle or at the end
of its tries. -/
theorem firstFree_spec (tries : Nat) :
    ∀ handle, handle ≤ t.firstFree tries handle ∧
      (∀ x, handle ≤ x → x < t.firstFree tries handle → x ∈ t.taken) ∧
      (t.firstFree tries handle ∈ t.taken → t.firstFree tries handle = handle + tries) := by
  induction tries with
  | zero =>
    intro handle
    refine ⟨Nat.le_refl _, fun x hx hlt => ?_, fun _ => rfl⟩
    exact absurd hx (Nat.not_le_of_lt hlt)
  | succ tries ih =>
    intro handle
    rw [firstFree]
    by_cases htaken : t.isTaken handle = true
    · rw [if_pos htaken]
      obtain ⟨hle, hpassed, hend⟩ := ih (handle + 1)
      refine ⟨by omega, fun x hx hlt => ?_, fun hmem => ?_⟩
      · rcases Nat.eq_or_lt_of_le hx with rfl | hx
        · exact isTaken_iff.mp htaken
        · exact hpassed x hx hlt
      · rw [hend hmem]
        omega
    · rw [if_neg htaken]
      refine ⟨Nat.le_refl _, fun x hx hlt => ?_, fun hmem => ?_⟩
      · exact absurd hx (Nat.not_le_of_lt hlt)
      · exact absurd (isTaken_iff.mpr hmem) htaken

/-- **The search finds the least free handle** from the one it starts at. -/
theorem isLeast_freeFrom (t : Table α) (handle : Nat) :
    IsLeast {x | handle ≤ x ∧ x ∉ t.taken} (t.freeFrom handle) := by
  rw [freeFrom, ← length_taken]
  obtain ⟨hle, hpassed, hend⟩ := t.firstFree_spec t.taken.length handle
  refine ⟨⟨hle, fun hmem => ?_⟩, fun x hx => ?_⟩
  · -- everything looked at would be taken, which is one handle too many
    have hlen := hend hmem
    have : t.taken.length + 1 ≤ t.taken.length := by
      refine le_length_of_forall_mem handle fun x hx hlt => ?_
      rcases Nat.lt_or_ge x (handle + t.taken.length) with h | h
      · exact hpassed x hx (by omega)
      · obtain rfl : x = t.firstFree t.taken.length handle := by omega
        exact hmem
    omega
  · by_contra hlt
    exact hx.2 (hpassed x hx.1 (Nat.lt_of_not_le hlt))

/-! ## The invariant -/

theorem allocated_empty : Allocated (Table.empty : Table α) where
  nodup := List.nodup_nil
  lt_max := fun _ h => absurd h List.not_mem_nil
  least := ⟨List.not_mem_nil, fun _ _ => Nat.zero_le _⟩

namespace Allocated

theorem next_le_length (ht : t.Allocated) : t.next ≤ t.taken.length := by
  refine le_length_of_forall_mem 0 fun x _ hx => ?_
  by_contra hfree
  exact absurd (ht.least.2 hfree) (by omega)

theorem next_le_max (ht : t.Allocated) : t.next ≤ maxHandle := by
  refine ht.least.2 fun hmem => ?_
  exact absurd (ht.lt_max _ hmem) (Nat.lt_irrefl _)

/-- The invariant is about which handles are taken, not about their order. -/
theorem of_perm (ht : t.Allocated) (hperm : t'.taken.Perm t.taken) (hnext : t'.next = t.next) :
    t'.Allocated where
  nodup := hperm.nodup_iff.mpr ht.nodup
  lt_max := fun h hmem => ht.lt_max h (hperm.mem_iff.mp hmem)
  least := by
    simp only [hnext, hperm.mem_iff]
    exact ht.least

/-- A handle that becomes free can only move the counter down to itself. -/
theorem of_freed (ht : t.Allocated) (hperm : t.taken.Perm (handle :: t'.taken))
    (hnext : t'.next = min handle t.next) : t'.Allocated := by
  obtain ⟨hfresh, hnodup⟩ := List.nodup_cons.mp (hperm.nodup_iff.mp ht.nodup)
  refine ⟨hnodup, fun h hmem => ?_, ?_, fun x hx => ?_⟩
  · exact ht.lt_max h (hperm.mem_iff.mpr (List.mem_cons_of_mem _ hmem))
  · rw [hnext]
    rcases Nat.le_total handle t.next with hle | hle
    · rw [Nat.min_eq_left hle]
      exact hfresh
    · rw [Nat.min_eq_right hle]
      exact fun hmem => ht.least.1 (hperm.mem_iff.mpr (List.mem_cons_of_mem _ hmem))
  · rw [hnext]
    by_cases hxh : x = handle
    · exact hxh ▸ Nat.min_le_left _ _
    · refine Nat.le_trans (Nat.min_le_right _ _) (ht.least.2 fun hmem => ?_)
      rcases List.mem_cons.mp (hperm.mem_iff.mp hmem) with h | h
      · exact hxh h
      · exact hx h

/-! ## The operations -/

/-- `reserve` hands out the counter and moves it on to the next free handle. -/
theorem reserve (ht : t.Allocated) (hr : t.reserve = .ok (handle, t')) :
    handle = t.next ∧ t'.live = t.live ∧ t'.reserved = handle :: t.reserved ∧ t'.Allocated := by
  simp only [Table.reserve] at hr
  obtain ⟨⟨hnext, hfree⟩, hleast⟩ := t.isLeast_freeFrom (t.next + 1)
  split at hr
  · cases hr
  · rename_i hmax
    cases hr
    refine ⟨rfl, rfl, rfl, ?_⟩
    have hperm : (t.handles ++ t.next :: t.reserved).Perm (t.next :: t.taken) :=
      List.perm_middle
    refine ⟨hperm.nodup_iff.mpr (List.nodup_cons.mpr ⟨ht.least.1, ht.nodup⟩), fun h hmem => ?_,
      fun hmem => ?_, fun x hx => ?_⟩
    · rcases List.mem_cons.mp (hperm.mem_iff.mp hmem) with rfl | h
      · omega
      · exact ht.lt_max _ h
    · rcases List.mem_cons.mp (hperm.mem_iff.mp hmem) with h | h
      · dsimp only at h
        omega
      · exact hfree h
    · have hx' : x ∉ t.next :: t.taken := fun h => hx (hperm.mem_iff.mpr h)
      obtain ⟨hne, hx'⟩ := not_or.mp (List.mem_cons.not.mp hx')
      have := ht.least.2 hx'
      exact hleast ⟨by omega, hx'⟩

/-- No more handles are taken than there are to give out. -/
theorem length_le_max (ht : t.Allocated) : t.taken.length ≤ maxHandle := by
  have hsub : t.taken ⊆ List.range maxHandle := fun h hmem => List.mem_range.2 (ht.lt_max h hmem)
  have := List.Nodup.length_le_of_subset ht.nodup hsub
  rwa [List.length_range] at this

/-- A handle that could be had was one more than were taken. -/
theorem length_lt_max (ht : t.Allocated) (hr : t.reserve = .ok (handle, t')) :
    t.taken.length < maxHandle := by
  obtain ⟨-, hlive, hreserved, ht'⟩ := ht.reserve hr
  have := ht'.length_le_max
  rw [length_taken, size, hlive, hreserved, List.length_cons, ← size] at this
  rw [length_taken]
  exact this

/-- As long as fewer handles are taken than there are to give out, one can be had. -/
theorem reserve_eq_ok (ht : t.Allocated) (hroom : t.taken.length < maxHandle) :
    ∃ t', t.reserve = .ok (t.next, t') := by
  have hnext := ht.next_le_length
  have hle : t.freeFrom (t.next + 1) ≤ maxHandle :=
    (t.isLeast_freeFrom (t.next + 1)).2
      ⟨by omega, fun hmem => absurd (ht.lt_max _ hmem) (Nat.lt_irrefl _)⟩
  exact ⟨_, if_neg (Nat.not_lt.mpr hle)⟩

/-- A handle is reserved once, so taking all its reservations back takes one back. -/
theorem filter_reserved (ht : t.Allocated) (handle : Nat) :
    t.reserved.filter (· != handle) = t.reserved.erase handle :=
  ((List.nodup_append.mp ht.nodup).2.1.erase_eq_filter handle).symm

/-- `release` frees a reserved handle. -/
theorem release (ht : t.Allocated) (hmem : handle ∈ t.reserved) :
    (t.release handle).reserved = t.reserved.erase handle ∧ (t.release handle).Allocated := by
  have hreserved := ht.filter_reserved handle
  refine ⟨hreserved, ht.of_freed ?_ rfl⟩
  change (t.handles ++ t.reserved).Perm (handle :: (t.handles ++ t.reserved.filter (· != handle)))
  rw [hreserved]
  exact ((List.perm_cons_erase hmem).append_left _).trans List.perm_middle

/-- `commit` turns a reserved handle into a live one. -/
theorem commit (ht : t.Allocated) (hmem : handle ∈ t.reserved) (object : α) :
    (t.commit handle object).reserved = t.reserved.erase handle ∧
      (t.commit handle object).Allocated := by
  have hreserved := ht.filter_reserved handle
  refine ⟨hreserved, ht.of_perm ?_ rfl⟩
  change (handle :: t.handles ++ t.reserved.filter (· != handle)).Perm (t.handles ++ t.reserved)
  rw [hreserved]
  exact List.perm_middle.symm.trans ((List.perm_cons_erase hmem).symm.append_left _)

/-- `removeIf` frees the handle of the object that it removes. -/
theorem removeIf (ht : t.Allocated) {wanted : α → Bool} {object : α}
    (hr : t.removeIf handle wanted = some (object, t')) :
    t'.reserved = t.reserved ∧ t'.Allocated := by
  unfold Table.removeIf at hr
  split at hr
  · cases hr
  · rename_i found hfound
    split at hr
    · cases hr
      refine ⟨rfl, ht.of_freed ?_ rfl⟩
      have hmem : handle ∈ t.handles := by
        by_contra hfree
        rw [find?_eq_none_iff.mpr hfree] at hfound
        cases hfound
      have hhandles : (t.live.eraseP (·.1 == handle)).map (·.1) = t.handles.erase handle := by
        rw [List.erase_eq_eraseP', handles, List.eraseP_map]
        rfl
      change (t.handles ++ t.reserved).Perm
        (handle :: ((t.live.eraseP (·.1 == handle)).map (·.1) ++ t.reserved))
      rw [hhandles]
      exact (List.perm_cons_erase hmem).append_right _
    · cases hr

end Allocated

end AvcDriver.Handle.Table
