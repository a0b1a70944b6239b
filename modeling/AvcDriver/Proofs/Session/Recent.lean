import AvcDriver.Session.Recent
import Mathlib.Data.List.Dedup
import Mathlib.Data.List.DropRight

/-!
# What a map of recent entries remembers

A map that records were put into one after another remembers, of the keys in the order in
which each was put last, as many as it has room for, each with the value it was put with last.
Its queue holds these keys, in that order.

* `Recent.InStep`: the queue holds the keys of the map, each once.
* `Recent.evict_eq`, `Recent.InStep.put`: evicting and putting keep map and queue in step.
* `Recent.Remembers.put`: putting a record keeps that the last records are what is remembered.
* `Recent.Remembers.peek_eq`: looking a key up, in terms of the records.
* `Recent.remembers_keys_put_last`: what is seen of a map after any calls.
-/

namespace AvcDriver.Session

variable {κ β : Type} [DecidableEq κ]

/-! ## Keys and records -/

/-- A key that is put again goes to the end. -/
theorem dedup_concat (keys : List κ) (last : κ) :
    (keys ++ [last]).dedup = keys.dedup.filter (· ≠ last) ++ [last] := by
  induction keys with
  | nil => rfl
  | cons key rest ih =>
    rw [List.cons_append]
    by_cases hlast : key = last
    · rw [List.dedup_cons_of_mem (by simp [hlast]), ih]
      by_cases hmem : key ∈ rest
      · rw [List.dedup_cons_of_mem hmem]
      · rw [List.dedup_cons_of_notMem hmem, List.filter_cons_of_neg (by simp [hlast])]
    · by_cases hmem : key ∈ rest
      · rw [List.dedup_cons_of_mem (List.mem_append_left _ hmem), ih, List.dedup_cons_of_mem hmem]
      · rw [List.dedup_cons_of_notMem (by simp [hmem, hlast]), ih, List.dedup_cons_of_notMem hmem,
          List.filter_cons_of_pos (by simp [hlast]), List.cons_append]

theorem rtake_append {α : Type} {n : Nat} (front back : List α)
    (h : n ≤ back.length ∨ front = []) : (front ++ back).rtake n = back.rtake n := by
  rcases h with hle | rfl
  · have hlength : (front ++ back).length - n = front.length + (back.length - n) := by
      rw [List.length_append]
      omega
    rw [List.rtake, hlength, List.drop_length_add_append]
    rfl
  · rfl

/-- Records are kept or left out by their keys. -/
theorem lookup_filter (records : List (κ × β)) (keep : κ → Bool) (key : κ) :
    (records.filter fun record => keep record.1).lookup key =
      if keep key then records.lookup key else none := by
  induction records with
  | nil => rw [List.filter_nil, List.lookup_nil, ite_self]
  | cons record records ih =>
    rw [List.filter_cons, List.lookup_cons]
    by_cases hkey : key = record.1
    · rw [hkey] at ih ⊢
      rw [beq_self_eq_true]
      split
      · rw [List.lookup_cons, beq_self_eq_true]
      · next hnot => rw [ih, if_neg hnot]
    · rw [beq_false_of_ne hkey, ← ih]
      split
      · rw [List.lookup_cons, beq_false_of_ne hkey]
      · rfl

theorem lookup_isSome_iff {records : List (κ × β)} {key : κ} :
    (records.lookup key).isSome = true ↔ key ∈ records.map Prod.fst := by
  induction records with
  | nil => simp
  | cons record records ih =>
    rw [List.lookup_cons, List.map_cons, List.mem_cons, ← ih]
    by_cases hkey : key = record.1
    · simp [hkey]
    · simp [beq_false_of_ne hkey, hkey]

theorem erase_eq_filter_ne {keys : List κ} (h : keys.Nodup) (key : κ) :
    keys.erase key = keys.filter (· ≠ key) := by
  rw [h.erase_eq_filter]
  exact List.filter_congr fun other _ => decide_not.symm

/-- A queue that is cut to the keys there is room for can be cut before a key is put again, too. -/
theorem rtake_requeue {keys : List κ} (h : keys.Nodup) (n : Nat) (key : κ) :
    ((keys.rtake n).filter (· ≠ key) ++ [key]).rtake n =
      (keys.filter (· ≠ key) ++ [key]).rtake n := by
  have hsplit : keys.take (keys.length - n) ++ keys.rtake n = keys :=
    List.take_append_drop (keys.length - n) keys
  have hkeys : keys.filter (· ≠ key) ++ [key] = (keys.take (keys.length - n)).filter (· ≠ key) ++
      ((keys.rtake n).filter (· ≠ key) ++ [key]) := by
    rw [← List.append_assoc, ← List.filter_append, hsplit]
  rw [hkeys]
  refine (rtake_append _ _ ?_).symm
  rcases Nat.le_total keys.length n with hroom | hfull
  · refine .inr ?_
    rw [Nat.sub_eq_zero_of_le hroom, List.take_zero, List.filter_nil]
  · -- a full queue loses one key at most, and gets one
    refine .inl ?_
    have hnodup : (keys.rtake n).Nodup := h.sublist (List.drop_sublist _ _)
    have hlength : (keys.rtake n).length = n := by
      rw [List.rtake, List.length_drop, Nat.sub_sub_self hfull]
    have hone : (keys.rtake n).length - 1 ≤ ((keys.rtake n).filter (· ≠ key)).length := by
      rw [← erase_eq_filter_ne hnodup]
      exact List.le_length_erase
    rw [List.length_append, List.length_singleton]
    omega

namespace Recent

/-! ## Map and queue -/

variable {r : Recent κ β} {key : κ} {value : β} {records : List (κ × β)} {capacity : Nat}

/-- The queue holds the keys of the map, each once. -/
structure InStep (entries : List (κ × β)) (order : List κ) : Prop where
  keys : (entries.map Prod.fst).Perm order
  nodup : order.Nodup

namespace InStep

variable {entries : List (κ × β)} {order : List κ}

theorem mem_iff (h : InStep entries order) :
    (entries.lookup key).isSome = true ↔ key ∈ order := by
  rw [lookup_isSome_iff, h.keys.mem_iff]

theorem lookup_eq_none (h : InStep entries order) (hnot : key ∉ order) :
    entries.lookup key = none := by
  rw [← Option.not_isSome_iff_eq_none, h.mem_iff]
  exact hnot

end InStep

theorem map_fst_remove (key : κ) (entries : List (κ × β)) :
    (remove key entries).map Prod.fst = (entries.map Prod.fst).filter (· ≠ key) := by
  rw [List.filter_map]
  rfl

/-- **Evicting** leaves the keys at the end of the queue, as many as there is room for, and their
entries. -/
theorem evict_eq {order : List κ} :
    ∀ {entries : List (κ × β)}, InStep entries order →
      evict capacity entries order =
        (entries.filter (·.1 ∈ order.rtake capacity), order.rtake capacity) := by
  induction order with
  | nil =>
    intro entries h
    obtain rfl : entries = [] := List.map_eq_nil_iff.1 h.keys.eq_nil
    rw [evict, List.rtake_nil, List.filter_nil]
  | cons oldest rest ih =>
    intro entries h
    obtain ⟨hnot, hnodup⟩ := List.nodup_cons.1 h.nodup
    rw [evict]
    split
    · next hfull =>
      rw [List.length_cons, Nat.lt_succ_iff] at hfull
      have hrest : InStep (remove oldest entries) rest := by
        refine ⟨?_, hnodup⟩
        have hkeys := h.keys.filter (· ≠ oldest)
        have hothers : rest.filter (· ≠ oldest) = rest :=
          List.filter_eq_self.2 fun key hmem => decide_eq_true (ne_of_mem_of_not_mem hmem hnot)
        rwa [List.filter_cons_of_neg (by simp), hothers, ← map_fst_remove] at hkeys
      have hqueue : (oldest :: rest).rtake capacity = rest.rtake capacity :=
        rtake_append [oldest] rest (.inl hfull)
      rw [ih hrest, hqueue, remove, List.filter_filter]
      congr 1
      refine List.filter_congr fun entry _ => ?_
      -- the key that went is none of those that stay
      rw [Bool.and_eq_left_iff_imp]
      intro hmem
      exact decide_eq_true
        (ne_of_mem_of_not_mem (List.mem_of_mem_drop (of_decide_eq_true hmem)) hnot)
    · next hroom =>
      have hqueue : (oldest :: rest).rtake capacity = oldest :: rest := by
        rw [List.rtake, Nat.sub_eq_zero_of_le (Nat.le_of_not_lt hroom), List.drop_zero]
      rw [hqueue, List.filter_eq_self.2]
      intro entry hmem
      exact decide_eq_true (h.keys.mem_iff.1 (List.mem_map_of_mem hmem))

/-- Keys and entries that stay are in step. -/
theorem InStep.rtake {entries : List (κ × β)} {order : List κ} (h : InStep entries order)
    (capacity : Nat) :
    InStep (entries.filter (·.1 ∈ order.rtake capacity)) (order.rtake capacity) where
  keys := by
    have hkeys : (entries.filter (·.1 ∈ order.rtake capacity)).map Prod.fst =
        (entries.map Prod.fst).filter (· ∈ order.rtake capacity) := by
      rw [List.filter_map]
      rfl
    have hstay : (order.rtake capacity).Nodup := h.nodup.sublist (List.drop_sublist _ _)
    refine hkeys ▸ (h.keys.filter _).trans ?_
    rw [List.perm_ext_iff_of_nodup (h.nodup.filter _) hstay]
    intro key
    rw [List.mem_filter, decide_eq_true_iff]
    exact ⟨And.right, fun hmem => ⟨List.mem_of_mem_drop hmem, hmem⟩⟩
  nodup := h.nodup.sublist (List.drop_sublist _ _)

section Put

variable (h : InStep r.entries r.order) (key : κ) (value : β)
include h

/-- A key that is put goes to the end of the queue, and its entry into the map, before anything is
evicted. -/
theorem InStep.insert :
    InStep ((key, value) :: remove key r.entries) (r.order.filter (· ≠ key) ++ [key]) where
  keys := by
    rw [List.map_cons, map_fst_remove]
    exact ((h.keys.filter _).cons key).trans (List.perm_append_singleton key _).symm
  nodup := by
    refine List.nodup_append_comm.1 (List.nodup_cons.2 ⟨?_, h.nodup.filter _⟩)
    simp

/-- What is kept of both when an entry is put. -/
theorem put_eq :
    let order := (r.order.filter (· ≠ key) ++ [key]).rtake r.capacity
    r.put key value = {
      capacity := r.capacity
      entries := ((key, value) :: remove key r.entries).filter (·.1 ∈ order)
      order } := by
  have horder : (if r.contains key then r.order.erase key else r.order) =
      r.order.filter (· ≠ key) := by
    split
    · exact erase_eq_filter_ne h.nodup key
    · next hnot =>
      refine (List.filter_eq_self.2 fun other hmem => decide_eq_true ?_).symm
      rintro rfl
      exact hnot (h.mem_iff.2 hmem)
  simp only [put, horder, evict_eq (h.insert key value)]

/-- **Putting an entry** keeps map and queue in step. -/
theorem InStep.put : InStep (r.put key value).entries (r.put key value).order := by
  rw [put_eq h]
  exact (h.insert key value).rtake r.capacity

/-- A key that is remembered has the value it was put with, or the one it had. -/
theorem peek_put {other : κ} (hmem : other ∈ (r.put key value).order) :
    (r.put key value).peek other = if other = key then some value else r.peek other := by
  rw [put_eq h] at hmem ⊢
  dsimp only at hmem
  rw [peek, lookup_filter _ (· ∈ (r.order.filter (· ≠ key) ++ [key]).rtake r.capacity),
    if_pos (decide_eq_true hmem), List.lookup_cons]
  by_cases hkey : other = key
  · rw [hkey, beq_self_eq_true, if_pos rfl]
  · rw [beq_false_of_ne hkey, if_neg hkey, remove, lookup_filter _ (· ≠ key),
      if_pos (decide_eq_true hkey), peek]

/-- The key that was put last is remembered. -/
theorem peek_put_self (hpos : 0 < r.capacity) : (r.put key value).peek key = some value := by
  obtain ⟨room, hroom⟩ : ∃ room, r.capacity = room + 1 :=
    ⟨r.capacity - 1, (Nat.sub_add_cancel hpos).symm⟩
  have hmem : key ∈ (r.put key value).order := by
    rw [put_eq h, hroom]
    dsimp only
    rw [List.rtake_concat_succ]
    exact List.mem_append_right _ (List.mem_singleton_self key)
  rw [peek_put h key value hmem, if_pos rfl]

end Put

/-! ## Remembering -/

/-- A map remembers records: of all keys, in the order in which each was put last, those at the end
that it has room for, with the values they were put with last. -/
structure Remembers (r : Recent κ β) (records : List (κ × β)) : Prop where
  inStep : InStep r.entries r.order
  order_eq : r.order = ((records.map Prod.fst).dedup).rtake r.capacity
  peek_of_mem : ∀ key ∈ r.order, r.peek key = records.reverse.lookup key

/-- An empty map remembers nothing. -/
theorem remembers_nil (capacity : Nat) : Remembers ({ capacity } : Recent κ β) [] where
  inStep := ⟨.nil, List.nodup_nil⟩
  order_eq := (List.rtake_nil _).symm
  peek_of_mem := List.forall_mem_nil _

theorem remembers_make (h : Recent.make capacity = .ok r) :
    r.Remembers [] ∧ r.capacity = capacity := by
  rw [make] at h
  split at h
  · cases h
  · split at h
    · cases h
    · cases h
      exact ⟨remembers_nil capacity, rfl⟩

section Remembers

variable (h : r.Remembers records)
include h

/-- **Putting a record** keeps what is remembered. -/
theorem Remembers.put (key : κ) (value : β) :
    (r.put key value).Remembers (records ++ [(key, value)]) where
  inStep := h.inStep.put key value
  order_eq := by
    rw [put_eq h.inStep, List.map_append, List.map_singleton, dedup_concat]
    dsimp only
    rw [h.order_eq, rtake_requeue (List.nodup_dedup _)]
  peek_of_mem other hmem := by
    rw [peek_put h.inStep key value hmem, List.reverse_append, List.reverse_singleton,
      List.singleton_append, List.lookup_cons]
    by_cases hkey : other = key
    · rw [hkey, if_pos rfl, beq_self_eq_true]
    · rw [if_neg hkey, beq_false_of_ne hkey]
      refine h.peek_of_mem other ?_
      rw [put_eq h.inStep] at hmem
      rcases List.mem_append.1 (List.mem_of_mem_drop hmem) with hkept | hnew
      · exact List.mem_of_mem_filter hkept
      · exact absurd (List.mem_singleton.1 hnew) hkey

/-- **Looking up a key** gets the value it was put with last, if it is one of the keys put last. -/
theorem Remembers.peek_eq (key : κ) :
    r.peek key = if key ∈ ((records.map Prod.fst).dedup).rtake r.capacity then
      records.reverse.lookup key else none := by
  rw [← h.order_eq]
  split
  · next hmem => exact h.peek_of_mem key hmem
  · next hnot => exact h.inStep.lookup_eq_none hnot

end Remembers

/-! ## Any calls -/

/-- A call on a map. -/
inductive Call (κ β : Type)
  | put (key : κ) (value : β)
  | peek (key : κ)
  | contains (key : κ)

/-- The record that a call puts. -/
def Call.record? : Call κ β → Option (κ × β)
  | .put key value => some (key, value)
  | .peek _ | .contains _ => none

/-- A map after a call. -/
def after (r : Recent κ β) : Call κ β → Recent κ β
  | .put key value => r.put key value
  | .peek _ | .contains _ => r

theorem capacity_foldl_after (calls : List (Call κ β)) :
    (calls.foldl after r).capacity = r.capacity := by
  induction calls generalizing r with
  | nil => rfl
  | cons call rest ih =>
    rw [List.foldl_cons, ih]
    cases call <;> rfl

/-- **Any calls** keep what is remembered: the records that were put, and nothing of the rest. -/
theorem Remembers.foldl_after (h : r.Remembers records) (calls : List (Call κ β)) :
    (calls.foldl after r).Remembers (records ++ calls.filterMap Call.record?) := by
  induction calls generalizing r records with
  | nil => rwa [List.filterMap_nil, List.append_nil]
  | cons call rest ih =>
    rw [List.foldl_cons]
    cases call with
    | put key value =>
      rw [List.filterMap_cons_some (rfl : (Call.put key value).record? = some (key, value)),
        List.append_cons]
      exact ih (h.put key value)
    | peek => exact ih h
    | contains => exact ih h

/-- **What is seen of a map** that has room for an entry, after any calls. It remembers, of the
keys in the order in which each was put last, as many from the end as it has room for, each with
the value it was put with last and with one place in the queue. Looking for a key changes nothing,
and the key that is put is never the one to go. -/
theorem remembers_keys_put_last (hpos : 0 < capacity) (calls : List (Call κ β)) :
    let start : Recent κ β := { capacity }
    let r := calls.foldl after start
    let records := calls.filterMap Call.record?
    let keys := (records.map Prod.fst).dedup
    Recent.make capacity =
      (if capacity ≤ maxCapacity then .ok start else .error .tableTooLarge) ∧
    (∀ key, r.contains key = true ↔ key ∈ keys.rtake capacity) ∧
    (∀ key, r.peek key = if r.contains key then records.reverse.lookup key else none) ∧
    r.size = min capacity keys.length ∧
    (∀ key, r.order.count key = if r.contains key then 1 else 0) ∧
    (∀ key, r.after (.peek key) = r ∧ r.after (.contains key) = r) ∧
    ∀ key value, (r.after (.put key value)).peek key = some value := by
  intro start r records keys
  have h : r.Remembers records := (remembers_nil capacity).foldl_after calls
  have hcapacity : r.capacity = capacity := capacity_foldl_after calls
  have horder : r.order = keys.rtake capacity := hcapacity ▸ h.order_eq
  have hcontains (key : κ) : r.contains key = true ↔ key ∈ r.order := h.inStep.mem_iff
  have hmake : Recent.make capacity =
      if capacity ≤ maxCapacity then .ok start else .error .tableTooLarge := by
    rw [make, if_neg (Nat.ne_of_gt hpos)]
    simp only [← Nat.not_le, ite_not]
    rfl
  have hsize : r.size = min capacity keys.length := by
    have hlength := h.inStep.keys.length_eq
    rw [List.length_map, horder, List.rtake, List.length_drop] at hlength
    rw [size, hlength]
    omega
  refine ⟨hmake, fun key => horder ▸ hcontains key, fun key => ?peek, hsize, fun key => ?count,
    fun key => ⟨rfl, rfl⟩,
    fun key value => peek_put_self h.inStep key value (hcapacity.symm ▸ hpos)⟩
  case peek =>
    split
    · next hmem => exact h.peek_of_mem key ((hcontains key).1 hmem)
    · next hnot => exact Option.not_isSome_iff_eq_none.1 hnot
  case count =>
    split
    · next hmem => exact List.count_eq_one_of_mem h.inStep.nodup ((hcontains key).1 hmem)
    · next hnot => exact List.count_eq_zero_of_not_mem (mt (hcontains key).2 hnot)

/-- A key that is put again stays, and one that was only looked up goes. -/
theorem remembers_keys_put_last_of_two :
    let r := [Call.put 1 'a', .put 2 'b', .put 1 'c', .peek 2, .put 3 'd'].foldl after
      ({ capacity := 2 } : Recent Nat Char)
    r.peek 1 = some 'c' ∧ r.contains 2 = false ∧ r.peek 3 = some 'd' ∧ r.size = 2 := by
  intro r
  obtain ⟨-, hcontains, hpeek, hsize, -⟩ := remembers_keys_put_last (show 0 < 2 by decide)
    [Call.put 1 'a', .put 2 'b', .put 1 'c', .peek 2, .put 3 'd']
  refine ⟨(hpeek 1).trans ?_, ?_, (hpeek 3).trans ?_, hsize⟩
  · exact if_pos ((hcontains 1).2 (by decide))
  · exact Bool.eq_false_iff.2 (mt (hcontains 2).1 (by decide))
  · exact if_pos ((hcontains 3).2 (by decide))

end Recent

end AvcDriver.Session
