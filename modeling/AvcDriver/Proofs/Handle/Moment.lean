import AvcDriver.Proofs.Handle.Allocation

/-!
# Handle tables at every moment of a history

A constructor sends requests of its own while its handle is reserved, so the answer to
one request is made of many steps, and a table is seen in the middle of it. A `Moment`
is what there is to see between two steps: the table, the handles of the constructors
in flight, and the requests that the innermost of them is still to send. `Reaches`
leads from a moment to all later ones, into constructors of any depth.

* `Allocated.answer`: a whole request, with everything that happens inside it, keeps
  the invariant of the table and leaves the reserved handles as they were.
* `Moment.Reaches.sound`: so does every step on the way.
* `handles_distinct_next_least`: at every moment of every history, no handle is live or
  in flight twice, and the next constructor is handed the least handle that is neither.
-/

namespace AvcDriver.Handle

variable {α ε : Type}

namespace Table

variable {t : Table α}

/-! ## Whole requests -/

/-- However a constructor ends, its handle is not reserved any more. -/
theorem Allocated.conclude {handle : Nat} (ht : t.Allocated) (hmem : handle ∈ t.reserved)
    (ending : Ending α ε) :
    (t.conclude handle ending).2.reserved = t.reserved.erase handle ∧
      (t.conclude handle ending).2.Allocated := by
  cases ending with
  | done object => exact ht.commit hmem object
  | named carried object =>
    by_cases hcarried : carried = handle
    · subst hcarried
      simp only [Table.conclude, if_true]
      exact ht.commit hmem object
    · simp only [Table.conclude, if_neg hcarried]
      exact ht.release hmem
  | failed error => exact ht.release hmem
  | stopped text => exact ht.release hmem

/-- A removal that was asked for, whether or not anything was removed. -/
theorem Allocated.removal (ht : t.Allocated) (handle : Nat) (wanted : α → Bool) :
    (t.removal handle (t.removeIf handle wanted)).2.reserved = t.reserved ∧
      (t.removal handle (t.removeIf handle wanted)).2.Allocated := by
  rcases hr : t.removeIf handle wanted with _ | ⟨object, t'⟩
  · exact ⟨rfl, ht⟩
  · exact ht.removeIf hr

mutual

/-- A request keeps the invariant and leaves the reservations of others alone. -/
theorem Allocated.answer (request : Request α ε) :
    ∀ {t : Table α}, t.Allocated →
      (t.answer request).2.1.reserved = t.reserved ∧ (t.answer request).2.1.Allocated := by
  intro t ht
  cases request with
  | construct inner ending =>
    rw [Table.answer]
    rcases hr : t.reserve with cause | ⟨handle, t₁⟩
    · exact ⟨rfl, ht⟩
    · obtain ⟨-, -, hres, ht₁⟩ := ht.reserve hr
      obtain ⟨hres₂, ht₂⟩ := Allocated.answerAll inner ht₁
      -- what the constructor sent has left its own reservation in front
      obtain ⟨hres₃, ht₃⟩ := ht₂.conclude (by rw [hres₂, hres]; exact List.mem_cons_self) ending
      rw [hres₂, hres, List.erase_cons_head] at hres₃
      exact ⟨hres₃, ht₃⟩
  | remove handle => exact ht.removal handle _
  | removeIf handle wanted => exact ht.removal handle wanted
  | destroy handle =>
    rw [Table.answer, Table.destroy, Table.remove]
    rcases hr : t.removeIf handle fun _ => true with _ | ⟨object, t₁⟩
    · exact ⟨rfl, ht⟩
    · exact ht.removeIf hr
  | get handle => exact ⟨rfl, ht⟩
  | find handle => exact ⟨rfl, ht⟩
  | contains handle => exact ⟨rfl, ht⟩

/-- So do the requests of a constructor. -/
theorem Allocated.answerAll (requests : List (Request α ε)) :
    ∀ {t : Table α}, t.Allocated →
      (t.answerAll requests).1.reserved = t.reserved ∧ (t.answerAll requests).1.Allocated := by
  intro t ht
  cases requests with
  | nil => exact ⟨rfl, ht⟩
  | cons request rest =>
    obtain ⟨hres, ht₁⟩ := Allocated.answer request ht
    obtain ⟨hres₂, ht₂⟩ := Allocated.answerAll rest ht₁
    exact ⟨hres₂.trans hres, ht₂⟩

end

end Table

/-! ## Moments -/

/-- What there is to see of a table between two steps of a history. -/
structure Moment (α ε : Type) where
  table : Table α
  /-- the handles that constructors in flight were handed, the innermost one's first -/
  inFlight : List Nat
  /-- what the innermost constructor, or the client if there is none, is still to send -/
  ahead : List (Request α ε)

namespace Moment

/-- A table without objects, in front of a history. -/
def start (history : List (Request α ε)) : Moment α ε := ⟨.empty, [], history⟩

/-- The later moments of a history. The next request is either passed as a whole, or its
constructor is entered and what lies ahead are the requests that this one sends. -/
inductive Reaches : Moment α ε → Moment α ε → Prop
  | refl (m : Moment α ε) : Reaches m m
  | pass {t : Table α} {inFlight : List Nat} {request : Request α ε}
      {rest : List (Request α ε)} {m : Moment α ε}
      (later : Reaches ⟨(t.answer request).2.1, inFlight, rest⟩ m) :
      Reaches ⟨t, inFlight, request :: rest⟩ m
  | enter {t t' : Table α} {handle : Nat} {inFlight : List Nat}
      {inner rest : List (Request α ε)} {ending : Ending α ε} {m : Moment α ε}
      (reserved : t.reserve = .ok (handle, t'))
      (later : Reaches ⟨t', handle :: inFlight, inner⟩ m) :
      Reaches ⟨t, inFlight, .construct inner ending :: rest⟩ m

/-- A history reaches its end. -/
theorem reaches_answerAll (requests : List (Request α ε)) :
    ∀ (t : Table α) (inFlight : List Nat),
      Reaches ⟨t, inFlight, requests⟩ ⟨(t.answerAll requests).1, inFlight, []⟩ := by
  induction requests with
  | nil =>
    intro t inFlight
    exact .refl _
  | cons request rest ih =>
    intro t inFlight
    exact .pass (ih (t.answer request).2.1 inFlight)

/-- The table is well allocated, and constructors in flight hold the reserved handles. -/
structure Sound (m : Moment α ε) : Prop where
  allocated : m.table.Allocated
  reserved : m.table.reserved = m.inFlight

theorem sound_start (history : List (Request α ε)) : (start history).Sound :=
  ⟨Table.allocated_empty, rfl⟩

/-- **Every moment of a history is sound**, inside constructors too. -/
theorem Reaches.sound {m m' : Moment α ε} (h : Reaches m m') (hm : m.Sound) : m'.Sound := by
  induction h with
  | refl => exact hm
  | pass _ ih =>
    obtain ⟨hres, ht⟩ := Table.Allocated.answer _ hm.allocated
    exact ih ⟨ht, hres.trans hm.reserved⟩
  | enter hr _ ih =>
    obtain ⟨-, -, hres, ht⟩ := hm.allocated.reserve hr
    exact ih ⟨ht, hres.trans (congrArg _ hm.reserved)⟩

end Moment

/-- The handle that a constructor tells it was entered with. -/
theorem Table.answer_construct {t t' : Table α} {handle : Nat}
    (hr : t.reserve = .ok (handle, t')) (inner : List (Request α ε)) (ending : Ending α ε) :
    (t.answer (.construct inner ending)).2.2 =
      .entered handle (t'.contains handle) t'.size :: (t'.answerAll inner).2 := by
  rw [Table.answer, hr]

/-- **Handles are distinct and the least free one is next**, at every moment of every
history. The handles of live objects are pairwise distinct, no reserved handle is live or
reserved twice, and the counter is the least number below `2 ^ 32` that is neither. No
handle of a constructor in flight is another's or a live object's. And if a constructor is
next while fewer than `maxHandle` handles are taken, it is entered with the counter, under
which nothing is live. -/
theorem handles_distinct_next_least {history : List (Request α ε)} {m : Moment α ε}
    (hm : (Moment.start history).Reaches m) :
    m.table.handles.Nodup ∧ m.table.reserved.Nodup ∧
      (∀ h ∈ m.table.reserved, h ∉ m.table.handles) ∧
      IsLeast {h | h < UInt32.size ∧ h ∉ m.table.handles ∧ h ∉ m.table.reserved} m.table.next ∧
      (m.inFlight ++ m.table.handles).Nodup ∧
      ∀ inner ending rest, m.ahead = .construct inner ending :: rest →
        m.table.handles.length + m.table.reserved.length < Table.maxHandle →
        ∃ log, (m.table.answer (.construct inner ending)).2.2 =
          .entered m.table.next false m.table.size :: log := by
  obtain ⟨ht, hres⟩ := hm.sound (Moment.sound_start history)
  obtain ⟨hlive, hreserved, hapart⟩ := List.nodup_append.mp ht.nodup
  refine ⟨hlive, hreserved, fun h hmem hlive => hapart h hlive h hmem rfl, ?_, ?_, ?_⟩
  · have hmem : ∀ h, h ∉ m.table.taken ↔ h ∉ m.table.handles ∧ h ∉ m.table.reserved := fun h => by
      rw [Table.taken, List.mem_append, not_or]
    have hmax : m.table.next ≤ Table.maxHandle := ht.next_le_max
    refine ⟨⟨?_, (hmem _).mp ht.least.1⟩, fun x hx => ht.least.2 ((hmem x).mpr hx.2)⟩
    exact Nat.lt_of_le_of_lt hmax (by decide)
  · rw [← hres]
    exact List.perm_append_comm.nodup_iff.mp ht.nodup
  · intro inner ending rest _ hroom
    obtain ⟨t', hr⟩ := ht.reserve_eq_ok (by rwa [Table.taken, List.length_append])
    obtain ⟨-, hsame, -, -⟩ := ht.reserve hr
    have hfree : t'.contains m.table.next = false := by
      rw [Bool.eq_false_iff, Ne, Table.contains_iff, Table.handles, hsame]
      exact fun hmem => ht.least.1 (List.mem_append_left _ hmem)
    refine ⟨(t'.answerAll inner).2, ?_⟩
    rw [Table.answer_construct hr, hfree, Table.size, hsame, Table.size]

/-- A constructor in flight under handle 1 has made one object, under 2, and has removed the
object under 0: handle 0 is the one it is handed for its next object. -/
theorem handles_distinct_next_least_in_flight :
    let history : List (Request String Unit) :=
      [.construct [] (.done "a"),
        .construct [.construct [] (.done "b"), .remove 0, .construct [] (.named 7 "c")]
          (.failed ())]
    let table : Table String := { live := [(2, "b")], reserved := [1], next := 0 }
    (Moment.start history).Reaches ⟨table, [1], [.construct [] (.named 7 "c")]⟩ ∧
      table.handles.Nodup ∧ table.reserved.Nodup ∧
      (∀ h ∈ table.reserved, h ∉ table.handles) ∧
      IsLeast {h | h < UInt32.size ∧ h ∉ table.handles ∧ h ∉ table.reserved} table.next ∧
      ([1] ++ table.handles).Nodup ∧
      ∃ log, (table.answer (.construct [] (.named 7 "c") : Request String Unit)).2.2 =
        .entered 0 false 1 :: log := by
  intro history table
  have hm : (Moment.start history).Reaches ⟨table, [1], [.construct [] (.named 7 "c")]⟩ :=
    .pass (.enter (show Table.reserve _ = .ok (1, _) from rfl) (.pass (.pass (.refl _))))
  obtain ⟨hlive, hreserved, hapart, hleast, hflight, hnext⟩ := handles_distinct_next_least hm
  exact ⟨hm, hlive, hreserved, hapart, hleast, hflight, hnext _ _ _ rfl (by decide)⟩

end AvcDriver.Handle
