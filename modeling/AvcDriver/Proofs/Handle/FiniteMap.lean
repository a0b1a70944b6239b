import AvcDriver.Proofs.Handle.Lookup
import AvcDriver.Proofs.Handle.Moment
import Mathlib.Data.Finmap

/-!
# Handle tables as finite maps

To a client a table is a finite map from handles to objects. An object is in the map from the
moment its constructor returned it under the handle it was given, until a removal succeeds. A
`Course` plays a history step by step, into constructors of any depth, next to the map that it
makes; the map is told by how constructors end and by the answers to removals, and never looks
into the table.

* `Table.Shows`: every way to look into a table tells what a map holds.
* `Course`: the steps of a history, with the map that they make.
* `Follows.conclude`, `Follows.answer`: what a step does to the table is what it does to the map.
* `Course.answer`: a whole request is made of steps.
* `tables_are_finite_maps`: a table shows the map at every step of every history, and a
  constructor that adds nothing gives back its own handle and nothing else.
-/

namespace AvcDriver.Handle

variable {α ε : Type}

/-- Objects under their handles. -/
abbrev ObjectMap (α : Type) : Type := Finmap fun _ : Nat => α

/-! ## What a table shows -/

namespace Table

variable {t : Table α} {objects : ObjectMap α} {handle : Nat}

/-- Every way to look into a table tells what a map holds. -/
structure Shows (t : Table α) (objects : ObjectMap α) : Prop where
  find? : ∀ handle, t.find? handle = objects.lookup handle
  contains : ∀ handle, t.contains handle = true ↔ handle ∈ objects
  get : ∀ handle object, t.get handle = .ok object ↔ objects.lookup handle = some object
  get_missing : ∀ handle fault,
    t.get handle = .error fault ↔ handle ∉ objects ∧ fault = .noLiveObject handle
  size : t.size = objects.keys.card
  isEmpty : t.isEmpty = true ↔ objects = ∅
  /-- no object is in the table twice -/
  handles : t.handles.Nodup

theorem shows_of_find? (hnodup : t.handles.Nodup)
    (hfind : ∀ handle, t.find? handle = objects.lookup handle) : t.Shows objects := by
  have hmem : ∀ handle, handle ∈ t.handles ↔ handle ∈ objects := by
    intro handle
    rw [mem_handles_iff, Finmap.mem_iff, hfind]
  have hsize : t.size = objects.keys.card := by
    have hkeys : objects.keys = t.handles.toFinset := by
      ext handle
      rw [Finmap.mem_keys, List.mem_toFinset, hmem]
    rw [hkeys, List.toFinset_card_of_nodup hnodup, Table.handles, List.length_map, Table.size]
  refine ⟨hfind, fun handle => contains_iff.trans (hmem handle), ?_, ?_, hsize, ?_, hnodup⟩
  · intro handle object
    rw [Table.get, ← hfind]
    cases t.find? handle <;> simp
  · intro handle fault
    rw [Table.get, ← hmem, ← find?_eq_none_iff]
    cases t.find? handle <;> simp [eq_comm]
  · have hempty : t.isEmpty = true ↔ t.size = 0 := by
      rw [Table.isEmpty, List.isEmpty_iff, Table.size, List.length_eq_zero_iff]
    rw [hempty, hsize, Finset.card_eq_zero]
    constructor
    · intro hkeys
      refine Finmap.ext_lookup fun handle => ?_
      rw [Finmap.lookup_empty, Finmap.lookup_eq_none, ← Finmap.mem_keys, hkeys]
      exact Finset.notMem_empty handle
    · rintro rfl
      exact Finmap.keys_empty

end Table

/-! ## Courses -/

/-- The object that a constructor adds under the handle it was given: what it ends with, if
that carries this handle. -/
def Ending.product? (handle : Nat) : Ending α ε → Option α
  | .done object => some object
  | .named carried object => if carried = handle then some object else none
  | .failed _ => none
  | .stopped _ => none

/-- The map after a constructor ended. -/
def Ending.insertInto (ending : Ending α ε) (handle : Nat) (objects : ObjectMap α) :
    ObjectMap α :=
  match ending.product? handle with
  | some object => objects.insert handle object
  | none => objects

/-- Whether a request runs a constructor. -/
def Request.isConstruct : Request α ε → Bool
  | .construct _ _ => true
  | _ => false

/-- The handle that a removal took an object from, if its answer says that it did. -/
def Request.deleted? : Request α ε → Answer α ε → Option Nat
  | .remove handle, .object (some _) => some handle
  | .removeIf handle _, .object (some _) => some handle
  | .destroy handle, .required (.ok _) => some handle
  | _, _ => none

/-- The map after a request without a constructor was answered. -/
def Request.eraseFrom (request : Request α ε) (answer : Answer α ε) (objects : ObjectMap α) :
    ObjectMap α :=
  match request.deleted? answer with
  | some handle => objects.erase handle
  | none => objects

/-- A constructor in flight. -/
structure Frame (α ε : Type) where
  /-- the handle it was given -/
  handle : Nat
  /-- how it is going to end -/
  ending : Ending α ε
  /-- what its client sends afterwards -/
  after : List (Request α ε)

/-- A table between two steps, with all that is still to come. -/
structure Scene (α ε : Type) where
  table : Table α
  /-- the constructors in flight, the innermost one first -/
  inFlight : List (Frame α ε)
  /-- what the innermost constructor, or the client if there is none, is still to send -/
  ahead : List (Request α ε)

/-- The steps of a history, with the map that they make. -/
inductive Course (history : List (Request α ε)) : Scene α ε → ObjectMap α → Prop
  | start : Course history ⟨.empty, [], history⟩ ∅
  /-- a constructor is entered -/
  | enter {t t' : Table α} {handle : Nat} {inFlight : List (Frame α ε)}
      {inner rest : List (Request α ε)} {ending : Ending α ε} {objects : ObjectMap α}
      (before : Course history ⟨t, inFlight, .construct inner ending :: rest⟩ objects)
      (reserved : t.reserve = .ok (handle, t')) :
      Course history ⟨t', ⟨handle, ending, rest⟩ :: inFlight, inner⟩ objects
  /-- no handle is left for a constructor -/
  | refuse {t : Table α} {cause : Fault} {inFlight : List (Frame α ε)}
      {inner rest : List (Request α ε)} {ending : Ending α ε} {objects : ObjectMap α}
      (before : Course history ⟨t, inFlight, .construct inner ending :: rest⟩ objects)
      (exhausted : t.reserve = .error cause) :
      Course history ⟨t, inFlight, rest⟩ objects
  /-- a constructor has sent all its requests and ends -/
  | conclude {t : Table α} {frame : Frame α ε} {inFlight : List (Frame α ε)}
      {objects : ObjectMap α}
      (before : Course history ⟨t, frame :: inFlight, []⟩ objects) :
      Course history ⟨(t.conclude frame.handle frame.ending).2, inFlight, frame.after⟩
        (frame.ending.insertInto frame.handle objects)
  /-- a request without a constructor is answered -/
  | answer {t : Table α} {inFlight : List (Frame α ε)} {request : Request α ε}
      {rest : List (Request α ε)} {objects : ObjectMap α}
      (before : Course history ⟨t, inFlight, request :: rest⟩ objects)
      (plain : request.isConstruct = false) :
      Course history ⟨(t.answer request).2.1, inFlight, rest⟩
        (request.eraseFrom (t.answer request).1 objects)

/-! ## Single steps -/

namespace Table

variable {t : Table α} {handle : Nat} {ending : Ending α ε}

/-- A constructor answers with its object under its handle exactly if it adds it. -/
theorem conclude_eq_ok_iff {object : α} :
    (t.conclude handle ending).1 = .ok (handle, object) ↔
      ending.product? handle = some object := by
  cases ending with
  | named carried other =>
    by_cases hcarried : carried = handle
    · simp [Table.conclude, Ending.product?, hcarried]
    · simp [Table.conclude, Ending.product?, hcarried]
  | _ => simp [Table.conclude, Ending.product?]

/-- A constructor that adds an object puts it under its handle. -/
theorem conclude_of_product {object : α} (h : ending.product? handle = some object) :
    (t.conclude handle ending).2 = t.commit handle object := by
  cases ending with
  | done other =>
    cases h
    rfl
  | named carried other =>
    rw [Ending.product?] at h
    split at h
    · next hcarried =>
      cases h
      rw [Table.conclude, if_pos hcarried, hcarried]
    · cases h
  | failed error => cases h
  | stopped text => cases h

/-- A constructor that adds nothing fails, and its handle is given back. -/
theorem conclude_of_no_product (h : ending.product? handle = none) :
    (∃ failure, (t.conclude handle ending).1 = .error failure) ∧
      (t.conclude handle ending).2 = t.release handle := by
  cases ending with
  | done other => cases h
  | named carried other =>
    rw [Ending.product?] at h
    split at h
    · cases h
    · next hcarried =>
      rw [Table.conclude, if_neg hcarried]
      exact ⟨⟨_, rfl⟩, rfl⟩
  | failed error => exact ⟨⟨_, rfl⟩, rfl⟩
  | stopped text => exact ⟨⟨_, rfl⟩, rfl⟩

/-- A reservation that is taken back leaves no trace. -/
theorem Allocated.release_reserve {t' : Table α} (ht : t.Allocated)
    (h : t.reserve = .ok (handle, t')) : t'.release handle = t := by
  obtain ⟨rfl, hlive, hreserved, ht'⟩ := ht.reserve h
  have hnext : t.next ≤ t'.next := by
    refine ht.least.2 fun hmem => ht'.least.1 ?_
    rw [taken, handles, hlive, hreserved]
    exact List.mem_append.2 ((List.mem_append.1 hmem).imp_right (List.mem_cons_of_mem _))
  have hback : t'.reserved.filter (· != t.next) = t.reserved := by
    rw [ht'.filter_reserved, hreserved, List.erase_cons_head]
  rw [Table.release, hback, hlive, Nat.min_eq_left hnext]

/-- A removal takes the object that is found, if it is wanted. -/
theorem removeIf_fst (t : Table α) (handle : Nat) (wanted : α → Bool) :
    (t.removeIf handle wanted).map (·.1) = (t.find? handle).filter wanted := by
  rw [removeIf]
  cases hfind : t.find? handle with
  | none => rfl
  | some object =>
    dsimp only
    rw [Option.filter_some]
    split <;> rfl

end Table

/-- A table well allocated in which the constructors in flight hold the reserved handles, and a
map of what is found in it. -/
structure Follows (scene : Scene α ε) (objects : ObjectMap α) : Prop where
  allocated : scene.table.Allocated
  reserved : scene.table.reserved = scene.inFlight.map Frame.handle
  find? : ∀ handle, scene.table.find? handle = objects.lookup handle

namespace Follows

variable {t t' : Table α} {objects : ObjectMap α} {inFlight : List (Frame α ε)}
  {ahead ahead' : List (Request α ε)} {handle : Nat}

theorem nodup {scene : Scene α ε} (h : Follows scene objects) : scene.table.handles.Nodup :=
  (List.nodup_append.1 h.allocated.nodup).1

theorem start (history : List (Request α ε)) : Follows ⟨.empty, [], history⟩ ∅ where
  allocated := Table.allocated_empty
  reserved := rfl
  find? handle := by
    rw [Finmap.lookup_empty]
    rfl

theorem enter (h : Follows ⟨t, inFlight, ahead⟩ objects) (hr : t.reserve = .ok (handle, t'))
    (ending : Ending α ε) (rest : List (Request α ε)) :
    Follows ⟨t', ⟨handle, ending, rest⟩ :: inFlight, ahead'⟩ objects := by
  obtain ⟨-, hlive, hreserved, ht'⟩ := h.allocated.reserve hr
  refine ⟨ht', ?_, fun other => ?_⟩
  · exact hreserved.trans (congrArg _ h.reserved)
  · rw [← h.find? other]
    simp only [Table.find?, hlive]

/-- What a constructor's end does to the table is what it does to the map. -/
theorem conclude {frame : Frame α ε} (h : Follows ⟨t, frame :: inFlight, ahead⟩ objects) :
    Follows ⟨(t.conclude frame.handle frame.ending).2, inFlight, ahead'⟩
      (frame.ending.insertInto frame.handle objects) := by
  have hheld : t.reserved = frame.handle :: inFlight.map Frame.handle := h.reserved
  obtain ⟨hreserved, ht'⟩ := h.allocated.conclude (hheld ▸ List.mem_cons_self) frame.ending
  refine ⟨ht', ?_, fun other => ?_⟩
  · rw [hheld, List.erase_cons_head] at hreserved
    exact hreserved
  · rw [Ending.insertInto]
    rcases hproduct : frame.ending.product? frame.handle with _ | object
    · rw [(Table.conclude_of_no_product hproduct).2]
      exact h.find? other
    · simp only [Table.conclude_of_product hproduct, Table.find?_commit]
      split
      · next heq => rw [heq, Finmap.lookup_insert]
      · next hne => rw [Finmap.lookup_insert_of_ne _ hne, ← h.find? other]

/-- A removal takes its handle out of the map. -/
theorem removeIf (h : Follows ⟨t, inFlight, ahead⟩ objects) {wanted : α → Bool} {object : α}
    (hr : t.removeIf handle wanted = some (object, t')) :
    Follows ⟨t', inFlight, ahead'⟩ (objects.erase handle) := by
  obtain ⟨hreserved, ht'⟩ := h.allocated.removeIf hr
  refine ⟨ht', hreserved.trans h.reserved, fun other => ?_⟩
  change t'.find? other = (objects.erase handle).lookup other
  rw [Table.find?_removeIf h.nodup hr]
  split
  · next heq => rw [heq, Finmap.lookup_erase]
  · next hne => rw [Finmap.lookup_erase_ne hne, ← h.find? other]

/-- What a request without a constructor does to the table is what it does to the map. -/
theorem answer (h : Follows ⟨t, inFlight, ahead⟩ objects) {request : Request α ε}
    (hplain : request.isConstruct = false) :
    Follows ⟨(t.answer request).2.1, inFlight, ahead'⟩
      (request.eraseFrom (t.answer request).1 objects) := by
  have hsame : Follows ⟨t, inFlight, ahead'⟩ objects := ⟨h.allocated, h.reserved, h.find?⟩
  cases request with
  | construct inner ending => cases hplain
  | remove handle =>
    rw [Table.answer, Table.remove]
    rcases hr : t.removeIf handle fun _ => true with _ | ⟨object, t'⟩
    · exact hsame
    · exact h.removeIf hr
  | removeIf handle wanted =>
    rw [Table.answer]
    rcases hr : t.removeIf handle wanted with _ | ⟨object, t'⟩
    · exact hsame
    · exact h.removeIf hr
  | destroy handle =>
    rw [Table.answer, Table.destroy, Table.remove]
    rcases hr : t.removeIf handle fun _ => true with _ | ⟨object, t'⟩
    · exact hsame
    · exact h.removeIf hr
  | get handle =>
    rw [Table.answer]
    exact hsame
  | find handle =>
    rw [Table.answer]
    exact hsame
  | contains handle => exact hsame

end Follows

/-! ## Whole courses -/

namespace Course

variable {history : List (Request α ε)} {scene : Scene α ε} {objects : ObjectMap α}

/-- **Every step keeps the table and the map together.** -/
theorem follows (h : Course history scene objects) : Follows scene objects := by
  induction h with
  | start => exact .start history
  | enter _ reserved ih => exact ih.enter reserved _ _
  | refuse _ _ ih => exact ⟨ih.allocated, ih.reserved, ih.find?⟩
  | conclude _ ih => exact ih.conclude
  | answer _ plain ih => exact ih.answer plain

mutual

/-- A whole request is made of steps, with all that its constructors send. -/
theorem whole (request : Request α ε) :
    ∀ {t : Table α} {inFlight : List (Frame α ε)} {rest : List (Request α ε)}
      {objects : ObjectMap α}, Course history ⟨t, inFlight, request :: rest⟩ objects →
      ∃ objects', Course history ⟨(t.answer request).2.1, inFlight, rest⟩ objects' := by
  intro t inFlight rest objects h
  cases request with
  | construct inner ending =>
    rw [Table.answer]
    rcases hr : t.reserve with cause | ⟨handle, t'⟩
    · exact ⟨objects, h.refuse hr⟩
    · obtain ⟨objects', hinner⟩ := wholeAll inner [] ((List.append_nil inner).symm ▸ h.enter hr)
      exact ⟨_, hinner.conclude⟩
  | _ => exact ⟨_, h.answer rfl⟩

/-- So are the requests of a constructor, in front of others. -/
theorem wholeAll (requests rest : List (Request α ε)) :
    ∀ {t : Table α} {inFlight : List (Frame α ε)} {objects : ObjectMap α},
      Course history ⟨t, inFlight, requests ++ rest⟩ objects →
      ∃ objects', Course history ⟨(t.answerAll requests).1, inFlight, rest⟩ objects' := by
  intro t inFlight objects h
  cases requests with
  | nil => exact ⟨objects, h⟩
  | cons request others =>
    obtain ⟨objects', hrequest⟩ := whole request h
    exact wholeAll others rest hrequest

end

end Course

/-- **A table is a finite map.** Every history is played to its end, step by step. At each step,
inside constructors of any depth too, all that can be seen of the table is the map in which an
object appears when its constructor returns it under the handle it was given, and from which it
goes when a removal succeeds.

- Nothing can be seen under the handle of a constructor in flight.
- A removal takes the object that the map has under the handle, if it is wanted.
- A constructor that adds nothing fails, and all objects stay as they are, those too that it made
  itself; of the handles that were taken only its own is given back.
- If it sent no requests, the table is the one from before it was entered, the counter included. -/
theorem tables_are_finite_maps (history : List (Request α ε)) :
    (∃ objects, Course history ⟨(Table.empty.answerAll history).1, [], []⟩ objects) ∧
    ∀ (scene : Scene α ε) (objects : ObjectMap α), Course history scene objects →
      scene.table.Shows objects ∧
      (∀ frame ∈ scene.inFlight, frame.handle ∉ objects) ∧
      (∀ handle wanted, (scene.table.removeIf handle wanted).map (·.1) =
        (objects.lookup handle).filter wanted) ∧
      (∀ frame inFlight, scene.inFlight = frame :: inFlight →
        (∀ object, (scene.table.conclude frame.handle frame.ending).1 = .ok (frame.handle, object) ↔
          frame.ending.product? frame.handle = some object) ∧
        (frame.ending.product? frame.handle = none →
          (∃ failure, (scene.table.conclude frame.handle frame.ending).1 = .error failure) ∧
          (scene.table.conclude frame.handle frame.ending).2.live = scene.table.live ∧
          scene.table.taken.Perm
            (frame.handle :: (scene.table.conclude frame.handle frame.ending).2.taken))) ∧
      ∀ ending : Ending α ε, ending.product? scene.table.next = none →
        (∃ failure, (scene.table.answer (.construct [] ending)).1 = .made (.error failure)) ∧
        (scene.table.answer (.construct [] ending)).2.1 = scene.table := by
  refine ⟨?_, fun scene objects h => ?_⟩
  · have hstart : Course history ⟨.empty, [], history ++ []⟩ ∅ :=
      (List.append_nil history).symm ▸ .start
    exact hstart.wholeAll history []
  · obtain ⟨ht, hheld, hfind⟩ := h.follows
    refine ⟨Table.shows_of_find? h.follows.nodup hfind, ?_, ?_, ?_, ?_⟩
    · intro frame hframe
      have hreserved : frame.handle ∈ scene.table.reserved :=
        hheld ▸ List.mem_map_of_mem hframe
      rw [← Finmap.lookup_eq_none, ← hfind, Table.find?_eq_none_iff]
      exact fun hlive => (List.nodup_append.1 ht.nodup).2.2 _ hlive _ hreserved rfl
    · intro handle wanted
      rw [Table.removeIf_fst, hfind]
    · intro frame inFlight hinnermost
      have hreserved : frame.handle ∈ scene.table.reserved := by
        rw [hheld, hinnermost]
        exact List.mem_cons_self
      refine ⟨fun object => Table.conclude_eq_ok_iff, fun hproduct => ?_⟩
      obtain ⟨hfailed, hreleased⟩ :=
        Table.conclude_of_no_product hproduct
      refine ⟨hfailed, by rw [hreleased, Table.release], ?_⟩
      rw [hreleased, Table.taken, Table.taken, (ht.release hreserved).1]
      exact ((List.perm_cons_erase hreserved).append_left _).trans List.perm_middle
    · intro ending hproduct
      rw [Table.answer]
      rcases hr : scene.table.reserve with cause | ⟨handle, t'⟩
      · exact ⟨⟨_, rfl⟩, rfl⟩
      · obtain ⟨rfl, -, -, -⟩ := ht.reserve hr
        obtain ⟨⟨failure, hfailed⟩, hreleased⟩ :=
          Table.conclude_of_no_product hproduct
        refine ⟨⟨failure, congrArg Answer.made hfailed⟩, ?_⟩
        exact hreleased.trans (ht.release_reserve hr)

/-- A constructor in flight under handle 1 has made an object under 2 and removed the one under 0.
It ends with an object that carries handle 7: handle 1 is given back, and what it did stays. -/
theorem tables_are_finite_maps_wrong_handle :
    let frame : Frame String Unit := ⟨1, .named 7 "c", []⟩
    let history : List (Request String Unit) :=
      [.construct [] (.done "a"),
        .construct [.construct [] (.done "b"), .remove 0] frame.ending]
    let table : Table String := { live := [(2, "b")], reserved := [1], next := 0 }
    let objects : ObjectMap String := ((Finmap.insert 0 "a" ∅).insert 2 "b").erase 0
    Course history ⟨table, [frame], []⟩ objects ∧ table.Shows objects ∧ 1 ∉ objects ∧
      (table.conclude 1 frame.ending).2.live = [(2, "b")] ∧
      [2, 1].Perm (1 :: (table.conclude 1 frame.ending).2.taken) := by
  intro frame history table objects
  have hcourse : Course history ⟨table, [frame], []⟩ objects := by
    have hfirst := (Course.start : Course history _ _).enter (show _ = Except.ok (0, _) from rfl)
    have hinner := hfirst.conclude.enter (show _ = Except.ok (1, _) from rfl)
    have hsecond := hinner.enter (show _ = Except.ok (2, _) from rfl)
    exact hsecond.conclude.answer rfl
  obtain ⟨hshows, hflight, -, hends, -⟩ :=
    (tables_are_finite_maps history).2 ⟨table, [frame], []⟩ objects hcourse
  obtain ⟨-, hlive, htaken⟩ := (hends frame [] rfl).2 rfl
  exact ⟨hcourse, hshows, hflight frame List.mem_cons_self, hlive, htaken⟩

end AvcDriver.Handle
