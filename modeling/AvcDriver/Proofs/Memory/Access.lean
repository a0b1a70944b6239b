import AvcDriver.Memory.Mapping
import Mathlib.Data.List.Basic

/-!
# Accesses, call by call

An access begins on the regions of a mapping in order. If all of them take it, it is ended on each
of them once, whether or not they take that, too. If one refuses, the access is over at once: the
regions before it were begun and are left so.

* `beginCalls_eq`, `endedOn_endCalls`: the calls of either kind.
* `AccessCall.Paired`: what was begun is ended once, and nothing else is.
* `access_paired_iff`: which accesses are paired.
-/

namespace AvcDriver.Memory.Mapping

namespace AccessCall

/-- The region on which a call began the access. -/
def begun? : AccessCall → Option Nat
  | began region => some region
  | beginFailed _ _ => none
  | ended _ => none
  | endFailed _ _ => none

/-- The region on which a call was to end the access, whatever came of it. -/
def ended? : AccessCall → Option Nat
  | began _ => none
  | beginFailed _ _ => none
  | ended region => some region
  | endFailed region _ => some region

/-- The regions on which an access was begun. -/
def begunOn (calls : List AccessCall) : List Nat := calls.filterMap begun?

/-- The regions on which an access was ended. -/
def endedOn (calls : List AccessCall) : List Nat := calls.filterMap ended?

/-- Each region on which an access was begun is told its end once, and no other region is. -/
def Paired (calls : List AccessCall) : Prop :=
  ∀ region, (endedOn calls).count region = if region ∈ begunOn calls then 1 else 0

theorem begunOn_append (calls more : List AccessCall) :
    begunOn (calls ++ more) = begunOn calls ++ begunOn more := List.filterMap_append

theorem endedOn_append (calls more : List AccessCall) :
    endedOn (calls ++ more) = endedOn calls ++ endedOn more := List.filterMap_append

theorem begunOn_began (regions : List Nat) : begunOn (regions.map began) = regions := by
  rw [begunOn, List.filterMap_map]
  exact List.filterMap_some

theorem endedOn_began (regions : List Nat) : endedOn (regions.map began) = [] := by
  rw [endedOn, List.filterMap_map, List.filterMap_eq_nil_iff]
  exact fun _ _ => rfl

end AccessCall

open AccessCall (Paired begunOn begunOn_append begunOn_began endedOn endedOn_append endedOn_began)

/-- How many of some regions take the begin of an access before one refuses. -/
def taking (regions : List Region) : Nat := regions.findIdx fun region => region.beginError.isSome

/-- **Begin calls** go as far as the first region that refuses. -/
theorem beginCalls_eq (regions : List Region) (index : Nat) :
    beginCalls index regions =
      ((List.range' index (taking regions)).map .began ++
        (regions.findSome? Region.beginError).toList.map (.beginFailed (index + taking regions)),
        regions.findSome? Region.beginError) := by
  induction regions generalizing index with
  | nil => rfl
  | cons region rest ih =>
    rw [beginCalls, taking, List.findIdx_cons, List.findSome?_cons, ← taking]
    rcases region.beginError with _ | error
    · dsimp only [Option.isSome_none, cond_false]
      rw [ih, List.range'_succ, Nat.add_right_comm index 1]
      rfl
    · rfl

/-- **End calls** go to all regions. -/
theorem endedOn_endCalls (regions : List Region) (index : Nat) :
    endedOn (endCalls index regions) = List.range' index regions.length ∧
      begunOn (endCalls index regions) = [] := by
  induction regions generalizing index with
  | nil => exact ⟨rfl, rfl⟩
  | cons region rest ih =>
    rw [endCalls, List.length_cons, List.range'_succ]
    rcases region.endError with _ | error
    · exact ⟨congrArg (index :: ·) (ih (index + 1)).1, (ih (index + 1)).2⟩
    · exact ⟨congrArg (index :: ·) (ih (index + 1)).1, (ih (index + 1)).2⟩

section Access

variable {m : Mapping}

/-- An access that no region refuses. -/
theorem access_of_taken (h : m.regions.toList.findSome? Region.beginError = none) :
    taking m.regions.toList = m.regions.size ∧
      m.access =
        ((List.range m.regions.size).map .began ++ endCalls 0 m.regions.toList, none) := by
  have hall : taking m.regions.toList = m.regions.size := by
    rw [← Array.length_toList, taking, List.findIdx_eq_length]
    simpa using List.findSome?_eq_none_iff.1 h
  have hbegins := beginCalls_eq m.regions.toList 0
  rw [h, hall, Option.toList_none, List.map_nil, List.append_nil,
    ← List.range_eq_range'] at hbegins
  refine ⟨hall, ?_⟩
  rw [access, hbegins]

/-- An access that a region refuses. -/
theorem access_of_refused {error : Error}
    (h : m.regions.toList.findSome? Region.beginError = some error) :
    m.access = ((List.range (taking m.regions.toList)).map .began ++
      [.beginFailed (taking m.regions.toList) error], some error) := by
  have hbegins := beginCalls_eq m.regions.toList 0
  rw [h, Option.toList_some, List.map_singleton, Nat.zero_add,
    ← List.range_eq_range'] at hbegins
  rw [access, hbegins]

/-- Regions that are begun and ended in order, each once. -/
theorem paired_of_eq {calls : List AccessCall} {count : Nat}
    (hbegun : begunOn calls = List.range count) (hended : endedOn calls = List.range count) :
    Paired calls := by
  intro region
  rw [hbegun, hended, List.nodup_range.count]

/-- Where nothing is ended, nothing may have been begun. -/
theorem paired_iff_of_ended_nil {calls : List AccessCall} {count : Nat}
    (hbegun : begunOn calls = List.range count) (hended : endedOn calls = []) :
    Paired calls ↔ count = 0 := by
  rw [Paired, hbegun, hended]
  constructor
  · intro hpaired
    by_contra hcount
    -- the first region was begun and is not told the end
    have hfirst := hpaired 0
    rw [if_pos (List.mem_range.2 (Nat.pos_of_ne_zero hcount))] at hfirst
    cases hfirst
  · rintro rfl region
    rfl

end Access

/-- **Which accesses are paired.** Of the regions of a mapping those are begun, in order, that come
before the first one that refuses. If none refuses, the access is ended once on each of them after
that, and is paired, whichever ends are refused. If one refuses, no region is told an end: the
access is paired only if the first region refuses. -/
theorem access_paired_iff (m : Mapping) :
    begunOn m.access.1 = List.range (taking m.regions.toList) ∧
      (m.access.2 = none → ∃ ends,
        m.access.1 = (List.range m.regions.size).map .began ++ ends ∧
        endedOn ends = List.range m.regions.size ∧ begunOn ends = []) ∧
      (∀ error, m.access.2 = some error →
        m.access.1 = (List.range (taking m.regions.toList)).map .began ++
          [.beginFailed (taking m.regions.toList) error]) ∧
      (Paired m.access.1 ↔ m.access.2 = none ∨ taking m.regions.toList = 0) := by
  rcases hrefusal : m.regions.toList.findSome? Region.beginError with _ | error
  · obtain ⟨hall, haccess⟩ := access_of_taken hrefusal
    obtain ⟨hended, hbegun⟩ := endedOn_endCalls m.regions.toList 0
    rw [← List.range_eq_range', Array.length_toList] at hended
    have hbegunOn : begunOn m.access.1 = List.range m.regions.size := by
      rw [haccess, begunOn_append, begunOn_began, hbegun, List.append_nil]
    have hendedOn : endedOn m.access.1 = List.range m.regions.size := by
      rw [haccess, endedOn_append, endedOn_began, hended, List.nil_append]
    have hnone : m.access.2 = none := congrArg Prod.snd haccess
    refine ⟨by rw [hbegunOn, hall], ?_, ?_, ?_⟩
    · exact fun _ => ⟨_, congrArg Prod.fst haccess, hended, hbegun⟩
    · rw [hnone]
      rintro error ⟨⟩
    · exact iff_of_true (paired_of_eq hbegunOn hendedOn) (.inl hnone)
  · have haccess := access_of_refused hrefusal
    have hbegunOn : begunOn m.access.1 = List.range (taking m.regions.toList) := by
      rw [haccess, begunOn_append, begunOn_began]
      exact List.append_nil _
    have hendedOn : endedOn m.access.1 = [] := by
      rw [haccess, endedOn_append, endedOn_began]
      rfl
    have hsome : m.access.2 = some error := congrArg Prod.snd haccess
    rw [hsome]
    refine ⟨hbegunOn, ?_, ?_, ?_⟩
    · rintro ⟨⟩
    · rintro _ ⟨⟩
      exact congrArg Prod.fst haccess
    · rw [paired_iff_of_ended_nil hbegunOn hendedOn]
      simp

/-- A mapping of two regions, of which the second one refuses. -/
def halfTaking : Mapping where
  regions := #[{ memory := ⟨0⟩, size := 16 },
    { memory := ⟨1⟩, size := 16, beginError := some .beginRefused }]
  planes := []

/-- Its first region is begun and is never told the end. -/
theorem half_taken_access_unpaired :
    halfTaking.access = ([.began 0, .beginFailed 1 .beginRefused], some .beginRefused) ∧
      ¬ Paired halfTaking.access.1 := by
  refine ⟨rfl, fun hpaired => ?_⟩
  have hfirst : (0 : Nat) = 1 := hpaired 0
  cases hfirst

end AvcDriver.Memory.Mapping
