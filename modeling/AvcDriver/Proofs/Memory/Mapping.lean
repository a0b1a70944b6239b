import AvcDriver.Memory.Mapping
import AvcDriver.Proofs.Action

/-!
# Planes that were checked

A mapping is made of planes that end inside their regions, and whose ends fit a word. Such a
plane lies where it was asked for.

* `Plane.EndsIn`: what is checked of a plane.
* `Mapping.make_eq_ok`, `Mapping.place_eq_ok`: which mappings can be made, and where their planes
  lie.
* `Mapping.backed_of_make`: planes that were checked lie in memory.
-/

namespace AvcDriver.Memory

/-- The end of a plane is there if it fits its word. -/
theorem Plane.stop_eq_ok {plane : Plane} {stop : Nat} :
    plane.stop = .ok stop ↔ plane.offset + plane.stride * plane.rows < 2 ^ 64 ∧
      stop = plane.offset + plane.stride * plane.rows := by
  constructor
  · intro h
    obtain ⟨size, hsize, hstop⟩ := bind_eq_ok.1 h
    obtain ⟨-, rfl⟩ := checkedWord_eq_ok.1 hsize
    exact checkedWord_eq_ok.1 hstop
  · rintro ⟨hlt, rfl⟩
    have harea : plane.stride * plane.rows < 2 ^ 64 :=
      Nat.lt_of_le_of_lt (Nat.le_add_left _ _) hlt
    exact bind_eq_ok.2 ⟨_, checkedWord_eq_ok.2 ⟨harea, rfl⟩, checkedWord_eq_ok.2 ⟨hlt, rfl⟩⟩

/-- A plane ends inside a region, and its end fits a word. -/
structure Plane.EndsIn (plane : Plane) (region : Region) : Prop where
  word : plane.offset + plane.stride * plane.rows < 2 ^ 64
  inside : plane.offset + plane.stride * plane.rows ≤ region.size

/-- Where a plane lies that is in a region. -/
def Plane.placeIn (plane : Plane) (region : Region) : Place where
  memory := region.memory
  window := {
    start := plane.offset
    size := plane.stride * plane.rows
    stride := plane.stride }
  rows := plane.rows

namespace Mapping

variable {regions : Array Region} {planes : List Plane} {m : Mapping} {count index : Nat}

theorem checkPlane_eq_ok {plane : Plane} : checkPlane regions index plane = .ok () ↔
    ∃ region, regions[plane.object]? = some region ∧ plane.EndsIn region := by
  rcases hregion : regions[plane.object]? with _ | region
  · simp [checkPlane, hregion]
  rcases hstop : plane.stop with cause | stop
  · have hword : ¬ plane.offset + plane.stride * plane.rows < 2 ^ 64 := by
      intro hlt
      rw [Plane.stop_eq_ok.2 ⟨hlt, rfl⟩] at hstop
      cases hstop
    constructor
    · intro h
      simp only [checkPlane, hregion, hstop] at h
      cases h
    · rintro ⟨_, -, hends⟩
      exact absurd hends.word hword
  · obtain ⟨hword, rfl⟩ := Plane.stop_eq_ok.1 hstop
    simp only [checkPlane, hregion, hstop]
    constructor
    · intro h
      split at h
      · next hinside => exact ⟨region, rfl, hword, hinside⟩
      · cases h
    · rintro ⟨_, ⟨⟩, hends⟩
      rw [if_pos hends.inside]

/-- Planes that are checked in order are each checked. -/
theorem checkPlanes_eq_ok : checkPlanes regions index planes = .ok () ↔
    ∀ plane ∈ planes, ∃ region, regions[plane.object]? = some region ∧ plane.EndsIn region := by
  induction planes generalizing index with
  | nil => exact ⟨fun _ => List.forall_mem_nil _, fun _ => rfl⟩
  | cons first rest ih =>
    rw [List.forall_mem_cons, checkPlanes, bind_eq_ok]
    constructor
    · rintro ⟨_, hfirst, hrest⟩
      exact ⟨checkPlane_eq_ok.1 hfirst, ih.1 hrest⟩
    · rintro ⟨hfirst, hrest⟩
      exact ⟨_, checkPlane_eq_ok.2 hfirst, ih.2 hrest⟩

/-- A mapping can be made of planes that end inside their regions. -/
theorem make_eq_ok : Mapping.make regions planes = .ok m ↔
    (∀ plane ∈ planes, ∃ region, regions[plane.object]? = some region ∧ plane.EndsIn region) ∧
      m = { regions, planes } := by
  constructor
  · intro h
    obtain ⟨_, hchecked, hm⟩ := bind_eq_ok.1 h
    cases hm
    exact ⟨checkPlanes_eq_ok.1 hchecked, rfl⟩
  · rintro ⟨hplanes, rfl⟩
    exact bind_eq_ok.2 ⟨_, checkPlanes_eq_ok.2 hplanes, rfl⟩

theorem plane_eq_ok {plane : Plane} :
    m.plane index = .ok plane ↔ m.planes[index]? = some plane := by
  rw [Mapping.plane]
  cases m.planes[index]? <;> simp

/-- Where a plane lies, in terms of its region. -/
theorem place_eq_ok {place : Place} : m.place index = .ok place ↔
    ∃ plane region, m.planes[index]? = some plane ∧ m.regions[plane.object]? = some region ∧
      plane.EndsIn region ∧ place = plane.placeIn region := by
  constructor
  · intro h
    obtain ⟨plane, hplane, h⟩ := bind_eq_ok.1 h
    split at h
    · cases h
    · next region hregion =>
      obtain ⟨stop, hstop, h⟩ := bind_eq_ok.1 h
      obtain ⟨hword, rfl⟩ := Plane.stop_eq_ok.1 hstop
      split at h
      · next hinside =>
        cases h
        refine ⟨plane, region, plane_eq_ok.1 hplane, hregion, ⟨hword, hinside.2⟩, ?_⟩
        rw [Plane.placeIn, Nat.add_sub_cancel_left]
      · cases h
  · rintro ⟨plane, region, hplane, hregion, hends, rfl⟩
    refine bind_eq_ok.2 ⟨plane, plane_eq_ok.2 hplane, ?_⟩
    simp only [hregion, Plane.stop_eq_ok.2 ⟨hends.word, rfl⟩, ok_bind]
    rw [if_pos ⟨Nat.le_add_right _ _, hends.inside⟩, Nat.add_sub_cancel_left]
    rfl

/-- Plane number `index` lies in one of the first `count` memories. -/
def Backed (m : Mapping) (count index : Nat) : Prop :=
  ∃ place, m.place index = .ok place ∧ place.memory.index < count

theorem Backed.mono {count' : Nat} (h : m.Backed count index) (hle : count ≤ count') :
    m.Backed count' index := by
  obtain ⟨place, hplace, hlt⟩ := h
  exact ⟨place, hplace, Nat.lt_of_lt_of_le hlt hle⟩

/-- The planes of a mapping that was made lie in memory, if its regions do. -/
theorem backed_of_make (h : Mapping.make regions planes = .ok m)
    (hregions : ∀ region ∈ regions, region.memory.index < count) (hindex : index < planes.length) :
    m.Backed count index := by
  obtain ⟨hplanes, rfl⟩ := make_eq_ok.1 h
  obtain ⟨region, hregion, hends⟩ := hplanes planes[index] (List.getElem_mem hindex)
  exact ⟨_, place_eq_ok.2 ⟨_, region, List.getElem?_eq_getElem hindex, hregion, hends, rfl⟩,
    hregions region (Array.mem_of_getElem? hregion)⟩

end Mapping

end AvcDriver.Memory
