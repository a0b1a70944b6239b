import AvcDriver.Proofs.Memory.Copy
import AvcDriver.Proofs.Memory.Mapper

/-!
# Planes in memory

A plane of a mapping is a window into one memory of a store. Writing a plane changes bytes of its
window only, and planes whose windows do not overlap do not disturb each other, also where they
lie in one memory.

* `SameSizes`: stores whose memories are as large as they were.
* `Place.Fits`, `Mapping.Fits`: planes that lie inside their memories.
* `Place.Apart`: planes that do not overlap.
* `Mapping.byte_writePlane_address`, `Mapping.byte_writePlane_of_ne`: what writing a plane does.
-/

namespace AvcDriver

/-! ## Stores of memories -/

namespace MemoryStore

/-- The byte at an address of a memory, zero if there is no such memory. -/
def byte (store : MemoryStore) (ref : MemoryRef) (address : Nat) : UInt8 :=
  (store.find? ref).elim 0 fun memory => memory.byte address

variable {store store' store'' : MemoryStore} {ref other : MemoryRef}

theorem byte_of_find? {memory : Memory} (h : store.find? ref = some memory) (address : Nat) :
    store.byte ref address = memory.byte address := by
  rw [byte, h, Option.elim_some]

theorem find?_change (f : Memory → Memory) :
    (store.change ref f).find? other =
      if other = ref then (store.find? other).map f else store.find? other := by
  obtain ⟨index⟩ := ref
  obtain ⟨index'⟩ := other
  simp only [change, find?, Array.getElem?_modify, MemoryRef.mk.injEq]
  grind

/-- Every memory is still there, and as large as it was. -/
def SameSizes (store store' : MemoryStore) : Prop :=
  ∀ ref memory, store.find? ref = some memory →
    ∃ memory', store'.find? ref = some memory' ∧ memory'.size = memory.size

theorem SameSizes.refl (store : MemoryStore) : SameSizes store store :=
  fun _ memory h => ⟨memory, h, rfl⟩

theorem SameSizes.trans (h : SameSizes store store') (h' : SameSizes store' store'') :
    SameSizes store store'' := by
  intro ref memory hfind
  obtain ⟨memory', hfind', hsize⟩ := h ref memory hfind
  obtain ⟨memory'', hfind'', hsize'⟩ := h' ref memory' hfind'
  exact ⟨memory'', hfind'', hsize'.trans hsize⟩

/-- What is kept is as large as it was. -/
theorem SameSizes.of_kept (h : Kept store store') : SameSizes store store' :=
  fun ref memory hfind => ⟨memory, h ref.index memory hfind, rfl⟩

/-- No memory is gone. -/
theorem SameSizes.size_le (h : SameSizes store store') : store.size ≤ store'.size := by
  by_contra hlt
  have hbound : store'.size < store.size := Nat.lt_of_not_le hlt
  obtain ⟨memory, hfind, -⟩ := h ⟨store'.size⟩ store[store'.size] (Array.getElem?_eq_getElem hbound)
  exact Nat.lt_irrefl _ (Array.getElem?_eq_some_iff.1 hfind).1

/-- One memory may be replaced by another one of its size. -/
theorem SameSizes.change {memory copy : Memory} (hfind : store.find? ref = some memory)
    (hsize : copy.size = memory.size) : SameSizes store (store.change ref fun _ => copy) := by
  intro other old hold
  rw [find?_change]
  split
  · next heq =>
    subst heq
    rw [hfind] at hold
    cases hold
    exact ⟨copy, by rw [hfind]; rfl, hsize⟩
  · exact ⟨old, hold, rfl⟩

end MemoryStore

open MemoryStore (SameSizes)

namespace Memory

/-! ## Places -/

namespace Place

variable {place other : Place} {store store' : MemoryStore} {row column : Nat}

theorem contents_eq_ok {memory : Memory} (h : place.contents store = .ok memory) :
    store.find? place.memory = some memory := by
  rw [contents] at h
  split at h
  · next hfind =>
    cases h
    exact hfind
  · cases h

/-- The plane lies inside its memory. -/
def Fits (place : Place) (store : MemoryStore) : Prop :=
  ∃ memory, store.find? place.memory = some memory ∧
    place.window.start + place.window.size ≤ memory.size

theorem Fits.mono (h : place.Fits store) (hsizes : SameSizes store store') : place.Fits store' := by
  obtain ⟨memory, hfind, hle⟩ := h
  obtain ⟨memory', hfind', hsize⟩ := hsizes _ _ hfind
  exact ⟨memory', hfind', by rwa [hsize]⟩

/-- Two planes have no byte in common. -/
def Apart (place other : Place) : Prop :=
  place.memory = other.memory →
    place.window.start + place.window.size ≤ other.window.start ∨
      other.window.start + other.window.size ≤ place.window.start

/-- A byte of one plane is no byte of a plane that is apart from it. -/
theorem Apart.address_ne (h : place.Apart other) (hmemory : place.memory = other.memory)
    {row' column' : Nat} (hhas : place.window.Has row column)
    (hhas' : other.window.Has row' column') :
    other.window.address row' column' ≠ place.window.address row column := by
  have hinside := hhas.2
  have hinside' := hhas'.2
  rw [Window.address, Window.address]
  rcases h hmemory with hbefore | hbehind
  · omega
  · omega

end Place

namespace Mapping

variable {m : Mapping} {index : Nat} {place : Place} {store store' : MemoryStore}

/-- A plane has all of its rows. -/
theorem size_place (h : m.place index = .ok place) :
    place.window.size = place.window.stride * place.rows := by
  obtain ⟨plane, region, -, -, -, rfl⟩ := place_eq_ok.1 h
  rfl

/-- A plane has the rows that were asked for. -/
theorem rows_place {rows : List Nat} (hrows : m.planes.map (·.rows) = rows)
    (h : m.place index = .ok place) : rows[index]? = some place.rows := by
  obtain ⟨plane, region, hplane, -, -, rfl⟩ := place_eq_ok.1 h
  rw [← hrows, List.getElem?_map, hplane]
  rfl

/-- The area of a plane fits a word. -/
theorem area_lt (h : m.place index = .ok place) :
    place.window.stride * place.rows < 2 ^ 64 := by
  obtain ⟨plane, region, -, -, hends, rfl⟩ := place_eq_ok.1 h
  exact Nat.lt_of_le_of_lt (Nat.le_add_left _ _) hends.word

/-- All planes of a mapping lie inside their memories. -/
def Fits (m : Mapping) (store : MemoryStore) : Prop :=
  ∀ index place, m.place index = .ok place → place.Fits store

theorem Fits.mono (h : m.Fits store) (hsizes : SameSizes store store') : m.Fits store' :=
  fun index place hplace => (h index place hplace).mono hsizes

/-- The planes of a mapping that was made lie inside their memories, if its regions do. -/
theorem fits_of_make {regions : Array Region} {planes : List Plane}
    (h : Mapping.make regions planes = .ok m) (hregions : ∀ region ∈ regions, region.Fits store) :
    m.Fits store := by
  obtain ⟨-, rfl⟩ := make_eq_ok.1 h
  intro index place hplace
  obtain ⟨plane, region, -, hregion, hends, rfl⟩ := place_eq_ok.1 hplace
  obtain ⟨memory, hfind, hsize⟩ := hregions region (Array.mem_of_getElem? hregion)
  exact ⟨memory, hfind, Nat.le_trans hends.inside hsize⟩

/-! ## Writing planes -/

variable {source : Memory} {stride width rows row column : Nat}

theorem writePlane_eq_ok (h : m.writePlane store index source stride width rows = .ok store')
    (hplace : m.place index = .ok place) :
    ∃ memory copy, store.find? place.memory = some memory ∧
      copyPlane source (source.whole stride) memory place.window width (min rows place.rows) =
        .ok copy ∧
      store' = store.change place.memory fun _ => copy := by
  rw [writePlane, hplace, ok_bind] at h
  obtain ⟨memory, hmemory, h⟩ := bind_eq_ok.1 h
  obtain ⟨copy, hcopy, h⟩ := bind_eq_ok.1 h
  cases h
  exact ⟨memory, copy, Place.contents_eq_ok hmemory, hcopy, rfl⟩

theorem size_writePlane (h : m.writePlane store index source stride width rows = .ok store') :
    store'.size = store.size := by
  obtain ⟨place, hplace, -⟩ := bind_eq_ok.1 h
  obtain ⟨memory, copy, -, -, rfl⟩ := writePlane_eq_ok h hplace
  exact Array.size_modify

theorem sameSizes_writePlane
    (h : m.writePlane store index source stride width rows = .ok store') :
    SameSizes store store' := by
  obtain ⟨place, hplace, -⟩ := bind_eq_ok.1 h
  obtain ⟨memory, copy, hfind, hcopy, rfl⟩ := writePlane_eq_ok h hplace
  exact SameSizes.change hfind (size_copyPlane hcopy)

/-- A byte that is copied onto a plane is read there. -/
theorem byte_writePlane_address
    (h : m.writePlane store index source stride width rows = .ok store')
    (hplace : m.place index = .ok place) (hfits : place.Fits store)
    (hcopies : Copies (source.whole stride) place.window width (min rows place.rows) row column) :
    store'.byte place.memory (place.window.address row column) =
      source.byte (row * stride + column) := by
  obtain ⟨memory, copy, hfind, hcopy, rfl⟩ := writePlane_eq_ok h hplace
  obtain ⟨memory', hfind', hle⟩ := hfits
  obtain rfl : memory = memory' := Option.some.inj (hfind.symm.trans hfind')
  have hinside : place.window.address row column < memory.size := by
    have hhas := hcopies.2.2.2.2
    rw [Window.address]
    omega
  have hchanged : (store.change place.memory fun _ => copy).find? place.memory = some copy := by
    rw [MemoryStore.find?_change, if_pos rfl, hfind, Option.map_some]
  rw [MemoryStore.byte_of_find? hchanged, byte_copyPlane_address hcopy hcopies hinside,
    Window.address, whole, Nat.zero_add]

/-- Any other byte of a store stays when a plane is written. -/
theorem byte_writePlane_of_ne
    (h : m.writePlane store index source stride width rows = .ok store')
    (hplace : m.place index = .ok place) {ref : MemoryRef} {address : Nat}
    (hne : ref = place.memory → ∀ row column,
      Copies (source.whole stride) place.window width (min rows place.rows) row column →
        place.window.address row column ≠ address) :
    store'.byte ref address = store.byte ref address := by
  obtain ⟨memory, copy, hfind, hcopy, rfl⟩ := writePlane_eq_ok h hplace
  by_cases href : ref = place.memory
  · subst href
    have hchanged : (store.change place.memory fun _ => copy).find? place.memory = some copy := by
      rw [MemoryStore.find?_change, if_pos rfl, hfind, Option.map_some]
    rw [MemoryStore.byte_of_find? hchanged, MemoryStore.byte_of_find? hfind,
      byte_copyPlane_of_ne hcopy (hne rfl)]
  · rw [MemoryStore.byte, MemoryStore.find?_change, if_neg href, MemoryStore.byte]

/-- A plane that lies in memory takes any picture. -/
theorem writePlane_ok (h : m.Backed store.size index) (source : Memory) (stride width rows : Nat) :
    ∃ store', m.writePlane store index source stride width rows = .ok store' := by
  obtain ⟨place, hplace, hlt⟩ := h
  have hcontents : place.contents store = .ok store[place.memory.index] := by
    rw [Place.contents, MemoryStore.find?, Array.getElem?_eq_getElem hlt]
  have hrows : place.window.stride * min rows place.rows < 2 ^ 64 :=
    Nat.lt_of_le_of_lt (Nat.mul_le_mul_left _ (Nat.min_le_right _ _)) (area_lt hplace)
  obtain ⟨memory, hcopy⟩ := copyPlane_ok source (source.whole stride)
    store[place.memory.index] width hrows
  refine ⟨store.change place.memory fun _ => memory, ?_⟩
  rw [writePlane, hplace, ok_bind, hcontents, ok_bind, hcopy, ok_bind]
  rfl

/-! ## Reading planes -/

theorem downloadPlane_eq_ok {target result : Memory} {offset : Nat}
    (h : m.downloadPlane store index target offset stride width rows = .ok result)
    (hplace : m.place index = .ok place) :
    ∃ memory, store.find? place.memory = some memory ∧ offset ≤ target.size ∧
      copyPlane memory place.window target
        { start := offset, size := target.size - offset, stride } width rows = .ok result := by
  rw [downloadPlane, hplace, ok_bind] at h
  obtain ⟨memory, hmemory, h⟩ := bind_eq_ok.1 h
  split at h
  · cases h
  · next hle => exact ⟨memory, Place.contents_eq_ok hmemory, Nat.le_of_not_lt hle, h⟩

end Mapping

end Memory

end AvcDriver
