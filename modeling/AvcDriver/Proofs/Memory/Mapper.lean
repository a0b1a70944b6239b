import AvcDriver.Memory.Mapper
import AvcDriver.Proofs.Memory.Mapping
import AvcDriver.Proofs.Store

/-!
# Mappers that can be relied on

Any function may be a mapper. One that can be relied on maps the planes that it was asked for
into regions of memory that is there, and drops no memory. All mappers that are at hand do so,
and more: their regions end inside their memories, and an import changes no memory.

* `Mapper.Sound`: a mapper that can be relied on.
* `Mapper.Faithful`: a mapper that also leaves memory alone and maps what is there.
* `Mapper.faithful_heap`, `Mapper.faithful_shared`: the mappers at hand.
-/

namespace AvcDriver.Memory

/-! ## Mappers -/

/-- A mapper that can be relied on: the planes it was asked for are mapped into regions of memory
that is there, and no memory goes. -/
def Mapper.Sound (mapper : Mapper) : Prop :=
  ∀ earlier request store mapping store', mapper earlier request store = .ok (mapping, store') →
    store.size ≤ store'.size ∧ ∃ regions : Array Region,
      Mapping.make regions request.planes = .ok mapping ∧
        ∀ region ∈ regions, region.memory.index < store'.size

/-- An action on a store that leaves the memories that are there. -/
def Adds {α : Type} (m : StateM MemoryStore α) : Prop :=
  ∀ store, Kept store (m.run store).2

namespace Adds

variable {α β : Type}

/-- An answer alone changes no memory. -/
theorem pure (a : α) : Adds (Pure.pure a) := fun store => Kept.refl store

/-- A new memory goes behind those that are there. -/
theorem add (m : Memory) : Adds (MemoryStore.add m) := fun store => Kept.push store m

/-- Actions that leave memories can be run one after the other. -/
theorem bind {m : StateM MemoryStore β} {next : β → StateM MemoryStore α} (hm : Adds m)
    (hnext : ∀ b, Adds (next b)) : Adds (m >>= next) :=
  fun store => (hm store).trans (hnext _ _)

theorem mapM {f : β → StateM MemoryStore α} (hf : ∀ b, Adds (f b)) (items : List β) :
    Adds (items.mapM f) := by
  induction items with
  | nil => exact pure []
  | cons item rest ih =>
    rw [List.mapM_cons]
    exact (hf item).bind fun a => ih.bind fun as => pure (a :: as)

/-- To open what a client names makes a memory file at most. -/
theorem opened (source : Source) : Adds source.opened := by
  cases source with
  | descriptor number => exact pure _
  | newFile size => exact (add (zeros size)).bind fun ref => pure (Source.file ref)
  | file memory => exact pure _

end Adds

/-- A region that ends inside the memory that it maps. -/
def Region.Fits (region : Region) (store : MemoryStore) : Prop :=
  ∃ memory, store.find? region.memory = some memory ∧ region.size ≤ memory.size

/-- Memory that is kept goes on fitting its regions. -/
theorem Region.Fits.mono {region : Region} {store store' : MemoryStore} (h : region.Fits store)
    (hkept : Kept store store') : region.Fits store' := by
  obtain ⟨memory, hmemory, hle⟩ := h
  exact ⟨memory, hkept _ _ hmemory, hle⟩

namespace Mapper

/-- A mapper whose imports leave the memory that is there. -/
def Preserves (mapper : Mapper) : Prop :=
  ∀ earlier request store mapping store', mapper earlier request store = .ok (mapping, store') →
    Kept store store'

/-- A mapper whose imports leave the memory that is there, and map the planes they were asked for
into regions that end inside their memories. -/
def Faithful (mapper : Mapper) : Prop :=
  ∀ earlier request store mapping store', mapper earlier request store = .ok (mapping, store') →
    Kept store store' ∧ ∃ regions : Array Region,
      Mapping.make regions request.planes = .ok mapping ∧ ∀ region ∈ regions, region.Fits store'

/-- A region that ends inside a memory names one that is there. -/
theorem Faithful.sound {mapper : Mapper} (h : mapper.Faithful) : mapper.Sound := by
  intro earlier request store mapping store' hrun
  obtain ⟨hkept, regions, hmake, hfits⟩ := h earlier request store mapping store' hrun
  refine ⟨hkept.size_le, regions, hmake, ?_⟩
  intro region hmem
  obtain ⟨memory, hmemory, -⟩ := hfits region hmem
  exact (Array.getElem?_eq_some_iff.1 hmemory).1

theorem Faithful.preserves {mapper : Mapper} (h : mapper.Faithful) : mapper.Preserves :=
  fun earlier request store mapping store' hrun => (h earlier request store mapping store' hrun).1

/-- Regions that are made in memory of their own fit it. -/
theorem regions_fit {make : Object → StateM MemoryStore Region}
    (hadds : ∀ object, Adds (make object))
    (hfits : ∀ object store, ((make object).run store).1.Fits ((make object).run store).2)
    (objects : List Object) : ∀ store, ∀ region ∈ ((objects.mapM make).run store).1,
      region.Fits ((objects.mapM make).run store).2 := by
  induction objects with
  | nil =>
    rintro store region ⟨⟩
  | cons object rest ih =>
    intro store region hmem
    rw [List.mapM_cons] at hmem ⊢
    rcases List.mem_cons.1 hmem with rfl | hmem
    · exact (hfits object store).mono (Adds.mapM hadds rest _)
    · exact ih _ region hmem

/-- Fresh memory is as large as its regions, whatever its accesses are answered. -/
theorem faithful_fresh (beginError endError : Option Error) :
    Faithful fun _ => fresh beginError endError := by
  intro earlier request store mapping store' h
  obtain ⟨made, hmade, hstore⟩ := bind_eq_ok.1 h
  cases hstore
  let makeRegion (object : Object) : StateM MemoryStore Region := do
    let size := object.size.toNat
    pure { memory := ← MemoryStore.add (zeros size), size, beginError, endError }
  have hadds : ∀ object, Adds (makeRegion object) := fun object =>
    (Adds.add (zeros object.size.toNat)).bind fun memory => Adds.pure _
  have hfits : ∀ object store,
      ((makeRegion object).run store).1.Fits ((makeRegion object).run store).2 := by
    intro object store
    exact ⟨zeros object.size.toNat, Array.getElem?_push_size, Nat.le_refl _⟩
  refine ⟨Adds.mapM hadds request.objects store, _, hmade, ?_⟩
  intro region hmem
  exact regions_fit hadds hfits request.objects store region (List.mem_toArray.1 hmem)

theorem faithful_heap : Faithful heap := faithful_fresh none none

theorem faithful_refusing : Faithful refusing := by
  rintro earlier request store mapping store' ⟨⟩

/-- A mapper that begins to refuse imports is as faithful as before. -/
theorem faithful_heapUpTo (limit : Nat) : Faithful (heapUpTo limit) := by
  intro earlier request store mapping store' h
  rw [heapUpTo] at h
  split at h
  · exact faithful_heap earlier request store mapping store' h
  · exact faithful_refusing earlier request store mapping store' h

/-- No more of a file is mapped than it has. -/
theorem mapSource_fits {source : Source} {needed : Nat} {store store' : MemoryStore}
    {region : Region} (h : mapSource source needed store = .ok (region, store')) :
    Kept store store' ∧ region.Fits store' := by
  have hadds := Adds.opened source store
  rw [mapSource] at h
  split at h
  · next memory opened hopened =>
    split at h
    · cases h
    · next file hfile =>
      obtain ⟨⟨⟩, hmappable, hregion⟩ := bind_eq_ok.1 h
      cases hregion
      rw [hopened] at hadds
      refine ⟨hadds, file, hfile, ?_⟩
      rw [checkMappable] at hmappable
      split at hmappable
      · cases hmappable
      · next hle => exact Nat.le_of_not_lt hle
  · cases h

/-- Each object is mapped as far as its file reaches. The files made for the others do not move it.
-/
theorem mapObjects_fit {planes : List Plane} {objects : List Object} :
    ∀ {index store regions store'}, mapObjects planes index store objects = .ok (regions, store') →
      Kept store store' ∧ ∀ region ∈ regions, region.Fits store' := by
  induction objects with
  | nil =>
    intro index store regions store' h
    cases h
    exact ⟨Kept.refl _, by rintro _ ⟨⟩⟩
  | cons object rest ih =>
    intro index store regions store' h
    obtain ⟨needed, -, h⟩ := bind_eq_ok.1 h
    obtain ⟨⟨first, between⟩, hfirst, h⟩ := bind_eq_ok.1 h
    obtain ⟨⟨others, last⟩, hothers, h⟩ := bind_eq_ok.1 h
    cases h
    obtain ⟨hkept, hfits⟩ := mapSource_fits (mapError_eq_ok.1 hfirst)
    obtain ⟨hkept', hfits'⟩ := ih hothers
    refine ⟨hkept.trans hkept', ?_⟩
    intro region hmem
    rcases List.mem_cons.1 hmem with rfl | hmem
    · exact hfits.mono hkept'
    · exact hfits' region hmem

/-- **The client's memory** is left as it is, and mapped as far as it reaches. -/
theorem faithful_shared : Faithful shared := by
  intro earlier request store mapping store' h
  obtain ⟨⟨regions, last⟩, hregions, h⟩ := bind_eq_ok.1 h
  obtain ⟨made, hmade, hstore⟩ := bind_eq_ok.1 h
  cases hstore
  obtain ⟨hkept, hfits⟩ := mapObjects_fit hregions
  refine ⟨hkept, _, hmade, ?_⟩
  intro region hmem
  exact hfits region (List.mem_toArray.1 hmem)

theorem sound_heap : Sound heap := faithful_heap.sound

end Mapper

end AvcDriver.Memory
