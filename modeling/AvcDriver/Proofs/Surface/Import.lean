import AvcDriver.Proofs.Surface.Write

/-!
# Surfaces that are made

A surface is made without memory, or with the two planes of a picture, checked by a mapper that
can be relied on. So its planes lie in memory.

* `Surface.rows_planes`: an import is made for the rows of two planes.
* `Surface.make_eq_ok`: what a surface that was made has for memory.
* `Surface.placed_of_make`: the planes of a surface that was made lie in memory.
* `Surface.kept_of_make`: making a surface leaves the memory that is there.
-/

namespace AvcDriver.Surface

open Memory (Import Mapper Mapping)

/-- Making the memory files that are asked for changes no memory. -/
theorem Attribute.adds_opened (own : Attribute) : Memory.Adds own.opened := by
  cases own with
  | descriptor value =>
    have hobject : ∀ o : DescribedObject, Memory.Adds o.opened := fun o =>
      (Memory.Adds.opened o.source).bind fun source => Memory.Adds.pure { o with source }
    exact (Memory.Adds.mapM hobject value.objects).bind fun objects => Memory.Adds.pure _
  | _ => exact Memory.Adds.pure _

theorem rows_importPlanes {objects : Nat} {described : List (DescribedPlane × Nat)} :
    ∀ {planes}, importPlanes objects described = .ok planes →
      planes.map (·.rows) = described.map (·.2) := by
  induction described with
  | nil =>
    rintro planes ⟨⟩
    rfl
  | cons first rest ih =>
    intro planes h
    rw [importPlanes] at h
    split at h
    · cases h
    · obtain ⟨others, hothers, hplanes⟩ := bind_eq_ok.1 h
      cases hplanes
      rw [List.map_cons, List.map_cons, ih hothers]

/-- The planes that are found are those of the one layer, of which there are two. -/
theorem layerPlanes_eq_ok {d : Descriptor} {planes : List Memory.Plane}
    (h : layerPlanes d = .ok planes) :
    ∃ layer : Layer, layer.planes.length = 2 ∧
      importPlanes d.objects.length (layer.planes.zip [d.height.toNat, halfUp d.height.toNat]) =
        .ok planes := by
  rw [layerPlanes] at h
  split at h
  · next layer _ =>
    split at h
    · cases h
    · split at h
      · cases h
      · next hcount => exact ⟨layer, Classical.not_not.1 hcount, h⟩
  · cases h

/-- What is asked for are the planes of a descriptor of the surface's height. -/
theorem importRequest_eq_ok {format width height fourcc : UInt32} {attributes : List Attribute}
    {request : Import}
    (h : importRequest format width height attributes = .ok (fourcc, request)) :
    ∃ d : Descriptor, d.fourcc = fourcc ∧ formatOf? fourcc = some format ∧ d.height = height ∧
      layerPlanes d = .ok request.planes := by
  obtain ⟨described, -, h⟩ := bind_eq_ok.1 h
  obtain ⟨⟨⟩, hsize, h⟩ := bind_eq_ok.1 h
  have hheight : described.height = height := by
    have hsize := mapError_eq_ok.1 hsize
    simp only [checkSize] at hsize
    split at hsize
    · cases hsize
    · split at hsize
      · cases hsize
      · next hsame => exact Classical.not_not.1 fun hne => hsame (.inr hne)
  split at h
  · cases h
  · next expected hexpected =>
    dsimp only at h
    split at h
    · cases h
    · next hformat =>
      obtain ⟨⟨⟩, -, h⟩ := bind_eq_ok.1 h
      obtain ⟨planes, hplanes, h⟩ := bind_eq_ok.1 h
      cases h
      exact ⟨described, rfl, hexpected.trans (congrArg some (Classical.not_not.1 hformat).symm),
        hheight, mapError_eq_ok.1 hplanes⟩

/-- Planes are asked for with as many rows as pictures of the surface have. -/
theorem rows_planes {format width height fourcc : UInt32} {attributes : List Attribute}
    {request : Import}
    (h : importRequest format width height attributes = .ok (fourcc, request)) :
    request.planes.map (·.rows) = [height.toNat, halfUp height.toNat] := by
  obtain ⟨described, -, -, rfl, hplanes⟩ := importRequest_eq_ok h
  obtain ⟨layer, hcount, hplanes⟩ := layerPlanes_eq_ok hplanes
  rw [rows_importPlanes hplanes, List.map_snd_zip]
  exact Nat.le_of_eq hcount.symm

theorem length_planes {format width height fourcc : UInt32} {attributes : List Attribute}
    {request : Import} (h : importRequest format width height attributes = .ok (fourcc, request)) :
    request.planes.length = 2 := by
  rw [← List.length_map, rows_planes h]
  rfl

/-- A descriptor of a picture in one object. -/
theorem Descriptor.nv12_eq_ok {source : Memory.Source} {width height : UInt32} {d : Descriptor}
    (h : Descriptor.nv12 source width height = .ok d) :
    ∃ pitch size : UInt32, pitch.toNat = roundUpEven width.toNat ∧
      size.toNat = pitch.toNat * height.toNat + pitch.toNat * halfUp height.toNat ∧
      ∃ offset : UInt32, offset.toNat = pitch.toNat * height.toNat ∧ d = {
        fourcc := fourccNv12
        width, height
        objects := [{ source, size, modifier := 0 }]
        layers := [{
          format := fourccNv12
          planes := [{ object := 0, offset := 0, pitch }, { object := 0, offset, pitch }] }] } := by
  obtain ⟨pitch, hpitch, h⟩ := bind_eq_ok.1 h
  obtain ⟨lumaSize, hluma, h⟩ := bind_eq_ok.1 h
  obtain ⟨chromaSize, hchroma, h⟩ := bind_eq_ok.1 h
  obtain ⟨size, hsize, h⟩ := bind_eq_ok.1 h
  cases h
  obtain ⟨hpitchLt, rfl⟩ := checkedWord_eq_ok.1 hpitch
  obtain ⟨hlumaLt, rfl⟩ := checkedWord_eq_ok.1 hluma
  obtain ⟨-, rfl⟩ := checkedWord_eq_ok.1 hchroma
  obtain ⟨hsizeLt, rfl⟩ := checkedWord_eq_ok.1 hsize
  refine ⟨UInt32.ofNat _, UInt32.ofNat _, UInt32.toNat_ofNat_of_lt' hpitchLt, ?_,
    UInt32.ofNat _, ?_, rfl⟩
  · rw [UInt32.toNat_ofNat_of_lt' hsizeLt, UInt32.toNat_ofNat_of_lt' hpitchLt]
  · rw [UInt32.toNat_ofNat_of_lt' hlumaLt, UInt32.toNat_ofNat_of_lt' hpitchLt]

/-- What such a descriptor asks for. -/
theorem importRequest_nv12 (source : Memory.Source) {width height : UInt32}
    (pitch size offset : UInt32) (hwidth : width ≠ 0) (hheight : height ≠ 0) :
    importRequest Config.formatYuv420 width height (Descriptor.attributes {
      fourcc := fourccNv12
      width, height
      objects := [{ source, size, modifier := 0 }]
      layers := [{
        format := fourccNv12
        planes := [{ object := 0, offset := 0, pitch }, { object := 0, offset, pitch }] }] }) =
    .ok (fourccNv12, {
      objects := [{ source, size }]
      planes := [
        { object := 0, offset := 0, stride := pitch.toNat, rows := height.toNat },
        { object := 0, offset := offset.toNat, stride := pitch.toNat
          rows := halfUp height.toNat }] }) := by
  have hsize : ¬ (width = 0 ∨ height = 0) := by
    rintro (rfl | rfl)
    · exact hwidth rfl
    · exact hheight rfl
  refine bind_eq_ok.2 ⟨_, mapError_eq_ok.2 rfl, bind_eq_ok.2 ⟨⟨⟩, mapError_eq_ok.2 ?_, rfl⟩⟩
  rw [checkSize, if_neg hsize]
  simp
  rfl

section Make

variable {mapper : Mapper} {earlier id : Nat} {format width height : UInt32}
  {attributes : List Attribute} {store store' : MemoryStore} {surface : Surface}

/-- A surface that was made has no memory, or the mapping of what its attributes ask for. -/
theorem make_eq_ok
    (h : make mapper earlier id format width height attributes store = .ok (surface, store')) :
    surface.width = width ∧ surface.height = height ∧
      (surface.mapping = none ∧ store' = store ∨
        ∃ request mapping, surface.mapping = some mapping ∧
          importRequest format width height attributes = .ok (surface.fourcc, request) ∧
          mapper earlier request store = .ok (mapping, store')) := by
  rw [make] at h
  split at h
  · cases h
    exact ⟨rfl, rfl, .inl ⟨rfl, rfl⟩⟩
  · obtain ⟨⟨fourcc, request⟩, hrequest, h⟩ := bind_eq_ok.1 h
    obtain ⟨⟨mapping, last⟩, hmapping, h⟩ := bind_eq_ok.1 h
    cases h
    exact ⟨rfl, rfl, .inr ⟨request, mapping, rfl, mapError_eq_ok.1 hrequest,
      mapError_eq_ok.1 hmapping⟩⟩

/-- **The planes of a surface that was made lie in memory**, and no memory has gone. -/
theorem placed_of_make (hmapper : mapper.Sound)
    (h : make mapper earlier id format width height attributes store = .ok (surface, store')) :
    store.size ≤ store'.size ∧ surface.Placed store'.size := by
  obtain ⟨-, -, ⟨hnone, rfl⟩ | ⟨request, mapping, hsome, hrequest, hmapping⟩⟩ := make_eq_ok h
  · refine ⟨Nat.le_refl _, ?_⟩
    rw [Placed, hnone]
    rintro _ ⟨⟩
  · have hlength := length_planes hrequest
    obtain ⟨hgrows, regions, hmake, hregions⟩ := hmapper _ _ _ _ _ hmapping
    refine ⟨hgrows, ?_⟩
    rw [Placed, hsome]
    rintro _ ⟨⟩
    exact ⟨Mapping.backed_of_make hmake hregions (by omega),
      Mapping.backed_of_make hmake hregions (by omega)⟩

/-- Making a surface leaves the memory that is there, if its import does. -/
theorem kept_of_make (hmapper : mapper.Preserves)
    (h : make mapper earlier id format width height attributes store = .ok (surface, store')) :
    Kept store store' := by
  obtain ⟨-, -, ⟨-, rfl⟩ | ⟨request, mapping, -, -, hmapping⟩⟩ := make_eq_ok h
  · exact Kept.refl _
  · exact hmapper _ _ _ _ _ hmapping

end Make

end AvcDriver.Surface
