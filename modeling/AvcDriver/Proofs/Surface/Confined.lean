import AvcDriver.Proofs.Surface.File

/-!
# Pictures stay inside their surfaces

A client describes the memory of a surface as it likes: planes may overlap, share an object, and
have rows that are shorter than a picture's, or empty. An engine shows pictures of any size, with
planes of any length. What a client says is in words of 32 bits, so the ends of planes that are
worked out from it fit words of 64. A description is mapped or rejected, and a picture is written
into the rows and columns that it shares with the surface.

* `Plane.Narrow`: a plane that is described in words of 32 bits.
* `Mapper.Steady`: a mapper that answers every import of such planes, and access to what it mapped.
* `Mapper.Dependable`: a mapper that is faithful as well, such as `heap` and `shared`.
* `Mapping.Covers`: the bytes of a plane that a picture may change.
* `Surface.pictures_confined`: surfaces that are made, and pictures that are written into them.
-/

namespace AvcDriver

open Engine (Picture)
open MemoryStore (SameSizes)

namespace Memory

/-! ## Planes in words -/

/-- A plane that is described in words of 32 bits. -/
structure Plane.Narrow (plane : Plane) : Prop where
  offset : plane.offset < 2 ^ 32
  stride : plane.stride < 2 ^ 32
  rows : plane.rows < 2 ^ 32

theorem Plane.Narrow.stop_eq {plane : Plane} (h : plane.Narrow) :
    plane.stop = .ok (plane.offset + plane.stride * plane.rows) := by
  have harea : plane.stride * plane.rows ≤ (2 ^ 32 - 1) * (2 ^ 32 - 1) :=
    Nat.mul_le_mul (Nat.le_sub_one_of_lt h.stride) (Nat.le_sub_one_of_lt h.rows)
  have hoffset := h.offset
  exact Plane.stop_eq_ok.2 ⟨by omega, rfl⟩

section Narrow

variable {planes : List Plane} (h : ∀ plane ∈ planes, plane.Narrow)
include h

/-- A mapping is made of such planes, or they are rejected. -/
theorem Mapping.make_ne_faulted (regions : Array Region) (cause : Fault) :
    Mapping.make regions planes ≠ .error (.faulted cause) := by
  have hcheck (index : Nat) : checkPlanes regions index planes ≠ .error (.faulted cause) := by
    induction planes generalizing index with
    | nil => rintro ⟨⟩
    | cons plane rest ih =>
      obtain ⟨hplane, hrest⟩ := List.forall_mem_cons.1 h
      refine ne_faulted_bind ?_ fun _ _ => ih hrest (index + 1)
      rw [checkPlane]
      split
      · rintro ⟨⟩
      · rw [hplane.stop_eq]
        dsimp only
        split
        · rintro ⟨⟩
        · rintro ⟨⟩
  exact ne_faulted_bind (hcheck 0) fun _ _ => by rintro ⟨⟩

namespace Mapper

theorem reachOf_ok (object reach : Nat) :
    ∃ furthest, reachOf object reach planes = .ok furthest := by
  induction planes generalizing reach with
  | nil => exact ⟨reach, rfl⟩
  | cons plane rest ih =>
    obtain ⟨hplane, hrest⟩ := List.forall_mem_cons.1 h
    rw [reachOf]
    split
    · rw [hplane.stop_eq, ok_bind]
      exact ih hrest _
    · exact ih hrest _

theorem mapObjects_ne_faulted (objects : List Object) (cause : Fault) :
    ∀ index store, mapObjects planes index store objects ≠ .error (.faulted cause) := by
  induction objects with
  | nil => rintro index store ⟨⟩
  | cons object rest ih =>
    intro index store
    obtain ⟨needed, hneeded⟩ := reachOf_ok h index object.size.toNat
    rw [mapObjects, hneeded, mapError_ok, ok_bind]
    refine ne_faulted_bind (rejected_ne_faulted _ id cause) fun _ _ => ?_
    exact ne_faulted_bind (ih _ _) fun _ _ => by rintro ⟨⟩

end Mapper

end Narrow

/-! ## Mappers -/

/-- Nothing refuses the start of an access to regions that do not. -/
theorem Mapping.beginAccess_ok {m : Mapping} (h : ∀ region ∈ m.regions, region.beginError = none) :
    m.beginAccess = .ok () := by
  have hcalls : ∀ (regions : List Region) (index : Nat),
      (∀ region ∈ regions, region.beginError = none) → (beginCalls index regions).2 = none := by
    intro regions
    induction regions with
    | nil => exact fun _ _ => rfl
    | cons region rest ih =>
      intro index hregions
      obtain ⟨hregion, hrest⟩ := List.forall_mem_cons.1 hregions
      simp only [beginCalls, hregion]
      exact ih (index + 1) hrest
  have hnone := hcalls m.regions.toList 0 fun region hmem => h region (Array.mem_toList_iff.1 hmem)
  rcases hbegun : beginCalls 0 m.regions.toList with ⟨calls, refusal⟩
  rw [hbegun] at hnone
  obtain rfl : refusal = none := hnone
  simp only [beginAccess, access, hbegun]

/-- A mapper that answers every import of planes in words, and lets what it mapped be accessed. -/
structure Mapper.Steady (mapper : Mapper) : Prop where
  answers : ∀ earlier request store cause, (∀ plane ∈ request.planes, plane.Narrow) →
    mapper earlier request store ≠ .error (.faulted cause)
  opens : ∀ earlier request store mapping store',
    mapper earlier request store = .ok (mapping, store') → mapping.beginAccess = .ok ()

namespace Mapper

/-- What holds of every result holds of all of them. -/
theorem forall_mem_mapM {σ α β : Type} {f : β → StateM σ α} {p : α → Prop}
    (h : ∀ item state, p ((f item).run state).1) (items : List β) :
    ∀ state, ∀ a ∈ ((items.mapM f).run state).1, p a := by
  induction items with
  | nil => rintro state a ⟨⟩
  | cons item rest ih =>
    intro state a hmem
    rw [List.mapM_cons] at hmem
    rcases List.mem_cons.1 hmem with rfl | hmem
    · exact h item state
    · exact ih _ a hmem

theorem steady_heap : Steady heap where
  answers earlier request store cause h :=
    ne_faulted_bind (Mapping.make_ne_faulted h _ cause) fun _ _ => by rintro ⟨⟩
  opens earlier request store mapping store' h := by
    obtain ⟨made, hmade, hstore⟩ := bind_eq_ok.1 h
    cases hstore
    obtain ⟨-, rfl⟩ := Mapping.make_eq_ok.1 hmade
    refine Mapping.beginAccess_ok fun region hmem => ?_
    exact forall_mem_mapM (p := fun region => region.beginError = none) (fun _ _ => rfl)
      request.objects store region (List.mem_toArray.1 hmem)

theorem mapSource_eq_ok {source : Source} {needed : Nat} {store store' : MemoryStore}
    {region : Region} (h : mapSource source needed store = .ok (region, store')) :
    ∃ memory, region = { memory, size := needed } := by
  rw [mapSource] at h
  split at h
  · next memory _ _ =>
    split at h
    · cases h
    · obtain ⟨⟨⟩, -, hregion⟩ := bind_eq_ok.1 h
      cases hregion
      exact ⟨memory, rfl⟩
  · cases h

theorem mapObjects_open {planes : List Plane} {objects : List Object} :
    ∀ {index store regions store'}, mapObjects planes index store objects = .ok (regions, store') →
      ∀ region ∈ regions, region.beginError = none := by
  induction objects with
  | nil =>
    intro index store regions store' h
    cases h
    rintro _ ⟨⟩
  | cons object rest ih =>
    intro index store regions store' h
    obtain ⟨needed, -, h⟩ := bind_eq_ok.1 h
    obtain ⟨⟨first, between⟩, hfirst, h⟩ := bind_eq_ok.1 h
    obtain ⟨⟨others, last⟩, hothers, h⟩ := bind_eq_ok.1 h
    cases h
    obtain ⟨memory, rfl⟩ := mapSource_eq_ok (mapError_eq_ok.1 hfirst)
    exact List.forall_mem_cons.2 ⟨rfl, ih hothers⟩

theorem steady_shared : Steady shared where
  answers earlier request store cause h := by
    refine ne_faulted_bind (mapObjects_ne_faulted h _ cause 0 store) fun _ _ => ?_
    exact ne_faulted_bind (Mapping.make_ne_faulted h _ cause) fun _ _ => by rintro ⟨⟩
  opens earlier request store mapping store' h := by
    obtain ⟨⟨regions, last⟩, hregions, h⟩ := bind_eq_ok.1 h
    obtain ⟨made, hmade, hstore⟩ := bind_eq_ok.1 h
    cases hstore
    obtain ⟨-, rfl⟩ := Mapping.make_eq_ok.1 hmade
    exact Mapping.beginAccess_ok fun region hmem =>
      mapObjects_open hregions region (List.mem_toArray.1 hmem)

/-- A mapper that maps what is there, answers every import, and lets what it mapped be accessed. -/
structure Dependable (mapper : Mapper) : Prop where
  faithful : mapper.Faithful
  steady : mapper.Steady

theorem dependable_heap : Dependable heap := ⟨faithful_heap, steady_heap⟩

theorem dependable_shared : Dependable shared := ⟨faithful_shared, steady_shared⟩

end Mapper

/-! ## Bytes of planes -/

namespace Mapping

variable {m : Mapping} {store store' : MemoryStore} {index stride width rows : Nat}

/-- Byte `address` of memory `ref` is one of the first `columns` bytes of one of the first `rows`
rows of plane number `index`. -/
def Covers (m : Mapping) (index columns rows : Nat) (ref : MemoryRef) (address : Nat) : Prop :=
  ∃ plane region, m.planes[index]? = some plane ∧ m.regions[plane.object]? = some region ∧
    ref = region.memory ∧ ∃ row < min rows plane.rows, ∃ column < min columns plane.stride,
      address = plane.offset + row * plane.stride + column

/-- Writing a plane changes bytes of the rows and columns that are asked for. -/
theorem covers_of_writePlane {source : Memory}
    (h : m.writePlane store index source stride width rows = .ok store') {ref : MemoryRef}
    {address : Nat} (hchanged : store'.byte ref address ≠ store.byte ref address) :
    m.Covers index width rows ref address := by
  obtain ⟨place, hplace, -⟩ := bind_eq_ok.1 h
  by_contra hnone
  refine hchanged (byte_writePlane_of_ne h hplace fun href row column hcopies haddress => hnone ?_)
  obtain ⟨plane, region, hplane, hregion, -, rfl⟩ := place_eq_ok.1 hplace
  obtain ⟨hrow, hcolumn, -, hhas⟩ := hcopies
  refine ⟨plane, region, hplane, hregion, href, row, hrow, column,
    Nat.lt_min.2 ⟨hcolumn, hhas.1⟩, ?_⟩
  rw [← haddress, Window.address, ← Nat.add_assoc]
  rfl

end Mapping

end Memory

namespace Surface

open Memory (Import Mapper Mapping Plane)

variable {s : Surface} {store store' : MemoryStore}

/-! ## Descriptions in words -/

theorem narrow_importPlanes {objects : Nat} {described : List (DescribedPlane × Nat)} :
    ∀ {planes}, importPlanes objects described = .ok planes →
      (∀ item ∈ described, item.2 < 2 ^ 32) → ∀ plane ∈ planes, plane.Narrow := by
  induction described with
  | nil =>
    rintro planes ⟨⟩ -
    exact List.forall_mem_nil _
  | cons first rest ih =>
    intro planes h hrows
    obtain ⟨hfirst, hrest⟩ := List.forall_mem_cons.1 hrows
    rw [importPlanes] at h
    split at h
    · cases h
    · obtain ⟨others, hothers, hplanes⟩ := bind_eq_ok.1 h
      cases hplanes
      exact List.forall_mem_cons.2
        ⟨⟨first.1.offset.toNat_lt, first.1.pitch.toNat_lt, hfirst⟩, ih hothers hrest⟩

/-- The planes that are asked for are described in words. -/
theorem narrow_planes {format width height fourcc : UInt32} {attributes : List Attribute}
    {request : Import} (h : importRequest format width height attributes = .ok (fourcc, request)) :
    ∀ plane ∈ request.planes, plane.Narrow := by
  obtain ⟨described, -, -, -, hplanes⟩ := importRequest_eq_ok h
  obtain ⟨layer, -, hplanes⟩ := layerPlanes_eq_ok hplanes
  refine narrow_importPlanes hplanes fun item hmem => ?_
  have hhalf : halfUp described.height.toNat < 2 ^ 32 := by
    have := described.height.toNat_lt
    rw [halfUp]
    omega
  rcases List.mem_pair.1 (List.of_mem_zip hmem).2 with hrows | hrows
  · exact hrows ▸ described.height.toNat_lt
  · exact hrows ▸ hhalf

/-- There are pixels of two kinds. -/
theorem fourcc_of_format {fourcc format : UInt32} (h : formatOf? fourcc = some format) :
    fourcc = fourccNv12 ∨ fourcc = fourccP010 := by
  rw [formatOf?] at h
  split at h
  · next hnv12 => exact .inl hnv12
  · split at h
    · next hten => exact .inr hten
    · cases h

/-- **Making a surface** is answered, whatever its attributes describe. -/
theorem make_ne_faulted {mapper : Mapper} (h : mapper.Steady) (earlier id : Nat)
    (format width height : UInt32) (attributes : List Attribute) (store : MemoryStore)
    (cause : Fault) :
    make mapper earlier id format width height attributes store ≠ .error (.faulted cause) := by
  rw [make]
  split
  · rintro ⟨⟩
  · refine ne_faulted_bind (rejected_ne_faulted _ (fun error => error) cause) ?_
    rintro ⟨fourcc, request⟩ hrequest
    refine ne_faulted_bind ?_ fun _ _ => by rintro ⟨⟩
    have hanswers := h.answers earlier request store cause
      (narrow_planes (mapError_eq_ok.1 hrequest))
    rcases hmapped : mapper earlier request store with (_ | _) | _
    · rintro ⟨⟩
    · rintro ⟨⟩
      exact hanswers hmapped
    · rintro ⟨⟩

/-! ## Pictures -/

/-- The bytes of a row have a word. -/
theorem row_lt (s : Surface) (shown width : UInt32) :
    roundUpEven (min shown.toNat width.toNat) * s.sampleSize < 2 ^ 64 := by
  have hwidth := width.toNat_lt
  have hsample : s.sampleSize ≤ 2 := by
    rw [sampleSize]
    split <;> decide
  have hrow : roundUpEven (min shown.toNat width.toNat) ≤ 2 ^ 32 := by
    rw [roundUpEven]
    omega
  exact Nat.lt_of_le_of_lt (Nat.mul_le_mul hrow hsample) (by decide)

/-- **A picture that is written** changes bytes of its rows and columns only. -/
theorem covers_of_writeMapping {mapping : Mapping} {picture : Picture}
    (h : s.writeMapping mapping store picture = .ok store') {ref : MemoryRef} {address : Nat}
    (hchanged : store'.byte ref address ≠ store.byte ref address) :
    let width := min picture.width.toNat s.width.toNat
    let height := min picture.height.toNat s.height.toNat
    mapping.Covers 0 (width * s.sampleSize) height ref address ∨
      mapping.Covers 1 (roundUpEven width * s.sampleSize) (halfUp height) ref address := by
  intro width height
  obtain ⟨between, hluma, hchroma⟩ := bind_eq_ok.1 h
  by_cases hbetween : between.byte ref address = store.byte ref address
  · exact .inr (Mapping.covers_of_writePlane hchroma (hbetween ▸ hchanged))
  · exact .inl (Mapping.covers_of_writePlane hluma hbetween)

/-- **No picture damages a surface.** Whatever the attributes of a surface describe, it is made or
rejected. If it is made, its planes lie inside their regions, and these inside their memories. Any
picture is then written into it, however its memories have changed meanwhile, and changes no bytes
but those of the rows and columns that picture and surface share. -/
theorem pictures_confined {mapper : Mapper} (hmapper : mapper = .heap ∨ mapper = .shared)
    (earlier id : Nat) (format width height : UInt32) (attributes : List Attribute)
    (store : MemoryStore) :
    (∀ cause, make mapper earlier id format width height attributes store ≠
      .error (.faulted cause)) ∧
    ∀ s store', make mapper earlier id format width height attributes store = .ok (s, store') →
      s.width = width ∧ s.height = height ∧
      (∀ mapping ∈ s.mapping, (s.fourcc = fourccNv12 ∨ s.fourcc = fourccP010) ∧
        mapping.planes.length = 2 ∧ ∀ plane ∈ mapping.planes, ∃ region,
          mapping.regions[plane.object]? = some region ∧ plane.EndsIn region ∧
            region.Fits store') ∧
      ∀ now, SameSizes store' now → ∀ picture : Picture,
        let columns := min picture.width.toNat width.toNat
        let rows := min picture.height.toNat height.toNat
        roundUpEven columns * s.sampleSize < 2 ^ 64 ∧
        ∃ after, s.write now picture = .ok (s.isMapped, after) ∧ SameSizes now after ∧
          ∀ ref address, after.byte ref address ≠ now.byte ref address → ∃ mapping ∈ s.mapping,
            mapping.Covers 0 (columns * s.sampleSize) rows ref address ∨
              mapping.Covers 1 (roundUpEven columns * s.sampleSize) (halfUp rows) ref address := by
  obtain ⟨hfaithful, hsteady⟩ : mapper.Dependable := by
    rcases hmapper with rfl | rfl
    · exact Memory.Mapper.dependable_heap
    · exact Memory.Mapper.dependable_shared
  refine ⟨make_ne_faulted hsteady earlier id format width height attributes store, ?_⟩
  intro s store' hmake
  obtain ⟨hwidth, hheight, hmade⟩ := make_eq_ok hmake
  rcases hmade with ⟨hnone, -⟩ | ⟨request, mapping, hsome, hrequest, hmapped⟩
  · rw [isMapped, hnone]
    refine ⟨hwidth, hheight, by rintro _ ⟨⟩, fun now _ picture =>
      ⟨row_lt s picture.width width, now, ?_, .refl now, ?_⟩⟩
    · simp only [write, hnone]
      rfl
    · exact fun ref address hchanged => absurd rfl hchanged
  · have hopens : s.Opens := ⟨mapping, hsome, hsteady.opens _ _ _ _ _ hmapped⟩
    have hplaced := (placed_of_make hfaithful.sound hmake).2
    obtain ⟨-, regions, hregions, hfits⟩ := hfaithful _ _ _ _ _ hmapped
    obtain ⟨hplanes, rfl⟩ := Mapping.make_eq_ok.1 hregions
    rw [isMapped, hsome]
    refine ⟨hwidth, hheight, ?_, fun now hnow picture => ?_⟩
    · rintro _ ⟨⟩
      obtain ⟨-, -, hformat, -⟩ := importRequest_eq_ok hrequest
      refine ⟨fourcc_of_format hformat, length_planes hrequest, fun plane hmem => ?_⟩
      obtain ⟨region, hregion, hends⟩ := hplanes plane hmem
      exact ⟨region, hregion, hends, hfits region (Array.mem_of_getElem? hregion)⟩
    · obtain ⟨after, hwrite⟩ := write_ok hopens (hplaced.mono hnow.size_le) picture
      refine ⟨row_lt s picture.width width, after, hwrite, sameSizes_write hwrite,
        fun ref address hchanged => ⟨_, rfl, ?_⟩⟩
      rw [← hwidth, ← hheight]
      exact covers_of_writeMapping (write_eq_ok hsome hwrite) hchanged

/-- Two objects are one file. The plane of the second one lies in that of the first, and its rows
have no bytes. -/
def overlapping : Descriptor where
  fourcc := fourccP010
  width := 4
  height := 3
  objects := [
    { source := .file ⟨0⟩, size := 1, modifier := 0 },
    { source := .file ⟨0⟩, size := 9, modifier := 0 }]
  layers := [{
    format := fourccP010
    planes := [
      { object := 0, offset := 1, pitch := 3 },
      { object := 1, offset := 2, pitch := 0 }] }]

/-- What is before such planes and behind them stays. -/
theorem pictures_confined_overlapping :
    let store : MemoryStore := #[.zeros 12]
    ∃ s, make .shared 0 1 Config.formatYuv420Ten 4 3 overlapping.attributes store =
        .ok (s, store) ∧
      ∀ picture : Picture, ∃ after, s.write store picture = .ok (true, after) ∧
        ∀ address, address < 1 ∨ 10 ≤ address →
          after.byte ⟨0⟩ address = store.byte ⟨0⟩ address := by
  intro store
  refine ⟨_, rfl, fun picture => ?_⟩
  obtain ⟨-, hmade⟩ := pictures_confined (.inr rfl) 0 1 Config.formatYuv420Ten 4 3
    overlapping.attributes store
  obtain ⟨-, -, -, hwrites⟩ := hmade _ _ rfl
  obtain ⟨-, after, hwrite, -, hrest⟩ := hwrites store (.refl store) picture
  refine ⟨after, hwrite, fun address hout => ?_⟩
  by_contra hchanged
  obtain ⟨_, ⟨⟩, hluma | hchroma⟩ := hrest _ _ hchanged
  · obtain ⟨_, _, ⟨⟩, ⟨⟩, -, row, hrow, column, hcolumn, rfl⟩ := hluma
    have hrow : row < 3 := (Nat.lt_min.1 hrow).2
    have hcolumn : column < 3 := (Nat.lt_min.1 hcolumn).2
    have hout : 1 + row * 3 + column < 1 ∨ 10 ≤ 1 + row * 3 + column := hout
    omega
  · obtain ⟨_, _, ⟨⟩, ⟨⟩, -, row, hrow, column, hcolumn, -⟩ := hchroma
    exact Nat.not_lt_zero _ (Nat.lt_min.1 hcolumn).2

end Surface

end AvcDriver
