import AvcDriver.Image.Basic
import AvcDriver.Proofs.Memory.Place
import AvcDriver.Proofs.Surface.Import

/-!
# Pixels of surfaces and images

A decoded picture is written into the planes of a surface, and the planes are copied into the
memory of an image. The four rectangles that take part may have different strides. A pixel keeps
its row and its column all the way.

* `Roomy`: a surface whose planes are apart and hold whole rows.
* `Housed`: a surface whose planes lie inside their memories and have a row for each of the
  picture's.
* `make_nv12`: surfaces that NV12 descriptors make are roomy.
* `write_shows`: after a picture was written, the planes hold its pixels.
* `download_displays`: what the planes hold, an image gets, and no other byte of it changes.
-/

namespace AvcDriver

open Engine (Picture)
open Memory (Copies Mapping Place Window)
open MemoryStore (SameSizes)

/-! ## Sizes -/

theorem le_roundUpEven (n : Nat) : n ≤ roundUpEven n := Nat.le_add_right n (n % 2)

theorem roundUpEven_le_roundUpEven {n m : Nat} (h : n ≤ m) : roundUpEven n ≤ roundUpEven m := by
  rw [roundUpEven, roundUpEven]
  omega

theorem halfUp_le_halfUp {n m : Nat} (h : n ≤ m) : halfUp n ≤ halfUp m := by
  rw [halfUp, halfUp]
  omega

namespace Memory.Window

variable {w : Window} {columns rows row column : Nat}

/-- Rows are long enough for so many columns, and the window reaches as far as the first
`rows` of them. -/
def Reaches (w : Window) (columns rows : Nat) : Prop :=
  columns ≤ w.stride ∧ ∀ row < rows, row * w.stride + columns ≤ w.size

theorem Reaches.has (h : w.Reaches columns rows) (hrow : row < rows) (hcolumn : column < columns) :
    w.Has row column :=
  ⟨Nat.lt_of_lt_of_le hcolumn h.1,
    Nat.lt_of_lt_of_le (Nat.add_lt_add_left hcolumn _) (h.2 row hrow)⟩

/-- A window of whole rows reaches as far as they do. -/
theorem reaches_of_size (hsize : w.size = w.stride * rows) (hcolumns : columns ≤ w.stride) :
    w.Reaches columns rows := by
  refine ⟨hcolumns, fun row hrow => ?_⟩
  have hnext : w.stride * (row + 1) ≤ w.stride * rows := Nat.mul_le_mul_left _ hrow
  rw [Nat.mul_succ] at hnext
  rw [hsize, Nat.mul_comm]
  omega

/-- So it reaches as far as fewer rows of fewer columns. -/
theorem Reaches.mono (h : w.Reaches columns rows) {columns' rows' : Nat}
    (hcolumns : columns' ≤ columns) (hrows : rows' ≤ rows) : w.Reaches columns' rows' := by
  refine ⟨Nat.le_trans hcolumns h.1, fun row hrow => ?_⟩
  have hreach := h.2 row (Nat.lt_of_lt_of_le hrow hrows)
  omega

end Memory.Window

/-! ## Images -/

namespace Image

/-- Where byte `column` of row `row` of a plane lies in an image. -/
def PlaneLayout.address (p : PlaneLayout) (row column : Nat) : Nat :=
  p.offset + (row * p.stride + column)

/-- A byte of a plane is one of the first `rows` rows of `columns` bytes. -/
def PlaneLayout.Covers (p : PlaneLayout) (columns rows address : Nat) : Prop :=
  ∃ row < rows, ∃ column < columns, p.address row column = address

/-- The layout that an image has. -/
theorem Layout.eq_of_ofFormat {format : Format} {width height : UInt32} {layout : Layout}
    (h : ofFormat format width height = .ok layout) :
    layout = {
      luma := { stride := width.toNat, offset := 0 }
      chroma := { stride := roundUpEven width.toNat, offset := width.toNat * height.toNat }
      dataSize := width.toNat * height.toNat + halfUp height.toNat * roundUpEven width.toNat } := by
  rw [ofFormat] at h
  split at h
  · cases h
  split at h
  · cases h
  split at h
  · cases h
  split at h
  · cases h
  obtain ⟨chromaStride, hstride, h⟩ := bind_eq_ok.1 (mapError_eq_ok.1 h)
  obtain ⟨chromaOffset, hoffset, h⟩ := bind_eq_ok.1 h
  obtain ⟨chromaSize, hsize, h⟩ := bind_eq_ok.1 h
  obtain ⟨dataSize, hdata, h⟩ := bind_eq_ok.1 h
  cases h
  obtain ⟨-, rfl⟩ := checkedWord_eq_ok.1 hstride
  obtain ⟨-, rfl⟩ := checkedWord_eq_ok.1 hoffset
  obtain ⟨-, rfl⟩ := checkedWord_eq_ok.1 hsize
  obtain ⟨-, rfl⟩ := checkedWord_eq_ok.1 hdata
  rfl

/-- The luma plane of an image ends where its chroma plane begins. -/
theorem Layout.luma_address_lt {format : Format} {width height : UInt32} {layout : Layout}
    (h : ofFormat format width height = .ok layout) {row column : Nat}
    (hrow : row < height.toNat) (hcolumn : column < width.toNat) :
    layout.luma.address row column < layout.chroma.offset := by
  have hall : Window.Reaches ⟨0, width.toNat * height.toNat, width.toNat⟩ width.toNat
      height.toNat := Window.reaches_of_size rfl (Nat.le_refl _)
  have hinside := (hall.has hrow hcolumn).2
  rw [Layout.eq_of_ofFormat h, PlaneLayout.address, Nat.zero_add]
  exact hinside

/-- The chroma plane of an image ends where its data does. -/
theorem Layout.chroma_address_lt {format : Format} {width height : UInt32} {layout : Layout}
    (h : ofFormat format width height = .ok layout) {row column : Nat}
    (hrow : row < halfUp height.toNat) (hcolumn : column < roundUpEven width.toNat) :
    layout.chroma.address row column < layout.dataSize := by
  have hall : Window.Reaches ⟨0, roundUpEven width.toNat * halfUp height.toNat,
      roundUpEven width.toNat⟩ (roundUpEven width.toNat) (halfUp height.toNat) :=
    Window.reaches_of_size rfl (Nat.le_refl _)
  have hinside := (hall.has hrow hcolumn).2
  rw [Layout.eq_of_ofFormat h, PlaneLayout.address, Nat.mul_comm (halfUp _)]
  exact Nat.add_lt_add_left hinside _

theorem Layout.offset_le_dataSize {format : Format} {width height : UInt32} {layout : Layout}
    (h : ofFormat format width height = .ok layout) : layout.chroma.offset ≤ layout.dataSize := by
  rw [Layout.eq_of_ofFormat h]
  exact Nat.le_add_right _ _

/-- A memory that was laid out as an image shows the top left of a picture, `width` columns and
`height` rows of it, and is else as it was `before`. Bytes past the end of the memory are no
bytes of the image: a client may have cut it. -/
structure Layout.Displays (layout : Layout) (picture : Picture) (width height : Nat)
    (before after : Memory) : Prop where
  size : after.size = before.size
  luma : ∀ y < height, ∀ x < width, layout.luma.address y x < layout.dataSize ∧
    (layout.luma.address y x < after.size →
      after.byte (layout.luma.address y x) = picture.luma.byte (y * picture.lumaStride + x))
  chroma : ∀ y < halfUp height, ∀ x < roundUpEven width,
    layout.chroma.address y x < layout.dataSize ∧
    (layout.chroma.address y x < after.size →
      after.byte (layout.chroma.address y x) = picture.chroma.byte (y * picture.chromaStride + x))
  rest : ∀ address, ¬ layout.luma.Covers width height address →
    ¬ layout.chroma.Covers (roundUpEven width) (halfUp height) address →
      after.byte address = before.byte address

end Image

namespace Surface

variable {s : Surface} {store store' : MemoryStore} {mapping : Mapping} {luma chroma : Place}
  {picture : Picture}

/-! ## Planes of a surface -/

/-- The planes of a surface do not overlap, and their rows have room for a picture's. -/
structure Roomy (s : Surface) (luma chroma : Place) : Prop where
  planes : ∃ mapping, s.mapping = some mapping ∧ mapping.place 0 = .ok luma ∧
    mapping.place 1 = .ok chroma
  apart : luma.Apart chroma
  lumaPitch : s.width.toNat ≤ luma.window.stride
  chromaPitch : roundUpEven s.width.toNat ≤ chroma.window.stride

/-- The planes of a surface, if it has any, lie inside their memories and have as many rows as
its pictures. -/
def Housed (s : Surface) (store : MemoryStore) : Prop :=
  ∀ mapping, s.mapping = some mapping → mapping.Fits store ∧
    mapping.planes.map (·.rows) = [s.height.toNat, halfUp s.height.toNat]

theorem Housed.mono (h : s.Housed store) (hsizes : SameSizes store store') : s.Housed store' :=
  fun mapping hmapping => ⟨(h mapping hmapping).1.mono hsizes, (h mapping hmapping).2⟩

/-- A surface that was made is housed, if its mapper is faithful. -/
theorem housed_of_make {mapper : Memory.Mapper} (hmapper : mapper.Faithful) {earlier id : Nat}
    {format width height : UInt32} {attributes : List Attribute}
    (h : make mapper earlier id format width height attributes store = .ok (s, store')) :
    s.Housed store' := by
  obtain ⟨-, rfl, ⟨hnone, -⟩ | ⟨request, made, hsome, hrequest, hmapping⟩⟩ := make_eq_ok h
  · rw [Housed, hnone]
    rintro _ ⟨⟩
  · obtain ⟨-, regions, hmake, hregions⟩ := hmapper _ _ _ _ _ hmapping
    rw [Housed, hsome]
    rintro _ ⟨⟩
    refine ⟨Mapping.fits_of_make hmake hregions, ?_⟩
    obtain ⟨-, rfl⟩ := Mapping.make_eq_ok.1 hmake
    exact rows_planes hrequest

/-- The planes of a housed surface reach as far as its pictures. -/
theorem Housed.reaches (h : s.Housed store) (hroomy : s.Roomy luma chroma) :
    luma.rows = s.height.toNat ∧ luma.window.Reaches s.width.toNat s.height.toNat ∧
      chroma.rows = halfUp s.height.toNat ∧
      chroma.window.Reaches (roundUpEven s.width.toNat) (halfUp s.height.toNat) := by
  obtain ⟨mapping, hmapping, hluma, hchroma⟩ := hroomy.planes
  have hrows := (h mapping hmapping).2
  have hlumaRows : luma.rows = s.height.toNat :=
    (Option.some.inj (Mapping.rows_place hrows hluma)).symm
  have hchromaRows : chroma.rows = halfUp s.height.toNat :=
    (Option.some.inj (Mapping.rows_place hrows hchroma)).symm
  refine ⟨hlumaRows, ?_, hchromaRows, ?_⟩
  · exact Window.reaches_of_size (hlumaRows ▸ Mapping.size_place hluma) hroomy.lumaPitch
  · exact Window.reaches_of_size (hchromaRows ▸ Mapping.size_place hchroma) hroomy.chromaPitch

/-- The planes of an NV12 picture in one region: the chroma plane is right behind the luma plane. -/
def nv12Mapping (region : Memory.Region) (height pitch offset : UInt32) : Mapping where
  regions := #[region]
  planes := [
    { object := 0, offset := 0, stride := pitch.toNat, rows := height.toNat },
    { object := 0, offset := offset.toNat, stride := pitch.toNat, rows := halfUp height.toNat }]

/-- A region as large as an NV12 descriptor says has room for the planes. -/
theorem nv12Mapping_roomy {region : Memory.Region} {width height pitch size offset : UInt32}
    (hpitch : pitch.toNat = roundUpEven width.toNat)
    (hsize : size.toNat = pitch.toNat * height.toNat + pitch.toNat * halfUp height.toNat)
    (hoffset : offset.toNat = pitch.toNat * height.toNat) (hregion : region.size = size.toNat) :
    Mapping.make (nv12Mapping region height pitch offset).regions
        (nv12Mapping region height pitch offset).planes =
      .ok (nv12Mapping region height pitch offset) ∧
    ∃ luma chroma : Place, luma.memory = region.memory ∧ chroma.memory = region.memory ∧
      ∀ s : Surface, s.mapping = some (nv12Mapping region height pitch offset) →
        s.width = width → s.Roomy luma chroma := by
  let first : Memory.Plane :=
    { object := 0, offset := 0, stride := pitch.toNat, rows := height.toNat }
  let second : Memory.Plane :=
    { object := 0, offset := offset.toNat, stride := pitch.toNat, rows := halfUp height.toNat }
  have hword : size.toNat < 2 ^ 64 := Nat.lt_trans size.toNat_lt (by decide)
  have hfirst : first.EndsIn region := by
    constructor
    · change 0 + pitch.toNat * height.toNat < 2 ^ 64
      omega
    · change 0 + pitch.toNat * height.toNat ≤ region.size
      omega
  have hsecond : second.EndsIn region := by
    constructor
    · change offset.toNat + pitch.toNat * halfUp height.toNat < 2 ^ 64
      omega
    · change offset.toNat + pitch.toNat * halfUp height.toNat ≤ region.size
      omega
  refine ⟨Mapping.make_eq_ok.2 ⟨?_, rfl⟩, first.placeIn region, second.placeIn region, rfl, rfl, ?_⟩
  · intro plane hmem
    rcases List.mem_pair.1 hmem with rfl | rfl
    · exact ⟨region, rfl, hfirst⟩
    · exact ⟨region, rfl, hsecond⟩
  intro s hmapping hwidth
  constructor
  case planes =>
    exact ⟨_, hmapping, Mapping.place_eq_ok.2 ⟨first, region, rfl, rfl, hfirst, rfl⟩,
      Mapping.place_eq_ok.2 ⟨second, region, rfl, rfl, hsecond, rfl⟩⟩
  case apart =>
    rintro -
    refine .inl ?_
    change 0 + pitch.toNat * height.toNat ≤ offset.toNat
    omega
  case lumaPitch =>
    change s.width.toNat ≤ pitch.toNat
    rw [hwidth, hpitch]
    exact le_roundUpEven _
  case chromaPitch =>
    rw [hwidth]
    exact Nat.le_of_eq hpitch.symm

/-- **An NV12 descriptor makes a surface with room for its pictures**, in fresh memory. -/
theorem make_nv12 {source : Memory.Source} {width height : UInt32} {d : Descriptor}
    (hwidth : width ≠ 0) (hheight : height ≠ 0) (h : Descriptor.nv12 source width height = .ok d)
    (earlier id : Nat) (store : MemoryStore) :
    ∃ s store' luma chroma,
      make Memory.Mapper.heap earlier id Config.formatYuv420 width height d.attributes store =
        .ok (s, store') ∧
      s.fourcc = fourccNv12 ∧ s.Roomy luma chroma := by
  obtain ⟨pitch, size, hpitch, hsize, offset, hoffset, rfl⟩ := Descriptor.nv12_eq_ok h
  have hrequest := importRequest_nv12 source pitch size offset hwidth hheight
  let region : Memory.Region := { memory := ⟨store.size⟩, size := size.toNat }
  obtain ⟨hmake, luma, chroma, -, -, hroomy⟩ :=
    nv12Mapping_roomy hpitch hsize hoffset (show region.size = size.toNat from rfl)
  have hmapping : Memory.Mapper.heap earlier
      ⟨[{ source, size }], (nv12Mapping region height pitch offset).planes⟩ store =
        .ok (nv12Mapping region height pitch offset, store.push (.zeros size.toNat)) :=
    bind_eq_ok.2 ⟨_, hmake, rfl⟩
  exact ⟨_, _, luma, chroma, bind_eq_ok.2 ⟨_, mapError_eq_ok.2 hrequest, bind_eq_ok.2
    ⟨_, mapError_eq_ok.2 hmapping, rfl⟩⟩, rfl, hroomy _ rfl rfl⟩

/-! ## Writing a picture -/

/-- Two planes hold the top left of a picture, `width` columns and `height` rows of it. -/
structure Shows (luma chroma : Place) (store : MemoryStore) (picture : Picture)
    (width height : Nat) : Prop where
  luma : ∀ y < height, ∀ x < width, store.byte luma.memory (luma.window.address y x) =
    picture.luma.byte (y * picture.lumaStride + x)
  chroma : ∀ y < halfUp height, ∀ x < roundUpEven width,
    store.byte chroma.memory (chroma.window.address y x) =
      picture.chroma.byte (y * picture.chromaStride + x)

theorem write_eq_ok {mapped : Bool} (hmapping : s.mapping = some mapping)
    (h : s.write store picture = .ok (mapped, store')) :
    s.writeMapping mapping store picture = .ok store' := by
  simp only [write, hmapping] at h
  obtain ⟨⟨⟩, -, h⟩ := bind_eq_ok.1 h
  obtain ⟨both, hboth, h⟩ := bind_eq_ok.1 h
  cases h
  exact mapError_eq_ok.1 hboth

/-- Writing a picture keeps the sizes of all memories. -/
theorem sameSizes_write {mapped : Bool} (h : s.write store picture = .ok (mapped, store')) :
    SameSizes store store' := by
  rcases hmapping : s.mapping with _ | mapping
  · simp only [write, hmapping] at h
    cases h
    exact .refl store
  · obtain ⟨between, hluma, hchroma⟩ := bind_eq_ok.1 (write_eq_ok hmapping h)
    exact (Mapping.sameSizes_writePlane hluma).trans (Mapping.sameSizes_writePlane hchroma)

/-- **A picture that was written is there**, as much of it as the surface has room for. -/
theorem write_shows (hroomy : s.Roomy luma chroma) (hhoused : s.Housed store)
    (hfourcc : s.fourcc = fourccNv12) {width height : Nat}
    (hwidth : width = min picture.width.toNat s.width.toNat)
    (hheight : height = min picture.height.toNat s.height.toNat)
    (hluma : (picture.luma.whole picture.lumaStride).Reaches width height)
    (hchroma : (picture.chroma.whole picture.chromaStride).Reaches (roundUpEven width)
      (halfUp height))
    {mapped : Bool} (h : s.write store picture = .ok (mapped, store')) :
    Shows luma chroma store' picture width height := by
  obtain ⟨hlumaRows, hlumaReaches, hchromaRows, hchromaReaches⟩ := hhoused.reaches hroomy
  obtain ⟨mapping, hmapping, hlumaPlace, hchromaPlace⟩ := hroomy.planes
  obtain ⟨hfits, -⟩ := hhoused mapping hmapping
  have hsample : s.sampleSize = 1 := by
    rw [sampleSize, hfourcc]
    decide
  have hwide : width ≤ s.width.toNat := hwidth ▸ Nat.min_le_right _ _
  have hhigh : height ≤ s.height.toNat := hheight ▸ Nat.min_le_right _ _
  have hwritten := write_eq_ok hmapping h
  simp only [writeMapping, hsample, Nat.mul_one, ← hwidth, ← hheight] at hwritten
  obtain ⟨between, hfirst, hsecond⟩ := bind_eq_ok.1 hwritten
  constructor
  · intro y hy x hx
    have hhas : luma.window.Has y x := (hlumaReaches.mono hwide hhigh).has hy hx
    -- the chroma rows, which are written next, are elsewhere
    rw [Mapping.byte_writePlane_of_ne hsecond hchromaPlace fun hmemory row column hcopies =>
        hroomy.apart.address_ne hmemory hhas hcopies.2.2.2,
      Mapping.byte_writePlane_address hfirst hlumaPlace (hfits 0 luma hlumaPlace)]
    exact ⟨Nat.lt_min.2 ⟨hy, hlumaRows ▸ Nat.lt_of_lt_of_le hy hhigh⟩, hx, hluma.has hy hx, hhas⟩
  · intro y hy x hx
    have hwide' := roundUpEven_le_roundUpEven hwide
    have hhigh' := halfUp_le_halfUp hhigh
    have hfits' := (hfits 1 chroma hchromaPlace).mono (Mapping.sameSizes_writePlane hfirst)
    rw [Mapping.byte_writePlane_address hsecond hchromaPlace hfits']
    exact ⟨Nat.lt_min.2 ⟨hy, hchromaRows ▸ Nat.lt_of_lt_of_le hy hhigh'⟩, hx, hchroma.has hy hx,
      (hchromaReaches.mono hwide' hhigh').has hy hx⟩

/-! ## Copying a surface into an image -/

theorem download_eq_ok (hmapping : s.mapping = some mapping) {width height : UInt32}
    {layout : Image.Layout} {target result : Memory} {mapped : Bool}
    (h : s.download store width height layout target = (.ok mapped, result)) :
    ∃ between,
      mapping.downloadPlane store 0 target layout.luma.offset layout.luma.stride width.toNat
        height.toNat = .ok between ∧
      mapping.downloadPlane store 1 between layout.chroma.offset layout.chroma.stride
        (roundUpEven width.toNat) (halfUp height.toNat) = .ok result := by
  simp only [download, hmapping] at h
  split at h
  · cases h
  · split at h
    · cases h
    · next between hbetween =>
      split at h
      · cases h
      · next last hlast =>
        cases h
        exact ⟨between, hbetween, hlast⟩

/-- What is copied from a plane to a part of a memory, seen from that memory. -/
theorem byte_downloadPlane {index : Nat} {place : Place} {target result : Memory}
    {p : Image.PlaneLayout} {columns rows : Nat}
    (h : mapping.downloadPlane store index target p.offset p.stride columns rows = .ok result)
    (hplace : mapping.place index = .ok place) (hreaches : place.window.Reaches columns rows)
    (hstride : columns ≤ p.stride) :
    result.size = target.size ∧
      (∀ y < rows, ∀ x < columns, p.address y x < target.size →
        result.byte (p.address y x) = store.byte place.memory (place.window.address y x)) ∧
      ∀ address, ¬ p.Covers columns rows address → result.byte address = target.byte address := by
  obtain ⟨memory, hmemory, hoffset, hcopy⟩ := Mapping.downloadPlane_eq_ok h hplace
  refine ⟨Memory.size_copyPlane hcopy, ?_, ?_⟩
  · intro y hy x hx hinside
    rw [MemoryStore.byte_of_find? hmemory]
    refine Memory.byte_copyPlane_address hcopy ?_ hinside
    refine ⟨hy, hx, hreaches.has hy hx, Nat.lt_of_lt_of_le hx hstride, ?_⟩
    rw [Image.PlaneLayout.address] at hinside
    exact Nat.lt_sub_of_add_lt (Nat.add_comm _ _ ▸ hinside)
  · intro address hcovers
    refine Memory.byte_copyPlane_of_ne hcopy ?_
    intro y x hcopies heq
    exact hcovers ⟨y, hcopies.1, x, hcopies.2.1, heq⟩

/-- **What the planes of a surface hold, an image gets**, and no other byte of it changes. -/
theorem download_displays (hroomy : s.Roomy luma chroma) (hhoused : s.Housed store)
    {columns rows : Nat} (hshows : Shows luma chroma store picture columns rows)
    {width height : UInt32} (hcolumns : width.toNat ≤ columns) (hrows : height.toNat ≤ rows)
    (hwide : width ≤ s.width) (hhigh : height ≤ s.height) {i : Image}
    (hlayout : Image.Layout.ofFormat i.format i.width i.height = .ok i.layout)
    (hwide' : width ≤ i.width) (hhigh' : height ≤ i.height) {target result : Memory}
    {mapped : Bool} (h : s.download store width height i.layout target = (.ok mapped, result)) :
    i.layout.Displays picture width.toNat height.toNat target result := by
  rw [UInt32.le_iff_toNat_le] at hwide hhigh hwide' hhigh'
  obtain ⟨-, hlumaReaches, -, hchromaReaches⟩ := hhoused.reaches hroomy
  obtain ⟨mapping, hmapping, hlumaPlace, hchromaPlace⟩ := hroomy.planes
  obtain ⟨between, hfirst, hsecond⟩ := download_eq_ok hmapping h
  have heven := roundUpEven_le_roundUpEven hwide
  have hhalf := halfUp_le_halfUp hhigh
  have heven' := roundUpEven_le_roundUpEven hwide'
  have hhalf' := halfUp_le_halfUp hhigh'
  obtain ⟨hsize, hluma, hlumaRest⟩ := byte_downloadPlane hfirst hlumaPlace
    (hlumaReaches.mono hwide hhigh) (by rwa [Image.Layout.eq_of_ofFormat hlayout])
  obtain ⟨hsize', hchroma, hchromaRest⟩ := byte_downloadPlane hsecond hchromaPlace
    (hchromaReaches.mono heven hhalf) (by rwa [Image.Layout.eq_of_ofFormat hlayout])
  have hbefore : ∀ y < height.toNat, ∀ x < width.toNat,
      i.layout.luma.address y x < i.layout.chroma.offset := fun y hy x hx =>
    Image.Layout.luma_address_lt hlayout (Nat.lt_of_lt_of_le hy hhigh')
      (Nat.lt_of_lt_of_le hx hwide')
  constructor
  · exact hsize'.trans hsize
  · intro y hy x hx
    refine ⟨Nat.lt_of_lt_of_le (hbefore y hy x hx) (Image.Layout.offset_le_dataSize hlayout), ?_⟩
    intro hinside
    -- the chroma plane, which is copied next, lies behind
    rw [hchromaRest, hluma y hy x hx (by rwa [← hsize, ← hsize']), hshows.luma y
      (Nat.lt_of_lt_of_le hy hrows) x (Nat.lt_of_lt_of_le hx hcolumns)]
    rintro ⟨row, -, column, -, heq⟩
    have hlt := hbefore y hy x hx
    rw [← heq, Image.PlaneLayout.address] at hlt
    exact absurd hlt (Nat.not_lt.2 (Nat.le_add_right _ _))
  · intro y hy x hx
    refine ⟨Image.Layout.chroma_address_lt hlayout (Nat.lt_of_lt_of_le hy hhalf')
      (Nat.lt_of_lt_of_le hx heven'), ?_⟩
    intro hinside
    rw [hchroma y hy x hx (by rwa [← hsize']), hshows.chroma y
      (Nat.lt_of_lt_of_le hy (halfUp_le_halfUp hrows)) x
      (Nat.lt_of_lt_of_le hx (roundUpEven_le_roundUpEven hcolumns))]
  · intro address hnoLuma hnoChroma
    rw [hchromaRest address hnoChroma, hlumaRest address hnoLuma]

end Surface

end AvcDriver
