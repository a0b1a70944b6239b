import AvcDriver.Proofs.Memory.Bytes
import AvcDriver.Proofs.Surface.Confined

/-!
# Room for whole pictures

The planes of an imported surface lie inside their objects, and have a row for each of the
picture's. Their pitches may be shorter than these rows, and they may overlap. A picture of the
surface's size is written all the same: of each row as much as the pitch has, the chroma rows over
the luma rows.

* `Surface.LiesAt`: where the planes of a surface lie.
* `Surface.StoredWithin`, `Surface.Stored`: what there is of a picture, and all of it.
* `Surface.Room`: rows that are long enough, and have no byte in common.
* `Surface.LiesAt.write`: a picture of the surface's size is written as far as the rows reach.
* `Surface.picture_stored_iff_room`: imported surfaces hold all pictures if they have the room.
-/

namespace AvcDriver

open Engine (Picture)
open Memory (Copies Mapper Mapping Place)
open MemoryStore (SameSizes)

/-! ## Planes with all of their rows -/

namespace Memory

variable {source : Memory} {stride columns rows row column : Nat} {place : Place}
  {store store' : MemoryStore}

/-- What is copied from a source that has it all to a plane with as many rows. -/
theorem copies_iff_of_reaches (hreaches : (source.whole stride).Reaches columns rows)
    (hsize : place.window.size = place.window.stride * place.rows) (hrows : place.rows = rows) :
    Copies (source.whole stride) place.window columns (min rows place.rows) row column ↔
      row < rows ∧ column < min columns place.window.stride := by
  rw [Copies, hrows, Nat.min_self, Nat.lt_min]
  constructor
  · rintro ⟨hrow, hcolumn, -, hhas⟩
    exact ⟨hrow, hcolumn, hhas.1⟩
  · rintro ⟨hrow, hcolumn, hstride⟩
    have hall : place.window.Reaches place.window.stride rows :=
      Window.reaches_of_size (hrows ▸ hsize) (Nat.le_refl _)
    exact ⟨hrow, hcolumn, hreaches.has hrow hcolumn, hall.has hrow hstride⟩

/-- A byte of a plane lies before the end of its last row. -/
theorem Window.Has.address_lt {w : Window} (h : w.Has row column)
    (hsize : w.size = w.stride * rows) (hrows : 0 < rows) :
    w.address row column < w.address (rows - 1) w.stride := by
  obtain ⟨last, rfl⟩ : ∃ last, rows = last + 1 := ⟨rows - 1, by omega⟩
  have hinside := h.2
  rw [hsize, Nat.mul_comm w.stride, Nat.succ_mul] at hinside
  rw [address, address, Nat.add_sub_cancel]
  exact Nat.add_lt_add_left hinside _

theorem Place.Fits.index_lt (h : place.Fits store) : place.memory.index < store.size := by
  obtain ⟨memory, hfind, -⟩ := h
  exact (Array.getElem?_eq_some_iff.1 hfind).1

/-- A byte stays when a plane is written, or it comes from the source. -/
theorem Mapping.byte_writePlane_or {m : Mapping} {index width : Nat}
    (h : m.writePlane store index source stride width rows = .ok store')
    (hplace : m.place index = .ok place) (hfits : place.Fits store) (ref : MemoryRef)
    (address : Nat) :
    store'.byte ref address = store.byte ref address ∨
      ∃ row column, ref = place.memory ∧ address = place.window.address row column ∧
        Copies (source.whole stride) place.window width (min rows place.rows) row column ∧
        store'.byte ref address = source.byte (row * stride + column) := by
  by_cases hcopied : ∃ row column, ref = place.memory ∧
      address = place.window.address row column ∧
      Copies (source.whole stride) place.window width (min rows place.rows) row column
  · obtain ⟨row, column, rfl, rfl, hcopies⟩ := hcopied
    exact .inr ⟨row, column, rfl, rfl, hcopies,
      byte_writePlane_address h hplace hfits hcopies⟩
  · refine .inl (byte_writePlane_of_ne h hplace fun href row column hcopies haddress => ?_)
    exact hcopied ⟨row, column, href, haddress.symm, hcopies⟩

end Memory

namespace Surface

variable {s : Surface} {luma chroma : Place} {store store' after : MemoryStore}
  {picture : Picture}

/-! ## Pictures of a surface's size -/

/-- The bytes of a luma row. -/
def lumaBytes (s : Surface) : Nat := s.width.toNat * s.sampleSize

/-- The bytes of a chroma row. -/
def chromaBytes (s : Surface) : Nat := roundUpEven s.width.toNat * s.sampleSize

/-- A picture is as large as the surface, and has all of its rows. -/
structure FullSize (s : Surface) (picture : Picture) : Prop where
  width : picture.width = s.width
  height : picture.height = s.height
  luma : (picture.luma.whole picture.lumaStride).Reaches s.lumaBytes s.height.toNat
  chroma : (picture.chroma.whole picture.chromaStride).Reaches s.chromaBytes
    (halfUp s.height.toNat)

/-- Nothing of the chroma rows lies where a byte of a luma row does. -/
def Clear (s : Surface) (luma chroma : Place) (row column : Nat) : Prop :=
  luma.memory = chroma.memory → ∀ row' < halfUp s.height.toNat,
    ∀ column' < min s.chromaBytes chroma.window.stride,
      chroma.window.address row' column' ≠ luma.window.address row column

/-- Two planes hold as much of a picture as their pitches have, but for luma bytes that the chroma
rows lie over. -/
structure StoredWithin (s : Surface) (luma chroma : Place) (store : MemoryStore)
    (picture : Picture) : Prop where
  luma : ∀ row < s.height.toNat, ∀ column < min s.lumaBytes luma.window.stride,
    s.Clear luma chroma row column →
      store.byte luma.memory (luma.window.address row column) =
        picture.luma.byte (row * picture.lumaStride + column)
  chroma : ∀ row < halfUp s.height.toNat, ∀ column < min s.chromaBytes chroma.window.stride,
    store.byte chroma.memory (chroma.window.address row column) =
      picture.chroma.byte (row * picture.chromaStride + column)

/-- Two planes hold a picture with all of its rows. -/
structure Stored (s : Surface) (luma chroma : Place) (store : MemoryStore)
    (picture : Picture) : Prop where
  luma : ∀ row < s.height.toNat, ∀ column < s.lumaBytes,
    store.byte luma.memory (luma.window.address row column) =
      picture.luma.byte (row * picture.lumaStride + column)
  chroma : ∀ row < halfUp s.height.toNat, ∀ column < s.chromaBytes,
    store.byte chroma.memory (chroma.window.address row column) =
      picture.chroma.byte (row * picture.chromaStride + column)

/-- Two planes have rows as long as those of a picture, and these have no byte in common. -/
structure Room (s : Surface) (luma chroma : Place) : Prop where
  lumaPitch : s.lumaBytes ≤ luma.window.stride
  chromaPitch : s.chromaBytes ≤ chroma.window.stride
  clear : ∀ row < s.height.toNat, ∀ column < s.lumaBytes, s.Clear luma chroma row column

/-- Where there is room, all of the picture is there. -/
theorem StoredWithin.stored (h : s.StoredWithin luma chroma store picture)
    (hroom : s.Room luma chroma) : s.Stored luma chroma store picture where
  luma row hrow column hcolumn := by
    refine h.luma row hrow column ?_ (hroom.clear row hrow column hcolumn)
    exact Nat.lt_min.2 ⟨hcolumn, Nat.lt_of_lt_of_le hcolumn hroom.lumaPitch⟩
  chroma row hrow column hcolumn := by
    refine h.chroma row hrow column ?_
    exact Nat.lt_min.2 ⟨hcolumn, Nat.lt_of_lt_of_le hcolumn hroom.chromaPitch⟩

/-! ## Writing them -/

/-- The planes of a surface that can be accessed lie inside their memories, and have a row for each
of the picture's. -/
structure LiesAt (s : Surface) (luma chroma : Place) (store : MemoryStore) : Prop where
  planes : ∃ mapping, s.mapping = some mapping ∧ mapping.beginAccess = .ok () ∧
    mapping.place 0 = .ok luma ∧ mapping.place 1 = .ok chroma
  lumaRows : luma.rows = s.height.toNat
  chromaRows : chroma.rows = halfUp s.height.toNat
  lumaFits : luma.Fits store
  chromaFits : chroma.Fits store

theorem LiesAt.mono (h : s.LiesAt luma chroma store) (hsizes : SameSizes store store') :
    s.LiesAt luma chroma store' where
  planes := h.planes
  lumaRows := h.lumaRows
  chromaRows := h.chromaRows
  lumaFits := h.lumaFits.mono hsizes
  chromaFits := h.chromaFits.mono hsizes

/-- The planes have all of their rows. -/
theorem LiesAt.sizes (h : s.LiesAt luma chroma store) :
    luma.window.size = luma.window.stride * s.height.toNat ∧
      chroma.window.size = chroma.window.stride * halfUp s.height.toNat := by
  obtain ⟨mapping, -, -, hluma, hchroma⟩ := h.planes
  exact ⟨h.lumaRows ▸ Mapping.size_place hluma, h.chromaRows ▸ Mapping.size_place hchroma⟩

/-- The two planes of a picture of the surface's size are written one after the other. -/
theorem LiesAt.write_planes (h : s.LiesAt luma chroma store) (hfull : s.FullSize picture) :
    ∃ (mapping : Mapping) (between after : MemoryStore),
      mapping.place 0 = .ok luma ∧ mapping.place 1 = .ok chroma ∧
      mapping.writePlane store 0 picture.luma picture.lumaStride s.lumaBytes s.height.toNat =
        .ok between ∧
      mapping.writePlane between 1 picture.chroma picture.chromaStride s.chromaBytes
        (halfUp s.height.toNat) = .ok after ∧
      s.write store picture = .ok (true, after) := by
  obtain ⟨mapping, hmapping, hbegin, hluma, hchroma⟩ := h.planes
  obtain ⟨after, hwrite⟩ := writeMapping_ok (s := s) ⟨luma, hluma, h.lumaFits.index_lt⟩
    ⟨chroma, hchroma, h.chromaFits.index_lt⟩ picture
  have hboth := hwrite
  simp only [writeMapping, hfull.width, hfull.height, Nat.min_self] at hboth
  obtain ⟨between, hfirst, hsecond⟩ := bind_eq_ok.1 hboth
  refine ⟨mapping, between, after, hluma, hchroma, hfirst, hsecond, ?_⟩
  simp only [Surface.write, hmapping, hbegin, hwrite]
  rfl

/-- There is room in planes that do not overlap, if their rows are long enough. -/
theorem LiesAt.room_of_apart (h : s.LiesAt luma chroma store)
    (hluma : s.lumaBytes ≤ luma.window.stride) (hchroma : s.chromaBytes ≤ chroma.window.stride)
    (hapart : luma.Apart chroma) : s.Room luma chroma where
  lumaPitch := hluma
  chromaPitch := hchroma
  clear row hrow column hcolumn hmemory row' hrow' column' hcolumn' := by
    obtain ⟨hlumaSize, hchromaSize⟩ := h.sizes
    refine hapart.address_ne hmemory ?_ ?_
    · exact (Memory.Window.reaches_of_size hlumaSize hluma).has hrow hcolumn
    · exact (Memory.Window.reaches_of_size hchromaSize hchroma).has hrow'
        (Nat.lt_min.1 hcolumn').1

/-- **A picture of the surface's size is written** as far as the rows reach. -/
theorem LiesAt.write (h : s.LiesAt luma chroma store) (hfull : s.FullSize picture) :
    ∃ after, s.write store picture = .ok (true, after) ∧
      s.StoredWithin luma chroma after picture := by
  obtain ⟨mapping, between, after, hluma, hchroma, hfirst, hsecond, hwrite⟩ :=
    h.write_planes hfull
  have hlumaCopies (row column : Nat) :
      Copies (picture.luma.whole picture.lumaStride) luma.window s.lumaBytes
        (min s.height.toNat luma.rows) row column ↔
          row < s.height.toNat ∧ column < min s.lumaBytes luma.window.stride :=
    Memory.copies_iff_of_reaches hfull.luma (Mapping.size_place hluma) h.lumaRows
  have hchromaCopies (row column : Nat) :
      Copies (picture.chroma.whole picture.chromaStride) chroma.window s.chromaBytes
        (min (halfUp s.height.toNat) chroma.rows) row column ↔
          row < halfUp s.height.toNat ∧ column < min s.chromaBytes chroma.window.stride :=
    Memory.copies_iff_of_reaches hfull.chroma (Mapping.size_place hchroma) h.chromaRows
  refine ⟨after, hwrite, ?_, ?_⟩
  · intro row hrow column hcolumn hclear
    -- the chroma rows, which are written next, leave this byte
    rw [Mapping.byte_writePlane_of_ne hsecond hchroma fun hmemory row' column' hcopies =>
        hclear hmemory row' ((hchromaCopies row' column').1 hcopies).1 column'
          ((hchromaCopies row' column').1 hcopies).2,
      Mapping.byte_writePlane_address hfirst hluma h.lumaFits
        ((hlumaCopies row column).2 ⟨hrow, hcolumn⟩)]
  · intro row hrow column hcolumn
    exact Mapping.byte_writePlane_address hsecond hchroma
      (h.chromaFits.mono (Mapping.sameSizes_writePlane hfirst))
      ((hchromaCopies row column).2 ⟨hrow, hcolumn⟩)

/-! ## Pictures of one value a plane -/

/-- A picture of the surface's size with one value in all luma bytes and one in all chroma bytes. -/
def plain (s : Surface) (lumaValue chromaValue : UInt8) : Picture where
  tag := 0
  width := s.width
  height := s.height
  luma := .filled (s.lumaBytes * s.height.toNat) lumaValue
  lumaStride := s.lumaBytes
  chroma := .filled (s.chromaBytes * halfUp s.height.toNat) chromaValue
  chromaStride := s.chromaBytes

theorem fullSize_plain (s : Surface) (lumaValue chromaValue : UInt8) :
    s.FullSize (s.plain lumaValue chromaValue) where
  width := rfl
  height := rfl
  luma := Memory.Window.reaches_of_size (Memory.size_filled _ _) (Nat.le_refl _)
  chroma := Memory.Window.reaches_of_size (Memory.size_filled _ _) (Nat.le_refl _)

/-- A plane of one value has it in all of its bytes. -/
theorem byte_filled_of_has {stride count row column : Nat} {value : UInt8}
    (h : ((Memory.filled count value).whole stride).Has row column) :
    (Memory.filled count value).byte (row * stride + column) = value := by
  have hinside := h.2
  rw [Memory.whole, Memory.size_filled] at hinside
  exact Memory.byte_filled value hinside

theorem exists_ne_ne (first second : UInt8) : ∃ value, value ≠ first ∧ value ≠ second := by
  by_contra hnone
  have hzero : ¬ ((0 : UInt8) ≠ first ∧ (0 : UInt8) ≠ second) := fun h => hnone ⟨0, h⟩
  have hone : ¬ ((1 : UInt8) ≠ first ∧ (1 : UInt8) ≠ second) := fun h => hnone ⟨1, h⟩
  have htwo : ¬ ((2 : UInt8) ≠ first ∧ (2 : UInt8) ≠ second) := fun h => hnone ⟨2, h⟩
  grind

/-- Of such a picture every byte of a memory has the one value in a luma row or the other value in a
chroma row, or it is what it was. -/
theorem LiesAt.write_plain (h : s.LiesAt luma chroma store) (lumaValue chromaValue : UInt8) :
    ∃ after, s.write store (s.plain lumaValue chromaValue) = .ok (true, after) ∧
      ∀ ref address, after.byte ref address = store.byte ref address ∨
        (after.byte ref address = lumaValue ∧
          ∃ row column, luma.window.Has row column ∧ luma.window.address row column = address) ∨
        (after.byte ref address = chromaValue ∧
          ∃ row column, chroma.window.Has row column ∧
            chroma.window.address row column = address) := by
  obtain ⟨mapping, between, after, hluma, hchroma, hfirst, hsecond, hwrite⟩ :=
    h.write_planes (s.fullSize_plain lumaValue chromaValue)
  have hchromaFits := h.chromaFits.mono (Mapping.sameSizes_writePlane hfirst)
  refine ⟨after, hwrite, fun ref address => ?_⟩
  rcases Mapping.byte_writePlane_or hsecond hchroma hchromaFits ref address with
    hkept | ⟨row, column, -, haddress, hcopies, hbyte⟩
  · rcases Mapping.byte_writePlane_or hfirst hluma h.lumaFits ref address with
      hkept' | ⟨row, column, -, haddress, hcopies, hbyte⟩
    · exact .inl (hkept.trans hkept')
    · exact .inr (.inl ⟨hkept.trans (hbyte.trans (byte_filled_of_has hcopies.2.2.1)),
        row, column, hcopies.2.2.2, haddress.symm⟩)
  · exact .inr (.inr ⟨hbyte.trans (byte_filled_of_has hcopies.2.2.1),
      row, column, hcopies.2.2.2, haddress.symm⟩)

/-- Where all of any picture is stored, there is room for it: two values tell the planes apart, from
each other and from what lies behind them. -/
theorem LiesAt.room_of_stored (h : s.LiesAt luma chroma store) (hheight : 0 < s.height.toNat)
    (hstored : ∀ picture, s.FullSize picture → ∀ after,
      s.write store picture = .ok (true, after) → s.Stored luma chroma after picture) :
    s.Room luma chroma := by
  have hhalf : 0 < halfUp s.height.toNat := by
    rw [halfUp]
    omega
  obtain ⟨hlumaSize, hchromaSize⟩ := h.sizes
  let lumaEnd := luma.window.address (s.height.toNat - 1) luma.window.stride
  let chromaEnd := chroma.window.address (halfUp s.height.toNat - 1) chroma.window.stride
  obtain ⟨lumaValue, hlumaEnd, -⟩ :=
    exists_ne_ne (store.byte luma.memory lumaEnd) (store.byte luma.memory lumaEnd)
  obtain ⟨chromaValue, hchromaEnd, hvalues⟩ :=
    exists_ne_ne (store.byte chroma.memory chromaEnd) lumaValue
  have hfull := s.fullSize_plain lumaValue chromaValue
  obtain ⟨after, hwrite, hbytes⟩ := h.write_plain lumaValue chromaValue
  have hall := hstored _ hfull after hwrite
  have hluma {row column : Nat} (hrow : row < s.height.toNat) (hcolumn : column < s.lumaBytes) :
      after.byte luma.memory (luma.window.address row column) = lumaValue :=
    (hall.luma row hrow column hcolumn).trans (byte_filled_of_has (hfull.luma.has hrow hcolumn))
  have hchroma {row column : Nat} (hrow : row < halfUp s.height.toNat)
      (hcolumn : column < s.chromaBytes) :
      after.byte chroma.memory (chroma.window.address row column) = chromaValue :=
    (hall.chroma row hrow column hcolumn).trans
      (byte_filled_of_has (hfull.chroma.has hrow hcolumn))
  constructor
  case lumaPitch =>
    by_contra hshort
    have hvalue := hluma (Nat.sub_lt hheight Nat.one_pos) (Nat.not_le.1 hshort)
    rcases hbytes luma.memory lumaEnd with hkept | ⟨-, row, column, hhas, haddress⟩ | ⟨hother, -⟩
    · exact hlumaEnd (hvalue.symm.trans hkept)
    · exact Nat.ne_of_lt (hhas.address_lt hlumaSize hheight) haddress
    · exact hvalues (hother.symm.trans hvalue)
  case chromaPitch =>
    by_contra hshort
    have hvalue := hchroma (Nat.sub_lt hhalf Nat.one_pos) (Nat.not_le.1 hshort)
    rcases hbytes chroma.memory chromaEnd with
      hkept | ⟨hother, -⟩ | ⟨-, row, column, hhas, haddress⟩
    · exact hchromaEnd (hvalue.symm.trans hkept)
    · exact hvalues (hvalue.symm.trans hother)
    · exact Nat.ne_of_lt (hhas.address_lt hchromaSize hhalf) haddress
  case clear =>
    intro row hrow column hcolumn hmemory row' hrow' column' hcolumn' haddress
    have hvalue := hluma hrow hcolumn
    rw [hmemory, ← haddress, hchroma hrow' (Nat.lt_min.1 hcolumn').1] at hvalue
    exact hvalues hvalue

/-! ## Imported surfaces -/

/-- What is asked for has rows. -/
theorem height_pos_of_importRequest {format width height fourcc : UInt32}
    {attributes : List Attribute} {request : Memory.Import}
    (h : importRequest format width height attributes = .ok (fourcc, request)) :
    0 < height.toNat := by
  obtain ⟨described, -, h⟩ := bind_eq_ok.1 h
  obtain ⟨⟨⟩, hsize, -⟩ := bind_eq_ok.1 h
  have hsize := mapError_eq_ok.1 hsize
  rw [checkSize] at hsize
  split at hsize
  · cases hsize
  · next hsome => exact UInt32.pos_iff_ne_zero.2 fun hzero => hsome (.inr hzero)

/-- A surface that is made with attributes has memory. -/
theorem ne_none_of_make {mapper : Mapper} {earlier id : Nat} {format width height : UInt32}
    {attributes : List Attribute} (hattributes : attributes ≠ [])
    (h : make mapper earlier id format width height attributes store = .ok (s, store')) :
    s.mapping ≠ none := by
  rw [make, if_neg (by simpa using hattributes)] at h
  obtain ⟨_, -, h⟩ := bind_eq_ok.1 h
  obtain ⟨_, -, h⟩ := bind_eq_ok.1 h
  cases h
  rintro ⟨⟩

theorem sampleSize_eq (h : s.fourcc = fourccNv12 ∨ s.fourcc = fourccP010) :
    s.fourcc = fourccNv12 ∧ s.sampleSize = 1 ∨ s.fourcc = fourccP010 ∧ s.sampleSize = 2 := by
  rcases h with h | h
  · refine .inl ⟨h, ?_⟩
    rw [sampleSize, h]
    decide
  · refine .inr ⟨h, ?_⟩
    rw [sampleSize, h]
    decide

/-- **Imported surfaces hold the pictures that they have the room for.** Whatever attributes a
surface was made with, it has two planes that lie inside their objects, these inside their
memories, with a row for each of the picture's. A picture of its size is written into it, and is
there as far as the pitches reach, but for luma bytes that the chroma rows lie over. All of every
such picture is there exactly if the pitches are as long as its rows, and no chroma row lies over a
luma row. -/
theorem picture_stored_iff_room {mapper : Mapper} (hmapper : mapper.Dependable) {earlier id : Nat}
    {format width height : UInt32} {attributes : List Attribute} (hattributes : attributes ≠ [])
    (hmake : make mapper earlier id format width height attributes store = .ok (s, store')) :
    s.width = width ∧ s.height = height ∧
    (s.fourcc = fourccNv12 ∧ s.sampleSize = 1 ∨ s.fourcc = fourccP010 ∧ s.sampleSize = 2) ∧
    ∃ mapping luma chroma, s.mapping = some mapping ∧ mapping.planes.length = 2 ∧
      (∀ plane ∈ mapping.planes, ∃ region, mapping.regions[plane.object]? = some region ∧
        plane.EndsIn region ∧ region.Fits store') ∧
      mapping.place 0 = .ok luma ∧ mapping.place 1 = .ok chroma ∧
      luma.rows = height.toNat ∧ chroma.rows = halfUp height.toNat ∧
      (∀ now, SameSizes store' now → ∀ picture, s.FullSize picture →
        ∃ after, s.write now picture = .ok (true, after) ∧
          s.StoredWithin luma chroma after picture) ∧
      (s.Room luma chroma ↔ ∀ now, SameSizes store' now → ∀ picture, s.FullSize picture →
        ∀ after, s.write now picture = .ok (true, after) → s.Stored luma chroma after picture) ∧
      (s.lumaBytes ≤ luma.window.stride → s.chromaBytes ≤ chroma.window.stride →
        luma.Apart chroma → s.Room luma chroma) := by
  obtain ⟨hfaithful, hsteady⟩ := hmapper
  obtain ⟨hwidth, hheight, ⟨hnone, -⟩ | ⟨request, mapping, hsome, hrequest, hmapped⟩⟩ :=
    make_eq_ok hmake
  · exact absurd hnone (ne_none_of_make hattributes hmake)
  obtain ⟨-, regions, hregions, hfits⟩ := hfaithful _ _ _ _ _ hmapped
  obtain ⟨hplanes, hmapping⟩ := Mapping.make_eq_ok.1 hregions
  obtain ⟨⟨luma, hluma, -⟩, chroma, hchroma, -⟩ :=
    (placed_of_make hfaithful.sound hmake).2 mapping hsome
  have hrows := (housed_of_make hfaithful hmake mapping hsome).2
  have hall := Mapping.fits_of_make hregions hfits
  obtain ⟨-, -, hformat, -⟩ := importRequest_eq_ok hrequest
  have hlies : s.LiesAt luma chroma store' :=
    { planes := ⟨mapping, hsome, hsteady.opens _ _ _ _ _ hmapped, hluma, hchroma⟩
      lumaRows := (Option.some.inj (Mapping.rows_place hrows hluma)).symm
      chromaRows := (Option.some.inj (Mapping.rows_place hrows hchroma)).symm
      lumaFits := hall 0 luma hluma
      chromaFits := hall 1 chroma hchroma }
  refine ⟨hwidth, hheight, sampleSize_eq (fourcc_of_format hformat), mapping, luma, chroma, hsome,
    ?_, ?_, hluma, hchroma, hheight ▸ hlies.lumaRows, hheight ▸ hlies.chromaRows, ?_, ?_,
    hlies.room_of_apart⟩
  · rw [hmapping]
    exact length_planes hrequest
  · rw [hmapping]
    intro plane hmem
    obtain ⟨region, hregion, hends⟩ := hplanes plane hmem
    exact ⟨region, hregion, hends, hfits region (Array.mem_of_getElem? hregion)⟩
  · exact fun now hnow picture hfull => (hlies.mono hnow).write hfull
  · constructor
    · intro hroom now hnow picture hfull after hwrite
      obtain ⟨after', hwrite', hstored⟩ := (hlies.mono hnow).write hfull
      rw [hwrite] at hwrite'
      cases hwrite'
      exact hstored.stored hroom
    · intro hstored
      have hpos : 0 < s.height.toNat := hheight ▸ height_pos_of_importRequest hrequest
      exact hlies.room_of_stored hpos (hstored store' (.refl store'))

/-- A descriptor of one object with two planes of the same pitch. -/
def twoPlanes (fourcc size pitch offset : UInt32) : Descriptor where
  fourcc
  width := 4
  height := 2
  objects := [{ source := .descriptor 3, size, modifier := 0 }]
  layers := [{
    format := fourcc
    planes := [{ object := 0, offset := 0, pitch }, { object := 0, offset, pitch }] }]

/-- The surface that it makes in fresh memory. -/
def twoPlanesSurface (format fourcc size pitch offset : UInt32) : Surface where
  id := 0
  format
  fourcc
  width := 4
  height := 2
  attributes := (twoPlanes fourcc size pitch offset).attributes
  mapping := some {
    regions := #[{ memory := ⟨0⟩, size := size.toNat }]
    planes := [
      { object := 0, offset := 0, stride := pitch.toNat, rows := 2 },
      { object := 0, offset := offset.toNat, stride := pitch.toNat, rows := 1 }] }

/-- Where such a plane lies. -/
def planeAt (start pitch rows : Nat) : Place where
  memory := ⟨0⟩
  window := { start, size := pitch * rows, stride := pitch }
  rows

/-- Rows of eight bytes by turns, two of luma and one of chroma: the planes overlap, but their rows
do not. -/
theorem picture_stored_interleaved :
    let s := twoPlanesSurface Config.formatYuv420Ten fourccP010 32 16 8
    let store : MemoryStore := #[.zeros 32]
    make .heap 0 0 Config.formatYuv420Ten 4 2 s.attributes #[] = .ok (s, store) ∧
      ¬ (planeAt 0 16 2).Apart (planeAt 8 16 1) ∧
      ∀ picture, s.FullSize picture → ∃ after, s.write store picture = .ok (true, after) ∧
        s.Stored (planeAt 0 16 2) (planeAt 8 16 1) after picture := by
  intro s store
  have hmake : make .heap 0 0 Config.formatYuv420Ten 4 2 s.attributes #[] = .ok (s, store) := rfl
  obtain ⟨-, -, -, mapping, luma, chroma, hmapping, -, -, hluma, hchroma, -, -, hwrites, hroom,
    -⟩ := picture_stored_iff_room Mapper.dependable_heap (by decide) hmake
  cases hmapping
  obtain rfl : planeAt 0 16 2 = luma := Except.ok.inj hluma
  obtain rfl : planeAt 8 16 1 = chroma := Except.ok.inj hchroma
  refine ⟨hmake, fun hapart => absurd (hapart rfl) (by decide), fun picture hfull => ?_⟩
  obtain ⟨after, hwrite, -⟩ := hwrites store (.refl store) picture hfull
  refine ⟨after, hwrite, hroom.1 ⟨by decide, by decide, ?_⟩ store (.refl store) picture hfull after
    hwrite⟩
  intro row hrow column hcolumn hmemory row' hrow' column' hcolumn'
  rw [show s.height.toNat = 2 by decide] at hrow
  rw [show s.lumaBytes = 8 by decide] at hcolumn
  rw [show halfUp s.height.toNat = 1 by decide] at hrow'
  rw [show min s.chromaBytes (planeAt 8 16 1).window.stride = 8 by decide] at hcolumn'
  change 8 + (row' * 16 + column') ≠ 0 + (row * 16 + column)
  omega

/-- Rows of one byte for pictures of four columns, and all of them at one place: such a surface is
made, and does not hold its pictures. -/
theorem narrow_import_loses_pictures :
    let s := twoPlanesSurface Config.formatYuv420 fourccNv12 2 1 0
    let store : MemoryStore := #[.zeros 2]
    make .heap 0 0 Config.formatYuv420 4 2 s.attributes #[] = .ok (s, store) ∧
      (∀ mapping ∈ s.mapping, mapping.place 0 = .ok (planeAt 0 1 2) ∧
        mapping.place 1 = .ok (planeAt 0 1 1)) ∧
      (planeAt 0 1 2).window.stride < s.lumaBytes ∧
      (planeAt 0 1 1).window.stride < s.chromaBytes ∧
      ¬ (planeAt 0 1 2).Apart (planeAt 0 1 1) ∧
      ∃ picture after, s.FullSize picture ∧ s.write store picture = .ok (true, after) ∧
        ¬ s.Stored (planeAt 0 1 2) (planeAt 0 1 1) after picture := by
  intro s store
  have hlies : s.LiesAt (planeAt 0 1 2) (planeAt 0 1 1) store :=
    { planes := ⟨_, rfl, rfl, rfl, rfl⟩
      lumaRows := rfl
      chromaRows := by decide
      lumaFits := ⟨_, rfl, by decide⟩
      chromaFits := ⟨_, rfl, by decide⟩ }
  refine ⟨rfl, ?_, by decide, by decide, fun hapart => absurd (hapart rfl) (by decide), ?_⟩
  · rintro _ ⟨⟩
    exact ⟨rfl, rfl⟩
  · by_contra hnone
    have hroom := hlies.room_of_stored (by decide) fun picture hfull after hwrite => by
      by_contra hstored
      exact hnone ⟨picture, after, hfull, hwrite, hstored⟩
    exact absurd hroom.lumaPitch (by decide)

end Surface

end AvcDriver
