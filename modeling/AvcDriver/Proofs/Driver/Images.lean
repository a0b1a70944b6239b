import AvcDriver.Proofs.Driver.Custody
import AvcDriver.Proofs.Surface.Pixels
import Mathlib.Tactic.Ring

/-!
# Sizes of images

The layout of an image is computed in 32-bit words, after a check that the size fits them. The
check estimates the number of bytes: half as much again as the luma plane has, and one more row.
With an odd width every chroma row has a byte that this does not count. So a picture that is odd
both ways outgrows the estimate by half of what it is higher than wide, and at the very edge of
the range the check lets through a few sizes whose number of bytes has no 32-bit word.

* `Layout.packed`: the layout in unbounded numbers.
* `Layout.ofFormat_of_admitted`, `Layout.ofFormat_of_not_admitted`: what passes the check gets
  that layout if its size has a word, and stops if not; all else is rejected.
* `Layout.odd_of_size_le`: what stops is odd both ways and higher than wide.
* `images_packed_or_refused`: images have that layout and a buffer with room for it.
* `check_passes_large_image`: a size that the check lets through and that stops.
-/

namespace AvcDriver

namespace Image

/-- The format, the sides and the estimated size pass the checks of an image. -/
def Layout.Admitted (format : Format) (width height : UInt32) : Prop :=
  format = .nv12 ∧ (0 < width ∧ 0 < height) ∧ (width ≤ maxSide ∧ height ≤ maxSide) ∧
    Fits width.toNat height.toNat

instance (format : Format) (width height : UInt32) :
    Decidable (Layout.Admitted format width height) :=
  inferInstanceAs (Decidable (_ ∧ _ ∧ _ ∧ _))

/-- The layout of an NV12 picture without gaps, in unbounded numbers. -/
def Layout.packed (width height : Nat) : Layout where
  luma := { stride := width, offset := 0 }
  chroma := { stride := roundUpEven width, offset := width * height }
  dataSize := width * height + halfUp height * roundUpEven width

namespace Layout

variable {format : Format} {width height : UInt32}

/-! ## The layout in words -/

/-- If the whole has a word, so has each of its parts. -/
theorem nv12_of_size_lt (hwidth : roundUpEven width.toNat < UInt32.size)
    (hsize : (packed width.toNat height.toNat).dataSize < UInt32.size) :
    nv12 width height = .ok (packed width.toNat height.toNat) := by
  have hoffset : width.toNat * height.toNat < UInt32.size :=
    Nat.lt_of_le_of_lt (Nat.le_add_right _ _) hsize
  have hchroma : halfUp height.toNat * roundUpEven width.toNat < UInt32.size :=
    Nat.lt_of_le_of_lt (Nat.le_add_left _ _) hsize
  refine bind_eq_ok.2 ⟨_, checkedWord_eq_ok.2 ⟨hwidth, rfl⟩, ?_⟩
  refine bind_eq_ok.2 ⟨_, checkedWord_eq_ok.2 ⟨hoffset, rfl⟩, ?_⟩
  refine bind_eq_ok.2 ⟨_, checkedWord_eq_ok.2 ⟨hchroma, rfl⟩, ?_⟩
  exact bind_eq_ok.2 ⟨_, checkedWord_eq_ok.2 ⟨hsize, rfl⟩, rfl⟩

/-- A part without a word stops the computation, in whatever order the parts are found. -/
theorem nv12_of_size_le (hsize : UInt32.size ≤ (packed width.toNat height.toNat).dataSize) :
    nv12 width height = .error .overflow := by
  have hlarge : ¬ width.toNat * height.toNat + halfUp height.toNat * roundUpEven width.toNat <
      2 ^ 32 := Nat.not_lt.2 hsize
  refine checkedWord_bind_overflows (checkedWord_bind_overflows (checkedWord_bind_overflows ?_))
  rw [checkedWord_eq_error hlarge]
  rfl

/-! ## What the check lets through -/

theorem roundUpEven_lt_of_le_maxSide (h : width ≤ maxSide) :
    roundUpEven width.toNat < UInt32.size := by
  have hside : width.toNat ≤ 65535 := h
  rw [roundUpEven, UInt32.size]
  omega

theorem le_maxSide_iff : width ≤ maxSide ↔ ¬ maxSide < width := UInt32.not_lt.symm

/-- What passes the checks gets the packed layout if the size has a word, and else stops. -/
theorem ofFormat_of_admitted (h : Admitted format width height) :
    ofFormat format width height =
      if (packed width.toNat height.toNat).dataSize < UInt32.size then
        .ok (packed width.toNat height.toNat)
      else .error (.faulted .overflow) := by
  obtain ⟨rfl, ⟨hwidth, hheight⟩, ⟨hwide, hhigh⟩, hfits⟩ := h
  have hsides : ¬ (width = 0 ∨ height = 0 ∨ maxSide < width ∨ maxSide < height) := by
    rintro (rfl | rfl | hlt | hlt)
    · exact absurd hwidth (by decide)
    · exact absurd hheight (by decide)
    · exact le_maxSide_iff.1 hwide hlt
    · exact le_maxSide_iff.1 hhigh hlt
  rw [ofFormat, if_neg (by decide), if_neg (by decide), if_neg hsides, if_neg (not_not.2 hfits)]
  split
  · next hsize => rw [nv12_of_size_lt (roundUpEven_lt_of_le_maxSide hwide) hsize, mapError_ok]
  · next hsize =>
    rw [nv12_of_size_le (Nat.not_lt.1 hsize)]
    rfl

/-- All else is rejected. -/
theorem ofFormat_of_not_admitted (h : ¬ Admitted format width height) :
    ∃ error, ofFormat format width height = .error (.rejected error) := by
  rw [ofFormat]
  split
  · exact ⟨_, rfl⟩
  next hfourcc =>
  split
  · exact ⟨_, rfl⟩
  next hdepth =>
  split
  · exact ⟨_, rfl⟩
  next hsides =>
  split
  · exact ⟨_, rfl⟩
  next hfits =>
  obtain ⟨hbyteOrder, hbits⟩ := not_or.1 hdepth
  obtain ⟨hwidth, hheight, hwide, hhigh⟩ : width ≠ 0 ∧ height ≠ 0 ∧ width ≤ maxSide ∧
      height ≤ maxSide := by
    rw [le_maxSide_iff, le_maxSide_iff]
    exact ⟨fun h => hsides (.inl h), fun h => hsides (.inr (.inl h)),
      fun h => hsides (.inr (.inr (.inl h))), fun h => hsides (.inr (.inr (.inr h)))⟩
  have hformat : format = .nv12 := by
    cases format
    simp only [not_not] at hfourcc hbyteOrder hbits
    rw [hfourcc, hbyteOrder, hbits]
    rfl
  refine absurd ⟨hformat, ⟨?_, ?_⟩, ⟨hwide, hhigh⟩, not_not.1 hfits⟩ h
  · exact UInt32.pos_iff_ne_zero.2 hwidth
  · exact UInt32.pos_iff_ne_zero.2 hheight

/-- What passes the check and has no word is odd both ways and higher than wide. With other
sides the row that the estimate adds makes up for the rounding. -/
theorem odd_of_size_le {w h : Nat} (hwide : w ≤ 65535) (hhigh : h ≤ 65535) (hfits : Fits w h)
    (hsize : UInt32.size ≤ (packed w h).dataSize) : w % 2 = 1 ∧ h % 2 = 1 ∧ w < h := by
  change w * h * 3 / 2 + w < 2 ^ 32 - 1 at hfits
  change 2 ^ 32 ≤ w * h + (h + 1) / 2 * (w + w % 2) at hsize
  rcases Nat.mod_two_eq_zero_or_one w with hw | hw
  · -- an even width is not rounded, and the estimate has room for a last row
    obtain ⟨a, rfl⟩ : ∃ a, w = 2 * a := ⟨w / 2, by omega⟩
    have hhalves : (h + 1) / 2 * (2 * a) ≤ a * h + a := by
      have hhalf : 2 * ((h + 1) / 2) ≤ h + 1 := Nat.mul_div_le _ _
      calc (h + 1) / 2 * (2 * a) = a * (2 * ((h + 1) / 2)) := by ring
        _ ≤ a * (h + 1) := Nat.mul_le_mul_left a hhalf
        _ = a * h + a := by ring
    have harea : 2 * a * h = 2 * (a * h) := Nat.mul_assoc 2 a h
    rw [hw, Nat.add_zero (2 * a), harea] at hsize
    rw [harea] at hfits
    omega
  rcases Nat.mod_two_eq_zero_or_one h with hh | hh
  · -- with an even height the picture would have to be more than twice as high as wide
    obtain ⟨a, rfl⟩ : ∃ a, w = 2 * a + 1 := ⟨w / 2, by omega⟩
    obtain ⟨b, rfl⟩ : ∃ b, h = 2 * b := ⟨h / 2, by omega⟩
    have harea : (2 * a + 1) * (2 * b) = 4 * (a * b) + 2 * b := by ring
    have hchroma : (2 * b + 1) / 2 * (2 * a + 1 + (2 * a + 1) % 2) = 2 * (a * b) + 2 * b := by
      rw [hw, show (2 * b + 1) / 2 = b by omega]
      ring
    rw [harea] at hfits
    rw [harea, hchroma] at hsize
    have hsmall : a * b ≤ 16383 * 32767 :=
      Nat.mul_le_mul (by omega : a ≤ 16383) (by omega : b ≤ 32767)
    omega
  · obtain ⟨a, rfl⟩ : ∃ a, w = 2 * a + 1 := ⟨w / 2, by omega⟩
    obtain ⟨b, rfl⟩ : ∃ b, h = 2 * b + 1 := ⟨h / 2, by omega⟩
    have harea : (2 * a + 1) * (2 * b + 1) = 4 * (a * b) + 2 * a + 2 * b + 1 := by ring
    have hchroma : (2 * b + 1 + 1) / 2 * (2 * a + 1 + (2 * a + 1) % 2) =
        2 * (a * b) + 2 * a + 2 * b + 2 := by
      rw [hw, show (2 * b + 1 + 1) / 2 = b + 1 by omega]
      ring
    rw [harea] at hfits
    rw [harea, hchroma] at hsize
    omega

theorem Admitted.odd_of_size_le (h : Admitted format width height)
    (hsize : UInt32.size ≤ (packed width.toNat height.toNat).dataSize) :
    width.toNat % 2 = 1 ∧ height.toNat % 2 = 1 ∧ width < height := by
  obtain ⟨-, -, ⟨hwide, hhigh⟩, hfits⟩ := h
  exact Layout.odd_of_size_le hwide hhigh hfits hsize

end Layout

end Image

namespace Driver

open Image (Format Layout)
open Handle.Table (maxHandle)

variable {ε : Type} {d : Driver ε}

/-! ## Making an image -/

/-- A refused image leaves no trace. -/
theorem createImage_refused {format : Format} {width height : UInt32}
    {failure : Failure DriverError}
    (h : Layout.ofFormat format width height = .error failure) :
    (createImage format width height).run d = (.error failure, d) := by
  rw [createImage, h]
  cases failure <;> rfl

/-- An image of a layout gets a buffer of zeros of the layout's size. -/
theorem createImage_run {bufferHandle id : Nat} {buffers : Handle.Table BufferRef}
    (hbuffers : d.buffers.reserve = .ok (bufferHandle, buffers)) {images : Handle.Table Image}
    (himages : d.images.reserve = .ok (id, images)) {format : Format} {width height : UInt32}
    {layout : Layout} (hlayout : Layout.ofFormat format width height = .ok layout)
    (hsize : layout.dataSize ≤ Memory.maxSize) :
    let image : Image :=
      { id, format, width, height, layout, bufferHandle, buffer := ⟨d.bufferStore.size⟩ }
    (createImage format width height).run d =
      (.ok image, { d.withBuffer bufferHandle buffers {
          id := bufferHandle
          context := none
          kind := .image
          memory := .zeros layout.dataSize } with
        images := images.commit id image }) := by
  have hmake : Buffer.make bufferHandle none .image layout.dataSize none =
      .ok ⟨bufferHandle, none, .image, .zeros layout.dataSize⟩ := by
    refine bind_eq_ok.2 ⟨.zeros layout.dataSize, ?_, rfl⟩
    rw [Memory.allocate, Memory.checkSize, if_pos hsize]
    rfl
  have hadd : (Driver.addBuffer none .image layout.dataSize none).run d =
      (.ok (bufferHandle, ⟨d.bufferStore.size⟩), d.withBuffer bufferHandle buffers
        ⟨bufferHandle, none, .image, .zeros layout.dataSize⟩) := by
    rw [Driver.addBuffer, Action.run_get_bind, hbuffers, Action.ofFaulting, pure_bind]
    dsimp only
    rw [hmake]
    rfl
  rw [createImage, hlayout]
  change (Driver.addBuffer none .image layout.dataSize none >>= _).run d = _
  rw [Action.run_bind_ok hadd, Action.run_get_bind]
  change (Action.ofFaulting d.images.reserve >>= _).run _ = _
  rw [himages]
  rfl

/-- There is a handle for each of them, if the buffers do not take all. -/
theorem Custody.createImage_run (hd : d.Custody) (hroom : d.buffers.size < maxHandle)
    {format : Format} {width height : UInt32} {layout : Layout}
    (hlayout : Layout.ofFormat format width height = .ok layout)
    (hsize : layout.dataSize ≤ Memory.maxSize) :
    ∃ buffers images, d.buffers.reserve = .ok (d.buffers.next, buffers) ∧
      d.images.reserve = .ok (d.images.next, images) ∧
      let image : Image := {
        id := d.images.next
        format, width, height, layout
        bufferHandle := d.buffers.next
        buffer := ⟨d.bufferStore.size⟩ }
      (createImage format width height).run d =
        (.ok image, { d.withBuffer d.buffers.next buffers {
            id := d.buffers.next
            context := none
            kind := .image
            memory := .zeros layout.dataSize } with
          images := images.commit d.images.next image }) := by
  have htaken : d.buffers.taken.length < maxHandle := by
    rw [Handle.Table.length_taken, hd.buffers.reserved]
    exact hroom
  obtain ⟨buffers, hbuffers⟩ := hd.buffers.allocated.reserve_eq_ok htaken
  obtain ⟨images, himages⟩ := hd.reserve_image hbuffers
  exact ⟨buffers, images, hbuffers, himages, Driver.createImage_run hbuffers himages hlayout hsize⟩

/-- **Images have the packed layout or are refused, except at the edge of the range.** After
every history, and for every format and size: if a layout is given, it is the packed one, its
size has a 32-bit word, the luma plane ends where the chroma plane begins and that one ends where
the data does, and making the image succeeds with a buffer of just that size under a handle of
its own. What does not pass the check is rejected and leaves no trace. What passes the check and
has no 32-bit size stops the request, with the driver as it was; such sizes are odd both ways and
higher than wide. -/
theorem images_packed_or_refused [Engine ε] {settings : Settings} {mapper : Memory.Mapper}
    {factory : Engine.Factory ε} {history : List Request}
    (hserved : (make settings mapper factory).serveAll history = d)
    (hroom : d.buffers.size < maxHandle) (format : Format) (width height : UInt32) :
    match Layout.ofFormat format width height with
    | .ok layout =>
      Layout.Admitted format width height ∧
      layout = Layout.packed width.toNat height.toNat ∧ layout.dataSize < UInt32.size ∧
      (∀ row < height.toNat, ∀ column < width.toNat,
        layout.luma.address row column < layout.chroma.offset) ∧
      (∀ row < halfUp height.toNat, ∀ column < roundUpEven width.toNat,
        layout.chroma.offset ≤ layout.chroma.address row column ∧
          layout.chroma.address row column < layout.dataSize) ∧
      ∃ image d' buffer, (createImage format width height).run d = (.ok image, d') ∧
        (image.format, image.width, image.height, image.layout) =
          (format, width, height, layout) ∧
        d'.images.find? image.id = some image ∧
        d.buffers.find? image.bufferHandle = none ∧
        d'.buffers.find? image.bufferHandle = some image.buffer ∧
        d'.bufferStore[image.buffer.index]? = some buffer ∧
        buffer.memory.size = layout.dataSize
    | .error (.rejected error) =>
      ¬ Layout.Admitted format width height ∧
      (createImage format width height).run d = (.error (.rejected error), d)
    | .error (.faulted cause) =>
      Layout.Admitted format width height ∧
      UInt32.size ≤ (Layout.packed width.toNat height.toNat).dataSize ∧
      (width.toNat % 2 = 1 ∧ height.toNat % 2 = 1 ∧ width < height) ∧ cause = .overflow ∧
      (createImage format width height).run d = (.error (.faulted cause), d) := by
  have hd : d.Custody := hserved ▸ custody_serveAll settings mapper factory history
  by_cases hadmitted : Layout.Admitted format width height
  · have hlayout := Layout.ofFormat_of_admitted hadmitted
    split at hlayout
    · next hsize =>
      rw [hlayout]
      have hluma := @Layout.luma_address_lt _ _ _ _ hlayout
      have hchroma := @Layout.chroma_address_lt _ _ _ _ hlayout
      obtain ⟨buffers, images, hbuffers, himages, hrun⟩ := hd.createImage_run hroom hlayout
        (Nat.le_trans (Nat.le_of_lt hsize) (by decide))
      refine ⟨hadmitted, rfl, hsize, fun row hrow column hcolumn => hluma hrow hcolumn, ?_,
        _, _, _, hrun, rfl, ?_, ?_, ?_, Array.getElem?_push_size, rfl⟩
      · exact fun row hrow column hcolumn =>
          ⟨Nat.le_add_right _ _, hchroma hrow hcolumn⟩
      · exact (Handle.Table.find?_reserve_commit himages _ _).trans (if_pos rfl)
      · exact hd.buffers.allocated.find?_reserve hbuffers
      · exact (Handle.Table.find?_reserve_commit hbuffers _ _).trans (if_pos rfl)
    · next hsize =>
      rw [hlayout]
      have hlarge := Nat.not_lt.1 hsize
      exact ⟨hadmitted, hlarge, hadmitted.odd_of_size_le hlarge, rfl,
        createImage_refused hlayout⟩
  · obtain ⟨error, hlayout⟩ := Layout.ofFormat_of_not_admitted hadmitted
    rw [hlayout]
    exact ⟨hadmitted, createImage_refused hlayout⟩

/-- Three columns and five rows: the chroma rows are rounded both ways, and all fits. -/
theorem images_packed_or_refused_odd :
    let d := (make {} Memory.Mapper.heap fun _ _ => .ok ({ entries := [] } : Engine.Script)).serveAll
      [.createImage .nv12 4 2]
    d.buffers.size < maxHandle ∧
      ∃ image d' buffer, (createImage .nv12 3 5).run d = (.ok image, d') ∧
        image.layout = ⟨⟨3, 0⟩, ⟨4, 15⟩, 27⟩ ∧ d'.images.find? image.id = some image ∧
        d'.buffers.find? image.bufferHandle = some image.buffer ∧
        d'.bufferStore[image.buffer.index]? = some buffer ∧ buffer.memory.size = 27 := by
  intro d
  have hroom : d.buffers.size < maxHandle := by decide
  have hserved : (make {} Memory.Mapper.heap fun _ _ =>
    .ok ({ entries := [] } : Engine.Script)).serveAll [.createImage .nv12 4 2] = d := rfl
  have himage := images_packed_or_refused hserved hroom .nv12 3 5
  rw [show Layout.ofFormat .nv12 3 5 = .ok ⟨⟨3, 0⟩, ⟨4, 15⟩, 27⟩ by rfl] at himage
  obtain ⟨-, -, -, -, -, image, d', buffer, hrun, hshape, hlive, -, hheld, hstored, hsize⟩ := himage
  exact ⟨hroom, image, d', buffer, hrun, congrArg (·.2.2.2) hshape, hlive, hheld, hstored, hsize⟩

/-- **The check passes an image that is too large.** 43763 columns and 65427 rows have
4294977297 bytes, 10001 more than 32-bit sizes count, and the check estimates 4294966464. -/
theorem check_passes_large_image :
    Layout.Admitted .nv12 43763 65427 ∧ (Layout.packed 43763 65427).dataSize = 4294977297 ∧
      Layout.ofFormat .nv12 43763 65427 = .error (.faulted .overflow) := by
  decide

end Driver

end AvcDriver
