import AvcDriver.Image.Layout
import AvcDriver.Proofs.Header.ReadBack

/-!
# The size that is shown

A decoder shows of a coded frame what the crop of its sequence parameter set leaves. It works the
size out from the elements it has read (H.264 7.4.2.1.1, equations 7-13 to 7-22), so the writer of
the set has to have meant the same crop units. What is left is the size that was asked for, or more
by less than a unit.

* `SequenceSet.croppedWidth`, `SequenceSet.croppedHeight`: what a decoder shows of a frame.
* `cropUnits_ofRecord`: the decoder's crop units are the writer's.
* `croppedWidth_ofRecord`, `croppedHeight_ofRecord`: what is shown for a record.
* `remaining_spec`: it is the least size from the one asked for on that the crop can leave.
* `cropped_of_progressive`: of progressive 4:2:0 frames, sides rounded up to even ones are shown.
* `written_crop_exact`: what is shown for a set that was written and read.
-/

namespace AvcDriver.Header

/-! ## What a decoder works out -/

namespace SequenceSet

variable (s : SequenceSet)

/-- The format that the chroma samples of a frame are in: 4:2:0 where none is given, and none if
the colour planes are separate (`ChromaArrayType`). -/
def chromaArrayType : Nat :=
  s.chroma.elim 1 fun block => if block.separateColourPlane = some true then 0 else block.formatIdc

/-- Luma samples for one chroma sample across (`SubWidthC`, H.264 Table 6-1). -/
def subWidthC : Nat := if s.chromaArrayType = 1 ∨ s.chromaArrayType = 2 then 2 else 1

/-- Luma samples for one chroma sample down (`SubHeightC`, H.264 Table 6-1). -/
def subHeightC : Nat := if s.chromaArrayType = 1 then 2 else 1

/-- Rows of macroblocks for one map unit (`2 - frame_mbs_only_flag`). -/
def frameFactor : Nat := if s.frameMbsOnly then 1 else 2

/-- Luma samples for one crop unit across (H.264 7-19 and 7-21). -/
def cropUnitX : Nat := if s.chromaArrayType = 0 then 1 else s.subWidthC

/-- Luma samples for one crop unit down (H.264 7-20 and 7-22). -/
def cropUnitY : Nat :=
  if s.chromaArrayType = 0 then s.frameFactor else s.subHeightC * s.frameFactor

/-- Luma samples of a coded row (H.264 7-13 and 7-14). -/
def codedWidth : Nat := (s.widthInMbsMinus1 + 1) * 16

/-- Luma rows of a coded frame (H.264 7-16 and 7-18). -/
def codedHeight : Nat := (s.heightInMapUnitsMinus1 + 1) * s.frameFactor * 16

/-- Luma samples of a row that is shown. -/
def croppedWidth : Nat :=
  s.codedWidth - s.cropUnitX * s.crop.elim 0 fun crop => crop.left + crop.right

/-- Luma rows that are shown. -/
def croppedHeight : Nat :=
  s.codedHeight - s.cropUnitY * s.crop.elim 0 fun crop => crop.top + crop.bottom

end SequenceSet

/-! ## What is shown for a record -/

section OfRecord

variable (profile : Profile) (record : Record.Picture) (options : Options)

open SequenceSet (ofRecord)

/-- The writer takes the decoder's chroma format. -/
theorem chromaArrayType_ofRecord :
    (ofRecord profile record options).chromaArrayType =
      (derivedChromaFormat profile record).toNat := by
  by_cases hhigh : profile = .high
  · have hformat : derivedChromaFormat profile record = record.sequence.chromaFormatIdc :=
      if_pos ((hasChromaFormat_iff profile).2 hhigh)
    rw [hformat, SequenceSet.chromaArrayType, ofRecord, if_pos hhigh, Option.elim_some,
      ChromaBlock.ofRecord]
    dsimp only
    split <;> rfl
  · have hformat : derivedChromaFormat profile record = 1 :=
      if_neg (mt (hasChromaFormat_iff profile).1 hhigh)
    rw [hformat, SequenceSet.chromaArrayType, ofRecord, if_neg hhigh]
    rfl

/-- **The writer takes the decoder's crop units.** -/
theorem cropUnits_ofRecord :
    cropUnits (derivedChromaFormat profile record) record.frameFactor =
      ((ofRecord profile record options).cropUnitX,
        (ofRecord profile record options).cropUnitY) := by
  have htype := chromaArrayType_ofRecord profile record options
  have hfactor : (ofRecord profile record options).frameFactor = record.frameFactor := rfl
  rw [SequenceSet.cropUnitX, SequenceSet.cropUnitY, SequenceSet.subWidthC, SequenceSet.subHeightC,
    htype, hfactor]
  generalize derivedChromaFormat profile record = format
  have hzero : format.toNat = 0 ↔ format = 0 := UInt8.toNat_inj (b := 0)
  have hone : format.toNat = 1 ↔ format = 1 := UInt8.toNat_inj (b := 1)
  have htwo : format.toNat = 2 ↔ format = 2 := UInt8.toNat_inj (b := 2)
  simp only [cropUnits, chromaSubsampling, hzero, hone, htwo]
  split
  · rfl
  · split
    · rfl
    · rfl
    · next hnotOne hnotTwo => rw [if_neg (not_or.2 ⟨hnotOne, hnotTwo⟩), if_neg hnotOne]

/-- A crop is asked for in both directions at once, but it takes nothing from a side that is asked
for in full. -/
theorem cropped_ofSize? {width height : Nat} (hwidth : width ≠ 0) (hheight : height ≠ 0)
    (format : UInt8) :
    ((Crop.ofSize? record format width height).elim 0 fun crop => crop.left + crop.right) =
        (codedWidth record - width) / (cropUnits format record.frameFactor).1 ∧
      ((Crop.ofSize? record format width height).elim 0 fun crop => crop.top + crop.bottom) =
        (codedHeight record - height) / (cropUnits format record.frameFactor).2 := by
  rw [Crop.ofSize?, if_neg (not_or.2 ⟨hwidth, hheight⟩)]
  split
  · next hfull =>
    rw [Nat.sub_eq_zero_of_le hfull.1, Nat.sub_eq_zero_of_le hfull.2, Nat.zero_div, Nat.zero_div]
    exact ⟨rfl, rfl⟩
  · exact ⟨Nat.zero_add _, Nat.zero_add _⟩

theorem croppedWidth_ofRecord (hwidth : options.width.toNat ≠ 0)
    (hheight : options.height.toNat ≠ 0) :
    let s := ofRecord profile record options
    s.croppedWidth = codedWidth record -
      s.cropUnitX * ((codedWidth record - options.width.toNat) / s.cropUnitX) := by
  obtain ⟨hright, -⟩ :=
    cropped_ofSize? record hwidth hheight (derivedChromaFormat profile record)
  rw [cropUnits_ofRecord profile record options] at hright
  exact congrArg (fun cut => codedWidth record - _ * cut) hright

theorem croppedHeight_ofRecord (hwidth : options.width.toNat ≠ 0)
    (hheight : options.height.toNat ≠ 0) :
    let s := ofRecord profile record options
    s.croppedHeight = codedHeight record -
      s.cropUnitY * ((codedHeight record - options.height.toNat) / s.cropUnitY) := by
  obtain ⟨-, hbottom⟩ :=
    cropped_ofSize? record hwidth hheight (derivedChromaFormat profile record)
  rw [cropUnits_ofRecord profile record options] at hbottom
  exact congrArg (fun cut => codedHeight record - _ * cut) hbottom

end OfRecord

/-! ## How much is left -/

/-- **What whole units cut off leave**: at least what was asked for, by less than a unit more, and
as much as the coded side modulo the unit. -/
theorem remaining_spec (coded requested : Nat) {unit : Nat} (hunit : 0 < unit) :
    let rest := coded - unit * ((coded - requested) / unit)
    min requested coded ≤ rest ∧ rest < min requested coded + unit ∧
      rest % unit = coded % unit := by
  have hdivide := Nat.div_add_mod (coded - requested) unit
  have hrest := Nat.mod_lt (coded - requested) hunit
  have hcut : unit * ((coded - requested) / unit) ≤ coded := by omega
  refine ⟨by omega, by omega, ?_⟩
  exact Nat.sub_mul_mod hcut

/-- A side that is shown of a coded one, where a side was requested: the least one from the smaller
of both on that whole crop units leave, and never nothing. -/
structure Fitted (shown coded requested unit : Nat) : Prop where
  ge : min requested coded ≤ shown
  lt : shown < min requested coded + unit
  congr : shown % unit = coded % unit
  pos : 0 < shown

theorem Fitted.of_remaining {coded requested unit : Nat} (hunit : 0 < unit) (hcoded : 0 < coded)
    (hrequested : requested ≠ 0) :
    Fitted (coded - unit * ((coded - requested) / unit)) coded requested unit := by
  obtain ⟨hge, hlt, hcongr⟩ := remaining_spec coded requested hunit
  exact ⟨hge, hlt, hcongr, Nat.lt_of_lt_of_le (by omega) hge⟩

/-- Units of two leave an even side. -/
theorem remaining_even {coded requested : Nat} (hcoded : coded % 2 = 0) (hle : requested ≤ coded) :
    coded - 2 * ((coded - requested) / 2) = roundUpEven requested := by
  obtain ⟨hlow, hhigh, heven⟩ := remaining_spec coded requested (show 0 < 2 by decide)
  rw [Nat.min_eq_left hle] at hlow hhigh
  rw [hcoded] at heven
  rw [roundUpEven]
  omega

/-- **Of progressive 4:2:0 frames, sides rounded up to even ones are shown.** -/
theorem cropped_of_progressive (profile : Profile) {record : Record.Picture} {options : Options}
    (hchroma : record.sequence.chromaFormatIdc = 1) (hframe : record.sequence.frameMbsOnly = true)
    (hwidth : options.width.toNat ≠ 0) (hheight : options.height.toNat ≠ 0)
    (hwide : options.width.toNat ≤ codedWidth record)
    (hhigh : options.height.toNat ≤ codedHeight record) :
    (SequenceSet.ofRecord profile record options).croppedWidth = roundUpEven options.width.toNat ∧
      (SequenceSet.ofRecord profile record options).croppedHeight =
        roundUpEven options.height.toNat := by
  have hunits : cropUnits (derivedChromaFormat profile record) record.frameFactor = (2, 2) := by
    have hformat : derivedChromaFormat profile record = 1 := by
      rw [derivedChromaFormat, hchroma, ite_self]
    rw [hformat, Record.Picture.frameFactor, hframe]
    rfl
  have hcoded : codedWidth record % 2 = 0 ∧ codedHeight record % 2 = 0 := by
    unfold codedWidth codedHeight macroblock
    omega
  rw [cropUnits_ofRecord profile record options] at hunits
  obtain ⟨hx, hy⟩ := Prod.mk.inj hunits
  constructor
  · rw [croppedWidth_ofRecord profile record options hwidth hheight, hx]
    exact remaining_even hcoded.1 hwide
  · rw [croppedHeight_ofRecord profile record options hwidth hheight, hy]
    exact remaining_even hcoded.2 hhigh

/-! ## Sets that are written -/

section Written

variable (profile : Profile) (record : Record.Picture) (options : Options)

/-- Nothing is cut off if a side is asked for as zero, or both sides in full. -/
theorem Crop.ofSize?_eq_none_iff (format : UInt8) (width height : Nat) :
    Crop.ofSize? record format width height = none ↔
      width = 0 ∨ height = 0 ∨ codedWidth record ≤ width ∧ codedHeight record ≤ height := by
  rw [← or_assoc, Crop.ofSize?]
  split
  · next hzero => exact iff_of_true rfl (.inl hzero)
  · next hsome =>
    rw [or_iff_right hsome]
    split
    · next hfull => exact iff_of_true rfl hfull
    · next hcut => exact iff_of_false (Option.some_ne_none _) hcut

theorem cropUnits_pos :
    let s := SequenceSet.ofRecord profile record options
    0 < s.cropUnitX ∧ 0 < s.cropUnitY := by
  intro s
  have hfactor : 0 < s.frameFactor := (frameFactor_bounds record).1
  rw [SequenceSet.cropUnitX, SequenceSet.cropUnitY, SequenceSet.subWidthC, SequenceSet.subHeightC]
  constructor
  · split
    · exact Nat.one_pos
    · split <;> decide
  · split
    · exact hfactor
    · refine Nat.mul_pos ?_ hfactor
      split <;> decide

/-- A frame has at least one macroblock. -/
theorem codedSize_pos : 0 < codedWidth record ∧ 0 < codedHeight record :=
  ⟨Nat.mul_pos (Nat.succ_pos _) (by decide),
    Nat.mul_pos (Nat.mul_pos (Nat.succ_pos _) (frameFactor_bounds record).1) (by decide)⟩

/-- **Writing the set of a record** gives one unit, and reading its payload what the record and the
fixed values say. -/
theorem writeSequenceSet_readBack {record : Record.Picture}
    (h : record.sequence.picOrderCntType ≠ 1) :
    ∃ w payload, writeSequenceSet .empty profile record options = .ok w ∧
      w.bytes = .ok (Nal.startCode ++ 0x67 :: payload) ∧
      readPayload SequenceSet.read payload = .ok (.ofRecord profile record options, []) := by
  obtain ⟨elements, helements, hspelled⟩ := sequenceSet_spelled profile h options
  have hkind : Nal.UnitType.Writable .sps := by decide
  obtain ⟨w, hw, hkeeps⟩ :=
    (Nal.Writer.keeps_empty true).writeUnit hkind (show parameterSetRefIdc ≤ 3 by decide)
      hspelled.writable
  refine ⟨w, _, (writeSequenceSet_eq helements _).trans hw, ?_, hspelled.readPayload_eq⟩
  rw [hkeeps.holds.bytes_eq]
  change Except.ok (Nal.startCode ++ setUnit true .sps elements) = _
  rw [setUnit_eq hkind]
  rfl

/-- **What is shown of a frame**, for every record, profile and size. A set is written unless the
order count type is 1, and no word overflows on the way. Its crop is left out if a side is asked for
as zero or both sides in full. Otherwise it leaves of each side the least one, from the requested
side on or from the coded one if that is smaller, that differs from the coded side by whole crop
units. -/
theorem written_crop_exact :
    record.sequence.picOrderCntType = 1 ∧
      writeSequenceSet .empty profile record options = .error .pictureOrderType ∨
    ∃ w payload s, writeSequenceSet .empty profile record options = .ok w ∧
      w.bytes = .ok (Nal.startCode ++ 0x67 :: payload) ∧
      readPayload SequenceSet.read payload = .ok (s, []) ∧
      s.codedWidth = codedWidth record ∧ s.codedHeight = codedHeight record ∧
      (s.crop = none ↔ options.width = 0 ∨ options.height = 0 ∨
        s.codedWidth ≤ options.width.toNat ∧ s.codedHeight ≤ options.height.toNat) ∧
      (s.crop ≠ none →
        Fitted s.croppedWidth s.codedWidth options.width.toNat s.cropUnitX ∧
        Fitted s.croppedHeight s.codedHeight options.height.toNat s.cropUnitY) := by
  by_cases hkind : record.sequence.picOrderCntType = 1
  · exact .inl ⟨hkind, writeSequenceSet_faults hkind profile options⟩
  · obtain ⟨w, payload, hw, hbytes, hread⟩ := writeSequenceSet_readBack profile options hkind
    have hnone := Crop.ofSize?_eq_none_iff record (derivedChromaFormat profile record)
      options.width.toNat options.height.toNat
    refine .inr ⟨w, payload, .ofRecord profile record options, hw, hbytes, hread, rfl, rfl, ?_, ?_⟩
    · rw [← UInt32.toNat_inj, ← UInt32.toNat_inj (a := options.height)]
      exact hnone
    · intro hsome
      have hcut := mt hnone.2 hsome
      rw [not_or, not_or] at hcut
      obtain ⟨hunitX, hunitY⟩ := cropUnits_pos profile record options
      obtain ⟨hcodedWidth, hcodedHeight⟩ := codedSize_pos record
      constructor
      · rw [croppedWidth_ofRecord profile record options hcut.1 hcut.2.1]
        exact .of_remaining hunitX hcodedWidth hcut.1
      · rw [croppedHeight_ofRecord profile record options hcut.1 hcut.2.1]
        exact .of_remaining hunitY hcodedHeight hcut.2.1

end Written

end AvcDriver.Header
