import AvcDriver.Nal.Stream
import AvcDriver.Proofs.Action
import AvcDriver.Proofs.Header.Syntax
import AvcDriver.Proofs.Nal.Framing
import AvcDriver.Proofs.Nal.RoundTrip

/-!
# Parameter sets are read as they were meant

The writer of a parameter set goes by the record, its reader by the elements it has read. They
stay in step through every optional element, whatever the record holds: a read that is `Spelled`
by a list of elements takes exactly their bits off the front, and a set is spelled by the list
that is laid out for it.

* `sequenceSet_spelled`, `pictureSet_spelled`: the readers against the lists of elements.
* `parameterSets_readBack`: the two units that are written, from the bytes of the stream to the
  trailing bits.
-/

namespace AvcDriver.Header

open Nal (Draft Element Read Reader UnitType Writer startCode)
open Nal.Read (Yields)

/-! ## Elements that spell a value -/

/-- A list of elements can be written, and a read that takes exactly its bits gets a value for
them. -/
structure Spelled {α : Type} (read : Read α) (elements : List Element) (value : α) : Prop where
  writable : ∀ e ∈ elements, e.Writable
  yields : Yields read (elements.flatMap Element.bitString) value

namespace Spelled

variable {α β : Type} {read : Read α} {next : α → Read β} {element : Element}
  {xs ys : List Element} {a : α} {b : β}

/-- One element with its bits. -/
theorem single (hwritable : element.Writable) (h : Yields read element.bitString a) :
    Spelled read [element] a where
  writable := List.forall_mem_singleton.mpr hwritable
  yields := by
    rw [List.flatMap_singleton]
    exact h

theorem pure (value : α) : Spelled (Pure.pure value) [] value where
  writable := List.forall_mem_nil _
  yields := Yields.pure value

/-- What is read after a part of the elements is spelled by the others. -/
theorem append (hread : Spelled read xs a) (hnext : Spelled (next a) ys b) :
    Spelled (read >>= next) (xs ++ ys) b where
  writable := List.forall_mem_append.mpr ⟨hread.writable, hnext.writable⟩
  yields := by
    rw [List.flatMap_append]
    exact Yields.bind hread.yields hnext.yields

/-- What is read after the first element is spelled by the others. -/
theorem cons (hread : Spelled read [element] a) (hnext : Spelled (next a) ys b) :
    Spelled (read >>= next) (element :: ys) b := append hread hnext

theorem map {f : α → β} (h : Spelled read xs a) : Spelled (f <$> read) xs (f a) where
  writable := h.writable
  yields := h.yields.map f

/-- An optional part that is there. -/
theorem present {here : Bool} (hhere : here = true) (h : Spelled read xs a) :
    Spelled (readIf here read) xs (some a) := by
  rw [readIf, if_pos hhere]
  exact h.map

/-- An optional part that is not there. -/
theorem absent {here : Bool} (hhere : here = false) : Spelled (readIf here read) [] none := by
  rw [readIf, hhere, if_neg Bool.false_ne_true]
  exact pure none

theorem flag (value : Bool) : Spelled Read.bit [.flag value] value :=
  single trivial (Nal.Read.yields_bit value)

/-- A part behind its flag. -/
theorem flagged (h : Spelled read xs a) : Spelled (readFlagged read) (.flag true :: xs) (some a) :=
  (flag true).cons (.present rfl h)

/-- A flag that nothing is behind. -/
theorem unflagged : Spelled (readFlagged read) [.flag false] none := (flag false).cons (.absent rfl)

theorem flags (count : Nat) (value : Bool) :
    Spelled ((List.replicate count ()).mapM fun _ => Read.bit)
      (List.replicate count (.flag value)) (List.replicate count value) where
  writable := by
    intro e he
    rw [List.eq_of_mem_replicate he]
    trivial
  yields := by
    induction count with
    | zero => exact Yields.mapM_nil
    | succ count ih => exact Yields.mapM_cons (Nal.Read.yields_bit value) ih

theorem bits {count : Nat} (value : UInt64) (hcount : count ≤ 64) :
    Spelled (Read.bits count) [.bits count value] (value.toNat % 2 ^ count) :=
  single hcount (Nal.Read.yields_bits value.toNat hcount)

/-- A byte fills a field of eight bits. -/
theorem byte (value : UInt8) : Spelled (Read.bits 8) [.bits 8 value.toUInt64] value.toNat := by
  have h : Spelled (Read.bits 8) [.bits 8 value.toUInt64] (value.toUInt64.toNat % 2 ^ 8) :=
    bits _ (by decide)
  rwa [UInt8.toNat_toUInt64, Nat.mod_eq_of_lt value.toNat_lt] at h

theorem unsigned {code : UInt32} {value : Nat} (h : code.toNat = value) :
    Spelled readUnsigned [.ue code] value := by
  rw [← h]
  exact single trivial ((Nal.Read.yields_ue code).map UInt32.toNat)

theorem unsigned8 (value : UInt8) : Spelled readUnsigned [.ue value.toUInt32] value.toNat :=
  unsigned (UInt8.toNat_toUInt32 value)

theorem unsigned16 (value : UInt16) : Spelled readUnsigned [.ue value.toUInt32] value.toNat :=
  unsigned (UInt16.toNat_toUInt32 value)

theorem signed (value : Int8) : Spelled readSigned [.se value.toInt32] value.toInt := by
  have hwide : value.toInt32.toInt = value.toInt := Int8.toInt_toInt32 value
  -- the one value without a code is out of a byte's range
  have hne : value.toInt32 ≠ Int32.minValue := by
    intro heq
    have hlow := value.le_toInt
    rw [← hwide, heq] at hlow
    exact absurd hlow (by decide)
  rw [← hwide]
  exact single hne ((Nal.Read.yields_se hne).map Int32.toInt)

end Spelled

/-! ## The sequence parameter set -/

theorem hasChromaFormat_iff (profile : Profile) :
    profile.hasChromaFormat = true ↔ profile = .high := by
  cases profile <;> decide

theorem idc_eq_high_iff (profile : Profile) :
    profile.idc.toNat = highProfileIdc ↔ profile = .high := by
  cases profile <;> decide

/-- The chroma block, as the elements behind the set's id. -/
theorem chromaBlock_spelled (profile : Profile) (record : Record.Picture) :
    Spelled (readIf (profile.idc.toNat = highProfileIdc) ChromaBlock.read)
      (chromaElements profile record)
      (if profile = .high then some (.ofRecord record) else none) := by
  by_cases hhigh : profile = .high
  · rw [chromaElements, if_pos ((hasChromaFormat_iff profile).mpr hhigh), if_pos hhigh]
    refine .present (decide_eq_true ((idc_eq_high_iff profile).mpr hhigh)) ?_
    rw [List.append_assoc]
    -- the flag for separate planes is an optional part of an optional part
    refine (Spelled.unsigned8 _).append (Spelled.append (a := ?_) ?_ ?_)
    · exact if record.sequence.chromaFormatIdc = 3 then some false else none
    · by_cases hplanes : record.sequence.chromaFormatIdc = 3
      · rw [if_pos hplanes, if_pos hplanes, hplanes]
        exact .present rfl (.flag false)
      · rw [if_neg hplanes, if_neg hplanes]
        refine .absent (decide_eq_false fun heq => hplanes ?_)
        exact UInt8.toNat_inj.mp heq
    · exact (Spelled.unsigned8 _).cons <| (Spelled.unsigned8 _).cons <|
        (Spelled.flag false).cons <| (Spelled.flag false).cons <| .pure _
  · rw [chromaElements, if_neg (mt (hasChromaFormat_iff profile).mp hhigh), if_neg hhigh]
    exact .absent (decide_eq_false (mt (idc_eq_high_iff profile).mp hhigh))

/-- The order count type and what is written behind it. -/
theorem orderCountElements_eq {record : Record.Picture}
    (h : record.sequence.picOrderCntType ≠ 1) :
    orderCountElements record = .ok (.ue record.sequence.picOrderCntType.toUInt32 ::
      if record.sequence.picOrderCntType = 0 then
        [.ue record.sequence.log2MaxPicOrderCntLsbMinus4.toUInt32] else []) := by
  unfold orderCountElements
  dsimp only
  split
  · rfl
  · rfl

/-- Order counts of type 0 have a length. -/
theorem lsbLength_spelled (record : Record.Picture) :
    Spelled (readIf (record.sequence.picOrderCntType.toNat = 0) readUnsigned)
      (if record.sequence.picOrderCntType = 0 then
        [.ue record.sequence.log2MaxPicOrderCntLsbMinus4.toUInt32] else [])
      (if record.sequence.picOrderCntType = 0 then
        some record.sequence.log2MaxPicOrderCntLsbMinus4.toNat else none) := by
  by_cases hkind : record.sequence.picOrderCntType = 0
  · rw [if_pos hkind, if_pos hkind, hkind]
    exact .present rfl (.unsigned8 _)
  · rw [if_neg hkind, if_neg hkind]
    exact .absent (decide_eq_false fun heq => hkind (UInt8.toNat_inj.mp heq))

/-- Only sequences that may hold fields say whether macroblocks choose. -/
theorem mbAdaptive_spelled (fields : Record.SequenceFields) :
    Spelled (readIf (!fields.frameMbsOnly) Read.bit)
      (if fields.frameMbsOnly then [] else [.flag fields.mbAdaptiveFrameField])
      (if fields.frameMbsOnly then none else some fields.mbAdaptiveFrameField) := by
  cases fields.frameMbsOnly with
  | true => exact .absent rfl
  | false => exact .present rfl (.flag _)

theorem frameFactor_bounds (record : Record.Picture) :
    0 < record.frameFactor ∧ record.frameFactor ≤ 2 := by
  unfold Record.Picture.frameFactor
  split <;> decide

/-- A frame is at most 65536 macroblocks wide, and as many map units high. -/
theorem codedSize_le (record : Record.Picture) :
    codedWidth record ≤ 2 ^ 20 ∧ codedHeight record ≤ 2 ^ 21 := by
  have hwide := record.widthInMbsMinus1.toNat_lt
  have hhigh := record.heightInMbsMinus1.toNat_lt
  unfold codedWidth codedHeight Record.Picture.heightInMbs Record.Picture.widthInMbs
    Record.Picture.heightInMapUnits Record.Picture.frameFactor macroblock
  split <;> omega

/-- The coded size stays far within its words. -/
theorem codedSize_eq (record : Record.Picture) :
    codedSize record = .ok (codedWidth record, codedHeight record) := by
  obtain ⟨hwidth, hheight⟩ := codedSize_le record
  have hacross : record.widthInMbs ≤ codedWidth record := Nat.le_mul_of_pos_right _ (by decide)
  have hdown : record.heightInMbs ≤ codedHeight record := Nat.le_mul_of_pos_right _ (by decide)
  have hunits : record.heightInMapUnits ≤ record.heightInMbs :=
    Nat.le_mul_of_pos_right _ (frameFactor_bounds record).1
  have hword {amount : Nat} (h : amount ≤ 2 ^ 21) : checkedWord 32 amount = .ok amount :=
    checkedWord_eq_ok.2 ⟨by omega, rfl⟩
  refine bind_eq_ok.2 ⟨_, hword (by omega), ?_⟩
  refine bind_eq_ok.2 ⟨_, hword (hwidth.trans (by decide)), ?_⟩
  refine bind_eq_ok.2 ⟨_, hword (by omega), ?_⟩
  refine bind_eq_ok.2 ⟨_, hword (hdown.trans hheight), ?_⟩
  exact bind_eq_ok.2 ⟨_, hword hheight, rfl⟩

/-- **No crop is too large** for the words that it is worked out in. -/
theorem Crop.ofSize_eq (record : Record.Picture) (chromaFormat : UInt8) (width height : Nat) :
    Crop.ofSize record chromaFormat width height =
      .ok (Crop.ofSize? record chromaFormat width height) := by
  have hunit : checkedWord 32 (cropUnits chromaFormat record.frameFactor).2 =
      .ok (cropUnits chromaFormat record.frameFactor).2 := by
    have hfactor := (frameFactor_bounds record).2
    refine checkedWord_eq_ok.2 ⟨?_, rfl⟩
    unfold cropUnits
    split
    · exact hfactor.trans_lt (by decide)
    · have hsampling : (chromaSubsampling chromaFormat).2 ≤ 2 := by
        unfold chromaSubsampling
        split <;> decide
      exact (Nat.mul_le_mul hsampling hfactor).trans_lt (by decide)
  rw [Crop.ofSize, Crop.ofSize?]
  split
  · rfl
  · rw [codedSize_eq, ok_bind]
    dsimp only
    split
    · rfl
    · rw [hunit]
      rfl

/-- The offsets of a crop are far below the greatest code. -/
theorem Crop.lt_of_ofSize? {record : Record.Picture} {chromaFormat : UInt8} {width height : Nat}
    {crop : Crop} (h : Crop.ofSize? record chromaFormat width height = some crop) :
    crop.left = 0 ∧ crop.right < 2 ^ 32 ∧ crop.top = 0 ∧ crop.bottom < 2 ^ 32 := by
  have hcoded := codedSize_le record
  unfold Crop.ofSize? at h
  split at h
  · cases h
  · split at h
    · cases h
    · cases h
      exact ⟨rfl, (Nat.div_le_self _ _).trans_lt (by omega), rfl,
        (Nat.div_le_self _ _).trans_lt (by omega)⟩

/-- The cropping flag and the offsets behind it. -/
theorem crop_spelled (record : Record.Picture) (chromaFormat : UInt8) (width height : Nat) :
    Spelled (readFlagged Crop.read)
      (cropElements (Crop.ofSize? record chromaFormat width height))
      (Crop.ofSize? record chromaFormat width height) := by
  have hcode : ∀ {n : Nat}, n < 2 ^ 32 → (UInt32.ofNat n).toNat = n := fun hn =>
    UInt32.toNat_ofNat_of_lt' hn
  rcases hcrop : Crop.ofSize? record chromaFormat width height with _ | crop
  · exact .unflagged
  · obtain ⟨hleft, hright, htop, hbottom⟩ := Crop.lt_of_ofSize? hcrop
    refine .flagged ?_
    exact (Spelled.unsigned (hcode (hleft ▸ by decide))).cons <|
      (Spelled.unsigned (hcode hright)).cons <|
      (Spelled.unsigned (hcode (htop ▸ by decide))).cons <|
      (Spelled.unsigned (hcode hbottom)).cons <| .pure _

theorem usability_spelled : Spelled Usability.read usabilityElements .squareSamples := by
  have hidc : Spelled (Read.bits 8) [.bits 8 squareSample] 1 := .bits _ (by decide)
  exact hidc.flagged.append <| (Spelled.flag false).cons <| (Spelled.flag false).cons <|
    (Spelled.flag false).cons <| (Spelled.flag false).cons <| (Spelled.flag false).cons <|
    (Spelled.flag false).cons <| (Spelled.flag false).cons <| (Spelled.flag false).cons <| .pure _

/-- **A sequence parameter set** is spelled by the elements that are laid out for its record. -/
theorem sequenceSet_spelled (profile : Profile) {record : Record.Picture}
    (h : record.sequence.picOrderCntType ≠ 1) (options : Options) :
    ∃ elements, sequenceElements profile record options = .ok elements ∧
      Spelled SequenceSet.read elements (.ofRecord profile record options) := by
  refine ⟨_, by rw [sequenceElements, orderCountElements_eq h, ok_bind, Crop.ofSize_eq]; rfl, ?_⟩
  simp only [List.append_assoc, List.cons_append, List.nil_append]
  unfold SequenceSet.read
  exact (Spelled.byte _).cons <| (Spelled.flags 6 false).append <|
    (Spelled.bits _ (by decide)).cons <| (Spelled.byte _).cons <|
    (Spelled.unsigned rfl).cons <| (chromaBlock_spelled profile record).append <|
    (Spelled.unsigned8 _).cons <| (Spelled.unsigned8 _).cons <|
    (lsbLength_spelled record).append <| (Spelled.unsigned8 _).cons <| (Spelled.flag _).cons <|
    (Spelled.unsigned16 _).cons <| (Spelled.unsigned16 _).cons <| (Spelled.flag _).cons <|
    (mbAdaptive_spelled record.sequence).append <| (Spelled.flag _).cons <|
    (crop_spelled record _ _ _).append <| usability_spelled.flagged.append <| .pure _

/-! ## The picture parameter set -/

/-- **A picture parameter set** is spelled by the elements that are laid out for its record. -/
theorem pictureSet_spelled (record : Record.Picture) :
    Spelled PictureSet.read (pictureElements record) (.ofRecord record) := by
  have hweights : Spelled (Read.bits 2)
      [.bits 2 record.picture.weightedBipredIdc.toUInt64]
      (record.picture.weightedBipredIdc.toNat % 4) := .bits _ (by decide)
  unfold PictureSet.read pictureElements
  exact (Spelled.unsigned rfl).cons <| (Spelled.unsigned rfl).cons <| (Spelled.flag _).cons <|
    (Spelled.flag _).cons <| (Spelled.unsigned rfl).cons <| (Spelled.unsigned rfl).cons <|
    (Spelled.unsigned rfl).cons <| (Spelled.flag _).cons <| hweights.cons <|
    (Spelled.signed _).cons <| (Spelled.signed _).cons <| (Spelled.signed _).cons <|
    (Spelled.flag _).cons <| (Spelled.flag _).cons <| (Spelled.flag _).cons <| .pure _

/-! ## The units -/

/-- Read a payload to its end, with the trailing bits behind it. -/
def readPayload {α : Type} (read : Read α) (payload : Bytes) : Except Fault (α × Reader) :=
  (do let value ← read; Read.trailing; pure value : Read α) (Reader.ofPayload payload)

/-- What is written for a spelled list of elements is read to its end. -/
theorem Spelled.readPayload_eq {α : Type} {read : Read α} {elements : List Element} {value : α}
    (h : Spelled read elements value) :
    readPayload read
      (Nal.escape 0 (Nal.pack (elements.flatMap Element.bitString ++ [true]))) =
        .ok (value, []) := by
  rw [readPayload, Nal.ofPayload_escape, h.yields.run_bind]
  change Read.trailing _ >>= _ = _
  rw [Nal.Read.trailing_padding (Nal.padding_lt _), ok_bind]
  rfl

/-- A sequence parameter set is written as the unit of its elements. -/
theorem writeSequenceSet_eq {profile : Profile} {record : Record.Picture} {options : Options}
    {elements : List Element} (h : sequenceElements profile record options = .ok elements)
    (w : Writer) :
    writeSequenceSet w profile record options = w.writeUnit .sps parameterSetRefIdc elements := by
  rw [writeSequenceSet, Writer.writeUnit, h]
  rfl

/-- No set is written of a record with order count type 1. -/
theorem writeSequenceSet_faults {record : Record.Picture}
    (h : record.sequence.picOrderCntType = 1) (profile : Profile) (options : Options) :
    writeSequenceSet .empty profile record options = .error .pictureOrderType := by
  have hkind : UnitType.Writable .sps := by decide
  obtain ⟨w, hw, -⟩ := (Writer.keeps_empty true).holds.beginUnit hkind
    (show parameterSetRefIdc ≤ 3 by decide)
  rw [writeSequenceSet, show Writer.empty.beginUnit .sps parameterSetRefIdc = _ from hw,
    ok_bind, sequenceElements, orderCountElements, h]
  rfl

/-- The unit of a parameter set. -/
def setUnit (escaping : Bool) (kind : UnitType) (elements : List Element) : Bytes :=
  Draft.unit escaping kind parameterSetRefIdc (elements.flatMap Element.bitString)

/-- **Both parameter sets** are written one behind the other, whatever was written before. -/
theorem keeps_parameterSets {escaping : Bool} {settled : Bytes} {w : Writer}
    (hw : w.Keeps escaping { settled := settled }) {profile : Profile} {record : Record.Picture}
    {options : Options} {elements : List Element}
    (h : sequenceElements profile record options = .ok elements)
    (hwritable : ∀ e ∈ elements, e.Writable) :
    ∃ w', (writeSequenceSet w profile record options >>= fun w => writePictureSet w record) =
        .ok w' ∧
      w'.Keeps escaping
        { settled := settled ++ startCode ++ setUnit escaping .sps elements ++ startCode ++
            setUnit escaping .pps (pictureElements record) } := by
  have hsps : UnitType.Writable .sps := by decide
  have hpps : UnitType.Writable .pps := by decide
  have href : parameterSetRefIdc ≤ 3 := by decide
  obtain ⟨w₁, hw₁, h₁⟩ := hw.writeUnit hsps href hwritable
  obtain ⟨w₂, hw₂, h₂⟩ := h₁.writeUnit hpps href (pictureSet_spelled record).writable
  refine ⟨w₂, ?_, h₂⟩
  rw [writeSequenceSet_eq h, hw₁, ok_bind]
  exact hw₂

/-- The bytes of a set are its header and the payload. -/
theorem setUnit_eq {kind : UnitType} (hkind : kind.Writable) (elements : List Element) :
    setUnit true kind elements = Nal.headerByte kind parameterSetRefIdc ::
      Nal.escape 0 (Nal.pack (elements.flatMap Element.bitString ++ [true])) := by
  rw [setUnit, Draft.unit, Draft.payload, if_pos rfl, List.append_assoc,
    Nal.escape_pack_header hkind (by decide)]

/-- **Parameter sets are read back from the stream.** For every record but those of order count
type 1, the two sets are accepted and are the only units of the stream, with the headers 0x67
and 0x68. A reader that goes by what it has read gets from each payload what the record and the
fixed values say, and finds nothing but the trailing bits behind it. -/
theorem parameterSets_readBack (profile : Profile) {record : Record.Picture}
    (h : record.sequence.picOrderCntType ≠ 1) (options : Options) :
    ∃ w sequence picture,
      (writeSequenceSet .empty profile record options >>= fun w => writePictureSet w record) =
        .ok w ∧
      w.bytes = .ok (startCode ++ 0x67 :: sequence ++ startCode ++ 0x68 :: picture) ∧
      Nal.Stream.split (startCode ++ 0x67 :: sequence ++ startCode ++ 0x68 :: picture) =
        [0x67 :: sequence, 0x68 :: picture] ∧
      readPayload SequenceSet.read sequence = .ok (.ofRecord profile record options, []) ∧
      readPayload PictureSet.read picture = .ok (.ofRecord record, []) := by
  obtain ⟨elements, helements, hsequence⟩ := sequenceSet_spelled profile h options
  obtain ⟨w, hw, hkeeps⟩ :=
    keeps_parameterSets (Writer.keeps_empty true) helements hsequence.writable
  have hsps := setUnit_eq (show UnitType.Writable .sps by decide) elements
  have hpps := setUnit_eq (show UnitType.Writable .pps by decide) (pictureElements record)
  have hframed : ∀ unit ∈ [setUnit true .sps elements, setUnit true .pps (pictureElements record)],
      Nal.Framed unit :=
    List.forall_mem_cons.mpr ⟨Nal.framed_unit _ _ _,
      List.forall_mem_singleton.mpr (Nal.framed_unit _ _ _)⟩
  have hsplit := Nal.Stream.split_join hframed
  have hbytes := hkeeps.holds.bytes_eq
  rw [Nal.Stream.join, List.flatMap_cons, List.flatMap_singleton, ← List.append_assoc] at hsplit
  rw [hsps, hpps] at hsplit hbytes
  exact ⟨w, _, _, hw, hbytes, hsplit, hsequence.readPayload_eq,
    (pictureSet_spelled record).readPayload_eq⟩

/-- A 4:4:4 sequence that may hold fields, with bit fields beyond their bits, the longest codes
and a crop. -/
theorem parameterSets_readBack_fields :
    let record : Record.Picture := {
      widthInMbsMinus1 := 65535
      bitDepthLumaMinus8 := 255
      numRefFrames := 255
      sequence := {
        chromaFormatIdc := 3
        mbAdaptiveFrameField := true
        log2MaxFrameNumMinus4 := 255
        log2MaxPicOrderCntLsbMinus4 := 200 }
      initQpMinus26 := -128
      initQsMinus26 := 127
      picture := { weightedBipredIdc := 7 } }
    record.sequence.picOrderCntType ≠ 1 ∧
      ∃ w sequence picture,
        (writeSequenceSet .empty .high record { level := .l6_2, width := 1, height := 1 } >>=
          fun w => writePictureSet w record) = .ok w ∧
        w.bytes = .ok (startCode ++ 0x67 :: sequence ++ startCode ++ 0x68 :: picture) ∧
        readPayload SequenceSet.read sequence = .ok ({
          profileIdc := 100
          constraintSets := [false, false, false, false, false, false]
          reservedZeroBits := 0
          levelIdc := 62
          id := 0
          chroma := some {
            formatIdc := 3
            separateColourPlane := some false
            bitDepthLumaMinus8 := 255
            bitDepthChromaMinus8 := 0
            transformBypass := false
            scalingMatrixPresent := false }
          log2MaxFrameNumMinus4 := 255
          picOrderCntType := 0
          log2MaxPicOrderCntLsbMinus4 := some 200
          numRefFrames := 255
          gapsInFrameNumValueAllowed := false
          widthInMbsMinus1 := 65535
          heightInMapUnitsMinus1 := 0
          frameMbsOnly := false
          mbAdaptiveFrameField := some true
          direct8x8Inference := false
          crop := some { right := 1048575, bottom := 15 }
          usability := some .squareSamples }, []) ∧
        readPayload PictureSet.read picture = .ok ({
          id := 0
          sequenceId := 0
          entropyCodingMode := false
          picOrderPresent := false
          numSliceGroupsMinus1 := 0
          defaultL0Minus1 := 4
          defaultL1Minus1 := 0
          weightedPred := false
          weightedBipredIdc := 3
          initQpMinus26 := -128
          initQsMinus26 := 127
          chromaQpIndexOffset := 0
          deblockingFilterControlPresent := false
          constrainedIntraPred := false
          redundantPicCntPresent := false }, []) := by
  intro record
  have htype : record.sequence.picOrderCntType ≠ 1 := by decide
  obtain ⟨w, sequence, picture, hw, hbytes, -, hsequence, hpicture⟩ :=
    parameterSets_readBack .high htype { level := .l6_2, width := 1, height := 1 }
  refine ⟨htype, w, sequence, picture, hw, hbytes, ?_, ?_⟩
  · exact hsequence.trans (congrArg (fun set => Except.ok (set, [])) (by decide))
  · exact hpicture.trans (congrArg (fun set => Except.ok (set, [])) (by decide))

end AvcDriver.Header
