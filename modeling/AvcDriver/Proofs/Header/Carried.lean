import AvcDriver.Proofs.Header.ReadBack

/-!
# What parameter sets carry

Of a record, the parameter sets carry what a reader gets back from them. Two records that agree
in that are written as the same bytes, and two that do not are never taken for each other. What
the sets do not carry is lost: among it are elements that the syntax has a place for.

* `Agree`: records that agree in every element that is carried.
* `headers_eq_iff_agree`: agreeing records are those that are written alike.
* `agree_withUncarried`: three elements that are not carried, though the syntax has a place for
  them.
-/

namespace AvcDriver.Header

open Nal (Element Writer)

variable {profile : Profile} {a b : Record.Picture}

/-- The bytes of both parameter sets, one written behind the other. -/
def headerBytes (profile : Profile) (record : Record.Picture) (options : Options) :
    Except Fault Bytes := do
  let w ← writeSequenceSet .empty profile record options
  let w ← writePictureSet w record
  w.bytes

/-- Two records agree in every element that parameter sets carry. Some elements are there only
if others say so, and the chroma format and the bit depths only in the high profile. -/
structure Agree (profile : Profile) (a b : Record.Picture) : Prop where
  chromaFormatIdc : profile = .high → a.sequence.chromaFormatIdc = b.sequence.chromaFormatIdc
  bitDepthLuma : profile = .high → a.bitDepthLumaMinus8 = b.bitDepthLumaMinus8
  bitDepthChroma : profile = .high → a.bitDepthChromaMinus8 = b.bitDepthChromaMinus8
  log2MaxFrameNum : a.sequence.log2MaxFrameNumMinus4 = b.sequence.log2MaxFrameNumMinus4
  picOrderCntType : a.sequence.picOrderCntType = b.sequence.picOrderCntType
  log2MaxPicOrderCntLsb : a.sequence.picOrderCntType = 0 →
    a.sequence.log2MaxPicOrderCntLsbMinus4 = b.sequence.log2MaxPicOrderCntLsbMinus4
  numRefFrames : a.numRefFrames = b.numRefFrames
  gapsInFrameNum :
    a.sequence.gapsInFrameNumValueAllowed = b.sequence.gapsInFrameNumValueAllowed
  width : a.widthInMbsMinus1 = b.widthInMbsMinus1
  height : a.heightInMbsMinus1 = b.heightInMbsMinus1
  frameMbsOnly : a.sequence.frameMbsOnly = b.sequence.frameMbsOnly
  mbAdaptive : a.sequence.frameMbsOnly = false →
    a.sequence.mbAdaptiveFrameField = b.sequence.mbAdaptiveFrameField
  direct8x8 : a.sequence.direct8x8Inference = b.sequence.direct8x8Inference
  entropyCodingMode : a.picture.entropyCodingMode = b.picture.entropyCodingMode
  picOrderPresent : a.picture.picOrderPresent = b.picture.picOrderPresent
  weightedPred : a.picture.weightedPred = b.picture.weightedPred
  weightedBipred : a.picture.weightedBipredIdc = b.picture.weightedBipredIdc
  initQp : a.initQpMinus26 = b.initQpMinus26
  initQs : a.initQsMinus26 = b.initQsMinus26
  chromaQpIndexOffset : a.chromaQpIndexOffset = b.chromaQpIndexOffset
  deblockingFilterControl :
    a.picture.deblockingFilterControlPresent = b.picture.deblockingFilterControlPresent
  constrainedIntraPred : a.picture.constrainedIntraPred = b.picture.constrainedIntraPred
  redundantPicCnt : a.picture.redundantPicCntPresent = b.picture.redundantPicCntPresent

/-! ## Records that agree are written alike -/

theorem Agree.chromaElements_eq (h : Agree profile a b) :
    chromaElements profile a = chromaElements profile b := by
  by_cases hhigh : profile = .high
  · rw [chromaElements, chromaElements, h.chromaFormatIdc hhigh, h.bitDepthLuma hhigh,
      h.bitDepthChroma hhigh]
  · have hnone := mt (hasChromaFormat_iff profile).mp hhigh
    rw [chromaElements, chromaElements, if_neg hnone, if_neg hnone]

theorem Agree.derivedChromaFormat_eq (h : Agree profile a b) :
    derivedChromaFormat profile a = derivedChromaFormat profile b := by
  by_cases hhigh : profile = .high
  · rw [derivedChromaFormat, derivedChromaFormat, h.chromaFormatIdc hhigh]
  · have hnone := mt (hasChromaFormat_iff profile).mp hhigh
    rw [derivedChromaFormat, derivedChromaFormat, if_neg hnone, if_neg hnone]

theorem Agree.orderCountElements_eq (h : Agree profile a b) :
    orderCountElements a = orderCountElements b := by
  by_cases hzero : a.sequence.picOrderCntType = 0
  · rw [orderCountElements, orderCountElements, ← h.picOrderCntType,
      h.log2MaxPicOrderCntLsb hzero]
  · rw [h.picOrderCntType] at hzero
    simp only [orderCountElements, h.picOrderCntType, if_neg hzero]

theorem Agree.crop_eq (h : Agree profile a b) (chromaFormat : UInt8) (width height : Nat) :
    Crop.ofSize? a chromaFormat width height = Crop.ofSize? b chromaFormat width height := by
  have hfactor : a.frameFactor = b.frameFactor := by
    rw [Record.Picture.frameFactor, Record.Picture.frameFactor, h.frameMbsOnly]
  have hwidth : codedWidth a = codedWidth b := by
    rw [codedWidth, codedWidth, Record.Picture.widthInMbs, Record.Picture.widthInMbs, h.width]
  have hheight : codedHeight a = codedHeight b := by
    rw [codedHeight, codedHeight, Record.Picture.heightInMbs, Record.Picture.heightInMbs,
      Record.Picture.heightInMapUnits, Record.Picture.heightInMapUnits, h.height, hfactor]
  rw [Crop.ofSize?, Crop.ofSize?, hwidth, hheight, hfactor]

theorem Agree.mbAdaptive_eq (h : Agree profile a b) :
    (if a.sequence.frameMbsOnly then [] else [Element.flag a.sequence.mbAdaptiveFrameField]) =
      if b.sequence.frameMbsOnly then [] else [Element.flag b.sequence.mbAdaptiveFrameField] := by
  rw [← h.frameMbsOnly]
  split
  · rfl
  · next hfields => rw [h.mbAdaptive (Bool.eq_false_of_not_eq_true hfields)]

theorem Agree.sequenceElements_eq (h : Agree profile a b) (options : Options) :
    sequenceElements profile a options = sequenceElements profile b options := by
  unfold sequenceElements
  dsimp only
  rw [h.orderCountElements_eq, h.derivedChromaFormat_eq, Crop.ofSize_eq, Crop.ofSize_eq, h.crop_eq,
    h.chromaElements_eq,
    h.mbAdaptive_eq, h.log2MaxFrameNum, h.numRefFrames, h.gapsInFrameNum, h.width, h.height,
    h.frameMbsOnly, h.direct8x8]

theorem Agree.pictureElements_eq (h : Agree profile a b) :
    pictureElements a = pictureElements b := by
  simp only [pictureElements, h.entropyCodingMode, h.picOrderPresent, h.weightedPred,
    h.weightedBipred, h.initQp, h.initQs, h.chromaQpIndexOffset, h.deblockingFilterControl,
    h.constrainedIntraPred, h.redundantPicCnt]

/-- Records that agree are written alike. -/
theorem Agree.headerBytes_eq (h : Agree profile a b) (options : Options) :
    headerBytes profile a options = headerBytes profile b options := by
  simp only [headerBytes, writeSequenceSet, writePictureSet, h.sequenceElements_eq,
    h.pictureElements_eq]

/-! ## Records that are read alike agree -/

/-- Records of which the same is read agree. -/
theorem agree_of_sets {options : Options}
    (hsequence : SequenceSet.ofRecord profile a options = .ofRecord profile b options)
    (hpicture : PictureSet.ofRecord a = .ofRecord b) (ha : a.picture.weightedBipredIdc < 4)
    (hb : b.picture.weightedBipredIdc < 4) : Agree profile a b := by
  simp only [SequenceSet.ofRecord, SequenceSet.mk.injEq, UInt8.toNat_inj, UInt16.toNat_inj,
    true_and, and_true] at hsequence
  simp only [PictureSet.ofRecord, PictureSet.mk.injEq, Int8.toInt_inj, true_and] at hpicture
  obtain ⟨hchroma, hframeNum, hkind, hlsb, hreferences, hgaps, hwidth, hheight, hframe, hadaptive,
    hdirect, -⟩ := hsequence
  obtain ⟨hentropy, hpresent, hweighted, hbipred, hqp, hqs, hoffset, hdeblocking, hintra,
    hredundant⟩ := hpicture
  have hblock (hhigh : profile = .high) : ChromaBlock.ofRecord a = ChromaBlock.ofRecord b := by
    rw [if_pos hhigh, if_pos hhigh] at hchroma
    exact Option.some.inj hchroma
  constructor
  case chromaFormatIdc =>
    exact fun hhigh => UInt8.toNat_inj.mp (congrArg ChromaBlock.formatIdc (hblock hhigh))
  case bitDepthLuma =>
    exact fun hhigh => UInt8.toNat_inj.mp (congrArg ChromaBlock.bitDepthLumaMinus8 (hblock hhigh))
  case bitDepthChroma =>
    exact fun hhigh => UInt8.toNat_inj.mp (congrArg ChromaBlock.bitDepthChromaMinus8 (hblock hhigh))
  case log2MaxPicOrderCntLsb =>
    intro hzero
    rw [← hkind, if_pos hzero, if_pos hzero] at hlsb
    exact UInt8.toNat_inj.mp (Option.some.inj hlsb)
  case mbAdaptive =>
    intro hfields
    rw [← hframe, hfields] at hadaptive
    exact Option.some.inj hadaptive
  case weightedBipred =>
    -- two bits of it are written
    have ha : a.picture.weightedBipredIdc.toNat < 4 := UInt8.lt_iff_toNat_lt.mp ha
    have hb : b.picture.weightedBipredIdc.toNat < 4 := UInt8.lt_iff_toNat_lt.mp hb
    rw [Nat.mod_eq_of_lt ha, Nat.mod_eq_of_lt hb] at hbipred
    exact UInt8.toNat_inj.mp hbipred
  all_goals assumption

/-- The bytes of both sets are two framed units, in which a reader finds what the record says. -/
theorem headerBytes_units (profile : Profile) {record : Record.Picture}
    (h : record.sequence.picOrderCntType ≠ 1) (options : Options) :
    ∃ sequence picture, (∀ unit ∈ [0x67 :: sequence, 0x68 :: picture], Nal.Framed unit) ∧
      headerBytes profile record options =
        .ok (Nal.Stream.join [0x67 :: sequence, 0x68 :: picture]) ∧
      readPayload SequenceSet.read sequence = .ok (.ofRecord profile record options, []) ∧
      readPayload PictureSet.read picture = .ok (.ofRecord record, []) := by
  obtain ⟨elements, helements, hsequence⟩ := sequenceSet_spelled profile h options
  obtain ⟨w, hw, hkeeps⟩ :=
    keeps_parameterSets (Writer.keeps_empty true) helements hsequence.writable
  have hsps := setUnit_eq (show Nal.UnitType.Writable .sps by decide) elements
  have hpps := setUnit_eq (show Nal.UnitType.Writable .pps by decide) (pictureElements record)
  have hbytes := hkeeps.holds.bytes_eq
  refine ⟨_, _, ?_, ?_, hsequence.readPayload_eq, (pictureSet_spelled record).readPayload_eq⟩
  · refine List.forall_mem_cons.mpr ⟨hsps ▸ Nal.framed_unit _ _ _, ?_⟩
    exact List.forall_mem_singleton.mpr (hpps ▸ Nal.framed_unit _ _ _)
  · have hheader : headerBytes profile record options = w.bytes := by
      rw [headerBytes, ← bind_assoc, hw, ok_bind]
    rw [hheader, hbytes, hsps, hpps, Nal.Stream.join, List.flatMap_cons, List.flatMap_singleton,
      List.nil_append, ← List.append_assoc]
    rfl

/-- **Two records are written alike if and only if they agree** in every element that parameter
sets carry. -/
theorem headers_eq_iff_agree (profile : Profile) (ha : a.sequence.picOrderCntType ≠ 1)
    (hb : b.sequence.picOrderCntType ≠ 1) (hweightedA : a.picture.weightedBipredIdc < 4)
    (hweightedB : b.picture.weightedBipredIdc < 4) (options : Options) :
    ∃ bytesA bytesB, headerBytes profile a options = .ok bytesA ∧
      headerBytes profile b options = .ok bytesB ∧ (bytesA = bytesB ↔ Agree profile a b) := by
  obtain ⟨sequenceA, pictureA, hframedA, hbytesA, hreadA, hreadA'⟩ :=
    headerBytes_units profile ha options
  obtain ⟨sequenceB, pictureB, hframedB, hbytesB, hreadB, hreadB'⟩ :=
    headerBytes_units profile hb options
  refine ⟨_, _, hbytesA, hbytesB, ?_, ?_⟩
  · intro heq
    have hunits := congrArg Nal.Stream.split heq
    rw [Nal.Stream.split_join hframedA, Nal.Stream.split_join hframedB] at hunits
    obtain ⟨rfl, rfl⟩ : sequenceA = sequenceB ∧ pictureA = pictureB := by simpa using hunits
    have hsequence := Except.ok.inj (hreadA.symm.trans hreadB)
    have hpicture := Except.ok.inj (hreadA'.symm.trans hreadB')
    exact agree_of_sets (congrArg Prod.fst hsequence) (congrArg Prod.fst hpicture) hweightedA
      hweightedB
  · intro hagree
    have heq := hagree.headerBytes_eq options
    rw [hbytesA, hbytesB] at heq
    exact Except.ok.inj heq

/-- Records that differ in one flag at the end of the picture parameter set. -/
theorem headers_eq_iff_agree_redundant :
    let a : Record.Picture := { sequence := { chromaFormatIdc := 3, picOrderCntType := 2 } }
    let b := { a with picture := { redundantPicCntPresent := true } }
    ∃ bytesA bytesB, headerBytes .high a { width := 20, height := 18 } = .ok bytesA ∧
      headerBytes .high b { width := 20, height := 18 } = .ok bytesB ∧ bytesA ≠ bytesB := by
  intro a b
  obtain ⟨bytesA, bytesB, hA, hB, hiff⟩ := headers_eq_iff_agree .high (a := a) (b := b)
    (by decide) (by decide) (by decide) (by decide) { width := 20, height := 18 }
  refine ⟨bytesA, bytesB, hA, hB, fun heq => ?_⟩
  have hflag := (hiff.mp heq).redundantPicCnt
  exact absurd hflag (by decide)

/-! ## What is lost -/

/-- A record with other values for three elements that the syntax has a place for: the transform
mode, the chroma offset of the second component, and whether the colour planes of a 4:4:4 picture
are separate. -/
def withUncarried (record : Record.Picture) (transform8x8 : Bool) (secondOffset : Int8)
    (separatePlanes : Bool) : Record.Picture :=
  { record with
    picture := { record.picture with transform8x8Mode := transform8x8 }
    secondChromaQpIndexOffset := secondOffset
    sequence := { record.sequence with residualColourTransform := separatePlanes } }

/-- The sets do not carry these. -/
theorem agree_withUncarried (profile : Profile) (record : Record.Picture) (transform8x8 : Bool)
    (secondOffset : Int8) (separatePlanes : Bool) :
    Agree profile (withUncarried record transform8x8 secondOffset separatePlanes) record := by
  constructor
  all_goals intros; rfl

/-- Four records that differ in what the syntax has a place for, all with their fields in range,
are written as the same bytes. -/
theorem headers_drop_carried :
    let record : Record.Picture := { sequence := { chromaFormatIdc := 3, frameMbsOnly := true } }
    let records := [record, withUncarried record true 0 false, withUncarried record false 5 false,
      withUncarried record false 0 true]
    records.Nodup ∧
      (∀ r ∈ records, Record.SequenceFields.ofWord r.sequence.toWord = r.sequence ∧
        Record.PictureFields.ofWord r.picture.toWord = r.picture ∧ r.numSliceGroupsMinus1 = 0) ∧
      ∃ bytes, ∀ r ∈ records, headerBytes .high r {} = .ok bytes := by
  intro record records
  refine ⟨by decide, by decide, ?_⟩
  obtain ⟨sequence, picture, -, hbytes, -⟩ :=
    headerBytes_units .high (show record.sequence.picOrderCntType ≠ 1 by decide) {}
  refine ⟨Nal.Stream.join [0x67 :: sequence, 0x68 :: picture], ?_⟩
  have hsame (transform8x8 : Bool) (secondOffset : Int8) (separatePlanes : Bool) :=
    (agree_withUncarried .high record transform8x8 secondOffset separatePlanes).headerBytes_eq {}
  refine List.forall_mem_cons.mpr ⟨hbytes, List.forall_mem_cons.mpr ⟨(hsame ..).trans hbytes,
    List.forall_mem_cons.mpr ⟨(hsame ..).trans hbytes,
      List.forall_mem_singleton.mpr ((hsame ..).trans hbytes)⟩⟩⟩

end AvcDriver.Header
