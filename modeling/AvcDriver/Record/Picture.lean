import AvcDriver.Record.BitField
import AvcDriver.Record.Codec
import AvcDriver.Record.Error

/-!
# Picture parameter records

A client describes a picture by a record of 672 bytes: the current picture, 16
reference pictures, and the syntax elements of the sequence and the picture that
the stream's parameter sets carried. Two words of the record are bit fields.

`Picture.encode` writes a record and `Picture.parse` reads one from the front of
a byte string that is long enough.
-/

namespace AvcDriver.Record

/-! ## Reference pictures -/

/-- One picture in a record. -/
structure PictureEntry where
  pictureId : UInt32 := 0
  frameIdx : UInt32 := 0
  flags : UInt32 := 0
  topFieldOrderCnt : Int32 := 0
  bottomFieldOrderCnt : Int32 := 0
  deriving DecidableEq, Repr

namespace PictureEntry

/-- The entry that stands for no picture. -/
def invalid : PictureEntry where
  pictureId := 0xFFFFFFFF
  flags := 1

/-- An entry takes 36 bytes, the last 16 of them reserved. -/
def codec : Codec PictureEntry :=
  (Codec.pair .word32 <| .pair .word32 <| .pair .word32 <| .pair .int32 <| .pair .int32 <|
      .pad 16).via
    (fun (pictureId, frameIdx, flags, topFieldOrderCnt, bottomFieldOrderCnt, _) =>
      { pictureId, frameIdx, flags, topFieldOrderCnt, bottomFieldOrderCnt })
    (fun e =>
      (e.pictureId, e.frameIdx, e.flags, e.topFieldOrderCnt, e.bottomFieldOrderCnt, ()))

end PictureEntry

/-! ## Bit fields -/

/-- Syntax elements of the sequence that share one word. -/
structure SequenceFields where
  chromaFormatIdc : UInt8 := 0
  residualColourTransform : Bool := false
  gapsInFrameNumValueAllowed : Bool := false
  frameMbsOnly : Bool := false
  mbAdaptiveFrameField : Bool := false
  direct8x8Inference : Bool := false
  minLumaBiPredSize8x8 : Bool := false
  log2MaxFrameNumMinus4 : UInt8 := 0
  picOrderCntType : UInt8 := 0
  log2MaxPicOrderCntLsbMinus4 : UInt8 := 0
  deltaPicOrderAlwaysZero : Bool := false
  deriving DecidableEq, Repr

namespace SequenceFields

/-- The 19 bits of the sequence fields. -/
def layout : BitField SequenceFields :=
  (BitField.pair (.bits 2) <| .pair .flag <| .pair .flag <| .pair .flag <| .pair .flag <|
      .pair .flag <| .pair .flag <| .pair (.bits 4) <| .pair (.bits 2) <| .pair (.bits 4)
      .flag).via
    (fun (chromaFormatIdc, residualColourTransform, gapsInFrameNumValueAllowed, frameMbsOnly,
        mbAdaptiveFrameField, direct8x8Inference, minLumaBiPredSize8x8, log2MaxFrameNumMinus4,
        picOrderCntType, log2MaxPicOrderCntLsbMinus4, deltaPicOrderAlwaysZero) =>
      { chromaFormatIdc, residualColourTransform, gapsInFrameNumValueAllowed, frameMbsOnly,
        mbAdaptiveFrameField, direct8x8Inference, minLumaBiPredSize8x8, log2MaxFrameNumMinus4,
        picOrderCntType, log2MaxPicOrderCntLsbMinus4, deltaPicOrderAlwaysZero })
    (fun f =>
      (f.chromaFormatIdc, f.residualColourTransform, f.gapsInFrameNumValueAllowed,
        f.frameMbsOnly, f.mbAdaptiveFrameField, f.direct8x8Inference, f.minLumaBiPredSize8x8,
        f.log2MaxFrameNumMinus4, f.picOrderCntType, f.log2MaxPicOrderCntLsbMinus4,
        f.deltaPicOrderAlwaysZero))

/-- The fields in a word. Its bits from 19 up are ignored. -/
def ofWord (word : UInt32) : SequenceFields := layout.unpack word.toNat

/-- The word of the fields, each cut down to its bits. -/
def toWord (fields : SequenceFields) : UInt32 := UInt32.ofNat (layout.pack fields)

end SequenceFields

/-- Syntax elements of the picture that share one word. -/
structure PictureFields where
  entropyCodingMode : Bool := false
  weightedPred : Bool := false
  weightedBipredIdc : UInt8 := 0
  transform8x8Mode : Bool := false
  fieldPic : Bool := false
  constrainedIntraPred : Bool := false
  picOrderPresent : Bool := false
  deblockingFilterControlPresent : Bool := false
  redundantPicCntPresent : Bool := false
  referencePic : Bool := false
  deriving DecidableEq, Repr

namespace PictureFields

/-- The eleven bits of the picture fields. -/
def layout : BitField PictureFields :=
  (BitField.pair .flag <| .pair .flag <| .pair (.bits 2) <| .pair .flag <| .pair .flag <|
      .pair .flag <| .pair .flag <| .pair .flag <| .pair .flag .flag).via
    (fun (entropyCodingMode, weightedPred, weightedBipredIdc, transform8x8Mode, fieldPic,
        constrainedIntraPred, picOrderPresent, deblockingFilterControlPresent,
        redundantPicCntPresent, referencePic) =>
      { entropyCodingMode, weightedPred, weightedBipredIdc, transform8x8Mode, fieldPic,
        constrainedIntraPred, picOrderPresent, deblockingFilterControlPresent,
        redundantPicCntPresent, referencePic })
    (fun f =>
      (f.entropyCodingMode, f.weightedPred, f.weightedBipredIdc, f.transform8x8Mode, f.fieldPic,
        f.constrainedIntraPred, f.picOrderPresent, f.deblockingFilterControlPresent,
        f.redundantPicCntPresent, f.referencePic))

/-- The fields in a word. Its bits from 11 up are ignored. -/
def ofWord (word : UInt32) : PictureFields := layout.unpack word.toNat

/-- The word of the fields, each cut down to its bits. -/
def toWord (fields : PictureFields) : UInt32 := UInt32.ofNat (layout.pack fields)

end PictureFields

/-! ## The record -/

/-- Everything a client says about one picture. -/
structure Picture where
  current : PictureEntry := {}
  references : Vector PictureEntry 16 := Vector.replicate 16 PictureEntry.invalid
  widthInMbsMinus1 : UInt16 := 0
  heightInMbsMinus1 : UInt16 := 0
  bitDepthLumaMinus8 : UInt8 := 0
  bitDepthChromaMinus8 : UInt8 := 0
  numRefFrames : UInt8 := 0
  sequence : SequenceFields := {}
  numSliceGroupsMinus1 : UInt8 := 0
  sliceGroupMapType : UInt8 := 0
  sliceGroupChangeRateMinus1 : UInt16 := 0
  initQpMinus26 : Int8 := 0
  initQsMinus26 : Int8 := 0
  chromaQpIndexOffset : Int8 := 0
  secondChromaQpIndexOffset : Int8 := 0
  picture : PictureFields := {}
  frameNum : UInt16 := 0
  deriving DecidableEq, Repr

namespace Picture

/-- The layout of a record: one byte of padding in front of the first word of bit
fields, and 34 reserved bytes at the end. -/
def codec : Codec Picture :=
  (Codec.pair PictureEntry.codec <| .pair (.times 16 PictureEntry.codec) <|
      .pair .word16 <| .pair .word16 <| .pair .byte <| .pair .byte <| .pair .byte <|
      .pair (.pad 1) <| .pair (Codec.word32.via SequenceFields.ofWord SequenceFields.toWord) <|
      .pair .byte <| .pair .byte <| .pair .word16 <| .pair .int8 <| .pair .int8 <| .pair .int8 <|
      .pair .int8 <| .pair (Codec.word32.via PictureFields.ofWord PictureFields.toWord) <|
      .pair .word16 <| .pad 34).via
    (fun (current, references, widthInMbsMinus1, heightInMbsMinus1, bitDepthLumaMinus8,
        bitDepthChromaMinus8, numRefFrames, _, sequence, numSliceGroupsMinus1,
        sliceGroupMapType, sliceGroupChangeRateMinus1, initQpMinus26, initQsMinus26,
        chromaQpIndexOffset, secondChromaQpIndexOffset, picture, frameNum, _) =>
      { current, references, widthInMbsMinus1, heightInMbsMinus1, bitDepthLumaMinus8,
        bitDepthChromaMinus8, numRefFrames, sequence, numSliceGroupsMinus1,
        sliceGroupMapType, sliceGroupChangeRateMinus1, initQpMinus26, initQsMinus26,
        chromaQpIndexOffset, secondChromaQpIndexOffset, picture, frameNum })
    (fun r =>
      (r.current, r.references, r.widthInMbsMinus1, r.heightInMbsMinus1, r.bitDepthLumaMinus8,
        r.bitDepthChromaMinus8, r.numRefFrames, (), r.sequence, r.numSliceGroupsMinus1,
        r.sliceGroupMapType, r.sliceGroupChangeRateMinus1, r.initQpMinus26, r.initQsMinus26,
        r.chromaQpIndexOffset, r.secondChromaQpIndexOffset, r.picture, r.frameNum, ()))

/-- The length of a record. -/
def size : Nat := 672

@[simp] theorem codec_width : codec.width = size := rfl

/-- The record at the front of a byte string. -/
def parse (bytes : Bytes) : Except Error Picture :=
  if bytes.length < size then .error (.truncated .picture size bytes.length)
  else .ok (codec.decode bytes)

/-- The bytes of a record. -/
def encode (record : Picture) : Bytes := codec.encode record

/-- The width in macroblocks. -/
def widthInMbs (record : Picture) : Nat := record.widthInMbsMinus1.toNat + 1

/-- The height in map units, which are rows of macroblocks of a frame or of a field. -/
def heightInMapUnits (record : Picture) : Nat := record.heightInMbsMinus1.toNat + 1

/-- Rows of macroblocks of a frame for one map unit. -/
def frameFactor (record : Picture) : Nat := if record.sequence.frameMbsOnly then 1 else 2

/-- The height in macroblocks. -/
def heightInMbs (record : Picture) : Nat := record.heightInMapUnits * record.frameFactor

end Picture

end AvcDriver.Record
