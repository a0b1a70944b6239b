import AvcDriver.Header.Crop
import AvcDriver.Header.Profile
import AvcDriver.Nal.Element

/-!
# Sequence and picture parameter sets

A client hands over the syntax elements of a stream, not its parameter sets, so
these are laid out anew: what the picture record holds is written as it is, and
the rest gets fixed values (set ids 0, no scaling lists, square samples, no
buffering model). The sets are equivalent for decoding and need not equal the ones
the stream was coded with.

`sequenceElements` and `pictureElements` are the payloads as lists of syntax
elements, in the order of H.264 7.3.2.1.1 and 7.3.2.2.
-/

namespace AvcDriver.Header

open Nal (Element Writer)

/-- Whether parameter sets may differ from those of the coded stream. -/
def approximate : Bool := true

/-- What a sequence parameter set holds that no record says. -/
structure Options where
  level : Level := .l5_1
  /-- the visible size; zero, or the coded size or more, turns cropping off -/
  width : UInt32 := 0
  height : UInt32 := 0
  deriving DecidableEq, Repr

/-- The reference idc of parameter sets. -/
def parameterSetRefIdc : Nat := 3

/-- The default number of references in list 0, less one. -/
def defaultL0Minus1 : UInt32 := 4

/-- The default number of references in list 1, less one. -/
def defaultL1Minus1 : UInt32 := 0

/-- The code of a square sample. -/
def squareSample : UInt64 := 1

/-! ## The sequence parameter set -/

/-- The chroma format a decoder derives from a sequence parameter set: 4:2:0 unless
the profile has it spelled out. -/
def derivedChromaFormat (profile : Profile) (record : Record.Picture) : UInt8 :=
  if profile.hasChromaFormat then record.sequence.chromaFormatIdc else 1

/-- The chroma format and the bit depths, where the profile has them. -/
def chromaElements (profile : Profile) (record : Record.Picture) : List Element :=
  if profile.hasChromaFormat then
    [.ue record.sequence.chromaFormatIdc.toUInt32] ++
      (if record.sequence.chromaFormatIdc = 3 then [.flag false] else []) ++
      [.ue record.bitDepthLumaMinus8.toUInt32, .ue record.bitDepthChromaMinus8.toUInt32,
        .flag false, .flag false]
  else []

/-- The picture order count type and what it carries. Type 1 carries fields that no
record holds. -/
def orderCountElements (record : Record.Picture) : Except Fault (List Element) :=
  let kind := record.sequence.picOrderCntType
  if kind = 0 then
    .ok [.ue kind.toUInt32, .ue record.sequence.log2MaxPicOrderCntLsbMinus4.toUInt32]
  else if kind = 1 then .error .pictureOrderType
  else .ok [.ue kind.toUInt32]

/-- The cropping flag and the offsets behind it. -/
def cropElements : Option Crop → List Element
  | none => [.flag false]
  | some crop =>
    [.flag true, .ue (UInt32.ofNat crop.left), .ue (UInt32.ofNat crop.right),
      .ue (UInt32.ofNat crop.top), .ue (UInt32.ofNat crop.bottom)]

/-- Usability information: square samples and nothing else. -/
def usabilityElements : List Element :=
  [.flag true, .bits 8 squareSample, .flag false, .flag false, .flag false, .flag false,
    .flag false, .flag false, .flag false, .flag false]

/-- The payload of a sequence parameter set. -/
def sequenceElements (profile : Profile) (record : Record.Picture) (options : Options) :
    Except Fault (List Element) := do
  let fields := record.sequence
  let orderCount ← orderCountElements record
  let crop ← Crop.ofSize record (derivedChromaFormat profile record)
    options.width.toNat options.height.toNat
  pure <|
    [.bits 8 profile.idc.toUInt64] ++ List.replicate 6 (.flag false) ++
    [.bits 2 0, .bits 8 options.level.idc.toUInt64, .ue 0] ++
    chromaElements profile record ++
    [.ue fields.log2MaxFrameNumMinus4.toUInt32] ++
    orderCount ++
    [.ue record.numRefFrames.toUInt32, .flag fields.gapsInFrameNumValueAllowed,
      .ue record.widthInMbsMinus1.toUInt32, .ue record.heightInMbsMinus1.toUInt32,
      .flag fields.frameMbsOnly] ++
    (if fields.frameMbsOnly then [] else [.flag fields.mbAdaptiveFrameField]) ++
    [.flag fields.direct8x8Inference] ++
    cropElements crop ++
    [.flag true] ++
    usabilityElements

/-- Write a sequence parameter set. -/
def writeSequenceSet (w : Writer) (profile : Profile) (record : Record.Picture)
    (options : Options) : Except Fault Writer := do
  let w ← w.beginUnit .sps parameterSetRefIdc
  let elements ← sequenceElements profile record options
  let w ← w.appendAll elements
  w.finishUnit

/-! ## The picture parameter set -/

/-- The payload of a picture parameter set. -/
def pictureElements (record : Record.Picture) : List Element :=
  let fields := record.picture
  [.ue 0, .ue 0, .flag fields.entropyCodingMode, .flag fields.picOrderPresent, .ue 0,
    .ue defaultL0Minus1, .ue defaultL1Minus1,
    .flag fields.weightedPred, .bits 2 fields.weightedBipredIdc.toUInt64,
    .se record.initQpMinus26.toInt32, .se record.initQsMinus26.toInt32,
    .se record.chromaQpIndexOffset.toInt32,
    .flag fields.deblockingFilterControlPresent, .flag fields.constrainedIntraPred,
    .flag fields.redundantPicCntPresent]

/-- Write a picture parameter set. -/
def writePictureSet (w : Writer) (record : Record.Picture) : Except Fault Writer :=
  w.writeUnit .pps parameterSetRefIdc (pictureElements record)

end AvcDriver.Header
