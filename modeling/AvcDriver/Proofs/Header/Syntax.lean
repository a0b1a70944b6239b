import AvcDriver.Header.ParameterSet
import AvcDriver.Nal.Reader

/-!
# Parameter sets as they are read

`SequenceSet` and `PictureSet` hold the syntax elements of a sequence and a picture parameter
set (H.264 7.3.2.1.1 and 7.3.2.2). Their `read` takes the elements off the front of a payload
in syntax order. Whether an element is there at all is decided by the elements before it, never
by what was meant to be written, so a reader that once loses its place reads nonsense from then
on.

What would stand behind a flag that no set of this library raises (scaling lists, slice groups,
timing, buffering) is not read. The flags themselves are.
-/

namespace AvcDriver.Header

open Nal (Read)

/-! ## Elements -/

/-- An unsigned Exp-Golomb element. -/
def readUnsigned : Read Nat := UInt32.toNat <$> Read.ue

/-- A signed Exp-Golomb element. -/
def readSigned : Read Int := Int32.toInt <$> Read.se

/-- What is there only if the elements before it say so. -/
def readIf {α : Type} (present : Bool) (read : Read α) : Read (Option α) :=
  if present then some <$> read else pure none

/-- A flag, and what is behind it if it is set. -/
def readFlagged {α : Type} (read : Read α) : Read (Option α) := do
  let present ← Read.bit
  readIf present read

/-! ## The sequence parameter set -/

/-- The chroma format and the bit depths of a sequence. -/
structure ChromaBlock where
  formatIdc : Nat
  /-- there for 4:4:4 only -/
  separateColourPlane : Option Bool
  bitDepthLumaMinus8 : Nat
  bitDepthChromaMinus8 : Nat
  transformBypass : Bool
  scalingMatrixPresent : Bool
  deriving DecidableEq, Repr

/-- Read a chroma format and bit depths. -/
def ChromaBlock.read : Read ChromaBlock := do
  let formatIdc ← readUnsigned
  let separateColourPlane ← readIf (formatIdc = 3) Read.bit
  let bitDepthLumaMinus8 ← readUnsigned
  let bitDepthChromaMinus8 ← readUnsigned
  let transformBypass ← Read.bit
  let scalingMatrixPresent ← Read.bit
  pure { formatIdc, separateColourPlane, bitDepthLumaMinus8, bitDepthChromaMinus8,
         transformBypass, scalingMatrixPresent }

/-- Read the offsets of a crop. -/
def Crop.read : Read Crop := do
  let left ← readUnsigned
  let right ← readUnsigned
  let top ← readUnsigned
  let bottom ← readUnsigned
  pure { left, right, top, bottom }

/-- Usability information (H.264 E.1.1). -/
structure Usability where
  aspectRatioIdc : Option Nat
  overscanPresent : Bool
  videoSignalPresent : Bool
  chromaLocationPresent : Bool
  timingPresent : Bool
  nalHrdPresent : Bool
  vclHrdPresent : Bool
  pictureStructPresent : Bool
  bitstreamRestriction : Bool
  deriving DecidableEq, Repr

/-- Read usability information. -/
def Usability.read : Read Usability := do
  let aspectRatioIdc ← readFlagged (Read.bits 8)
  let overscanPresent ← Read.bit
  let videoSignalPresent ← Read.bit
  let chromaLocationPresent ← Read.bit
  let timingPresent ← Read.bit
  let nalHrdPresent ← Read.bit
  let vclHrdPresent ← Read.bit
  let pictureStructPresent ← Read.bit
  let bitstreamRestriction ← Read.bit
  pure { aspectRatioIdc, overscanPresent, videoSignalPresent, chromaLocationPresent,
         timingPresent, nalHrdPresent, vclHrdPresent, pictureStructPresent,
         bitstreamRestriction }

/-- The elements of a sequence parameter set. -/
structure SequenceSet where
  profileIdc : Nat
  constraintSets : List Bool
  reservedZeroBits : Nat
  levelIdc : Nat
  id : Nat
  /-- there for the high profile only -/
  chroma : Option ChromaBlock
  log2MaxFrameNumMinus4 : Nat
  picOrderCntType : Nat
  /-- there for order count type 0 only -/
  log2MaxPicOrderCntLsbMinus4 : Option Nat
  numRefFrames : Nat
  gapsInFrameNumValueAllowed : Bool
  widthInMbsMinus1 : Nat
  heightInMapUnitsMinus1 : Nat
  frameMbsOnly : Bool
  /-- there if the sequence may hold fields -/
  mbAdaptiveFrameField : Option Bool
  direct8x8Inference : Bool
  /-- the offsets, if the cropping flag is set -/
  crop : Option Crop
  /-- usability information, if its flag is set -/
  usability : Option Usability
  deriving DecidableEq, Repr

/-- The `profile_idc` of the high profile. -/
def highProfileIdc : Nat := 100

/-- Read the elements of a sequence parameter set. -/
def SequenceSet.read : Read SequenceSet := do
  let profileIdc ← Read.bits 8
  let constraintSets ← (List.replicate 6 ()).mapM fun _ => Read.bit
  let reservedZeroBits ← Read.bits 2
  let levelIdc ← Read.bits 8
  let id ← readUnsigned
  let chroma ← readIf (profileIdc = highProfileIdc) ChromaBlock.read
  let log2MaxFrameNumMinus4 ← readUnsigned
  let picOrderCntType ← readUnsigned
  let log2MaxPicOrderCntLsbMinus4 ← readIf (picOrderCntType = 0) readUnsigned
  let numRefFrames ← readUnsigned
  let gapsInFrameNumValueAllowed ← Read.bit
  let widthInMbsMinus1 ← readUnsigned
  let heightInMapUnitsMinus1 ← readUnsigned
  let frameMbsOnly ← Read.bit
  let mbAdaptiveFrameField ← readIf (!frameMbsOnly) Read.bit
  let direct8x8Inference ← Read.bit
  let crop ← readFlagged Crop.read
  let usability ← readFlagged Usability.read
  pure { profileIdc, constraintSets, reservedZeroBits, levelIdc, id, chroma,
         log2MaxFrameNumMinus4, picOrderCntType, log2MaxPicOrderCntLsbMinus4, numRefFrames,
         gapsInFrameNumValueAllowed, widthInMbsMinus1, heightInMapUnitsMinus1, frameMbsOnly,
         mbAdaptiveFrameField, direct8x8Inference, crop, usability }

/-! ## The picture parameter set -/

/-- The elements of a picture parameter set. -/
structure PictureSet where
  id : Nat
  sequenceId : Nat
  entropyCodingMode : Bool
  picOrderPresent : Bool
  numSliceGroupsMinus1 : Nat
  defaultL0Minus1 : Nat
  defaultL1Minus1 : Nat
  weightedPred : Bool
  weightedBipredIdc : Nat
  initQpMinus26 : Int
  initQsMinus26 : Int
  chromaQpIndexOffset : Int
  deblockingFilterControlPresent : Bool
  constrainedIntraPred : Bool
  redundantPicCntPresent : Bool
  deriving DecidableEq, Repr

/-- Read the elements of a picture parameter set. -/
def PictureSet.read : Read PictureSet := do
  let id ← readUnsigned
  let sequenceId ← readUnsigned
  let entropyCodingMode ← Read.bit
  let picOrderPresent ← Read.bit
  let numSliceGroupsMinus1 ← readUnsigned
  let defaultL0Minus1 ← readUnsigned
  let defaultL1Minus1 ← readUnsigned
  let weightedPred ← Read.bit
  let weightedBipredIdc ← Read.bits 2
  let initQpMinus26 ← readSigned
  let initQsMinus26 ← readSigned
  let chromaQpIndexOffset ← readSigned
  let deblockingFilterControlPresent ← Read.bit
  let constrainedIntraPred ← Read.bit
  let redundantPicCntPresent ← Read.bit
  pure { id, sequenceId, entropyCodingMode, picOrderPresent, numSliceGroupsMinus1,
         defaultL0Minus1, defaultL1Minus1, weightedPred, weightedBipredIdc, initQpMinus26,
         initQsMinus26, chromaQpIndexOffset, deblockingFilterControlPresent,
         constrainedIntraPred, redundantPicCntPresent }

/-! ## What a record says -/

/-- The chroma block of a record. The colour planes are not separate, nothing is bypassed, and
there are no scaling lists. -/
def ChromaBlock.ofRecord (record : Record.Picture) : ChromaBlock where
  formatIdc := record.sequence.chromaFormatIdc.toNat
  separateColourPlane := if record.sequence.chromaFormatIdc = 3 then some false else none
  bitDepthLumaMinus8 := record.bitDepthLumaMinus8.toNat
  bitDepthChromaMinus8 := record.bitDepthChromaMinus8.toNat
  transformBypass := false
  scalingMatrixPresent := false

/-- Square samples, and nothing else said. -/
def Usability.squareSamples : Usability where
  aspectRatioIdc := some 1
  overscanPresent := false
  videoSignalPresent := false
  chromaLocationPresent := false
  timingPresent := false
  nalHrdPresent := false
  vclHrdPresent := false
  pictureStructPresent := false
  bitstreamRestriction := false

/-- The sequence parameter set of a record: what the record holds, and fixed values for what it
does not. -/
def SequenceSet.ofRecord (profile : Profile) (record : Record.Picture) (options : Options) :
    SequenceSet where
  profileIdc := profile.idc.toNat
  constraintSets := List.replicate 6 false
  reservedZeroBits := 0
  levelIdc := options.level.idc.toNat
  id := 0
  chroma := if profile = .high then some (.ofRecord record) else none
  log2MaxFrameNumMinus4 := record.sequence.log2MaxFrameNumMinus4.toNat
  picOrderCntType := record.sequence.picOrderCntType.toNat
  log2MaxPicOrderCntLsbMinus4 :=
    if record.sequence.picOrderCntType = 0 then
      some record.sequence.log2MaxPicOrderCntLsbMinus4.toNat
    else none
  numRefFrames := record.numRefFrames.toNat
  gapsInFrameNumValueAllowed := record.sequence.gapsInFrameNumValueAllowed
  widthInMbsMinus1 := record.widthInMbsMinus1.toNat
  heightInMapUnitsMinus1 := record.heightInMbsMinus1.toNat
  frameMbsOnly := record.sequence.frameMbsOnly
  mbAdaptiveFrameField :=
    if record.sequence.frameMbsOnly then none else some record.sequence.mbAdaptiveFrameField
  direct8x8Inference := record.sequence.direct8x8Inference
  crop := Crop.ofSize? record (derivedChromaFormat profile record) options.width.toNat
    options.height.toNat
  usability := some .squareSamples

/-- The picture parameter set of a record. Of the weighting of bipredictive slices there are
two bits. -/
def PictureSet.ofRecord (record : Record.Picture) : PictureSet where
  id := 0
  sequenceId := 0
  entropyCodingMode := record.picture.entropyCodingMode
  picOrderPresent := record.picture.picOrderPresent
  numSliceGroupsMinus1 := 0
  defaultL0Minus1 := 4
  defaultL1Minus1 := 0
  weightedPred := record.picture.weightedPred
  weightedBipredIdc := record.picture.weightedBipredIdc.toNat % 4
  initQpMinus26 := record.initQpMinus26.toInt
  initQsMinus26 := record.initQsMinus26.toInt
  chromaQpIndexOffset := record.chromaQpIndexOffset.toInt
  deblockingFilterControlPresent := record.picture.deblockingFilterControlPresent
  constrainedIntraPred := record.picture.constrainedIntraPred
  redundantPicCntPresent := record.picture.redundantPicCntPresent

end AvcDriver.Header
