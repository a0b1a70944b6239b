import AvcDriver.Record.Picture
import AvcDriver.Record.Slice
import AvcDriver.Tool.Error

/-!
# What the command line tool submits

Pictures of a progressive 4:2:0 stream, each with one slice: the one the user gave,
or a short one that only looks right from the outside.
-/

namespace AvcDriver.Tool

/-- Macroblocks that cover a side, at least one, less one. -/
def macroblocksMinusOne (side : Side) (pixels : UInt32) : Except Error UInt16 :=
  let blocks := max ((pixels.toNat + 15) / 16) 1
  if blocks - 1 < UInt16.size then .ok (UInt16.ofNat (blocks - 1))
  else .error (.tooLarge side pixels)

/-- The record of every picture of a size. -/
def pictureParameters (width height : UInt32) : Except Error Record.Picture := do
  let widthInMbsMinus1 ← macroblocksMinusOne .width width
  let heightInMbsMinus1 ← macroblocksMinusOne .height height
  pure {
    widthInMbsMinus1
    heightInMbsMinus1
    numRefFrames := 1
    sequence := {
      chromaFormatIdc := 1
      frameMbsOnly := true
      direct8x8Inference := true
      log2MaxFrameNumMinus4 := 4
      log2MaxPicOrderCntLsbMinus4 := 4 }
    picture := { deblockingFilterControlPresent := true } }

/-- The type of the slice of a frame: the first one is intra. -/
def sliceTypeOf (frame : Nat) : Record.SliceType := if frame = 0 then .i else .p

/-- A slice, whose first byte says whether it is intra, and the rest nothing. -/
def syntheticSlice (sliceType : Record.SliceType) : Bytes :=
  (if sliceType.isIntra then 0x65 else 0x41) :: [0x88, 0x84, 0x21, 0xa0, 0x3f, 0xf8]

end AvcDriver.Tool
