import AvcDriver.Fault
import AvcDriver.Record.Picture

/-!
# Frame cropping

A coded frame is a whole number of macroblocks wide and high. `Crop.ofSize`
works out how many crop units a sequence parameter set has to cut off at the right and
at the bottom so that the visible size remains (H.264 7.4.2.1.1, equations 7-19
to 7-22). A crop unit is a whole number of chroma samples, and of rows of both
fields, so the cropped frame may be larger than the visible one by less than a
unit, never smaller. Sizes are words of 32 bits; `Crop.ofSize?` is the same in
numbers.
-/

namespace AvcDriver.Header

/-- Samples on a side of a macroblock. -/
def macroblock : Nat := 16

/-- Luma samples of a coded row. -/
def codedWidth (record : Record.Picture) : Nat := record.widthInMbs * macroblock

/-- Luma rows of a coded frame. -/
def codedHeight (record : Record.Picture) : Nat := record.heightInMbs * macroblock

/-- Luma samples for one chroma sample, across and down (`SubWidthC`, `SubHeightC`). -/
def chromaSubsampling (chromaFormat : UInt8) : Nat × Nat :=
  match chromaFormat with
  | 1 => (2, 2)
  | 2 => (2, 1)
  | _ => (1, 1)

/-- Luma samples for one crop unit, across and down. Without chroma it is one
sample; in a sequence that may hold fields, a unit has rows of both. -/
def cropUnits (chromaFormat : UInt8) (frameFactor : Nat) : Nat × Nat :=
  if chromaFormat = 0 then (1, frameFactor)
  else
    let (across, down) := chromaSubsampling chromaFormat
    (across, down * frameFactor)

/-- Crop units cut off each side of a frame. -/
structure Crop where
  left : Nat := 0
  right : Nat
  top : Nat := 0
  bottom : Nat
  deriving DecidableEq, Repr

/-- The coded size, in words. -/
def codedSize (record : Record.Picture) : Except Fault (Nat × Nat) := do
  let mbsAcross ← checkedWord 32 record.widthInMbs
  let width ← checkedWord 32 (mbsAcross * macroblock)
  let unitsDown ← checkedWord 32 record.heightInMapUnits
  let mbsDown ← checkedWord 32 (unitsDown * record.frameFactor)
  let height ← checkedWord 32 (mbsDown * macroblock)
  pure (width, height)

/-- The crop for a visible size, if there is anything to cut off. A size of zero
asks for none. -/
def Crop.ofSize (record : Record.Picture) (chromaFormat : UInt8) (width height : Nat) :
    Except Fault (Option Crop) :=
  if width = 0 ∨ height = 0 then .ok none
  else do
    let (codedWidth, codedHeight) ← codedSize record
    if codedWidth ≤ width ∧ codedHeight ≤ height then pure none
    else
      let (across, down) := cropUnits chromaFormat record.frameFactor
      let down ← checkedWord 32 down
      pure <| some
        { right := (codedWidth - width) / across, bottom := (codedHeight - height) / down }

/-- What `Crop.ofSize` works out. -/
def Crop.ofSize? (record : Record.Picture) (chromaFormat : UInt8) (width height : Nat) :
    Option Crop :=
  if width = 0 ∨ height = 0 then none
  else if codedWidth record ≤ width ∧ codedHeight record ≤ height then none
  else
    let (across, down) := cropUnits chromaFormat record.frameFactor
    some {
      right := (codedWidth record - width) / across
      bottom := (codedHeight record - height) / down }

end AvcDriver.Header
