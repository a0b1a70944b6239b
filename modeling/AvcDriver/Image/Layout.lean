import AvcDriver.Error
import AvcDriver.Fault

/-!
# Image layouts

An image is a buffer with the pixels of an NV12 picture, packed without gaps: the
luma rows, then the rows of interleaved chroma, of which there are half as many,
rounded up, each with an even number of bytes.

`Layout.nv12` computes such a layout in 32-bit words. `Layout.ofFormat` first
checks that the format is the one images have and that the size stays in range.
-/

namespace AvcDriver

/-- The code that four ASCII characters spell, first character in the lowest byte. -/
def fourcc (a b c d : Char) : UInt32 :=
  UInt32.ofNat (a.toNat + 256 * (b.toNat + 256 * (c.toNat + 256 * d.toNat)))

/-- 8-bit 4:2:0 with interleaved chroma. -/
def fourccNv12 : UInt32 := fourcc 'N' 'V' '1' '2'

/-- 10-bit 4:2:0 with interleaved chroma. -/
def fourccP010 : UInt32 := fourcc 'P' '0' '1' '0'

/-- 8-bit 4:2:0 with separate chroma planes. -/
def fourccYv12 : UInt32 := fourcc 'Y' 'V' '1' '2'

/-- A number rounded up to an even one. -/
def roundUpEven (n : Nat) : Nat := n + n % 2

/-- Half of a number, rounded up. -/
def halfUp (n : Nat) : Nat := (n + 1) / 2

namespace Image

/-- The format of an image. -/
structure Format where
  fourcc : UInt32
  byteOrder : UInt32
  bitsPerPixel : UInt32
  deriving DecidableEq, Repr

/-- Least significant byte first. -/
def lsbFirst : UInt32 := 1

/-- The one format of images. -/
def Format.nv12 : Format := ⟨fourccNv12, lsbFirst, 12⟩

/-- Every format of images. -/
def supportedFormats : List Format := [.nv12]

/-- Where a plane lies in an image. -/
structure PlaneLayout where
  stride : Nat
  offset : Nat
  deriving DecidableEq, Repr

/-- Where the planes lie in an image, and how large it is. -/
structure Layout where
  luma : PlaneLayout
  chroma : PlaneLayout
  dataSize : Nat
  deriving DecidableEq, Repr

namespace Layout

/-- How many planes a layout has. -/
def planeCount (_ : Layout) : Nat := planesOfPicture

/-- The packed layout of an NV12 picture. -/
def nv12 (width height : UInt32) : Except Fault Layout := do
  let width := width.toNat
  let height := height.toNat
  let chromaStride ← checkedWord 32 (roundUpEven width)
  let chromaOffset ← checkedWord 32 (width * height)
  let chromaSize ← checkedWord 32 (halfUp height * chromaStride)
  let dataSize ← checkedWord 32 (chromaOffset + chromaSize)
  pure {
    luma := { stride := width, offset := 0 }
    chroma := { stride := chromaStride, offset := chromaOffset }
    dataSize }

/-- The greatest width or height of an image. -/
def maxSide : UInt32 := 65535

/-- Whether the data of an image of this size fits a 32-bit size. -/
def Fits (width height : Nat) : Prop := width * height * 3 / 2 + width < UInt32.size - 1

instance (width height : Nat) : Decidable (Fits width height) :=
  inferInstanceAs (Decidable (_ < _))

/-- The layout of an image of a requested format and size. -/
def ofFormat (format : Format) (width height : UInt32) :
    Except (Failure DriverError) Layout :=
  if format.fourcc ≠ fourccNv12 then .error (.rejected (.invalidImageFormat format.fourcc))
  else if format.byteOrder ≠ lsbFirst ∨ format.bitsPerPixel ≠ 12 then
    .error (.rejected (.invalidParameter (.imageFormat format.byteOrder format.bitsPerPixel)))
  else if width = 0 ∨ height = 0 ∨ maxSide < width ∨ maxSide < height then
    .error (.rejected (.invalidParameter (.imageSize width height)))
  else if ¬ Fits width.toNat height.toNat then
    .error (.rejected (.invalidParameter (.imageSizeOverflow width height)))
  else (nv12 width height).mapError .faulted

end Layout

end Image

end AvcDriver
