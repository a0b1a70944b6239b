import AvcDriver.Engine.Basic
import AvcDriver.Image.Layout

/-!
# The gray engine

An engine that goes through the whole protocol without decoding: it asks for two
output buffers once, and then answers every submission that is not empty with one
flat gray picture of the context's size.
-/

namespace AvcDriver.Engine

/-- The state of a gray engine. -/
structure Gray where
  width : UInt32
  height : UInt32
  buffers : List OutputBuffer := []
  /-- the tag of the submission that has been answered with a picture -/
  answered : Option UInt32 := none
  /-- the picture that is to be handed out -/
  ready : Option Picture := none

namespace Gray

/-- Output buffers wanted in all. -/
def wantedBuffers : Nat := 2

/-- The value of every sample. -/
def level : UInt8 := 0x80

/-- A gray engine for pictures of a size that is not empty. -/
def make (params : Params) : Except DecodeError Gray :=
  if params.width = 0 ∨ params.height = 0 then .error (.engineInit (-1))
  else .ok { width := params.width, height := params.height }

/-- The flat picture that answers a submission. -/
def picture (g : Gray) (tag : UInt32) : Except Fault Picture := do
  let stride := roundUpEven g.width.toNat
  let luma ← Memory.allocate (stride * g.height.toNat) level
  let chroma ← Memory.allocate (stride * halfUp g.height.toNat) level
  pure {
    tag
    width := g.width
    height := g.height
    luma
    lumaStride := stride
    chroma
    chromaStride := stride }

/-- A number rounded up to whole macroblocks. -/
def roundUpMacroblock (n : Nat) : Nat := (n + 15) / 16 * 16

/-- Buffers for a picture in whole macroblocks, in 32-bit words, and how many are
still missing. -/
def info (g : Gray) : Except Fault BufferInfo := do
  let width ← checkedWord 32 (roundUpMacroblock g.width.toNat)
  let height ← checkedWord 32 (roundUpMacroblock g.height.toNat)
  let area ← checkedWord 32 (width * height)
  let samples ← checkedWord 32 (area * 3)
  if wantedBuffers < g.buffers.length then throw .overflow
  pure { size := samples / 2, count := wantedBuffers - g.buffers.length }

/-- What a decode call answers. A submission counts as answered even if its picture
cannot be made. -/
def decode (input : Input) (g : Gray) : Except Fault Output × Gray :=
  if g.buffers.length < wantedBuffers then
    (.ok { status := .waitingForBuffer, consumed := 0 }, g)
  else if g.answered.isNone ∧ !input.stream.isEmpty then
    let g := { g with answered := some input.tag }
    match g.picture input.tag with
    | .ok picture =>
      (.ok { status := .pictureDecoded, consumed := input.stream.length },
        { g with ready := some picture })
    | .error cause => (.error cause, g)
  else
    (.ok { status := .streamProcessed, consumed := input.stream.length },
      { g with answered := none })

instance : Engine Gray where
  decode input := fun g => decode input g
  nextPicture := fun g => (.ok g.ready, { g with ready := none })
  pictureConsumed _ := pure ()
  bufferInfo := fun g => (g.info, g)
  addBuffer buffer := fun g => (.ok (), { g with buffers := g.buffers ++ [buffer] })
  abort := fun g => (.ok (), { g with answered := none, ready := none })

end Gray

end AvcDriver.Engine
