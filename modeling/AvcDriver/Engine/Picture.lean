import AvcDriver.Memory.Basic

/-!
# Decoded pictures
-/

namespace AvcDriver.Engine

/-- A decoded picture: a luma plane, and a plane of interleaved chroma samples with
half as many rows. -/
structure Picture where
  /-- the tag of the submission the picture belongs to -/
  tag : UInt32
  width : UInt32
  height : UInt32
  luma : Memory
  lumaStride : Nat
  chroma : Memory
  chromaStride : Nat

end AvcDriver.Engine
