import AvcDriver.Buffer
import AvcDriver.Image.Layout

/-!
# Images
-/

namespace AvcDriver

/-- An image: a format, a size, a layout, and the buffer that holds the pixels. -/
structure Image where
  id : Nat
  format : Image.Format
  width : UInt32
  height : UInt32
  layout : Image.Layout
  /-- the handle that the buffer was given -/
  bufferHandle : Nat
  buffer : BufferRef
  deriving DecidableEq, Repr

end AvcDriver
