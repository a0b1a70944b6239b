import AvcDriver.Memory.Allocation

/-!
# Buffers

A buffer carries bytes between a client and the driver: parameter records, slice
data, or the pixels of an image. Buffers of the last kind belong to their image
and have no owning context.
-/

namespace AvcDriver

/-- What the bytes of a buffer are. -/
inductive BufferKind where
  | pictureParameter
  | iqMatrix
  | sliceParameter
  | sliceData
  | image
  | other (raw : UInt32)
  deriving DecidableEq, Repr

namespace BufferKind

/-- The kind with a given number. -/
def ofRaw (raw : UInt32) : BufferKind :=
  match raw with
  | 0 => pictureParameter
  | 1 => iqMatrix
  | 4 => sliceParameter
  | 5 => sliceData
  | 9 => image
  | raw => other raw

/-- The number of a kind. -/
def raw : BufferKind → UInt32
  | pictureParameter => 0
  | iqMatrix => 1
  | sliceParameter => 4
  | sliceData => 5
  | image => 9
  | other raw => raw

end BufferKind

/-- A buffer. -/
structure Buffer where
  id : Nat
  /-- the owning context, which buffers of images do not have -/
  context : Option Nat
  kind : BufferKind
  memory : Memory

namespace Buffer

/-- A buffer of `size` bytes that holds the given data, or zeros. -/
def make (id : Nat) (context : Option Nat) (kind : BufferKind) (size : Nat)
    (data : Option Block) : Except Fault Buffer :=
  match data with
  | none => do
    let memory ← Memory.allocate size 0
    pure { id, context, kind, memory }
  | some block =>
    if block.size = size then .ok { id, context, kind, memory := .ofBlock block }
    else .error .initialDataSize

/-- The bytes of a buffer. -/
def bytes (b : Buffer) : Bytes := b.memory.toBytes

end Buffer

/-- Which buffer of a store is meant. It names the same buffer for as long as
anything holds it, whatever happens to the buffer's handle. -/
structure BufferRef where
  index : Nat
  deriving DecidableEq, Repr

/-- Every buffer that was ever made, at the place its reference names. -/
abbrev BufferStore := Array Buffer

end AvcDriver
