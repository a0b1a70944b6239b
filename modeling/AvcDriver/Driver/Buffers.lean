import AvcDriver.Driver.Basic

/-!
# Requests about buffers

A client makes buffers for a context, reads and writes them, and destroys them. The
buffers of images can be read and written too, but go with their images only.
-/

namespace AvcDriver.Driver

variable {ε : Type}

/-- Make a buffer and put it into the table. -/
def addBuffer (owner : Option Nat) (kind : BufferKind) (size : Nat) (data : Option Block) :
    DriverM ε (Nat × BufferRef) := do
  let d ← get
  let (handle, buffers) ← Action.ofFaulting d.buffers.reserve
  let buffer ← Action.ofFaulting (Buffer.make handle owner kind size data)
  let target : BufferRef := ⟨d.bufferStore.size⟩
  set { d with
    buffers := buffers.commit handle target
    bufferStore := d.bufferStore.push buffer }
  pure (handle, target)

/-- The size of `count` elements of `size` bytes, in a 64-bit word. -/
def totalSize (size count : Nat) : Except DriverError Nat :=
  if size * count < UInt64.size then .ok (size * count)
  else .error (.invalidParameter .bufferSizeOverflow)

/-- Make a buffer of `count` elements of `size` bytes, with the given bytes, or zeros. -/
def createBuffer (owner : Nat) (kind : BufferKind) (size count : Nat)
    (data : Option Block) : DriverM ε Nat := do
  let _ ← context owner
  let total ← Action.ofExcept (totalSize size count)
  if let some block := data then
    demand (block.size = total) (.invalidParameter (.bufferDataLength block.size total))
  let (handle, _) ← addBuffer (some owner) kind total data
  pure handle

/-- Give a client access to the bytes of a buffer. -/
def mapBuffer {α : Type} (handle : Nat) (access : Memory → α × Memory) : DriverM ε α := do
  let target ← buffer handle
  let (answer, memory) := access (← bufferAt target).memory
  setMemory target memory
  pure answer

/-- Cut or extend a buffer to `size` bytes, new bytes being zero. -/
def resizeBuffer (handle size : Nat) : DriverM ε Unit := do
  let target ← buffer handle
  let memory ← Action.ofFaulting ((← bufferAt target).memory.resize size)
  setMemory target memory

/-- Whether a reference names a buffer that a context owns. -/
def isOwned (d : Driver ε) (target : BufferRef) : Bool :=
  (d.bufferStore[target.index]?).any (·.context.isSome)

/-- Destroy a buffer that a context owns. -/
def destroyBuffer (handle : Nat) : DriverM ε Unit := do
  let d ← get
  let (_, buffers) ← require (d.buffers.removeIf handle d.isOwned) (.invalidBuffer handle)
  modify fun d => { d with buffers }

end AvcDriver.Driver
