import AvcDriver.Fault
import AvcDriver.Memory.Basic

/-!
# Allocating memory

Memory is asked for by its size. A size beyond `maxSize` faults before anything is
made; up to there `allocate n b` is `n` bytes `b`, and `resize` cuts or extends with
zeros.
-/

namespace AvcDriver.Memory

/-- The most bytes of one allocation: offsets into it fit a signed 64-bit word. -/
def maxSize : Nat := (1 <<< 63) - 1

/-- Check that so many bytes can be asked for at once. -/
def checkSize (size : Nat) : Except Fault Unit :=
  if size ≤ maxSize then .ok () else .error .allocationTooLarge

/-- Memory of `n` bytes, all equal to `b`. -/
def allocate (n : Nat) (b : UInt8) : Except Fault Memory := do
  checkSize n
  pure (filled n b)

/-- The memory cut or extended to `n` bytes, new bytes being zero. -/
def resize (m : Memory) (n : Nat) : Except Fault Memory := do
  checkSize n
  pure (m.resized n)

end AvcDriver.Memory
