import AvcDriver.Fault
import AvcDriver.Memory.Basic

/-!
# Planes and row copies

A plane is a rectangle of bytes in a memory: rows of `stride` bytes, one behind
the other, from an offset on. The last row may be short. `copyRowwise` copies the
first bytes of the first rows of one plane onto another; rows that either plane
does not have, and bytes that either row does not have, are left alone. A plane
whose stride is zero has no rows to go through. When both planes are packed as
tightly as the rows that are copied, one flat copy does the same.
-/

namespace AvcDriver.Memory

/-- A rectangle of bytes inside a memory. -/
structure Window where
  /-- where the first row starts -/
  start : Nat
  /-- how many bytes belong to the window -/
  size : Nat
  /-- from the start of a row to the start of the next -/
  stride : Nat
  deriving DecidableEq, Repr

/-- All of a memory as rows of `stride` bytes. -/
def whole (m : Memory) (stride : Nat) : Window := { start := 0, size := m.size, stride }

/-- How many rows of `stride` bytes it takes to cover `size` bytes. -/
def Window.rows (w : Window) : Nat := (w.size + w.stride - 1) / w.stride

/-- Check that a window can be gone through row by row. -/
def Window.checkRows (w : Window) : Except Fault Unit :=
  if w.stride = 0 then .error .zeroStride else .ok ()

/-- How many bytes of row `row` lie inside the window, up to the next row. -/
def Window.rowSize (w : Window) (row : Nat) : Nat := min w.stride (w.size - row * w.stride)

/-- Copy up to `width` bytes of one row. -/
def copyRow (source : Memory) (origin : Window) (target : Memory) (goal : Window)
    (width row : Nat) : Memory :=
  source.copy (origin.start + row * origin.stride) target (goal.start + row * goal.stride)
    (min width (min (origin.rowSize row) (goal.rowSize row)))

/-- Copy up to `width` bytes of each of the first `rows` rows, row by row. -/
def copyRowwise (source : Memory) (origin : Window) (target : Memory) (goal : Window)
    (width rows : Nat) : Except Fault Memory := do
  origin.checkRows
  goal.checkRows
  pure ((List.range (min rows (min origin.rows goal.rows))).foldl
    (fun target row => copyRow source origin target goal width row) target)

/-- Copy up to `width` bytes of each of the first `rows` rows of tightly packed
planes. -/
def copyFlat (source : Memory) (origin : Window) (target : Memory) (goal : Window)
    (width rows : Nat) : Except Fault Memory := do
  let area ← checkedWord 64 (width * rows)
  pure (source.copy origin.start target goal.start (min area (min origin.size goal.size)))

/-- Copy the first `width` bytes of the first `rows` rows of one plane onto another,
as far as strides and sizes reach. -/
def copyPlane (source : Memory) (origin : Window) (target : Memory) (goal : Window)
    (width rows : Nat) : Except Fault Memory :=
  let width := min width (min origin.stride goal.stride)
  if width = 0 then .ok target
  else if origin.stride = width ∧ goal.stride = width then
    copyFlat source origin target goal width rows
  else copyRowwise source origin target goal width rows

end AvcDriver.Memory
