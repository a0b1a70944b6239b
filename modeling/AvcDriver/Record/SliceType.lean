/-!
# Slice types

A slice type is carried as a number below ten. Five to nine mean the same kinds
as zero to four and add that all slices of the picture are of that kind.
-/

namespace AvcDriver.Record

/-- A kind of slice. -/
inductive SliceType where
  | p
  | b
  | i
  | sp
  | si
  deriving DecidableEq, Repr

namespace SliceType

/-- The number a slice type is written as. -/
def code : SliceType → UInt8
  | p => 0
  | b => 1
  | i => 2
  | sp => 3
  | si => 4

/-- The slice type a number below ten stands for. -/
def ofCode? (raw : UInt8) : Option SliceType :=
  if 10 ≤ raw then none
  else
    match raw.toNat % 5 with
    | 0 => some p
    | 1 => some b
    | 2 => some i
    | 3 => some sp
    | _ => some si

/-- Intra slices refer to no other picture; a decoder can start at them. -/
def isIntra : SliceType → Bool
  | i => true
  | si => true
  | _ => false

@[simp] theorem ofCode?_code (kind : SliceType) : ofCode? kind.code = some kind := by
  cases kind <;> rfl

end SliceType

end AvcDriver.Record
