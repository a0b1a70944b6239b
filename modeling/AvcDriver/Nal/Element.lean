import AvcDriver.Nal.Writer

/-!
# Syntax elements

The payload of a NAL unit is a list of typed fields. An `Element` is one field
with its value; `Writer.append` writes it, and `writeUnit` writes a whole unit
from its type, its reference idc and its elements.
-/

namespace AvcDriver.Nal

/-- A field of a NAL unit with its value. -/
inductive Element where
  /-- `u(count)`: the low bits of a number -/
  | bits (count : Nat) (value : UInt64)
  /-- `u(1)` -/
  | flag (value : Bool)
  /-- `ue(v)` -/
  | ue (value : UInt32)
  /-- `se(v)` -/
  | se (value : Int32)
  /-- whole bytes -/
  | bytes (value : Bytes)
  deriving DecidableEq, Repr

namespace Writer

/-- Append one element. -/
def append (w : Writer) : Element → Except Fault Writer
  | .bits count value => w.appendBits count value
  | .flag value => w.appendFlag value
  | .ue value => w.appendUe value
  | .se value => w.appendSe value
  | .bytes value => w.appendBytes value

/-- Append elements in order. -/
def appendAll (w : Writer) (elements : List Element) : Except Fault Writer :=
  elements.foldlM append w

/-- Write one unit from its elements. -/
def writeUnit (w : Writer) (kind : UnitType) (refIdc : Nat) (elements : List Element) :
    Except Fault Writer := do
  let w ← w.beginUnit kind refIdc
  let w ← w.appendAll elements
  w.finishUnit

end Writer

end AvcDriver.Nal
