/-!
# Errors of parameter records
-/

namespace AvcDriver.Record

/-- The two kinds of parameter records. -/
inductive Kind where
  | picture
  | slice
  deriving DecidableEq, Repr

/-- Why a byte string is no parameter record. -/
inductive Error where
  /-- fewer bytes than the record has -/
  | truncated (kind : Kind) (expected actual : Nat)
  /-- a slice type of ten or more -/
  | invalidSliceType (raw : UInt8)
  deriving DecidableEq, Repr

/-- The name a kind of record has in messages. -/
def Kind.label : Kind → String
  | picture => "picture parameter"
  | slice => "slice parameter"

/-- The words of an error. -/
def Error.message : Error → String
  | truncated kind expected actual =>
    kind.label ++ s!" buffer too short: expected {expected} bytes, got {actual}"
  | invalidSliceType raw => s!"invalid slice_type {raw}"

end AvcDriver.Record
