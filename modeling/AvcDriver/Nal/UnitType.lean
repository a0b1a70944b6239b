/-!
# NAL unit types

The `nal_unit_type` codes of H.264 (Table 7-1) that have a meaning to the
library, as an enumeration with its codes and its printed names. `ofCode?` and
`code` are inverse to each other on the listed types.
-/

namespace AvcDriver.Nal

/-- A kind of NAL unit. -/
inductive UnitType where
  | unspecified
  | nonIdrSlice
  | sliceDataA
  | sliceDataB
  | sliceDataC
  | idrSlice
  | sei
  | sps
  | pps
  | accessUnitDelimiter
  | endOfSequence
  | endOfStream
  | filler
  | spsExtension
  | prefixUnit
  | subsetSps
  | dps
  | codedSliceAux
  | codedSliceExtension
  deriving DecidableEq, Repr

namespace UnitType

/-- The five-bit code written into the NAL header. -/
def code : UnitType → UInt8
  | unspecified => 0
  | nonIdrSlice => 1
  | sliceDataA => 2
  | sliceDataB => 3
  | sliceDataC => 4
  | idrSlice => 5
  | sei => 6
  | sps => 7
  | pps => 8
  | accessUnitDelimiter => 9
  | endOfSequence => 10
  | endOfStream => 11
  | filler => 12
  | spsExtension => 13
  | prefixUnit => 14
  | subsetSps => 15
  | dps => 16
  | codedSliceAux => 19
  | codedSliceExtension => 20

/-- The name a unit type has in messages. -/
def label : UnitType → String
  | unspecified => "Unspecified"
  | nonIdrSlice => "NonIdrSlice"
  | sliceDataA => "SliceDataA"
  | sliceDataB => "SliceDataB"
  | sliceDataC => "SliceDataC"
  | idrSlice => "IdrSlice"
  | sei => "Sei"
  | sps => "Sps"
  | pps => "Pps"
  | accessUnitDelimiter => "AccessUnitDelimiter"
  | endOfSequence => "EndOfSequence"
  | endOfStream => "EndOfStream"
  | filler => "Filler"
  | spsExtension => "SpsExtension"
  | prefixUnit => "Prefix"
  | subsetSps => "SubsetSps"
  | dps => "Dps"
  | codedSliceAux => "CodedSliceAux"
  | codedSliceExtension => "CodedSliceExtension"

/-- Every unit type, in the order of the codes. -/
def all : List UnitType :=
  [unspecified, nonIdrSlice, sliceDataA, sliceDataB, sliceDataC, idrSlice, sei, sps, pps,
    accessUnitDelimiter, endOfSequence, endOfStream, filler, spsExtension, prefixUnit, subsetSps,
    dps, codedSliceAux, codedSliceExtension]

/-- The unit type with a given code, if the code is listed. -/
def ofCode? (raw : UInt8) : Option UnitType := all.find? (·.code == raw)

/-- Types a unit may be written with: codes 1 to 11, whose header is one byte long
and is followed by nothing else. -/
def Writable (kind : UnitType) : Prop := kind ≠ unspecified ∧ kind.code ≤ endOfStream.code

instance (kind : UnitType) : Decidable kind.Writable := inferInstanceAs (Decidable (_ ∧ _))

@[simp] theorem ofCode?_code (kind : UnitType) : ofCode? kind.code = some kind := by
  cases kind <;> rfl

end UnitType

end AvcDriver.Nal
