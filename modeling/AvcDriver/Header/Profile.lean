/-!
# Coded profiles and levels

The profiles whose parameter sets the library can lay out, and the levels of
H.264 (Table A-1), with the codes they have in a sequence parameter set.
-/

namespace AvcDriver.Header

/-- A profile as a sequence parameter set names it. -/
inductive Profile where
  | baseline
  | constrainedBaseline
  | main
  | high
  deriving DecidableEq, Repr

namespace Profile

/-- The `profile_idc` of a profile. -/
def idc : Profile → UInt8
  | baseline => 66
  | constrainedBaseline => 66
  | main => 77
  | high => 100

/-- The values of `profile_idc` with which a sequence parameter set holds a chroma
format and bit depths (H.264 7.3.2.1.1). -/
def idcsWithChromaFormat : List UInt8 :=
  [100, 110, 122, 244, 44, 83, 86, 118, 128, 138, 139, 134, 135]

/-- Whether a profile's parameter sets hold a chroma format and bit depths. -/
def hasChromaFormat (profile : Profile) : Bool := idcsWithChromaFormat.contains profile.idc

end Profile

/-- A level. -/
inductive Level where
  | l1b
  | l1
  | l1_1
  | l1_2
  | l1_3
  | l2
  | l2_1
  | l2_2
  | l3
  | l3_1
  | l3_2
  | l4
  | l4_1
  | l4_2
  | l5
  | l5_1
  | l5_2
  | l6
  | l6_1
  | l6_2
  deriving DecidableEq, Repr

namespace Level

/-- The `level_idc` of a level. -/
def idc : Level → UInt8
  | l1b => 9
  | l1 => 10
  | l1_1 => 11
  | l1_2 => 12
  | l1_3 => 13
  | l2 => 20
  | l2_1 => 21
  | l2_2 => 22
  | l3 => 30
  | l3_1 => 31
  | l3_2 => 32
  | l4 => 40
  | l4_1 => 41
  | l4_2 => 42
  | l5 => 50
  | l5_1 => 51
  | l5_2 => 52
  | l6 => 60
  | l6_1 => 61
  | l6_2 => 62

end Level

end AvcDriver.Header
