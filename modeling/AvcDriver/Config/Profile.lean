import AvcDriver.Header.Profile

/-!
# Profiles and entry points as clients name them

A client names a profile and an entry point by number. Numbers without a meaning
to the library are kept, so that a refusal can report them.
-/

namespace AvcDriver.Config

/-- A profile a client asks for. -/
inductive Profile where
  | h264Baseline
  | h264Main
  | h264High
  | h264ConstrainedBaseline
  | other (raw : Int)
  deriving DecidableEq, Repr

namespace Profile

/-- The profile with a given number. -/
def ofRaw (raw : Int) : Profile :=
  match raw with
  | 5 => h264Baseline
  | 6 => h264Main
  | 7 => h264High
  | 13 => h264ConstrainedBaseline
  | raw => other raw

/-- The number of a profile. -/
def raw : Profile → Int
  | h264Baseline => 5
  | h264Main => 6
  | h264High => 7
  | h264ConstrainedBaseline => 13
  | other raw => raw

/-- How the parameter sets of a profile are laid out. -/
def coded? : Profile → Option Header.Profile
  | h264Baseline => some .baseline
  | h264Main => some .main
  | h264High => some .high
  | h264ConstrainedBaseline => some .constrainedBaseline
  | other _ => none

/-- The name a profile has in messages. -/
def label : Profile → String
  | h264Baseline => "H264Baseline"
  | h264Main => "H264Main"
  | h264High => "H264High"
  | h264ConstrainedBaseline => "H264ConstrainedBaseline"
  | other raw => s!"Other({raw})"

end Profile

/-- An entry point a client asks for: which part of the decoding it hands over. -/
inductive Entrypoint where
  /-- everything from the slice data on -/
  | vld
  | other (raw : Int)
  deriving DecidableEq, Repr

namespace Entrypoint

/-- The entry point with a given number. -/
def ofRaw (raw : Int) : Entrypoint :=
  match raw with
  | 1 => vld
  | raw => other raw

/-- The number of an entry point. -/
def raw : Entrypoint → Int
  | vld => 1
  | other raw => raw

/-- The name an entry point has in messages. -/
def label : Entrypoint → String
  | vld => "Vld"
  | other raw => s!"Other({raw})"

end Entrypoint

end AvcDriver.Config
