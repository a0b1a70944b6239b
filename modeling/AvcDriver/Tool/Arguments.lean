import AvcDriver.Config.Profile

/-!
# Arguments of the command line tool

The tool takes options, most of which have a value. What it does not know it passes
over; an option at the end without its value changes nothing; a number that is none
stands for the default, and a profile that is none for the one chosen so far.
-/

namespace AvcDriver.Tool

/-- What the tool is asked to do. -/
structure Arguments where
  profile : Config.Profile := .h264Main
  width : UInt32 := 1920
  height : UInt32 := 1080
  /-- the file with a slice to submit -/
  slice : Option String := none
  /-- the file for the stream that is submitted -/
  out : Option String := none
  frames : UInt32 := 1
  verbose : Bool := false
  deriving DecidableEq, Repr

/-- What a command line asks for. -/
inductive Invocation where
  | run (arguments : Arguments)
  | help
  deriving DecidableEq, Repr

/-- The profile with a given name. -/
def profileNamed? (name : String) : Option Config.Profile :=
  match name with
  | "cb" => some .h264ConstrainedBaseline
  | "constrained-baseline" => some .h264ConstrainedBaseline
  | "main" => some .h264Main
  | "high" => some .h264High
  | _ => none

/-- The number that decimal digits spell. -/
def ofDigits (digits : List Char) : Nat :=
  digits.foldl (fun number digit => 10 * number + (digit.toNat - '0'.toNat)) 0

/-- The digits of a number, behind a plus sign if there is one. -/
def digitsOf (text : String) : List Char :=
  match text.toList with
  | '+' :: digits => digits
  | digits => digits

/-- A number in decimal digits that fits a 32-bit word. -/
def word? (text : String) : Option UInt32 :=
  let digits := digitsOf text
  if digits.isEmpty ∨ !digits.all Char.isDigit then none
  else if ofDigits digits < UInt32.size then some (UInt32.ofNat (ofDigits digits))
  else none

namespace Arguments

/-- How an option changes the arguments by its value, if it has one. -/
def setter? (option : String) : Option (Arguments → String → Arguments) :=
  match option with
  | "--profile" => some fun a value => { a with profile := (profileNamed? value).getD a.profile }
  | "--width" => some fun a value => { a with width := (word? value).getD 1920 }
  | "--height" => some fun a value => { a with height := (word? value).getD 1080 }
  | "--slice" => some fun a value => { a with slice := some value }
  | "--out" => some fun a value => { a with out := some value }
  | "--frames" => some fun a value => { a with frames := (word? value).getD 1 }
  | _ => none

/-- Whether an option asks for the usage text. -/
def isHelp (option : String) : Bool := option = "-h" ∨ option = "--help"

/-- Whether an option asks for more log lines. -/
def isVerbose (option : String) : Bool := option = "-v" ∨ option = "--verbose"

/-- Read options from the left. -/
def parseFrom (a : Arguments) : List String → Invocation
  | [] => .run a
  | option :: rest =>
    if isHelp option then .help
    else if isVerbose option then parseFrom { a with verbose := true } rest
    else
      match setter? option, rest with
      | some set, value :: rest => parseFrom (set a value) rest
      | _, rest => parseFrom a rest

/-- What a command line asks for. -/
def parse (options : List String) : Invocation := parseFrom {} options

end Arguments

/-- The usage text. -/
def usage : List String := [
  "vc8000d-tool - run pictures through the VC8000D decode driver",
  "",
  "Usage: vc8000d-tool [OPTIONS]",
  "",
  "Options:",
  "  --profile <NAME>     cb, main or high (default: main)",
  "  --width <PIXELS>     Picture width (default: 1920)",
  "  --height <PIXELS>    Picture height (default: 1080)",
  "  --slice <FILE>       Raw slice NAL unit to submit (default: synthetic)",
  "  --out <FILE>         Write the Annex B bitstream sent to the decoder",
  "  --frames <N>         Pictures to submit; the first is intra (default: 1)",
  "  -v, --verbose        Enable debug logging",
  "  -h, --help           Show this help"]

end AvcDriver.Tool
