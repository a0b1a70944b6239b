/-!
# Hexadecimal numbers in messages

Two spellings of a number: `hex`, with no padding, for attribute values and
format masks, and `hexWord`, always eight digits wide, for four-character codes.
Both start with `0x` and use lower-case digits.
-/

namespace AvcDriver

/-- The lower-case base-16 digits of a number, `"0"` for zero. -/
def hexDigits (n : Nat) : String := String.ofList (Nat.toDigits 16 n)

/-- A number as `0x` and its digits. -/
def hex (n : Nat) : String := "0x" ++ hexDigits n

/-- A 32-bit word as `0x` and eight digits, padded with zeros on the left. -/
def hexWord (n : Nat) : String :=
  let digits := hexDigits n
  "0x" ++ String.ofList (List.replicate (8 - digits.length) '0') ++ digits

end AvcDriver
