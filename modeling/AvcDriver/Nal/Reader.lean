import AvcDriver.Bytes
import AvcDriver.Fault

/-!
# Reading fields of bits

A reader is the list of bits that are left, and a read takes its field off the
front. `ofBytes` starts at the first byte, `ofPayload` does so after taking the
emulation prevention bytes out. Reading past the end is a fault, never a value.
-/

namespace AvcDriver.Nal

/-- The bits left to read, first bit first. -/
abbrev Reader := List Bool

/-- A read: it takes bits off the front, or faults. -/
abbrev Read := StateT Reader (Except Fault)

namespace Reader

/-- The bits of a byte, most significant first. -/
def bitsOfByte (byte : UInt8) : List Bool :=
  let bit (place : Nat) : Bool := byte.toNat.testBit place
  [bit 7, bit 6, bit 5, bit 4, bit 3, bit 2, bit 1, bit 0]

/-- A reader in front of the first bit of a byte string. -/
def ofBytes (bytes : Bytes) : Reader := bytes.foldr (bitsOfByte · ++ ·) []

/-- A payload without its emulation prevention bytes, `zeros` being the number of
zero bytes just before it. A byte 3 goes when two or more zeros precede it. -/
def unescape (zeros : Nat) : Bytes → Bytes
  | [] => []
  | byte :: rest =>
    if 2 ≤ zeros ∧ byte = 3 then unescape 0 rest
    else byte :: unescape (if byte = 0 then zeros + 1 else 0) rest

/-- A reader in front of a NAL unit's payload. -/
def ofPayload (payload : Bytes) : Reader := ofBytes (unescape 0 payload)

/-- Bits left. -/
def remaining (r : Reader) : Nat := r.length

end Reader

namespace Read

/-- The next bit. -/
def bit : Read Bool
  | [] => .error .outOfBounds
  | b :: rest => .ok (b, rest)

/-- The number `value` continued by `count` more bits, in a 64-bit word: bits
shifted out of the word are lost. -/
def bitsOnto (value : Nat) : Nat → Read Nat
  | 0 => pure value
  | count + 1 => do
    let b ← bit
    bitsOnto ((2 * value + b.toNat) % UInt64.size) count

/-- The number that the next `count` bits spell. -/
def bits (count : Nat) : Read Nat := bitsOnto 0 count

/-- The zeros in front of the next one, which is read too, added to `zeros`. -/
def leadingZerosOnto (zeros : Nat) : Read Nat
  | [] => .error .outOfBounds
  | true :: rest => .ok (zeros, rest)
  | false :: rest => leadingZerosOnto (zeros + 1) rest

/-- The number of zeros in front of the next one, which is read too. -/
def leadingZeros : Read Nat := leadingZerosOnto 0

/-- An unsigned Exp-Golomb code, in a 32-bit word. -/
def ue : Read UInt32 := do
  let zeros ← leadingZeros
  let suffix ← bits zeros
  if 64 ≤ zeros then throw .overflow
  pure (UInt32.ofNat ((1 <<< zeros) - 1 + suffix))

/-- A signed Exp-Golomb code, in a 32-bit word. -/
def se : Read Int32 := do
  let index := (← ue).toNat
  pure (if index % 2 = 1 then Int32.ofNat ((index + 1) / 2) else Int32.ofInt (-(index / 2 : Nat)))

/-- Bits up to the next byte boundary, all of which have to be zero. -/
def alignment : Nat → Read Unit
  | 0 => pure ()
  | count + 1 => do
    if ← bit then throw .nonZeroAlignment
    alignment count

/-- The trailing bits of a unit, with nothing after them. -/
def trailing : Read Unit := do
  if !(← bit) then throw .missingStopBit
  alignment ((← get).length % 8)
  if !(← get).isEmpty then throw .dataAfterTrailingBits

end Read

end AvcDriver.Nal
