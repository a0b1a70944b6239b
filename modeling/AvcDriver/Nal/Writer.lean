import AvcDriver.Bytes
import AvcDriver.Fault

/-!
# Writing NAL units

A `Writer` turns fields of bits into an Annex B byte stream. Bits gather, most
significant first, in a 64-bit register; a full register is spilled into the
output when the next bit arrives, and `flush` spills a part-full one, padded with
zeros to a byte. While a unit is open, spilled bytes pass through emulation
prevention (H.264 7.4.1): a byte 3 is put in front of every byte up to 3 that
would follow two zero bytes.

The output is readable only while no bits are pending.
-/

namespace AvcDriver.Nal

/-- The four bytes in front of every NAL unit of an Annex B stream. -/
def startCode : Bytes := [0, 0, 0, 1]

/-- A bit writer. -/
structure Writer where
  /-- whether units are written with emulation prevention -/
  escaping : Bool := true
  /-- whether a NAL unit is open -/
  unitOpen : Bool := false
  /-- a word whose low `held` bits are the pending ones, the first one highest -/
  register : UInt64 := 0
  /-- how many bits are pending, at most a register of them -/
  held : Nat := 0
  /-- the bytes that have left the register -/
  output : Array UInt8 := #[]
  deriving Repr

namespace Writer

/-- Bits the register holds. -/
def registerBits : Nat := 64

/-- A writer with nothing written. -/
def empty (escaping : Bool := true) : Writer where
  escaping := escaping

/-! ## The register -/

/-- The bytes of a word, the most significant one first. -/
def wordBytes (word : UInt64) : Bytes :=
  ([56, 48, 40, 32, 24, 16, 8, 0] : List UInt64).map fun place => (word >>> place).toUInt8

/-- The pending bits as bytes: they move up to the top of the register, so the last
byte is padded with zero bits on the right. -/
def pendingBytes (w : Writer) : Bytes :=
  (wordBytes (w.register <<< UInt64.ofNat (registerBits - w.held))).take ((w.held + 7) / 8)

/-- Whether the last two bytes of an output are zero. -/
def endsInZeros (output : Array UInt8) : Bool :=
  2 ≤ output.size && output[output.size - 2]? == some 0 && output[output.size - 1]? == some 0

/-- One more byte of an open unit, behind an emulation prevention byte if it
would otherwise complete a reserved pattern. -/
def pushEscaped (output : Array UInt8) (byte : UInt8) : Array UInt8 :=
  if endsInZeros output && byte ≤ 3 then (output.push 3).push byte else output.push byte

/-- Move the pending bits to the output. -/
def spill (w : Writer) : Except Fault Writer :=
  if w.held = 0 then .ok w
  else if w.escaping && w.unitOpen then
    if w.held % 8 = 0 then
      .ok { w with
        output := w.pendingBytes.foldl pushEscaped w.output
        register := 0
        held := 0 }
    else .error .partialByteInUnit
  else
    .ok { w with
      output := w.output ++ w.pendingBytes
      register := 0
      held := 0 }

/-- Spill the register if not one more bit fits into it. -/
def makeRoom (w : Writer) : Except Fault Writer :=
  if w.held = registerBits then w.spill else .ok w

/-- The register with the low `count` bits of a value behind its own. A whole register
of bits replaces it: no shift is as wide as that. -/
def shifted (register : UInt64) (count : Nat) (value : UInt64) : UInt64 :=
  if count < registerBits then
    let place := UInt64.ofNat count
    register <<< place ||| value &&& (1 <<< place - 1)
  else value

/-- The low `count` bits of a value, shifted in behind the pending ones. They
have to fit. -/
def shiftIn (w : Writer) (count : Nat) (value : UInt64) : Writer :=
  { w with
    register := shifted w.register count value
    held := w.held + count }

/-- Move any pending bits to the output, padding the last byte with zeros. -/
def flush (w : Writer) : Except Fault Writer := w.spill

/-! ## Fields -/

/-- Append the low `count` bits of a value, most significant first. What does not
fit into the register goes behind a spill. -/
def appendBits (w : Writer) (count : Nat) (value : UInt64) : Except Fault Writer :=
  if registerBits < count then .error (.fieldTooWide count)
  else if count = 0 then .ok w
  else do
    let w ← w.makeRoom
    let first := min count (registerBits - w.held)
    let w := w.shiftIn first (value >>> UInt64.ofNat (count - first))
    if first < count then
      let w ← w.makeRoom
      pure (w.shiftIn (count - first) value)
    else pure w

/-- Append one bit. -/
def appendFlag (w : Writer) (value : Bool) : Except Fault Writer := do
  let w ← w.makeRoom
  pure (w.shiftIn 1 value.toUInt64)

/-- Append an unsigned Exp-Golomb code: as many zeros as the successor of the
value has bits after its first, then that successor. -/
def appendUe (w : Writer) (value : UInt32) : Except Fault Writer := do
  let code := value.toUInt64 + 1
  let zeros := code.toNat.log2
  let w ← w.appendBits zeros 0
  w.appendBits (zeros + 1) code

/-- The index of a signed value in the order 0, 1, -1, 2, -2, … -/
def signedIndex (value : Int) : Nat :=
  if 0 < value then (2 * value - 1).toNat else (-2 * value).toNat

/-- Append a signed Exp-Golomb code. The least 32-bit value has none. -/
def appendSe (w : Writer) (value : Int32) : Except Fault Writer :=
  if value = Int32.minValue then .error .signedCodeOutOfRange
  else w.appendUe (UInt32.ofNat (signedIndex value.toInt))

/-- Append whole bytes. Between units and on a byte boundary they go straight to
the output. -/
def appendBytes (w : Writer) (bytes : Bytes) : Except Fault Writer :=
  if !w.unitOpen && w.held % 8 = 0 then do
    let w ← w.flush
    pure { w with output := w.output ++ bytes }
  else bytes.foldlM (fun w byte => w.appendBits 8 byte.toUInt64) w

/-! ## Units -/

/-- Open a unit: start code, then the one-byte header. -/
def beginUnit (w : Writer) (kind : UnitType) (refIdc : Nat) : Except Fault Writer := do
  if w.unitOpen then throw .unitAlreadyOpen
  if kind = .unspecified then throw .unspecifiedUnit
  if UnitType.endOfStream.code < kind.code then throw (.unwritableUnit kind)
  if 3 < refIdc then throw (.refIdcOutOfRange refIdc)
  let w ← w.flush
  let w ← w.appendBits 32 1
  let w ← w.flush
  let w := { w with unitOpen := true }
  let w ← w.appendBits 1 0
  let w ← w.appendBits 2 (UInt64.ofNat refIdc)
  w.appendBits 5 kind.code.toUInt64

/-- Close the open unit with the stop bit and zeros up to a byte boundary. -/
def finishUnit (w : Writer) : Except Fault Writer := do
  if !w.unitOpen then throw .noUnitOpen
  let w ← w.appendBits 1 1
  let w ← w.appendBits ((registerBits - w.held) % 8) 0
  let w ← w.flush
  pure { w with unitOpen := false }

/-! ## The output -/

/-- Everything written so far. -/
def bytes (w : Writer) : Except Fault Bytes :=
  if w.held = 0 then .ok w.output.toList else .error .pendingBits

/-- The length of the output, unless bits are pending. -/
def size? (w : Writer) : Option Nat :=
  if w.held = 0 then some w.output.size else none

end Writer

end AvcDriver.Nal
