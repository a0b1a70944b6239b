import AvcDriver.Nal.Element
import AvcDriver.Proofs.Nal.BitString
import AvcDriver.Proofs.Nal.Emulation

/-!
# Streams without a register

What a stream should hold, said with bit strings alone. A call to a writer comes to a
list of `Token`s: the bits of its field, or one mark. A `Draft` takes one token at a
time. It keeps the bits since the last byte boundary that was forced, in an open unit
those since its header began, and turns them into bytes when they are complete.

`plainStream` is the stream of a list of tokens. There are no words in it, and no bytes
that leave before others: emulation prevention is applied to a whole unit at its end.

A call is `Legal` where it does not break the contract of a writer: fields are at most a
register wide, units are opened and closed in turn, and an open unit is flushed at a byte
boundary only.
-/

namespace AvcDriver.Nal

/-! ## Calls -/

/-- A call to a writer. -/
inductive Call where
  | append (element : Element)
  | flush
  | beginUnit (kind : UnitType) (refIdc : Nat)
  | finishUnit
  deriving DecidableEq, Repr

namespace Writer

/-- Make a call. -/
def call (w : Writer) : Call → Except Fault Writer
  | .append element => w.append element
  | .flush => w.flush
  | .beginUnit kind refIdc => w.beginUnit kind refIdc
  | .finishUnit => w.finishUnit

/-- Make calls in order. -/
def callAll (w : Writer) (calls : List Call) : Except Fault Writer := calls.foldlM call w

/-- The stream that calls leave behind, made to a new writer. -/
def written (escaping : Bool) (calls : List Call) : Except Fault Bytes := do
  let w ← (empty escaping).callAll calls
  let w ← w.flush
  w.bytes

end Writer

/-! ## The bits of a field -/

/-- An Exp-Golomb code: as many zeros as the successor of the value has bits after its
first, then that successor. -/
def expGolomb (value : Nat) : List Bool :=
  let zeros := (value + 1).log2
  List.replicate zeros false ++ bitsOf (zeros + 1) (value + 1)

/-- The code of a signed value, in the order 0, 1, -1, 2, -2, … -/
def signedCode (value : Int) : Nat :=
  (if 0 < value then 2 * value - 1 else -2 * value).toNat

/-- All signed values but the least have a code in 32 bits. -/
theorem signedCode_lt {value : Int32} (h : value ≠ Int32.minValue) :
    signedCode value.toInt < 2 ^ 32 := by
  have hlow := value.le_toInt
  have hhigh := value.toInt_lt
  have hne : value.toInt ≠ -2 ^ 31 := fun heq => h (Int32.toInt_inj.mp heq)
  unfold signedCode
  split <;> omega

namespace Element

/-- The bits of an element. -/
def bitString : Element → List Bool
  | .bits count value => bitsOf count value.toNat
  | .flag value => [value]
  | .ue value => expGolomb value.toNat
  | .se value => expGolomb (signedCode value.toInt)
  | .bytes value => Reader.ofBytes value

/-- Whether an element can be written: it fits into a register and has a code. -/
def Writable : Element → Prop
  | .bits count _ => count ≤ 64
  | .se value => value ≠ Int32.minValue
  | .flag _ | .ue _ | .bytes _ => True

instance : (element : Element) → Decidable element.Writable
  | .bits count _ => inferInstanceAs (Decidable (count ≤ 64))
  | .se value => inferInstanceAs (Decidable (value ≠ Int32.minValue))
  | .flag _ | .ue _ | .bytes _ => inferInstanceAs (Decidable True)

end Element

/-- The bits of a unit's header. -/
def headerBits (kind : UnitType) (refIdc : Nat) : List Bool :=
  false :: bitsOf 2 refIdc ++ bitsOf 5 kind.code.toNat

/-! ## Drafts -/

/-- A bit of a stream, or a mark between bits. -/
inductive Token where
  | bit (value : Bool)
  | flush
  | beginUnit (kind : UnitType) (refIdc : Nat)
  | finishUnit
  deriving DecidableEq, Repr

/-- What a call comes to. -/
def Call.tokens : Call → List Token
  | .append element => element.bitString.map .bit
  | .flush => [.flush]
  | .beginUnit kind refIdc => [.beginUnit kind refIdc]
  | .finishUnit => [.finishUnit]

/-- A stream that is being written. -/
structure Draft where
  /-- the bytes that nothing later can change -/
  settled : Bytes := []
  /-- whether a unit is open -/
  unitOpen : Bool := false
  /-- the bits behind the settled bytes -/
  bits : List Bool := []
  deriving DecidableEq, Repr

namespace Draft

/-- A complete payload as it stands in a stream. -/
def payload (escaping : Bool) (bytes : Bytes) : Bytes :=
  if escaping then escape 0 bytes else bytes

/-- A complete unit behind its start code, from the bits between its header and its stop bit. -/
def unit (escaping : Bool) (kind : UnitType) (refIdc : Nat) (bits : List Bool) : Bytes :=
  payload escaping (pack (headerBits kind refIdc ++ bits ++ [true]))

/-- Take a token. -/
def step (escaping : Bool) (d : Draft) : Token → Draft
  | .bit value => { d with bits := d.bits ++ [value] }
  | .flush =>
    if d.unitOpen then d else { d with settled := d.settled ++ pack d.bits, bits := [] }
  | .beginUnit kind refIdc =>
    { settled := d.settled ++ pack d.bits ++ startCode
      unitOpen := true
      bits := headerBits kind refIdc }
  | .finishUnit =>
    { settled := d.settled ++ payload escaping (pack (d.bits ++ [true]))
      unitOpen := false
      bits := [] }

/-- Take tokens in order. -/
def run (escaping : Bool) (d : Draft) (tokens : List Token) : Draft :=
  tokens.foldl (step escaping) d

theorem run_cons (escaping : Bool) (d : Draft) (token : Token) (tokens : List Token) :
    d.run escaping (token :: tokens) = (d.step escaping token).run escaping tokens := rfl

/-- Tokens are drafted one after the other. -/
theorem run_append (escaping : Bool) (d : Draft) (xs ys : List Token) :
    d.run escaping (xs ++ ys) = (d.run escaping xs).run escaping ys := List.foldl_append

/-- Bits alone are appended as they are. -/
theorem run_bits (escaping : Bool) (bits : List Bool) :
    ∀ d : Draft, d.run escaping (bits.map .bit) = { d with bits := d.bits ++ bits } := by
  induction bits with
  | nil =>
    intro d
    rw [List.append_nil]
    rfl
  | cons bit bits ih =>
    intro d
    rw [List.map_cons, run_cons, ih, step, List.append_assoc, List.singleton_append]

end Draft

/-- The stream of a list of tokens. -/
def plainStream (escaping : Bool) (tokens : List Token) : Bytes :=
  ((({} : Draft).run escaping tokens).step escaping .flush).settled

/-! ## Legal calls -/

/-- Whether a call keeps the contract of a writer that has written a draft. -/
def Call.Legal (d : Draft) : Call → Prop
  | .append element => element.Writable
  | .flush => d.unitOpen = true → d.bits.length % 8 = 0
  | .beginUnit kind refIdc => d.unitOpen = false ∧ kind.Writable ∧ refIdc ≤ 3
  | .finishUnit => d.unitOpen = true

instance (d : Draft) : (call : Call) → Decidable (call.Legal d)
  | .append element => inferInstanceAs (Decidable element.Writable)
  | .flush => inferInstanceAs (Decidable (_ → _))
  | .beginUnit _ _ => inferInstanceAs (Decidable (_ ∧ _))
  | .finishUnit => inferInstanceAs (Decidable (_ = _))

/-- Whether each call of a list keeps the contract when its turn comes. -/
def Draft.Legal (escaping : Bool) : Draft → List Call → Prop
  | _, [] => True
  | d, call :: rest => call.Legal d ∧ Draft.Legal escaping (d.run escaping call.tokens) rest

instance Draft.decidableLegal (escaping : Bool) :
    (d : Draft) → (calls : List Call) → Decidable (d.Legal escaping calls)
  | _, [] => inferInstanceAs (Decidable True)
  | d, call :: rest =>
    have := Draft.decidableLegal escaping (d.run escaping call.tokens) rest
    inferInstanceAs (Decidable (_ ∧ _))

end AvcDriver.Nal
