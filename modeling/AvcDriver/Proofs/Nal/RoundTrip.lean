import AvcDriver.Nal.Reader
import AvcDriver.Proofs.Nal.Refinement

/-!
# Reading back what was written

A read `Yields` a value for a string of bits when it takes exactly these bits off the
front, whatever is behind them. The fields of an element yield its values one by one; the
low bits of its number, if it is a field of bits.

* `yields_bits`, `yields_ue`, `yields_se`: a read for each kind of field.
* `yields_elements`: the fields of a list of elements, one after another.
* `writeUnit_readBack`: a whole unit, through the register, the emulation prevention bytes
  and the trailing bits.
-/

namespace AvcDriver.Nal

open Reader (ofBytes)

/-! ## Fields and their values -/

/-- What a reader has to know of a field. -/
inductive Field where
  | bits (count : Nat)
  | flag
  | ue
  | se
  deriving DecidableEq, Repr

/-- What a reader gets for a field. -/
inductive Value where
  | number (value : Nat)
  | flag (value : Bool)
  | ue (value : UInt32)
  | se (value : Int32)
  deriving DecidableEq, Repr

/-- Read a field. -/
def Field.read : Field → Read Value
  | .bits count => .number <$> Read.bits count
  | .flag => .flag <$> Read.bit
  | .ue => .ue <$> Read.ue
  | .se => .se <$> Read.se

namespace Element

/-- The fields that an element is read as. Bytes are read one by one. -/
def fields : Element → List Field
  | .bits count _ => [.bits count]
  | .flag _ => [.flag]
  | .ue _ => [.ue]
  | .se _ => [.se]
  | .bytes value => value.map fun _ => .bits 8

/-- The values that are read for an element. Of a field of bits it is the low ones. -/
def values : Element → List Value
  | .bits count value => [.number (value.toNat % 2 ^ count)]
  | .flag value => [.flag value]
  | .ue value => [.ue value]
  | .se value => [.se value]
  | .bytes value => value.map fun byte => .number byte.toNat

end Element

/-! ## Reads -/

namespace Read

variable {α β : Type}

/-- A read takes exactly these bits off the front and gets a value for them. -/
def Yields (read : Read α) (bits : List Bool) (value : α) : Prop :=
  ∀ rest, read (bits ++ rest) = .ok (value, rest)

namespace Yields

theorem pure (value : α) : Yields (Pure.pure value) [] value := fun _ => rfl

/-- What is read next is read from behind these bits. -/
theorem run_bind {read : Read α} {bits : List Bool} {a : α} (h : Yields read bits a)
    (next : α → Read β) (rest : Reader) : (read >>= next) (bits ++ rest) = next a rest := by
  change (read (bits ++ rest) >>= fun (a, rest) => next a rest) = _
  rw [h rest, ok_bind]

/-- One read after another takes the bits of both. -/
theorem bind {read : Read α} {next : α → Read β} {xs ys : List Bool} {a : α} {b : β}
    (hread : Yields read xs a) (hnext : Yields (next a) ys b) :
    Yields (read >>= next) (xs ++ ys) b := by
  intro rest
  rw [List.append_assoc, hread.run_bind, hnext]

theorem map {read : Read α} {bits : List Bool} {a : α} (f : α → β) (h : Yields read bits a) :
    Yields (f <$> read) bits (f a) := fun rest => h.run_bind (fun a => Pure.pure (f a)) rest

variable {readOne : α → Read β} {item : α} {items others : List α} {xs ys : List Bool} {b : β}
  {bs cs : List β}

theorem mapM_nil : Yields ([].mapM readOne) [] [] := pure []

theorem mapM_cons (hitem : Yields (readOne item) xs b)
    (hitems : Yields (items.mapM readOne) ys bs) :
    Yields ((item :: items).mapM readOne) (xs ++ ys) (b :: bs) := by
  rw [List.mapM_cons, ← List.append_nil ys]
  exact bind hitem (bind hitems (pure _))

theorem mapM_singleton (hitem : Yields (readOne item) xs b) :
    Yields ([item].mapM readOne) xs [b] := by
  rw [← List.append_nil xs]
  exact mapM_cons hitem mapM_nil

theorem mapM_append (hitems : Yields (items.mapM readOne) xs bs)
    (hothers : Yields (others.mapM readOne) ys cs) :
    Yields ((items ++ others).mapM readOne) (xs ++ ys) (bs ++ cs) := by
  rw [List.mapM_append, ← List.append_nil ys]
  exact bind hitems (bind hothers (pure _))

end Yields

theorem yields_bit (value : Bool) : Yields bit [value] value := fun _ => rfl

/-- A number is continued by the number that the next bits spell, as far as it fits. -/
theorem bitsOnto_append (bits rest : Reader) :
    ∀ value < UInt64.size, bitsOnto value bits.length (bits ++ rest) =
      .ok ((value * 2 ^ bits.length + number bits) % UInt64.size, rest) := by
  induction bits with
  | nil =>
    intro value hvalue
    rw [List.length_nil, Nat.pow_zero, Nat.mul_one, number, List.foldl_nil, Nat.add_zero,
      Nat.mod_eq_of_lt hvalue]
    rfl
  | cons bit bits ih =>
    intro value hvalue
    refine (ih _ (Nat.mod_lt _ (by decide))).trans ?_
    -- what is cut off in the middle is a multiple of what is cut off at the end
    have hsum :
        ((2 * value + bit.toNat) % UInt64.size * 2 ^ bits.length + number bits) % UInt64.size =
          (value * 2 ^ (bits.length + 1) + (bit.toNat * 2 ^ bits.length + number bits)) %
            UInt64.size := by
      rw [Nat.add_mod, Nat.mod_mul_mod, ← Nat.add_mod]
      congr 1
      ring
    rw [number_cons, List.length_cons, hsum]

/-- **A field of bits** yields the low bits of its number. -/
theorem yields_bits {count : Nat} (value : Nat) (hcount : count ≤ 64) :
    Yields (bits count) (bitsOf count value) (value % 2 ^ count) := by
  intro rest
  have hread := bitsOnto_append (bitsOf count value) rest 0 (by decide)
  have hlt : value % 2 ^ count < UInt64.size :=
    (Nat.mod_lt _ (Nat.two_pow_pos count)).trans_le (Nat.pow_le_pow_right (by decide) hcount)
  rwa [length_bitsOf, number_bitsOf, Nat.zero_mul, Nat.zero_add, Nat.mod_eq_of_lt hlt] at hread

theorem leadingZerosOnto_append (count : Nat) (rest : Reader) :
    ∀ zeros, leadingZerosOnto zeros (List.replicate count false ++ true :: rest) =
      .ok (zeros + count, rest) := by
  induction count with
  | zero =>
    intro zeros
    rfl
  | succ count ih =>
    intro zeros
    refine (ih (zeros + 1)).trans ?_
    rw [Nat.add_right_comm, Nat.add_assoc]

theorem yields_leadingZeros (count : Nat) :
    Yields leadingZeros (List.replicate count false ++ [true]) count := by
  intro rest
  have hread := leadingZerosOnto_append count rest 0
  rwa [Nat.zero_add, List.append_cons] at hread

/-- An Exp-Golomb code is the zeros, their end, and what a number has behind its first bit. -/
theorem expGolomb_eq (value : Nat) :
    expGolomb value = List.replicate (value + 1).log2 false ++ [true] ++
      bitsOf (value + 1).log2 (value + 1) := by
  rw [expGolomb, bitsOf, Nat.testBit_log2 (Nat.succ_ne_zero value), List.append_cons]

/-- **An unsigned Exp-Golomb code** yields its value. -/
theorem yields_ue (value : UInt32) : Yields ue (expGolomb value.toNat) value := by
  have hvalue := value.toNat_lt
  obtain ⟨zeros, hzeros⟩ : ∃ zeros, zeros = (value.toNat + 1).log2 := ⟨_, rfl⟩
  have hsmall : zeros < 33 := hzeros ▸ (Nat.log2_lt (by omega)).mpr (by omega)
  have hsum : 2 ^ zeros - 1 + (value.toNat + 1) % 2 ^ zeros = value.toNat := by
    have hlow : 2 ^ zeros ≤ value.toNat + 1 := hzeros ▸ Nat.log2_self_le (by omega)
    have hhigh : value.toNat + 1 < 2 ^ zeros * 2 := hzeros ▸ Nat.lt_log2_self
    -- the successor of the value lies between one power of two and the next
    rw [Nat.mod_eq_sub_mod hlow, Nat.mod_eq_of_lt (by omega)]
    omega
  rw [expGolomb_eq, ← hzeros]
  refine Yields.bind (yields_leadingZeros zeros) ?_
  rw [← List.append_nil (bitsOf zeros _)]
  refine Yields.bind (yields_bits _ (by omega)) ?_
  rw [if_neg (by omega), Nat.one_shiftLeft, hsum, UInt32.ofNat_toNat]
  exact Yields.pure value

/-- The code of a signed value tells its sign and its size. -/
theorem signedCode_inv (value : Int32) :
    (if signedCode value.toInt % 2 = 1 then Int32.ofNat ((signedCode value.toInt + 1) / 2)
      else Int32.ofInt (-(signedCode value.toInt / 2 : Nat))) = value := by
  by_cases hpos : 0 < value.toInt
  · have hcode : signedCode value.toInt = 2 * value.toInt.toNat - 1 := by
      rw [signedCode, if_pos hpos]
      omega
    have hhalf : (signedCode value.toInt + 1) / 2 = value.toInt.toNat := by omega
    rw [if_pos (by omega), hhalf, ← Int32.ofInt_eq_ofNat, Int.toNat_of_nonneg hpos.le,
      Int32.ofInt_toInt]
  · have hcode : signedCode value.toInt = 2 * (-value.toInt).toNat := by
      rw [signedCode, if_neg hpos]
      omega
    have hhalf : -((signedCode value.toInt / 2 : Nat) : Int) = value.toInt := by omega
    rw [if_neg (by omega), hhalf, Int32.ofInt_toInt]

/-- **A signed Exp-Golomb code** yields its value. -/
theorem yields_se {value : Int32} (hvalue : value ≠ Int32.minValue) :
    Yields se (Element.se value).bitString value := by
  have hindex : (UInt32.ofNat (signedCode value.toInt)).toNat = signedCode value.toInt := by
    rw [UInt32.toNat_ofNat', Nat.mod_eq_of_lt (signedCode_lt hvalue)]
  have hue := yields_ue (UInt32.ofNat (signedCode value.toInt))
  rw [hindex] at hue
  rw [← List.append_nil (Element.bitString _)]
  refine Yields.bind hue ?_
  dsimp only
  rw [hindex, signedCode_inv]
  exact Yields.pure value

theorem yields_alignment (count : Nat) :
    Yields (alignment count) (List.replicate count false) () := by
  induction count with
  | zero => exact Yields.pure ()
  | succ count ih => exact Yields.bind (yields_bit false) ih

/-- **The trailing bits of a unit**, with nothing behind them. -/
theorem trailing_padding {count : Nat} (hcount : count < 8) :
    trailing (true :: List.replicate count false) = .ok ((), []) := by
  have halign := yields_alignment count []
  rw [List.append_nil] at halign
  change alignment ((List.replicate count false).length % 8) (List.replicate count false) >>= _ = _
  rw [List.length_replicate, Nat.mod_eq_of_lt hcount, halign]
  rfl

/-! ## Elements -/

theorem yields_bytes (bytes : Bytes) :
    Yields ((Element.bytes bytes).fields.mapM Field.read) (ofBytes bytes)
      (Element.bytes bytes).values := by
  induction bytes with
  | nil => exact Yields.mapM_nil
  | cons byte bytes ih =>
    have hbyte := (yields_bits byte.toNat (by decide : 8 ≤ 64)).map Value.number
    rw [Nat.mod_eq_of_lt byte.toNat_lt] at hbyte
    exact Yields.mapM_cons hbyte ih

/-- **The fields of an element** yield its values. -/
theorem yields_element {element : Element} (h : element.Writable) :
    Yields (element.fields.mapM Field.read) element.bitString element.values := by
  cases element with
  | bits count value => exact Yields.mapM_singleton ((yields_bits value.toNat h).map Value.number)
  | flag value => exact Yields.mapM_singleton ((yields_bit value).map Value.flag)
  | ue value => exact Yields.mapM_singleton ((yields_ue value).map Value.ue)
  | se value => exact Yields.mapM_singleton ((yields_se h).map Value.se)
  | bytes value => exact yields_bytes value

theorem yields_elements {elements : List Element} (h : ∀ e ∈ elements, e.Writable) :
    Yields ((elements.flatMap Element.fields).mapM Field.read)
      (elements.flatMap Element.bitString) (elements.flatMap Element.values) := by
  induction elements with
  | nil => exact Yields.mapM_nil
  | cons element elements ih =>
    have hrest := ih fun e he => h e (List.mem_cons_of_mem _ he)
    exact Yields.mapM_append (yields_element (h element List.mem_cons_self)) hrest

/-- Read fields, then the trailing bits. -/
def payload (fields : List Field) : Read (List Value) := do
  let values ← fields.mapM Field.read
  trailing
  pure values

end Read

/-! ## Units -/

/-- The header of a unit as a byte. -/
def headerByte (kind : UnitType) (refIdc : Nat) : UInt8 := UInt8.ofNat refIdc <<< 5 ||| kind.code

theorem bitsOf_headerByte (kind : UnitType) {refIdc : Nat} (href : refIdc ≤ 3) :
    bitsOf 8 (headerByte kind refIdc).toNat = headerBits kind refIdc := by
  match refIdc, href with
  | 0, _ | 1, _ | 2, _ | 3, _ => cases kind <;> decide

/-- The header of a unit that can be written is not zero, so the payload behind it is
escaped as if nothing stood before it. -/
theorem headerByte_ne_zero {kind : UnitType} (hkind : kind.Writable) {refIdc : Nat}
    (href : refIdc ≤ 3) : headerByte kind refIdc ≠ 0 := by
  match refIdc, href with
  | 0, _ | 1, _ | 2, _ | 3, _ => revert hkind; cases kind <;> decide

/-- The bytes of a unit are its header and the escaped payload. -/
theorem escape_pack_header {kind : UnitType} (hkind : kind.Writable) {refIdc : Nat}
    (href : refIdc ≤ 3) (bits : List Bool) :
    escape 0 (pack (headerBits kind refIdc ++ bits)) =
      headerByte kind refIdc :: escape 0 (pack bits) := by
  have hheader : headerBits kind refIdc = ofBytes [headerByte kind refIdc] := by
    rw [Reader.ofBytes_cons, bitsOf_headerByte kind href, Reader.ofBytes_nil, List.append_nil]
  rw [hheader, pack_ofBytes_append, List.singleton_append, escape, if_neg (by omega),
    if_neg (headerByte_ne_zero hkind href)]

/-- A payload is read as its bits. -/
theorem ofPayload_escape (bits : List Bool) :
    Reader.ofPayload (escape 0 (pack (bits ++ [true]))) =
      bits ++ true :: List.replicate (padding (bits ++ [true]).length) false := by
  rw [Reader.ofPayload, unescape_escape, ofBytes_pack, List.append_assoc, List.singleton_append]

/-- **Reading a unit gets back what was written.** After the last field stand the trailing
bits, and nothing is left behind them. -/
theorem writeUnit_readBack {kind : UnitType} (hkind : kind.Writable) {refIdc : Nat}
    (href : refIdc ≤ 3) {elements : List Element} (helements : ∀ e ∈ elements, e.Writable) :
    ∃ w payload, Writer.empty.writeUnit kind refIdc elements = .ok w ∧
      w.bytes = .ok (startCode ++ headerByte kind refIdc :: payload) ∧
      Read.payload (elements.flatMap Element.fields) (Reader.ofPayload payload) =
        .ok (elements.flatMap Element.values, []) := by
  obtain ⟨w, hw, h⟩ := (Writer.keeps_empty true).writeUnit hkind href helements
  obtain ⟨bits, hbits⟩ : ∃ bits, bits = elements.flatMap Element.bitString := ⟨_, rfl⟩
  refine ⟨w, escape 0 (pack (bits ++ [true])), hw, ?_, ?_⟩
  · rw [h.holds.bytes_eq, ← hbits, Draft.unit, Draft.payload, if_pos rfl, List.append_assoc _ bits,
      escape_pack_header hkind href]
    rfl
  · have hfields := Read.yields_elements helements
    rw [← hbits] at hfields
    rw [ofPayload_escape, Read.payload, hfields.run_bind]
    change Read.trailing _ >>= _ = _
    rw [Read.trailing_padding (padding_lt _), ok_bind]
    rfl

/-- A field that loses its high bits, the longest code, the least value with a code, and bytes
that are escaped off a byte boundary. -/
theorem writeUnit_readBack_sps :
    let elements : List Element :=
      [.bits 3 13, .ue 4294967295, .se (-2147483647), .flag true, .bytes [0, 0, 0, 0, 1]]
    (∀ e ∈ elements, e.Writable) ∧
      ∃ w payload, Writer.empty.writeUnit .sps 3 elements = .ok w ∧
        w.bytes = .ok (startCode ++ 103 :: payload) ∧
        Read.payload (elements.flatMap Element.fields) (Reader.ofPayload payload) =
          .ok ([.number 5, .ue 4294967295, .se (-2147483647), .flag true, .number 0, .number 0,
            .number 0, .number 0, .number 1], []) := by
  intro elements
  have helements : ∀ e ∈ elements, e.Writable := by decide
  exact ⟨helements, writeUnit_readBack (by decide) (by decide) helements⟩

end AvcDriver.Nal
