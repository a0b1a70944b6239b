import AvcDriver.Nal.Reader
import Mathlib.Tactic.Ring

/-!
# Bit strings

Bits are written and read most significant first. `bitsOf count value` is the field of
`count` bits that holds a number, and `Reader.ofBytes` are the bits of a byte string.
`pack` goes the other way: it fills up the last byte with zeros.

* `bitsOf_append`: a wide field is two narrower ones.
* `bitsOf_eq_iff`: a field shows the low bits of its number and nothing else.
* `ofBytes_bytesOf`, `bytesOf_ofBytes`: whole bytes and their bits are the same thing.
* `pack_append_zeros`: zeros up to the byte boundary do not show in packed bytes.
-/

namespace AvcDriver.Nal

/-! ## Fields -/

/-- The low `count` bits of a number, most significant first. -/
def bitsOf : Nat → Nat → List Bool
  | 0, _ => []
  | count + 1, value => value.testBit count :: bitsOf count value

@[simp] theorem length_bitsOf (count value : Nat) : (bitsOf count value).length = count := by
  induction count with
  | zero => rfl
  | succ count ih => rw [bitsOf, List.length_cons, ih]

/-- A field shows the low bits of its number and nothing else. -/
theorem bitsOf_eq_iff {count a b : Nat} :
    bitsOf count a = bitsOf count b ↔ ∀ i < count, a.testBit i = b.testBit i := by
  induction count with
  | zero => simp [bitsOf]
  | succ count ih =>
    rw [bitsOf, bitsOf, List.cons.injEq, ih]
    constructor
    · rintro ⟨hhigh, hlow⟩ i hi
      rcases Nat.lt_succ_iff_lt_or_eq.mp hi with hi | rfl
      · exact hlow i hi
      · exact hhigh
    · intro h
      exact ⟨h count (Nat.lt_succ_self _), fun i hi => h i (Nat.lt_succ_of_lt hi)⟩

/-- A wide field is the field of its high bits and the field of its low ones. -/
theorem bitsOf_append (high low value : Nat) :
    bitsOf (high + low) value = bitsOf high (value >>> low) ++ bitsOf low value := by
  induction high with
  | zero => rw [Nat.zero_add, bitsOf, List.nil_append]
  | succ high ih =>
    rw [Nat.add_right_comm, bitsOf, ih, bitsOf, List.cons_append, Nat.testBit_shiftRight,
      Nat.add_comm low high]

theorem bitsOf_zero (count : Nat) : bitsOf count 0 = List.replicate count false := by
  induction count with
  | zero => rfl
  | succ count ih => rw [bitsOf, ih, Nat.zero_testBit, List.replicate_succ]

/-- The number that a string of bits spells. -/
def number (bits : List Bool) : Nat := bits.foldl (fun value bit => 2 * value + bit.toNat) 0

/-- Bits that are read behind a number shift it by their count. -/
theorem number_foldl (bits : List Bool) :
    ∀ value, bits.foldl (fun value bit => 2 * value + bit.toNat) value =
      value * 2 ^ bits.length + number bits := by
  induction bits with
  | nil =>
    intro value
    simp [number]
  | cons bit bits ih =>
    intro value
    rw [number, List.foldl_cons, List.foldl_cons, ih, ih, List.length_cons, Nat.pow_succ]
    ring

theorem number_cons (bit : Bool) (bits : List Bool) :
    number (bit :: bits) = bit.toNat * 2 ^ bits.length + number bits := by
  rw [number, List.foldl_cons, number_foldl, Nat.mul_zero, Nat.zero_add]

/-- A field spells its number, as far as its width goes. -/
theorem number_bitsOf (count value : Nat) : number (bitsOf count value) = value % 2 ^ count := by
  induction count with
  | zero => rw [bitsOf, Nat.pow_zero, Nat.mod_one]; rfl
  | succ count ih =>
    rw [bitsOf, number_cons, length_bitsOf, ih, Nat.mod_pow_succ, Nat.toNat_testBit]
    ring

/-- The number of a bit string is below the power of its length. -/
theorem number_lt (bits : List Bool) : number bits < 2 ^ bits.length := by
  induction bits with
  | nil => exact Nat.one_pos
  | cons bit bits ih =>
    rw [number_cons, List.length_cons, Nat.pow_succ]
    have hbit := Nat.mul_le_mul_right (2 ^ bits.length) (Bool.toNat_le bit)
    omega

/-- The field as wide as a string that holds the number it spells is that string. -/
theorem bitsOf_number (bits : List Bool) : bitsOf bits.length (number bits) = bits := by
  induction bits with
  | nil => rfl
  | cons bit bits ih =>
    have hlow : bitsOf bits.length (number (bit :: bits)) = bits := by
      refine Eq.trans (bitsOf_eq_iff.mpr fun i hi => ?_) ih
      rw [number_cons, Nat.mul_comm, Nat.testBit_two_pow_mul_add _ (number_lt bits), if_pos hi]
    have hhigh : (number (bit :: bits)).testBit bits.length = bit := by
      rw [number_cons, Nat.mul_comm, Nat.testBit_two_pow_mul_add _ (number_lt bits),
        if_neg (Nat.lt_irrefl _), Nat.sub_self]
      cases bit <;> rfl
    rw [List.length_cons, bitsOf, hhigh, hlow]

/-! ## Bytes -/

namespace Reader

@[simp] theorem ofBytes_nil : ofBytes [] = [] := rfl

@[simp] theorem ofBytes_cons (byte : UInt8) (bytes : Bytes) :
    ofBytes (byte :: bytes) = bitsOf 8 byte.toNat ++ ofBytes bytes := rfl

/-- The bits of two byte strings, one behind the other. -/
@[simp] theorem ofBytes_append (xs ys : Bytes) : ofBytes (xs ++ ys) = ofBytes xs ++ ofBytes ys := by
  induction xs with
  | nil => rfl
  | cons byte xs ih => rw [List.cons_append, ofBytes_cons, ofBytes_cons, ih, List.append_assoc]

theorem ofBytes_eq_flatMap (bytes : Bytes) :
    ofBytes bytes = bytes.flatMap fun byte => bitsOf 8 byte.toNat := by
  induction bytes with
  | nil => rfl
  | cons byte bytes ih => rw [ofBytes_cons, ih, List.flatMap_cons]

@[simp] theorem length_ofBytes (bytes : Bytes) : (ofBytes bytes).length = 8 * bytes.length := by
  induction bytes with
  | nil => rfl
  | cons byte bytes ih =>
    rw [ofBytes_cons, List.length_append, length_bitsOf, ih, List.length_cons]
    omega

/-- The bits of the first bytes are the first bits. -/
theorem ofBytes_take (bytes : Bytes) :
    ∀ count, ofBytes (bytes.take count) = (ofBytes bytes).take (8 * count) := by
  induction bytes with
  | nil =>
    intro count
    simp
  | cons byte bytes ih =>
    intro count
    cases count with
    | zero => simp
    | succ count =>
      have hbyte : (bitsOf 8 byte.toNat).take (8 * (count + 1)) = bitsOf 8 byte.toNat :=
        List.take_of_length_le (by rw [length_bitsOf]; omega)
      rw [List.take_succ_cons, ofBytes_cons, ofBytes_cons, ih, List.take_append, hbyte,
        length_bitsOf, Nat.mul_succ, Nat.add_sub_cancel]

end Reader

open Reader (ofBytes)

/-- The byte that eight bits spell. -/
def byteOf (bits : List Bool) : UInt8 := UInt8.ofNat (number bits)

/-- Bits as whole bytes. -/
def bytesOf : List Bool → Bytes
  | a :: b :: c :: d :: e :: f :: g :: h :: rest => byteOf [a, b, c, d, e, f, g, h] :: bytesOf rest
  | _ => []

/-- How many bits there are from a position to the next byte boundary. -/
def padding (length : Nat) : Nat := (8 - length % 8) % 8

/-- Bits as bytes, the last one filled up with zeros. -/
def pack (bits : List Bool) : Bytes := bytesOf (bits ++ List.replicate (padding bits.length) false)

/-- A byte is read back from its bits. -/
theorem byteOf_bitsOf (byte : UInt8) : byteOf (bitsOf 8 byte.toNat) = byte := by
  rw [byteOf, number_bitsOf, Nat.mod_eq_of_lt byte.toNat_lt, UInt8.ofNat_toNat]

/-- **Whole bytes come back from their bits.** -/
theorem bytesOf_ofBytes_append (bytes : Bytes) (bits : List Bool) :
    bytesOf (ofBytes bytes ++ bits) = bytes ++ bytesOf bits := by
  induction bytes with
  | nil => rfl
  | cons byte bytes ih =>
    rw [Reader.ofBytes_cons, List.append_assoc, List.cons_append, ← ih]
    exact congrArg (· :: bytesOf (ofBytes bytes ++ bits)) (byteOf_bitsOf byte)

/-- A byte string is read back from its bits. -/
theorem bytesOf_ofBytes (bytes : Bytes) : bytesOf (ofBytes bytes) = bytes := by
  have h := bytesOf_ofBytes_append bytes []
  rwa [List.append_nil, show bytesOf [] = [] from rfl, List.append_nil] at h

/-- **Bits up to a byte boundary come back from their bytes.** -/
theorem ofBytes_bytesOf (bits : List Bool) (h : bits.length % 8 = 0) :
    ofBytes (bytesOf bits) = bits := by
  fun_induction bytesOf bits with
  | case1 a b c d e f g h' rest ih =>
    have hrest : rest.length % 8 = 0 := by
      simp only [List.length_cons] at h
      omega
    have hbyte : bitsOf 8 (byteOf [a, b, c, d, e, f, g, h']).toNat = [a, b, c, d, e, f, g, h'] := by
      have hlt : number [a, b, c, d, e, f, g, h'] < 2 ^ 8 := number_lt _
      rw [byteOf, UInt8.toNat_ofNat', Nat.mod_eq_of_lt hlt]
      exact bitsOf_number [a, b, c, d, e, f, g, h']
    rw [Reader.ofBytes_cons, ih hrest, hbyte]
    rfl
  | case2 bits hshort =>
    match bits, h, hshort with
    | [], _, _ => rfl
    | a :: b :: c :: d :: e :: f :: g :: h' :: rest, _, hshort =>
      exact (hshort _ _ _ _ _ _ _ _ _ rfl).elim

theorem padding_of_aligned {length : Nat} (h : length % 8 = 0) : padding length = 0 := by
  rw [padding, h]

theorem padding_lt (length : Nat) : padding length < 8 := Nat.mod_lt _ (by decide)

/-- Padded bits fill their bytes. -/
theorem add_padding_mod (length : Nat) : (length + padding length) % 8 = 0 := by
  unfold padding
  omega

theorem pack_of_aligned {bits : List Bool} (h : bits.length % 8 = 0) :
    pack bits = bytesOf bits := by
  rw [pack, padding_of_aligned h, List.replicate_zero, List.append_nil]

/-- Zeros up to the byte boundary do not show in packed bytes. -/
theorem pack_append_zeros (bits : List Bool) :
    pack (bits ++ List.replicate (padding bits.length) false) = pack bits := by
  refine pack_of_aligned ?_
  rw [List.length_append, List.length_replicate]
  exact add_padding_mod _

/-- Packed bits are the bits themselves and then zeros, less than a byte of them. -/
theorem ofBytes_pack (bits : List Bool) :
    ofBytes (pack bits) = bits ++ List.replicate (padding bits.length) false := by
  refine ofBytes_bytesOf _ ?_
  rw [List.length_append, List.length_replicate]
  exact add_padding_mod _

/-- Full bytes are packed as they are, with the bits behind them. -/
theorem pack_ofBytes_append (bytes : Bytes) (bits : List Bool) :
    pack (ofBytes bytes ++ bits) = bytes ++ pack bits := by
  have hpad : padding (ofBytes bytes ++ bits).length = padding bits.length := by
    rw [List.length_append, Reader.length_ofBytes, padding, padding, Nat.mul_add_mod]
  rw [pack, hpad, List.append_assoc, bytesOf_ofBytes_append, pack]

end AvcDriver.Nal
