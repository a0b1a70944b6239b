import AvcDriver.Nal.Writer
import AvcDriver.Proofs.Nal.BitString

/-!
# The register as a bit string

The pending bits of a writer are the low `held` bits of its register; what stands above
them is never read. In these terms the shifts and masks of the writer are operations on
bit strings:

* `pending_shiftIn`: shifting in a field puts it behind the pending bits, also when it
  fills the register, and when it is as wide as the register.
* `ofBytes_pendingBytes`: the bytes that leave the register are the pending bits and the
  zeros up to the next byte boundary.
-/

namespace AvcDriver.Nal

open Reader (ofBytes)

namespace Writer

variable {w : Writer} {count : Nat}

/-! ## Words -/

/-- An amount less than a register is a shift amount as it is. -/
theorem toNat_place (h : count < registerBits) : (UInt64.ofNat count).toNat % 64 = count := by
  have h64 : count < 64 := h
  rw [UInt64.toNat_ofNat']
  omega

theorem toNat_shiftRight_place (word : UInt64) (h : count < registerBits) :
    (word >>> UInt64.ofNat count).toNat = word.toNat >>> count := by
  rw [UInt64.toNat_shiftRight, toNat_place h]

theorem testBit_shiftLeft_place (word : UInt64) (h : count < registerBits) {i : Nat}
    (hi : i < 64) :
    (word <<< UInt64.ofNat count).toNat.testBit i =
      (decide (count ≤ i) && word.toNat.testBit (i - count)) := by
  rw [UInt64.toNat_shiftLeft, toNat_place h, Nat.testBit_mod_two_pow, decide_eq_true hi,
    Bool.true_and, Nat.testBit_shiftLeft]

theorem testBit_mask (h : count < registerBits) {i : Nat} :
    ((1 : UInt64) <<< UInt64.ofNat count - 1).toNat.testBit i = decide (i < count) := by
  have hpow : ((1 : UInt64) <<< UInt64.ofNat count).toNat = 2 ^ count := by
    rw [UInt64.toNat_shiftLeft, toNat_place h, UInt64.toNat_one, Nat.one_shiftLeft]
    exact Nat.mod_eq_of_lt (Nat.pow_lt_pow_right (by decide) h)
  have hone : (1 : UInt64) ≤ (1 : UInt64) <<< UInt64.ofNat count := by
    rw [UInt64.le_iff_toNat_le, hpow]
    exact Nat.one_le_two_pow
  rw [UInt64.toNat_sub_of_le _ _ hone, hpow, UInt64.toNat_one, Nat.testBit_two_pow_sub_one]

/-! ## Shifting in -/

/-- A shifted register shows the field below its width and the old bits above it. -/
theorem testBit_shifted (register value : UInt64) {i : Nat} (hi : i < 64) :
    (shifted register count value).toNat.testBit i =
      if i < count then value.toNat.testBit i else register.toNat.testBit (i - count) := by
  unfold shifted
  by_cases hwide : count < registerBits
  · rw [if_pos hwide]
    dsimp only
    rw [UInt64.toNat_or, Nat.testBit_or, testBit_shiftLeft_place _ hwide hi, UInt64.toNat_and,
      Nat.testBit_and, testBit_mask hwide]
    by_cases hic : i < count
    · simp [hic, Nat.not_le_of_lt hic]
    · simp [hic, Nat.le_of_not_lt hic]
  · have hic : i < count := by
      unfold registerBits at hwide
      omega
    rw [if_neg hwide, if_pos hic]

/-- The bits that wait in the register. -/
def pending (w : Writer) : List Bool := bitsOf w.held w.register.toNat

@[simp] theorem length_pending : w.pending.length = w.held := length_bitsOf _ _

theorem pending_of_held (h : w.held = 0) : w.pending = [] := by
  rw [pending, h, bitsOf]

/-- **A field that fits goes behind the pending bits.** -/
theorem pending_shiftIn (value : UInt64) (hfits : w.held + count ≤ registerBits) :
    (w.shiftIn count value).pending = w.pending ++ bitsOf count value.toNat := by
  have hfits64 : w.held + count ≤ 64 := hfits
  change bitsOf (w.held + count) (shifted w.register count value).toNat = _
  rw [bitsOf_append, pending]
  -- the old bits moved up by the width of the field, and the field below them
  congr 1
  · refine bitsOf_eq_iff.mpr fun i hi => ?_
    rw [Nat.testBit_shiftRight, testBit_shifted _ _ (by omega), if_neg (by omega),
      Nat.add_sub_cancel_left]
  · refine bitsOf_eq_iff.mpr fun i hi => ?_
    rw [testBit_shifted _ _ (by omega), if_pos hi]

/-! ## Spilling -/

/-- The bytes of a word are its bits. -/
theorem ofBytes_wordBytes (word : UInt64) : ofBytes (wordBytes word) = bitsOf 64 word.toNat := by
  have hbyte : ∀ place < 64,
      bitsOf 8 (word >>> UInt64.ofNat place).toUInt8.toNat = bitsOf 8 (word.toNat >>> place) := by
    intro place hplace
    rw [UInt64.toNat_toUInt8, toNat_shiftRight_place _ hplace]
    refine bitsOf_eq_iff.mpr fun i hi => ?_
    rw [Nat.testBit_mod_two_pow, decide_eq_true hi, Bool.true_and]
  have hlast : _ = bitsOf 8 word.toNat := hbyte 0 (by decide)
  rw [bitsOf_append 8 56, bitsOf_append 8 48, bitsOf_append 8 40, bitsOf_append 8 32,
    bitsOf_append 8 24, bitsOf_append 8 16, bitsOf_append 8 8, ← hbyte 56 (by decide),
    ← hbyte 48 (by decide), ← hbyte 40 (by decide), ← hbyte 32 (by decide), ← hbyte 24 (by decide),
    ← hbyte 16 (by decide), ← hbyte 8 (by decide), ← hlast]
  rfl

/-- The pending bits, moved up to the top of a word, with zeros below. -/
theorem bitsOf_lifted (h : 0 < w.held) (hle : w.held ≤ registerBits) :
    bitsOf 64 (w.register <<< UInt64.ofNat (registerBits - w.held)).toNat =
      w.pending ++ List.replicate (registerBits - w.held) false := by
  have hlt : registerBits - w.held < registerBits := Nat.sub_lt (by decide) h
  have hsum : w.held + (registerBits - w.held) = 64 := Nat.add_sub_cancel' hle
  rw [← hsum, bitsOf_append, ← bitsOf_zero, pending]
  congr 1
  · refine bitsOf_eq_iff.mpr fun i hi => ?_
    rw [Nat.testBit_shiftRight, testBit_shiftLeft_place _ hlt (by omega)]
    simp
  · refine bitsOf_eq_iff.mpr fun i hi => ?_
    rw [testBit_shiftLeft_place _ hlt (by omega), Nat.zero_testBit, decide_eq_false (by omega),
      Bool.false_and]

/-- **What leaves the register** are the pending bits, filled up to a byte with zeros. -/
theorem ofBytes_pendingBytes (hle : w.held ≤ registerBits) :
    ofBytes w.pendingBytes = w.pending ++ List.replicate (padding w.held) false := by
  rcases Nat.eq_zero_or_pos w.held with hzero | hpos
  · rw [pendingBytes, pending_of_held hzero, hzero]
    rfl
  · have hle64 : w.held ≤ 64 := hle
    have hcount : 8 * ((w.held + 7) / 8) = w.held + padding w.held := by
      unfold padding
      omega
    rw [pendingBytes, Reader.ofBytes_take, ofBytes_wordBytes, bitsOf_lifted hpos hle, hcount,
      List.take_append, length_pending, Nat.add_sub_cancel_left, List.take_replicate,
      List.take_of_length_le (by rw [length_pending]; omega)]
    congr 2
    unfold padding registerBits
    omega

end Writer

end AvcDriver.Nal
