import AvcDriver.Record.BitField
import Mathlib.Algebra.Group.Nat.Defs
import Mathlib.Tactic.Ring

/-!
# Packed fields and what is left of them

A field that is packed is cut down to the bits it has room for, and its neighbours in the word do
not see what was cut off. Read the other way, a word that is unpacked and packed again keeps the
bits that belong to fields and loses those above.

* `BitField.Packs`: both directions of a layout, with what is left of a value.
* `packs_bits`, `packs_flag`, `Packs.pair`, `Packs.via`: one rule for each way to lay fields out.
-/

namespace AvcDriver.Record.BitField

variable {α β : Type} {f : BitField α} {g : BitField β} {cut : α → α} {cut' : β → β}

/-- A value becomes a number below `2 ^ width`, from which `cut value` is unpacked again whatever
lies above it. A number loses what lies above its `width` low bits. -/
structure Packs (f : BitField α) (cut : α → α) : Prop where
  pack_lt : ∀ value, f.pack value < 2 ^ f.width
  unpack_pack : ∀ value above, f.unpack (f.pack value + 2 ^ f.width * above) = cut value
  pack_unpack : ∀ word, f.pack (f.unpack word) = word % 2 ^ f.width

/-- What `width` bits have room for. -/
def low (width : Nat) (value : UInt8) : UInt8 := UInt8.ofNat (value.toNat % 2 ^ width)

theorem low_eq_mod {width : Nat} (h : width < 8) (value : UInt8) :
    low width value = value % UInt8.ofNat (2 ^ width) := by
  have hroom : 2 ^ width < 2 ^ 8 := Nat.pow_lt_pow_right (by decide) h
  have hlt : value.toNat % 2 ^ width < 2 ^ 8 :=
    Nat.lt_of_lt_of_le (Nat.mod_lt _ (Nat.two_pow_pos width)) (Nat.le_of_lt hroom)
  rw [low, ← UInt8.toNat_inj, UInt8.toNat_mod, UInt8.toNat_ofNat', UInt8.toNat_ofNat',
    Nat.mod_eq_of_lt hlt, Nat.mod_eq_of_lt hroom]

theorem packs_bits {width : Nat} (h : width ≤ 8) : Packs (bits width) (low width) where
  pack_lt value := by
    simp only [bits, Nat.one_shiftLeft]
    exact Nat.mod_lt _ (Nat.two_pow_pos width)
  unpack_pack value above := by
    simp only [bits, low, Nat.one_shiftLeft, Nat.add_mul_mod_self_left, Nat.mod_mod]
  pack_unpack word := by
    have hlt : word % 2 ^ width < 2 ^ 8 :=
      Nat.lt_of_lt_of_le (Nat.mod_lt _ (Nat.two_pow_pos width))
        (Nat.pow_le_pow_right (by decide) h)
    simp only [bits, Nat.one_shiftLeft]
    rw [UInt8.toNat_ofNat', Nat.mod_eq_of_lt hlt, Nat.mod_mod]

theorem packs_flag : Packs flag id where
  pack_lt value := by cases value <;> decide
  unpack_pack value above := by
    change ((value.toNat + 2 * above) % 2 == 1) = value
    rw [Nat.add_mul_mod_self_left]
    cases value <;> rfl
  pack_unpack word := by
    rcases Nat.mod_two_eq_zero_or_one word with h | h <;> simp [flag, h]

/-- One field above another. -/
theorem Packs.pair (hf : Packs f cut) (hg : Packs g cut') :
    Packs (f.pair g) (Prod.map cut cut') where
  pack_lt value := by
    have hlow := hf.pack_lt value.1
    have hhigh := hg.pack_lt value.2
    calc f.pack value.1 + g.pack value.2 <<< f.width
      _ < 2 ^ f.width + g.pack value.2 * 2 ^ f.width := by
        rw [Nat.shiftLeft_eq]
        exact Nat.add_lt_add_right hlow _
      _ = (g.pack value.2 + 1) * 2 ^ f.width := by ring
      _ ≤ 2 ^ g.width * 2 ^ f.width := Nat.mul_le_mul_right _ hhigh
      _ = 2 ^ (f.width + g.width) := by rw [← pow_add, Nat.add_comm]
  unpack_pack value above := by
    have hword : (f.pair g).pack value + 2 ^ (f.pair g).width * above =
        f.pack value.1 + 2 ^ f.width * (g.pack value.2 + 2 ^ g.width * above) := by
      simp only [BitField.pair, Nat.shiftLeft_eq, pow_add]
      ring
    rw [hword]
    -- the upper field starts where the lower one has no bit left
    have hupper : (f.pack value.1 + 2 ^ f.width * (g.pack value.2 + 2 ^ g.width * above)) >>>
        f.width = g.pack value.2 + 2 ^ g.width * above := by
      rw [Nat.shiftRight_eq_div_pow, Nat.add_mul_div_left _ _ (Nat.two_pow_pos _),
        Nat.div_eq_of_lt (hf.pack_lt value.1), Nat.zero_add]
    simp only [BitField.pair, hupper, hf.unpack_pack, hg.unpack_pack, Prod.map]
  pack_unpack word := by
    simp only [BitField.pair, hf.pack_unpack, hg.pack_unpack]
    rw [Nat.shiftRight_eq_div_pow, Nat.shiftLeft_eq, pow_add, Nat.mod_mul,
      Nat.mul_comm (word / 2 ^ f.width % 2 ^ g.width)]

/-- The same layout for another type. -/
theorem Packs.via (hf : Packs f cut) {make : α → β} {parts : β → α}
    (hparts : ∀ a, parts (make a) = a) :
    Packs (f.via make parts) fun value => make (cut (parts value)) where
  pack_lt value := hf.pack_lt (parts value)
  unpack_pack value above := congrArg make (hf.unpack_pack (parts value) above)
  pack_unpack word := by
    simp only [BitField.via, hparts]
    exact hf.pack_unpack word

/-- The same statement with what is left said in another way. -/
theorem Packs.congr (hf : Packs f cut) {same : α → α} (h : ∀ value, cut value = same value) :
    Packs f same := (funext h : cut = same) ▸ hf

end AvcDriver.Record.BitField
