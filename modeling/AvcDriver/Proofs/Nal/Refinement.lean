import AvcDriver.Proofs.Nal.Draft
import AvcDriver.Proofs.Nal.Register

/-!
# A writer keeps a draft

A writer `Holds` a string of bits behind an output when the bytes that left its register
since that output and the bits still in it are that string. Every field, however it falls
across the register, only puts its own bits behind the string: it `Appends` them. Opening
and closing a unit settle the string, so a writer `Keeps` the draft that the same calls
come to.

* `appends_element`: what a field appends depends on its bits only.
* `Keeps.call`: a legal call is accepted, and comes to its tokens.
* `written_eq_plainStream`: the stream of legal calls is the plain one, and two lists of
  calls with the same bits and marks leave the same stream.
-/

namespace AvcDriver.Nal

open Reader (ofBytes)

namespace Writer

/-! ## What a writer holds -/

/-- Bytes behind an output, with emulation prevention if they are guarded. -/
def emit (guarded : Bool) (base : Array UInt8) (bytes : Bytes) : Array UInt8 :=
  if guarded then bytes.foldl pushEscaped base else base ++ bytes

theorem emit_nil (guarded : Bool) (base : Array UInt8) : emit guarded base [] = base := by
  cases guarded <;> simp [emit]

theorem emit_append (guarded : Bool) (base : Array UInt8) (xs ys : Bytes) :
    emit guarded base (xs ++ ys) = emit guarded (emit guarded base xs) ys := by
  cases guarded with
  | true => exact List.foldl_append
  | false => exact Array.toList_inj.mp (by simp [emit])

/-- Since its output was `base`, a writer has taken the bits `bits`. Some of them have
left the register as whole bytes. -/
structure Holds (escaping unitOpen : Bool) (base : Array UInt8) (bits : List Bool)
    (w : Writer) : Prop where
  escaping_eq : w.escaping = escaping
  unitOpen_eq : w.unitOpen = unitOpen
  held_le : w.held ≤ registerBits
  spilled : ∃ bytes, w.output = emit (escaping && unitOpen) base bytes ∧
    bits = ofBytes bytes ++ w.pending

namespace Holds

variable {escaping unitOpen : Bool} {base : Array UInt8} {bits : List Bool} {w : Writer}

/-- The pending bits and all bits are equally far from a byte boundary. -/
theorem held_mod (h : w.Holds escaping unitOpen base bits) : w.held % 8 = bits.length % 8 := by
  obtain ⟨bytes, -, hbits⟩ := h.spilled
  rw [hbits, List.length_append, Reader.length_ofBytes, length_pending, Nat.mul_add_mod]

/-- With no bits pending, all bits are in the output. -/
theorem output_eq (h : w.Holds escaping unitOpen base bits) (hheld : w.held = 0) :
    w.output = emit (escaping && unitOpen) base (bytesOf bits) := by
  obtain ⟨bytes, houtput, hbits⟩ := h.spilled
  rw [houtput, hbits, pending_of_held hheld, List.append_nil, bytesOf_ofBytes]

/-- A writer that holds nothing behind an output has no bits pending. -/
theorem held_eq_zero (h : w.Holds escaping unitOpen base []) : w.held = 0 := by
  obtain ⟨bytes, -, hbits⟩ := h.spilled
  obtain ⟨-, hpending⟩ := List.append_eq_nil_iff.mp hbits.symm
  rw [← length_pending, hpending, List.length_nil]

/-- What is readable from a writer that holds nothing behind an output. -/
theorem bytes_eq (h : w.Holds escaping unitOpen base []) : w.bytes = .ok base.toList := by
  rw [Writer.bytes, if_pos h.held_eq_zero, h.output_eq h.held_eq_zero,
    show bytesOf [] = [] from rfl, emit_nil]

/-- A writer with no bits pending holds nothing behind its output. -/
theorem of_held_eq_zero (w : Writer) (hheld : w.held = 0) :
    w.Holds w.escaping w.unitOpen w.output [] where
  escaping_eq := rfl
  unitOpen_eq := rfl
  held_le := by rw [hheld]; exact Nat.zero_le _
  spilled := ⟨[], (emit_nil _ _).symm, by rw [pending_of_held hheld]; rfl⟩

/-- **Spilling** fills the bits up to a byte boundary and leaves none pending. In an open
unit with emulation prevention they have to reach to one already. -/
theorem spill (h : w.Holds escaping unitOpen base bits)
    (haligned : (escaping && unitOpen) = true → bits.length % 8 = 0) :
    ∃ w', w.spill = .ok w' ∧ w'.held = 0 ∧
      w'.Holds escaping unitOpen base (bits ++ List.replicate (padding bits.length) false) := by
  have hmod := h.held_mod
  have hpad : padding w.held = padding bits.length := by rw [padding, padding, hmod]
  by_cases hzero : w.held = 0
  · refine ⟨w, by rw [Writer.spill, if_pos hzero], hzero, ?_⟩
    rw [padding_of_aligned (by omega), List.replicate_zero, List.append_nil]
    exact h
  · obtain ⟨bytes, houtput, hbits⟩ := h.spilled
    -- both ways of spilling leave these fields and this output
    have hspill : w.spill = .ok { w with
        output := emit (escaping && unitOpen) w.output w.pendingBytes
        register := 0
        held := 0 } := by
      rw [Writer.spill, if_neg hzero, h.escaping_eq, h.unitOpen_eq]
      cases hguarded : escaping && unitOpen with
      | true => rw [if_pos rfl, if_pos (by rw [hmod]; exact haligned hguarded)]; rfl
      | false => rfl
    refine ⟨_, hspill, rfl, h.escaping_eq, h.unitOpen_eq, Nat.zero_le _, bytes ++ w.pendingBytes,
      ?_, ?_⟩
    · rw [emit_append, ← houtput]
    · rw [hbits, Reader.ofBytes_append, ofBytes_pendingBytes h.held_le, hpad, hbits,
        List.append_assoc, List.append_assoc]
      exact congrArg _ (List.append_nil _).symm

/-- Whole bytes are spilled as they are. -/
theorem spill_aligned (h : w.Holds escaping unitOpen base bits) (haligned : bits.length % 8 = 0) :
    ∃ w', w.spill = .ok w' ∧ w'.held = 0 ∧ w'.Holds escaping unitOpen base bits := by
  have hspill := h.spill fun _ => haligned
  rwa [padding_of_aligned haligned, List.replicate_zero, List.append_nil] at hspill

/-- Making room for the next bit empties a full register and keeps what a writer holds. -/
theorem makeRoom (h : w.Holds escaping unitOpen base bits) :
    ∃ w', w.makeRoom = .ok w' ∧ w'.held = w.held % registerBits ∧
      w'.Holds escaping unitOpen base bits := by
  by_cases hfull : w.held = registerBits
  · have haligned : bits.length % 8 = 0 := by rw [← h.held_mod, hfull]; rfl
    obtain ⟨w', hspill, hheld, h'⟩ := h.spill_aligned haligned
    exact ⟨w', by rw [Writer.makeRoom, if_pos hfull, hspill],
      by rw [hheld, hfull, Nat.mod_self], h'⟩
  · have hlt : w.held < registerBits := Nat.lt_of_le_of_ne h.held_le hfull
    exact ⟨w, by rw [Writer.makeRoom, if_neg hfull], (Nat.mod_eq_of_lt hlt).symm, h⟩

/-- A field that fits into the register comes behind the bits held. -/
theorem shiftIn (h : w.Holds escaping unitOpen base bits) (count : Nat) (value : UInt64)
    (hfits : w.held + count ≤ registerBits) :
    (w.shiftIn count value).Holds escaping unitOpen base (bits ++ bitsOf count value.toNat) := by
  obtain ⟨bytes, houtput, hbits⟩ := h.spilled
  refine ⟨h.escaping_eq, h.unitOpen_eq, hfits, bytes, houtput, ?_⟩
  rw [pending_shiftIn value hfits, hbits, List.append_assoc]

/-- Whole bytes can go straight to the output while it is not guarded. -/
theorem put (h : w.Holds escaping false base bits) (hheld : w.held = 0) (bytes : Bytes) :
    { w with output := w.output ++ bytes }.Holds escaping false base (bits ++ ofBytes bytes) := by
  obtain ⟨before, houtput, hbits⟩ := h.spilled
  refine ⟨h.escaping_eq, h.unitOpen_eq, h.held_le, before ++ bytes, ?_, ?_⟩
  · rw [emit_append, ← houtput, Bool.and_false]
    rfl
  · have hnone : { w with output := w.output ++ bytes }.pending = [] := pending_of_held hheld
    rw [hnone, hbits, pending_of_held hheld, Reader.ofBytes_append, List.append_nil,
      List.append_nil]

end Holds

/-! ## Fields -/

/-- A write that is accepted by every writer and puts these bits behind what it holds. -/
def Appends (write : Writer → Except Fault Writer) (new : List Bool) : Prop :=
  ∀ (escaping unitOpen : Bool) (base : Array UInt8) (bits : List Bool) (w : Writer),
    w.Holds escaping unitOpen base bits →
      ∃ w', write w = .ok w' ∧ w'.Holds escaping unitOpen base (bits ++ new)

namespace Appends

variable {write next : Writer → Except Fault Writer} {xs ys : List Bool}

theorem nil : Appends .ok [] := by
  intro _ _ _ bits w h
  rw [List.append_nil]
  exact ⟨w, rfl, h⟩

/-- One write after another puts the bits of both there. -/
theorem bind (hwrite : Appends write xs) (hnext : Appends next ys) :
    Appends (write · >>= next) (xs ++ ys) := by
  intro _ _ _ _ w h
  obtain ⟨w₁, hw₁, h₁⟩ := hwrite _ _ _ _ _ h
  obtain ⟨w₂, hw₂, h₂⟩ := hnext _ _ _ _ _ h₁
  rw [List.append_assoc] at h₂
  refine ⟨w₂, ?_, h₂⟩
  dsimp only
  rw [hw₁, ok_bind, hw₂]

/-- Writes one after another put the bits of all there. -/
theorem foldlM {α : Type} {writeOne : Writer → α → Except Fault Writer}
    {bitsOfOne : α → List Bool} {items : List α}
    (hone : ∀ item ∈ items, Appends (writeOne · item) (bitsOfOne item)) :
    Appends (items.foldlM writeOne) (items.flatMap bitsOfOne) := by
  induction items with
  | nil => exact nil
  | cons item items ih =>
    have hrest := ih fun item hitem => hone item (List.mem_cons_of_mem _ hitem)
    rw [List.flatMap_cons]
    simp only [List.foldlM_cons]
    exact bind (hone item List.mem_cons_self) hrest

end Appends

/-- **A field of bits**, also when only a part of it fits into the register. -/
theorem appends_bits (count : Nat) (value : UInt64) (hcount : count ≤ registerBits) :
    Appends (appendBits · count value) (bitsOf count value.toNat) := by
  rcases Nat.eq_zero_or_pos count with rfl | hpos
  · exact Appends.nil
  intro escaping unitOpen base bits w h
  obtain ⟨w₁, hroom₁, hheld₁, h₁⟩ := h.makeRoom
  have hlt₁ : w₁.held < registerBits := hheld₁ ▸ Nat.mod_lt _ (by decide)
  obtain ⟨first, hfirst⟩ : ∃ first, first = min count (registerBits - w₁.held) := ⟨_, rfl⟩
  have h₂ := h₁.shiftIn first (value >>> UInt64.ofNat (count - first)) (by omega)
  rw [toNat_shiftRight_place value (by omega)] at h₂
  have happend : w.appendBits count value =
      (let w₂ := w₁.shiftIn first (value >>> UInt64.ofNat (count - first))
      if first < count then do
        let w₃ ← w₂.makeRoom
        pure (w₃.shiftIn (count - first) value)
      else pure w₂) := by
    rw [appendBits, if_neg (Nat.not_lt.mpr hcount), if_neg hpos.ne', hroom₁, ok_bind, hfirst]
  by_cases hrest : first < count
  · -- the register is full, and the rest goes behind a spill
    obtain ⟨w₃, hroom₃, hheld₃, h₃⟩ := h₂.makeRoom
    have hfull : w₁.held + first = registerBits := by omega
    have hempty : w₃.held = 0 := by
      rw [hheld₃]
      change (w₁.held + first) % registerBits = 0
      rw [hfull, Nat.mod_self]
    have h₄ := h₃.shiftIn (count - first) value (by omega)
    rw [List.append_assoc, ← bitsOf_append, Nat.add_sub_cancel' hrest.le] at h₄
    refine ⟨_, happend.trans ?_, h₄⟩
    dsimp only
    rw [if_pos hrest, hroom₃]
    rfl
  · have hall : first = count := by omega
    rw [hall, Nat.sub_self, Nat.shiftRight_zero] at h₂
    refine ⟨_, happend.trans ?_, h₂⟩
    dsimp only
    rw [hall, if_neg (Nat.lt_irrefl _), Nat.sub_self]
    rfl

theorem appends_flag (value : Bool) : Appends (appendFlag · value) [value] := by
  intro escaping unitOpen base bits w h
  obtain ⟨w₁, hroom, hheld, h₁⟩ := h.makeRoom
  have hlt : w₁.held < registerBits := hheld ▸ Nat.mod_lt _ (by decide)
  have h₂ := h₁.shiftIn 1 value.toUInt64 hlt
  have hbit : bitsOf 1 value.toUInt64.toNat = [value] := by cases value <;> rfl
  rw [hbit] at h₂
  refine ⟨_, ?_, h₂⟩
  dsimp only
  rw [appendFlag, hroom, ok_bind]
  rfl

/-- **An Exp-Golomb code**, up to 65 bits of it. -/
theorem appends_ue (value : UInt32) : Appends (appendUe · value) (expGolomb value.toNat) := by
  have hvalue := value.toNat_lt
  have hcode : (value.toUInt64 + 1).toNat = value.toNat + 1 := by
    rw [UInt64.toNat_add, UInt32.toNat_toUInt64, UInt64.toNat_one]
    exact Nat.mod_eq_of_lt (by omega)
  have hzeros : (value.toNat + 1).log2 < 33 := (Nat.log2_lt (by omega)).mpr (by omega)
  have hfront := appends_bits (value.toNat + 1).log2 0 (by unfold registerBits; omega)
  have hback := appends_bits ((value.toNat + 1).log2 + 1) (value.toUInt64 + 1)
    (by unfold registerBits; omega)
  rw [hcode] at hback
  rw [show (0 : UInt64).toNat = 0 from rfl, bitsOf_zero] at hfront
  have hboth := hfront.bind hback
  rw [← hcode] at hboth
  rw [expGolomb, ← hcode]
  exact hboth

theorem appends_se {value : Int32} (hvalue : value ≠ Int32.minValue) :
    Appends (appendSe · value) (Element.se value).bitString := by
  have hindex : signedIndex value.toInt = signedCode value.toInt :=
    (apply_ite Int.toNat _ _ _).symm
  have hcode : (UInt32.ofNat (signedIndex value.toInt)).toNat = signedCode value.toInt := by
    rw [hindex, UInt32.toNat_ofNat', Nat.mod_eq_of_lt (signedCode_lt hvalue)]
  have hue := appends_ue (UInt32.ofNat (signedIndex value.toInt))
  rw [hcode] at hue
  intro escaping unitOpen base bits w h
  obtain ⟨w', hw', h'⟩ := hue _ _ _ _ _ h
  exact ⟨w', (if_neg hvalue).trans hw', h'⟩

/-- **Whole bytes**, whether they take the short way or go through the register. -/
theorem appends_bytes (bytes : Bytes) : Appends (appendBytes · bytes) (ofBytes bytes) := by
  intro escaping unitOpen base bits w h
  by_cases hshort : (!w.unitOpen && w.held % 8 = 0) = true
  · obtain ⟨hclosed, haligned⟩ : unitOpen = false ∧ bits.length % 8 = 0 := by
      rwa [Bool.and_eq_true, Bool.not_eq_true', decide_eq_true_eq, h.unitOpen_eq, h.held_mod]
        at hshort
    subst hclosed
    obtain ⟨w₁, hflush, hheld, h₁⟩ := h.spill_aligned haligned
    exact ⟨_, (if_pos hshort).trans (congrArg (· >>= _) hflush), h₁.put hheld bytes⟩
  · have hbyte : ∀ byte ∈ bytes,
        Appends (appendBits · 8 byte.toUInt64) (bitsOf 8 byte.toNat) := by
      intro byte _
      have hone := appends_bits 8 byte.toUInt64 (by decide)
      rwa [UInt8.toNat_toUInt64] at hone
    obtain ⟨w', hw', h'⟩ := Appends.foldlM hbyte _ _ _ _ _ h
    rw [← Reader.ofBytes_eq_flatMap] at h'
    exact ⟨w', (if_neg hshort).trans hw', h'⟩

/-- **What an element appends** are its bits, whatever is pending. -/
theorem appends_element {element : Element} (h : element.Writable) :
    Appends (append · element) element.bitString := by
  cases element with
  | bits count value => exact appends_bits count value h
  | flag value => exact appends_flag value
  | ue value => exact appends_ue value
  | se value => exact appends_se h
  | bytes value => exact appends_bytes value

theorem appends_elements {elements : List Element} (h : ∀ e ∈ elements, e.Writable) :
    Appends (appendAll · elements) (elements.flatMap Element.bitString) :=
  Appends.foldlM fun element helement => appends_element (h element helement)

/-! ## Units -/

namespace Holds

variable {escaping : Bool} {base : Array UInt8} {bits : List Bool} {w : Writer}

/-- **Flushing** settles everything held. -/
theorem flush {unitOpen : Bool} (h : w.Holds escaping unitOpen base bits)
    (haligned : (escaping && unitOpen) = true → bits.length % 8 = 0) :
    ∃ w', w.flush = .ok w' ∧
      w'.Holds escaping unitOpen (emit (escaping && unitOpen) base (pack bits)) [] := by
  obtain ⟨w', hflush, hheld, h'⟩ := h.spill haligned
  have hnew := of_held_eq_zero w' hheld
  rw [h'.escaping_eq, h'.unitOpen_eq, h'.output_eq hheld] at hnew
  exact ⟨w', hflush, hnew⟩

/-- Between units, what is settled is not escaped. -/
theorem flush_closed (h : w.Holds escaping false base bits) :
    ∃ w', w.flush = .ok w' ∧ w'.Holds escaping false (base ++ pack bits) [] := by
  have hflush := h.flush (by simp)
  rwa [Bool.and_false] at hflush

/-- With nothing held behind the output, a writer may start or stop guarding it. -/
theorem reopen {unitOpen : Bool} (h : w.Holds escaping unitOpen base []) (unitOpen' : Bool) :
    { w with unitOpen := unitOpen' }.Holds escaping unitOpen' base [] where
  escaping_eq := h.escaping_eq
  unitOpen_eq := rfl
  held_le := h.held_le
  spilled := by
    refine ⟨[], ?_, (pending_of_held h.held_eq_zero).symm⟩
    rw [emit_nil, h.output_eq h.held_eq_zero]
    exact emit_nil _ _

/-- **Opening a unit** settles everything held, then the start code. The header is held. -/
theorem beginUnit (h : w.Holds escaping false base bits) {kind : UnitType} {refIdc : Nat}
    (hkind : kind.Writable) (href : refIdc ≤ 3) :
    ∃ w', w.beginUnit kind refIdc = .ok w' ∧
      w'.Holds escaping true (base ++ pack bits ++ startCode) (headerBits kind refIdc) := by
  obtain ⟨w₁, hflush₁, h₁⟩ := h.flush_closed
  obtain ⟨w₂, hcode, h₂⟩ := appends_bits 32 1 (by decide) _ _ _ _ _ h₁
  obtain ⟨w₃, hflush₃, h₃⟩ := h₂.flush_closed
  have hrefIdc : (UInt64.ofNat refIdc).toNat = refIdc := by
    rw [UInt64.toNat_ofNat']
    exact Nat.mod_eq_of_lt (by omega)
  have hheader := (appends_bits 1 0 (by decide)).bind
    ((appends_bits 2 (UInt64.ofNat refIdc) (by decide)).bind
      (appends_bits 5 kind.code.toUInt64 (by decide)))
  rw [hrefIdc, UInt8.toNat_toUInt64] at hheader
  obtain ⟨w₄, hw₄, h₄⟩ := hheader _ _ _ _ _ (h₃.reopen true)
  refine ⟨w₄, ?_, h₄⟩
  unfold Writer.beginUnit
  rw [h.unitOpen_eq, if_neg Bool.false_ne_true]
  dsimp only
  rw [if_neg hkind.1, if_neg (UInt8.not_lt.mpr hkind.2), if_neg (Nat.not_lt.mpr href), hflush₁,
    ok_bind, show w₁.appendBits 32 1 = _ from hcode, ok_bind, hflush₃, ok_bind]
  exact hw₄

/-- **Closing a unit** settles its bits behind a stop bit, with zeros up to a byte boundary. -/
theorem finishUnit (h : w.Holds escaping true base bits) :
    ∃ w', w.finishUnit = .ok w' ∧
      w'.Holds escaping false (emit escaping base (pack (bits ++ [true]))) [] := by
  obtain ⟨w₁, hstop, h₁⟩ := appends_bits 1 1 (by decide) _ _ _ _ _ h
  change w₁.Holds escaping true base (bits ++ [true]) at h₁
  have hpad : (registerBits - w₁.held) % 8 = padding (bits ++ [true]).length := by
    have hmod := h₁.held_mod
    have hle : w₁.held ≤ 64 := h₁.held_le
    unfold padding registerBits
    omega
  have hwidth : padding (bits ++ [true]).length ≤ registerBits :=
    (padding_lt _).le.trans (by decide)
  obtain ⟨w₂, hzeros, h₂⟩ := appends_bits _ 0 hwidth _ _ _ _ _ h₁
  rw [show (0 : UInt64).toNat = 0 from rfl, bitsOf_zero] at h₂
  -- the bits are whole bytes now, so flushing them is allowed and adds nothing
  obtain ⟨w₃, hflush, h₃⟩ := h₂.flush fun _ => by
    rw [List.length_append, List.length_replicate]
    exact add_padding_mod _
  rw [Bool.and_true, pack_append_zeros] at h₃
  refine ⟨_, ?_, h₃.reopen false⟩
  unfold Writer.finishUnit
  rw [h.unitOpen_eq, if_neg (by decide)]
  dsimp only
  rw [show w.appendBits 1 1 = _ from hstop, ok_bind, hpad, show w₁.appendBits _ 0 = _ from hzeros,
    ok_bind, hflush, ok_bind]
  rfl

end Holds

/-! ## Drafts -/

/-- A writer keeps a draft when it holds the draft's bits behind the settled bytes. No
zeros count at the beginning of an open unit. -/
structure Keeps (escaping : Bool) (d : Draft) (w : Writer) : Prop where
  holds : w.Holds escaping d.unitOpen d.settled.toArray d.bits
  no_zeros : d.unitOpen = true → trailingZeros d.settled = 0

theorem keeps_empty (escaping : Bool) : (empty escaping).Keeps escaping {} where
  holds := Holds.of_held_eq_zero (empty escaping) rfl
  no_zeros := Bool.noConfusion

/-- A unit that begins behind no zeros is settled as its payload. -/
theorem emit_payload {settled : Bytes} (h : trailingZeros settled = 0) (escaping : Bool)
    (bytes : Bytes) :
    emit escaping settled.toArray bytes = (settled ++ Draft.payload escaping bytes).toArray := by
  refine Array.toList_inj.mp ?_
  cases escaping with
  | true => exact (toList_foldl_pushEscaped bytes settled.toArray).trans (by rw [h]; rfl)
  | false => simp [emit, Draft.payload]

namespace Keeps

variable {escaping : Bool} {d : Draft} {w : Writer}

/-- **A legal call** is accepted and comes to its tokens. -/
theorem call (h : w.Keeps escaping d) {call : Call} (hlegal : call.Legal d) :
    ∃ w', w.call call = .ok w' ∧ w'.Keeps escaping (d.run escaping call.tokens) := by
  obtain ⟨settled, unitOpen, bits⟩ := d
  obtain ⟨hholds, hzeros⟩ := h
  -- only opening and closing a unit change what is settled, and flushing between units
  dsimp only at hholds hzeros
  cases call with
  | append element =>
    obtain ⟨w', hw', h'⟩ := appends_element hlegal _ _ _ _ _ hholds
    refine ⟨w', hw', ?_⟩
    rw [Call.tokens, Draft.run_bits]
    exact ⟨h', hzeros⟩
  | flush =>
    cases unitOpen with
    | true =>
      obtain ⟨w', hw', -, h'⟩ := hholds.spill_aligned (hlegal rfl)
      exact ⟨w', hw', h', hzeros⟩
    | false =>
      obtain ⟨w', hw', h'⟩ := hholds.flush_closed
      refine ⟨w', hw', ?_, Bool.noConfusion⟩
      rwa [List.toArray_appendList] at h'
  | beginUnit kind refIdc =>
    obtain ⟨rfl, hkind, href⟩ := hlegal
    obtain ⟨w', hw', h'⟩ := hholds.beginUnit hkind href
    rw [List.toArray_appendList, List.toArray_appendList] at h'
    exact ⟨w', hw', h', fun _ => trailingZeros_startCode _⟩
  | finishUnit =>
    obtain rfl : unitOpen = true := hlegal
    obtain ⟨w', hw', h'⟩ := hholds.finishUnit
    refine ⟨w', hw', ?_, Bool.noConfusion⟩
    rwa [emit_payload (hzeros rfl)] at h'

/-- **Legal calls** are accepted one after another and come to their tokens. -/
theorem callAll {calls : List Call} :
    ∀ {d : Draft} {w : Writer}, w.Keeps escaping d → d.Legal escaping calls →
      ∃ w', w.callAll calls = .ok w' ∧
        w'.Keeps escaping (d.run escaping (calls.flatMap Call.tokens)) := by
  induction calls with
  | nil =>
    intro d w h _
    exact ⟨w, rfl, h⟩
  | cons call calls ih =>
    intro d w h hlegal
    obtain ⟨w₁, hw₁, h₁⟩ := h.call hlegal.1
    obtain ⟨w₂, hw₂, h₂⟩ := ih h₁ hlegal.2
    rw [List.flatMap_cons, Draft.run_append]
    refine ⟨w₂, ?_, h₂⟩
    rw [Writer.callAll, List.foldlM_cons, hw₁, ok_bind]
    exact hw₂

/-- **A whole unit** settles its start code and its payload behind what is settled. -/
theorem writeUnit {settled : Bytes} (h : w.Keeps escaping { settled := settled })
    {kind : UnitType} (hkind : kind.Writable) {refIdc : Nat} (href : refIdc ≤ 3)
    {elements : List Element} (helements : ∀ e ∈ elements, e.Writable) :
    ∃ w', w.writeUnit kind refIdc elements = .ok w' ∧
      w'.Keeps escaping
        { settled := settled ++ startCode ++
            Draft.unit escaping kind refIdc (elements.flatMap Element.bitString) } := by
  obtain ⟨w₁, hw₁, h₁⟩ := h.holds.beginUnit hkind href
  obtain ⟨w₂, hw₂, h₂⟩ := appends_elements helements _ _ _ _ _ h₁
  obtain ⟨w₃, hw₃, h₃⟩ := h₂.finishUnit
  rw [List.toArray_appendList, List.toArray_appendList, emit_payload (trailingZeros_startCode _),
    show pack [] = [] from rfl, List.append_nil] at h₃
  refine ⟨w₃, ?_, h₃, Bool.noConfusion⟩
  rw [Writer.writeUnit, hw₁, ok_bind, show w₁.appendAll elements = _ from hw₂, ok_bind, hw₃]

end Keeps

/-- The stream of legal calls that leave no unit open. -/
theorem written_of_legal {escaping : Bool} {calls : List Call}
    (hlegal : ({} : Draft).Legal escaping calls)
    (hclosed : (({} : Draft).run escaping (calls.flatMap Call.tokens)).unitOpen = false) :
    written escaping calls = .ok (plainStream escaping (calls.flatMap Call.tokens)) := by
  obtain ⟨w, hw, h⟩ := (keeps_empty escaping).callAll hlegal
  have hholds := h.holds
  rw [hclosed] at hholds
  obtain ⟨w', hflush, h'⟩ := hholds.flush_closed
  rw [written, hw, ok_bind, hflush, ok_bind, h'.bytes_eq, List.toArray_appendList, plainStream,
    Draft.step, if_neg (by rw [hclosed]; decide)]

/-- **The stream of legal calls is the plain one.** No legal call faults, and a stream with
no open unit depends on the bits and marks of the calls only. -/
theorem written_eq_plainStream {escaping : Bool} {calls : List Call}
    (hlegal : ({} : Draft).Legal escaping calls) :
    ∃ w, (empty escaping).callAll calls = .ok w ∧
      w.unitOpen = (({} : Draft).run escaping (calls.flatMap Call.tokens)).unitOpen ∧
      (w.unitOpen = false →
        written escaping calls = .ok (plainStream escaping (calls.flatMap Call.tokens)) ∧
        ∀ others, ({} : Draft).Legal escaping others →
          others.flatMap Call.tokens = calls.flatMap Call.tokens →
            written escaping others = written escaping calls) := by
  obtain ⟨w, hw, h⟩ := (keeps_empty escaping).callAll hlegal
  have hopen := h.holds.unitOpen_eq
  refine ⟨w, hw, hopen, fun hclosed => ?_⟩
  rw [hopen] at hclosed
  have hcalls := written_of_legal hlegal hclosed
  refine ⟨hcalls, fun others hothers htokens => ?_⟩
  rw [written_of_legal hothers (by rw [htokens]; exact hclosed), htokens, hcalls]

/-- Calls that leave the register in the middle of a field, flush within a unit and begin a
unit off a byte boundary. -/
theorem written_eq_plainStream_two_units :
    let calls : List Call :=
      [.append (.bytes [9]), .append (.bits 3 5), .beginUnit .sps 3, .append (.bytes [0, 0, 1]),
        .flush, .append (.ue 4294967295), .append (.bits 64 0), .append (.se (-3)), .finishUnit,
        .append (.flag true), .flush, .beginUnit .endOfSequence 0, .finishUnit]
    ({} : Draft).Legal true calls ∧
      written true calls = .ok
        [9, 160, 0, 0, 0, 1, 103, 0, 0, 3, 1, 0, 0, 3, 0, 0, 128, 0, 0, 3, 0, 0, 3, 0, 0, 3, 0, 0,
          3, 0, 0, 3, 0, 30, 128, 0, 0, 0, 1, 10, 128] := by
  intro calls
  have hlegal : ({} : Draft).Legal true calls := by decide
  obtain ⟨w, -, hopen, hwritten⟩ := written_eq_plainStream hlegal
  have hclosed : (({} : Draft).run true (calls.flatMap Call.tokens)).unitOpen = false := by decide
  obtain ⟨hstream, -⟩ := hwritten (hopen.trans hclosed)
  exact ⟨hlegal, hstream.trans (congrArg Except.ok (by decide +kernel))⟩

end Writer

end AvcDriver.Nal
