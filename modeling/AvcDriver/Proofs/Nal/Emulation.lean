import AvcDriver.Nal.Reader
import AvcDriver.Nal.Writer

/-!
# Emulation prevention

`escape` is emulation prevention as H.264 7.4.1 has it, byte by byte over a payload: a
byte 3 goes in front of every byte up to 3 behind two zeros, and the zeros in front of it
do not count any more. The writer has no such counter. It looks back at its output.

* `toList_foldl_pushEscaped`: looking back comes to the same as counting zeros.
* `unescape_escape`: the reader, which counts zeros in its own way, takes out what was
  put in, whatever came before.
* `guarded_escape`: behind two zeros, an escaped payload has a byte above 3, or a byte 3
  with a byte up to 3 behind it.
-/

namespace AvcDriver.Nal

/-- A payload with its emulation prevention bytes, `zeros` being the number of zero bytes
just before it. -/
def escape (zeros : Nat) : Bytes → Bytes
  | [] => []
  | byte :: rest =>
    if 2 ≤ zeros ∧ byte ≤ 3 then 3 :: byte :: escape (if byte = 0 then 1 else 0) rest
    else byte :: escape (if byte = 0 then zeros + 1 else 0) rest

/-! ## Looking back -/

/-- How many zeros a byte string ends in. -/
def trailingZeros (bytes : Bytes) : Nat := (bytes.reverse.takeWhile (· = 0)).length

theorem trailingZeros_concat (bytes : Bytes) (byte : UInt8) :
    trailingZeros (bytes ++ [byte]) = if byte = 0 then trailingZeros bytes + 1 else 0 := by
  rw [trailingZeros, List.reverse_append, List.reverse_singleton, List.singleton_append,
    List.takeWhile_cons]
  by_cases hbyte : byte = 0
  · simp [hbyte, trailingZeros]
  · simp [hbyte]

/-- A start code ends in no zeros. -/
theorem trailingZeros_startCode (bytes : Bytes) : trailingZeros (bytes ++ startCode) = 0 := by
  change trailingZeros (bytes ++ ([0, 0, 0] ++ [1])) = 0
  rw [← List.append_assoc, trailingZeros_concat]
  rfl

namespace Writer

theorem endsInZeros_iff (output : Array UInt8) :
    endsInZeros output = true ↔ 2 ≤ trailingZeros output.toList := by
  obtain ⟨bytes⟩ := output
  rcases List.eq_nil_or_concat bytes with rfl | ⟨init, last, rfl⟩
  · simp [endsInZeros, trailingZeros]
  · rcases List.eq_nil_or_concat init with rfl | ⟨front, before, rfl⟩
    · simp only [List.concat_eq_append, trailingZeros_concat]
      simp only [endsInZeros, trailingZeros]
      by_cases hlast : last = 0 <;> simp [hlast]
    · simp only [List.concat_eq_append, trailingZeros_concat]
      by_cases hlast : last = 0 <;> by_cases hbefore : before = 0 <;>
        simp [endsInZeros, hlast, hbefore]

/-- **Looking back at the output is counting zeros.** -/
theorem toList_foldl_pushEscaped (bytes : Bytes) :
    ∀ output : Array UInt8, (bytes.foldl pushEscaped output).toList =
      output.toList ++ escape (trailingZeros output.toList) bytes := by
  induction bytes with
  | nil =>
    intro output
    rw [List.foldl_nil, escape, List.append_nil]
  | cons byte bytes ih =>
    intro output
    rw [List.foldl_cons, ih, pushEscaped, escape]
    by_cases hguard : 2 ≤ trailingZeros output.toList ∧ byte ≤ 3
    · have hlook : (endsInZeros output && decide (byte ≤ 3)) = true := by
        rw [Bool.and_eq_true, endsInZeros_iff, decide_eq_true_eq]
        exact hguard
      rw [if_pos hguard, if_pos hlook, Array.toList_push, Array.toList_push, trailingZeros_concat,
        trailingZeros_concat, List.append_assoc, List.append_assoc]
      rfl
    · have hlook : ¬(endsInZeros output && decide (byte ≤ 3)) = true := by
        rw [Bool.and_eq_true, endsInZeros_iff, decide_eq_true_eq]
        exact hguard
      rw [if_neg hguard, if_neg hlook, Array.toList_push, trailingZeros_concat, List.append_assoc]
      rfl

end Writer

/-! ## Reading back -/

/-- **The reader takes out what was put in.** -/
theorem unescape_escape (bytes : Bytes) :
    ∀ zeros, Reader.unescape zeros (escape zeros bytes) = bytes := by
  induction bytes with
  | nil =>
    intro zeros
    rfl
  | cons byte bytes ih =>
    intro zeros
    rw [escape]
    by_cases hguard : 2 ≤ zeros ∧ byte ≤ 3
    · -- the byte behind the inserted one is read with no zeros counted
      rw [if_pos hguard, Reader.unescape, if_pos ⟨hguard.1, rfl⟩, Reader.unescape,
        if_neg (by omega), ih]
    · have hread : ¬(2 ≤ zeros ∧ byte = 3) := by
        rintro ⟨hzeros, rfl⟩
        exact hguard ⟨hzeros, by decide⟩
      rw [if_neg hguard, Reader.unescape, if_neg hread, ih]

/-! ## No reserved patterns -/

/-- Behind two zeros stands a byte above 3, or a byte 3 and behind it a byte up to 3.
`zeros` is the number of zero bytes just before. -/
def Guarded : Nat → Bytes → Prop
  | _, [] => True
  | zeros, byte :: rest =>
    (2 ≤ zeros → 3 < byte ∨ byte = 3 ∧ ∃ escaped after, rest = escaped :: after ∧ escaped ≤ 3) ∧
      Guarded (if byte = 0 then zeros + 1 else 0) rest

/-- **An escaped payload is guarded.** -/
theorem guarded_escape (bytes : Bytes) : ∀ zeros, Guarded zeros (escape zeros bytes) := by
  induction bytes with
  | nil =>
    intro zeros
    trivial
  | cons byte bytes ih =>
    intro zeros
    rw [escape]
    by_cases hguard : 2 ≤ zeros ∧ byte ≤ 3
    · rw [if_pos hguard]
      -- the inserted byte ends the zeros, so nothing is asked of the byte behind it
      refine ⟨fun _ => .inr ⟨rfl, byte, _, rfl, hguard.2⟩, ?_, ?_⟩
      · intro hzeros
        rw [if_neg (by decide)] at hzeros
        omega
      · exact ih (if byte = 0 then 1 else 0)
    · rw [if_neg hguard]
      refine ⟨fun hzeros => .inl ?_, ih _⟩
      exact UInt8.not_le.mp fun hle => hguard ⟨hzeros, hle⟩

/-- What a guarded payload has behind any two zeros in it. -/
theorem Guarded.behind_zeros {byte : UInt8} {after : Bytes} (before : Bytes) :
    ∀ {zeros : Nat}, Guarded zeros (before ++ 0 :: 0 :: byte :: after) →
      3 < byte ∨ byte = 3 ∧ ∃ escaped rest, after = escaped :: rest ∧ escaped ≤ 3 := by
  induction before with
  | nil =>
    intro zeros h
    exact h.2.2.1 (by simp)
  | cons first before ih =>
    intro zeros h
    exact ih h.2

/-- Escaping puts nothing behind a payload. -/
theorem getLast?_escape (bytes : Bytes) :
    ∀ zeros, (escape zeros bytes).getLast? = bytes.getLast? := by
  induction bytes with
  | nil =>
    intro zeros
    rfl
  | cons byte bytes ih =>
    intro zeros
    rw [escape]
    split
    · rw [List.getLast?_cons_cons, List.getLast?_cons, List.getLast?_cons, ih]
    · rw [List.getLast?_cons, List.getLast?_cons, ih]

end AvcDriver.Nal
