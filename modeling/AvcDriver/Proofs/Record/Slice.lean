import AvcDriver.Proofs.Record.Codec
import AvcDriver.Record.Slice

/-!
# Slice records, written and read

A slice record has a byte for its type and one for a flag, and most values of these two bytes are
never written. What is written is read back; what is read is written back with the two bytes put
the one way in which they are written.

* `Codec.Recovers`: a layout from which every value comes back, and what becomes of each byte that
  is read and written again.
* `Slice.parse_encode_append`: a slice record is read back from its bytes.
* `Slice.parse_eq_error_iff`: which bytes are refused.
* `Slice.encode_parse_normalizes`: both directions, said of records and byte strings.
-/

namespace AvcDriver.Record

/-! ## Bytes that are rewritten -/

/-- Bytes that are changed each in its own way. -/
def rewritten (each : List (UInt8 → UInt8)) (bytes : Bytes) : Bytes :=
  List.zipWith (fun change byte => change byte) each bytes

/-- Changes for one part behind another. -/
theorem rewritten_take_append {each : List (UInt8 → UInt8)} (bytes : Bytes)
    (others : List (UInt8 → UInt8)) {count : Nat} (hcount : each.length + count ≤ bytes.length) :
    rewritten (each ++ others) (bytes.take (each.length + count)) =
      rewritten each (bytes.take each.length) ++
        rewritten others ((bytes.drop each.length).take count) := by
  rw [List.take_add]
  refine List.zipWith_append ?_
  rw [List.length_take]
  omega

theorem rewritten_same (bytes : Bytes) :
    rewritten (List.replicate bytes.length id) bytes = bytes := by
  induction bytes with
  | nil => rfl
  | cons byte rest ih => exact congrArg (byte :: ·) ih

/-- Two neighbours are changed, and all other bytes stay. -/
theorem rewritten_two (change change' : UInt8 → UInt8) (before behind : Nat) {bytes : Bytes}
    (h : bytes.length = before + (behind + 2)) :
    rewritten (List.replicate before id ++ change :: change' :: List.replicate behind id) bytes =
      (bytes.set before (change (bytes.getD before 0))).set (before + 1)
        (change' (bytes.getD (before + 1) 0)) := by
  induction before generalizing bytes with
  | zero =>
    match bytes, h with
    | first :: second :: rest, h =>
      have hrest : behind = rest.length := by
        simp only [List.length_cons] at h
        omega
      subst hrest
      exact congrArg (change first :: change' second :: ·) (rewritten_same rest)
  | succ before ih =>
    match bytes, h with
    | first :: rest, h =>
      rw [List.length_cons] at h
      exact congrArg (first :: ·) (ih (by omega))

namespace Codec

variable {α β : Type} {c : Codec α} {c' : Codec β} {each each' : List (UInt8 → UInt8)}

/-! ## Layouts from which values come back -/

/-- A value takes `width` bytes and is read back from them, whatever lies behind. Bytes that are
read and written again are changed each in its own way. -/
structure Recovers (c : Codec α) (each : List (UInt8 → UInt8)) : Prop where
  length_each : each.length = c.width
  length_encode : ∀ value, (c.encode value).length = c.width
  decode_encode : ∀ value rest, c.decode (c.encode value ++ rest) = value
  encode_decode : ∀ bytes, c.width ≤ bytes.length →
    c.encode (c.decode bytes) = rewritten each (bytes.take c.width)

/-- A layout without gaps changes nothing. -/
theorem Lays.recovers (hc : Lays c id (List.replicate c.width 0xFF)) :
    Recovers c (List.replicate c.width id) where
  length_each := List.length_replicate
  length_encode := hc.length_encode
  decode_encode := hc.decode_encode
  encode_decode bytes h := by
    have hlength : (bytes.take c.width).length = c.width := List.length_take_of_le h
    have hwhole := masked_whole (bytes.take c.width)
    have hsame := rewritten_same (bytes.take c.width)
    rw [hlength] at hwhole hsame
    rw [hc.encode_decode bytes h, hwhole, hsame]

/-- One field behind another. -/
theorem Recovers.pair (hc : Recovers c each) (hc' : Recovers c' each') :
    Recovers (c.pair c') (each ++ each') where
  length_each := by
    rw [List.length_append, hc.length_each, hc'.length_each]
    rfl
  length_encode value := by
    change (c.encode value.1 ++ c'.encode value.2).length = c.width + c'.width
    rw [List.length_append, hc.length_encode, hc'.length_encode]
  decode_encode value rest := by
    change (c.decode (c.encode value.1 ++ c'.encode value.2 ++ rest),
      c'.decode ((c.encode value.1 ++ c'.encode value.2 ++ rest).drop c.width)) = _
    rw [List.append_assoc, hc.decode_encode, List.drop_left' (hc.length_encode value.1),
      hc'.decode_encode]
  encode_decode bytes h := by
    have h : c.width + c'.width ≤ bytes.length := h
    have hrest : c'.width ≤ (bytes.drop c.width).length := by
      rw [List.length_drop]
      omega
    change c.encode (c.decode bytes) ++ c'.encode (c'.decode (bytes.drop c.width)) =
      rewritten (each ++ each') (bytes.take (c.width + c'.width))
    rw [hc.encode_decode bytes (by omega), hc'.encode_decode _ hrest, ← hc.length_each,
      rewritten_take_append _ _ (by rwa [hc.length_each])]

/-- The same layout for another type, whose values are their parts under another name. -/
theorem Recovers.via (hc : Recovers c each) {make : α → β} {parts : β → α}
    (hvalue : ∀ value, make (parts value) = value) (hparts : ∀ a, parts (make a) = a) :
    Recovers (c.via make parts) each where
  length_each := hc.length_each
  length_encode value := hc.length_encode (parts value)
  decode_encode value rest :=
    (congrArg make (hc.decode_encode (parts value) rest)).trans (hvalue value)
  encode_decode bytes h :=
    (congrArg c.encode (hparts (c.decode bytes))).trans (hc.encode_decode bytes h)

/-- A byte of which not every value is written. -/
theorem recovers_byte_via {make : UInt8 → β} {parts : β → UInt8}
    (hvalue : ∀ value, make (parts value) = value) :
    Recovers (byte.via make parts) [fun raw => parts (make raw)] where
  length_each := rfl
  length_encode value := lays_byte.length_encode (parts value)
  decode_encode value rest :=
    (congrArg make (lays_byte.decode_encode (parts value) rest)).trans (hvalue value)
  encode_decode bytes h := by
    match bytes, h with
    | raw :: rest, _ =>
      have hread : byte.decode (raw :: rest) = raw := by
        change UInt8.ofNat (raw.toNat + 256 * 0) = raw
        rw [Nat.mul_zero, Nat.add_zero, UInt8.ofNat_toNat]
      have hwritten : byte.encode (parts (make raw)) = [parts (make raw)] := by
        change [UInt8.ofNat ((parts (make raw)).toNat >>> (8 * 0))] = _
        rw [Nat.mul_zero, Nat.shiftRight_zero, UInt8.ofNat_toNat]
      change byte.encode (parts (make (byte.decode (raw :: rest)))) = _
      rw [hread, hwritten]
      rfl

theorem recovers_flag : Recovers flag [fun raw => if raw != 0 then 1 else 0] := by
  refine recovers_byte_via fun value => ?_
  cases value <;> rfl

end Codec

namespace SliceType

theorem ofCode?_eq_none_iff {raw : UInt8} : ofCode? raw = none ↔ 10 ≤ raw := by
  rw [ofCode?]
  split
  · next h => exact iff_of_true rfl h
  · next h =>
    refine iff_of_false ?_ h
    split <;> rintro ⟨⟩

/-- A number below ten stands for the type that it is in a cycle of five. -/
theorem code_ofCode? {raw : UInt8} (h : raw < 10) :
    ((ofCode? raw).getD .p).code = raw % 5 := by
  have hcycle : (raw % 5).toNat = raw.toNat % 5 := UInt8.toNat_mod raw 5
  rw [← UInt8.toNat_inj, hcycle, ofCode?, if_neg (UInt8.not_le.2 h)]
  split
  · next hraw => exact hraw.symm
  · next hraw => exact hraw.symm
  · next hraw => exact hraw.symm
  · next hraw => exact hraw.symm
  · next h₀ h₁ h₂ h₃ =>
    change 4 = raw.toNat % 5
    simp only [imp_false] at h₀ h₁ h₂ h₃
    omega

end SliceType

namespace Slice

/-! ## The record -/

/-- What becomes of each byte of a record. -/
def normalForm : List (UInt8 → UInt8) :=
  List.replicate 16 id ++ (fun raw => ((SliceType.ofCode? raw).getD .p).code) ::
    (fun raw => if raw != 0 then 1 else 0) :: List.replicate 7 id

theorem recovers_codec : codec.Recovers normalForm :=
  (Codec.lays_word32.recovers.pair <| Codec.lays_word32.recovers.pair <|
    Codec.lays_word32.recovers.pair <| Codec.lays_word16.recovers.pair <|
    Codec.lays_word16.recovers.pair <|
    (Codec.recovers_byte_via fun kind => by rw [SliceType.ofCode?_code]; rfl).pair <|
    Codec.recovers_flag.pair <| Codec.lays_byte.recovers.pair <| Codec.lays_byte.recovers.pair <|
    Codec.lays_byte.recovers.pair <| Codec.lays_int8.recovers.pair <|
    Codec.lays_byte.recovers.pair <|
    Codec.lays_int8.recovers.pair Codec.lays_int8.recovers).via (fun _ => rfl) fun _ => rfl

theorem length_encode (record : Slice) : record.encode.length = size :=
  recovers_codec.length_encode record

/-- **A slice record is read back** from its bytes, whatever lies behind them. -/
theorem parse_encode_append (record : Slice) (rest : Bytes) :
    parse (record.encode ++ rest) = .ok record := by
  have hlength : ¬ (record.encode ++ rest).length < size := by
    rw [List.length_append, length_encode]
    exact Nat.not_lt.2 (Nat.le_add_right _ _)
  -- three words and two half words lie before the type
  have htype : (record.encode ++ rest).getD typeOffset 0 = record.sliceType.code := by
    change UInt8.ofNat (record.sliceType.code.toNat >>> (8 * 0)) = _
    rw [Nat.mul_zero, Nat.shiftRight_zero, UInt8.ofNat_toNat]
  simp only [parse, if_neg hlength, htype, SliceType.ofCode?_code]
  exact congrArg Except.ok (recovers_codec.decode_encode record rest)

/-! ### Bytes that are read -/

theorem parse_of_le {bytes : Bytes} (h : size ≤ bytes.length)
    (htype : bytes.getD typeOffset 0 < 10) : parse bytes = .ok (codec.decode bytes) := by
  rw [parse, if_neg (Nat.not_lt.2 h)]
  dsimp only
  split
  · next hnone => exact absurd (SliceType.ofCode?_eq_none_iff.1 hnone) (UInt8.not_le.2 htype)
  · rfl

/-- Bytes are refused if there are too few of them, or else if their type means nothing. -/
theorem parse_eq_error_iff {bytes : Bytes} {error : Error} :
    parse bytes = .error error ↔
      bytes.length < size ∧ error = .truncated .slice size bytes.length ∨
      size ≤ bytes.length ∧ 10 ≤ bytes.getD typeOffset 0 ∧
        error = .invalidSliceType (bytes.getD typeOffset 0) := by
  by_cases hsize : bytes.length < size
  · have hparse : parse bytes = .error (.truncated .slice size bytes.length) := by
      rw [parse, if_pos hsize]
    simp [hparse, hsize, Nat.not_le.2 hsize, eq_comm]
  · by_cases htype : 10 ≤ bytes.getD typeOffset 0
    · have hparse : parse bytes = .error (.invalidSliceType (bytes.getD typeOffset 0)) := by
        rw [parse, if_neg hsize]
        simp only [SliceType.ofCode?_eq_none_iff.2 htype]
      rw [hparse]
      simp only [hsize, htype, Nat.not_lt.1 hsize, false_and, true_and, false_or,
        Except.error.injEq, eq_comm]
    · have hparse := parse_of_le (Nat.not_lt.1 hsize) (UInt8.not_le.1 htype)
      simp only [hparse, hsize, htype, false_and, and_false, or_false, reduceCtorEq]

/-- A record that was read is written with its type below five and its flag zero or one. -/
theorem encode_decode {bytes : Bytes} (h : size ≤ bytes.length)
    (htype : bytes.getD typeOffset 0 < 10) :
    (codec.decode bytes).encode =
      ((bytes.take size).set typeOffset (bytes.getD typeOffset 0 % 5)).set (typeOffset + 1)
        (if bytes.getD (typeOffset + 1) 0 = 0 then 0 else 1) := by
  have hlength : (bytes.take size).length = 16 + (7 + 2) := List.length_take_of_le h
  have htake (i : Nat) (hi : i < size) : (bytes.take size).getD i 0 = bytes.getD i 0 := by
    rw [List.getD_eq_getElem?_getD, List.getElem?_take_of_lt hi, List.getD_eq_getElem?_getD]
  have hflag (raw : UInt8) :
      (if raw != 0 then 1 else 0 : UInt8) = if raw = 0 then 0 else 1 := by
    by_cases hzero : raw = 0 <;> simp [hzero]
  refine (recovers_codec.encode_decode bytes h).trans ?_
  rw [codec_width, normalForm, rewritten_two _ _ 16 7 hlength, htake 16 (by decide),
    htake 17 (by decide), SliceType.code_ofCode? (show bytes.getD 16 0 < 10 from htype), hflag]
  rfl

/-- **A slice record is written exactly, and bytes are read up to their spelling.** A record takes
25 bytes, from which it is read back whatever lies behind. Fewer bytes are refused with how many
there are, and of 25 or more those whose type is ten or above are refused with this type. All other
bytes are a record, and writing it gives their first 25, but that the type comes out below five and
the flag as zero or one. -/
theorem encode_parse_normalizes :
    (∀ record : Slice, record.encode.length = 25 ∧
      ∀ rest, parse (record.encode ++ rest) = .ok record) ∧
    ∀ bytes : Bytes,
      (∀ error, parse bytes = .error error ↔
        bytes.length < 25 ∧ error = .truncated .slice 25 bytes.length ∨
        25 ≤ bytes.length ∧ 10 ≤ bytes.getD 16 0 ∧
          error = .invalidSliceType (bytes.getD 16 0)) ∧
      (25 ≤ bytes.length → bytes.getD 16 0 < 10 → ∃ record, parse bytes = .ok record ∧
        record.encode = ((bytes.take 25).set 16 (bytes.getD 16 0 % 5)).set 17
          (if bytes.getD 17 0 = 0 then 0 else 1)) := by
  refine ⟨fun record => ⟨length_encode record, parse_encode_append record⟩, fun bytes =>
    ⟨fun error => parse_eq_error_iff, fun h htype => ?_⟩⟩
  exact ⟨codec.decode bytes, parse_of_le h htype, encode_decode h htype⟩

/-- Of 27 bytes that are all nine, the first 25 are a record, whose type is written as four and
whose flag as one. A byte less than a record is refused, and so are bytes that are all ten. -/
theorem encode_parse_normalizes_nines :
    (∃ record, parse (List.replicate 27 9) = .ok record ∧
      record.encode = List.replicate 16 9 ++ 4 :: 1 :: List.replicate 7 9) ∧
    parse (List.replicate 24 9) = .error (.truncated .slice 25 24) ∧
    parse (List.replicate 25 10) = .error (.invalidSliceType 10) := by
  obtain ⟨-, hbytes⟩ := encode_parse_normalizes
  refine ⟨?_, ?_, ?_⟩
  · obtain ⟨record, hparse, hencode⟩ :=
      (hbytes (List.replicate 27 9)).2 (by decide) (by decide)
    exact ⟨record, hparse, hencode.trans (by decide)⟩
  · exact ((hbytes (List.replicate 24 9)).1 _).2 (.inl ⟨by decide, rfl⟩)
  · exact ((hbytes (List.replicate 25 10)).1 _).2 (.inr ⟨by decide, by decide, rfl⟩)

end Slice

end AvcDriver.Record
