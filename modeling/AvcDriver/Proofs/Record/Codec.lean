import AvcDriver.Proofs.Record.BitField
import AvcDriver.Record.Codec
import Mathlib.Data.List.OfFn

/-!
# Both directions of a record layout

A value that is written takes the width of its layout, and reading it again finds what the layout
keeps of it. Bytes that are read and written again come back as they were, but for the bits that
the layout has no field for: those are cleared. Which bits these are is the *mask* of a layout, so
that nothing that is read depends on any other bit.

* `Codec.Lays`: both directions of a layout, with what it keeps of a value and its mask.
* `lays_word`, `lays_pad`, `Lays.pair`, `Lays.times`, `Lays.via`: one rule for each way to lay
  records out.
* `lays_fields`: a word of bit fields.
-/

namespace AvcDriver.Record

/-! ## Little-endian words -/

theorem length_littleEndian (count value : Nat) : (littleEndian count value).length = count := by
  rw [littleEndian, List.length_map, List.length_range]

theorem littleEndian_succ (count value : Nat) :
    littleEndian (count + 1) value = UInt8.ofNat value :: littleEndian count (value >>> 8) := by
  rw [littleEndian, List.range_succ_eq_map, List.map_cons, List.map_map, Nat.mul_zero,
    Nat.shiftRight_zero]
  refine congrArg _ (List.map_congr_left fun i _ => ?_)
  rw [Function.comp_apply, ← Nat.shiftRight_add, Nat.mul_succ, Nat.add_comm]

/-- A number that is written in `count` bytes is read back up to what does not fit them. -/
theorem ofLittleEndian_littleEndian (count value : Nat) :
    ofLittleEndian (littleEndian count value) = value % 256 ^ count := by
  induction count generalizing value with
  | zero => rw [pow_zero, Nat.mod_one]; rfl
  | succ count ih =>
    rw [littleEndian_succ, ofLittleEndian, ih, UInt8.toNat_ofNat', Nat.shiftRight_eq_div_pow,
      show (2 : Nat) ^ 8 = 256 from rfl, pow_succ', Nat.mod_mul]

theorem littleEndian_ofLittleEndian (bytes : Bytes) :
    littleEndian bytes.length (ofLittleEndian bytes) = bytes := by
  induction bytes with
  | nil => rfl
  | cons byte rest ih =>
    have hbyte : byte.toNat < 256 := byte.toNat_lt
    have hrest : (byte.toNat + 256 * ofLittleEndian rest) >>> 8 = ofLittleEndian rest := by
      rw [Nat.shiftRight_eq_div_pow]
      omega
    have hfirst : UInt8.ofNat (byte.toNat + 256 * ofLittleEndian rest) = byte := by
      rw [← UInt8.toNat_inj, UInt8.toNat_ofNat']
      omega
    rw [List.length_cons, littleEndian_succ, ofLittleEndian, hrest, hfirst, ih]

theorem ofLittleEndian_lt (bytes : Bytes) : ofLittleEndian bytes < 256 ^ bytes.length := by
  rw [← littleEndian_ofLittleEndian bytes, ofLittleEndian_littleEndian, length_littleEndian]
  exact Nat.mod_lt _ (pow_pos (by decide) _)

/-- Bits of a number are bits of its bytes. -/
theorem littleEndian_and (count value mask : Nat) :
    littleEndian count (value &&& mask) =
      List.zipWith (· &&& ·) (littleEndian count value) (littleEndian count mask) := by
  rw [littleEndian, littleEndian, littleEndian, List.zipWith_map, List.zipWith_self]
  refine List.map_congr_left fun i _ => ?_
  rw [Nat.shiftRight_and_distrib, UInt8.ofNat_and]

/-- Bytes with the bits cleared that a mask does not have. -/
def masked (bytes mask : Bytes) : Bytes := List.zipWith (· &&& ·) bytes mask

theorem masked_append {bytes mask : Bytes} (h : bytes.length = mask.length) (more rest : Bytes) :
    masked (bytes ++ more) (mask ++ rest) = masked bytes mask ++ masked more rest :=
  List.zipWith_append h

/-- A mask for one part behind another. -/
theorem masked_take_append {mask : Bytes} (bytes rest : Bytes) {count : Nat}
    (hcount : mask.length + count ≤ bytes.length) :
    masked (bytes.take (mask.length + count)) (mask ++ rest) =
      masked (bytes.take mask.length) mask ++
        masked ((bytes.drop mask.length).take count) rest := by
  rw [List.take_add, masked_append]
  rw [List.length_take]
  omega

/-- Whole bytes are kept. -/
theorem masked_whole (bytes : Bytes) : masked bytes (List.replicate bytes.length 0xFF) = bytes := by
  induction bytes with
  | nil => rfl
  | cons byte rest ih =>
    have hbyte : byte &&& 0xFF = byte := by
      rw [← UInt8.toNat_inj, UInt8.toNat_and]
      exact (Nat.and_two_pow_sub_one_eq_mod byte.toNat 8).trans (Nat.mod_eq_of_lt byte.toNat_lt)
    rw [List.length_cons, List.replicate_succ, masked, List.zipWith_cons_cons, hbyte]
    exact congrArg _ ih

/-- Bytes under an empty mask are cleared. -/
theorem masked_cleared (bytes : Bytes) :
    masked bytes (List.replicate bytes.length 0) = List.replicate bytes.length 0 := by
  induction bytes with
  | nil => rfl
  | cons byte rest ih =>
    rw [List.length_cons, List.replicate_succ, masked, List.zipWith_cons_cons, UInt8.and_zero]
    exact congrArg _ ih

namespace Codec

variable {α β : Type} {c : Codec α} {c' : Codec β} {kept : α → α} {kept' : β → β}
  {mask mask' : Bytes}

/-! ## Layouts -/

/-- A value takes `width` bytes, and `kept value` is read from them whatever lies behind. Bytes
that are read and written again lose the bits that the mask does not have, and what is read of
bytes is kept whole. -/
structure Lays (c : Codec α) (kept : α → α) (mask : Bytes) : Prop where
  length_mask : mask.length = c.width
  length_encode : ∀ value, (c.encode value).length = c.width
  decode_encode : ∀ value rest, c.decode (c.encode value ++ rest) = kept value
  encode_decode : ∀ bytes, c.width ≤ bytes.length →
    c.encode (c.decode bytes) = masked (bytes.take c.width) mask
  kept_decode : ∀ bytes, c.width ≤ bytes.length → kept (c.decode bytes) = c.decode bytes

theorem lays_word (count : Nat) :
    Lays (word count) (· % 256 ^ count) (List.replicate count 0xFF) where
  length_mask := List.length_replicate
  length_encode := length_littleEndian count
  decode_encode value rest := by
    change ofLittleEndian ((littleEndian count value ++ rest).take count) = _
    rw [List.take_left' (length_littleEndian count value), ofLittleEndian_littleEndian]
  encode_decode bytes h := by
    have hlength : (bytes.take count).length = count := List.length_take_of_le h
    have hwhole := masked_whole (bytes.take count)
    have hbytes := littleEndian_ofLittleEndian (bytes.take count)
    rw [hlength] at hwhole hbytes
    exact hbytes.trans hwhole.symm
  kept_decode bytes h := by
    have hlength : (bytes.take count).length = count := List.length_take_of_le h
    have hlt := ofLittleEndian_lt (bytes.take count)
    rw [hlength] at hlt
    exact Nat.mod_eq_of_lt hlt

/-- A gap keeps nothing. -/
theorem lays_pad (n : Nat) : Lays (pad n) id (List.replicate n 0) where
  length_mask := List.length_replicate
  length_encode _ := List.length_replicate
  decode_encode _ _ := rfl
  encode_decode bytes h := by
    have hlength : (bytes.take n).length = n := List.length_take_of_le h
    have hcleared := masked_cleared (bytes.take n)
    rw [hlength] at hcleared
    exact hcleared.symm
  kept_decode _ _ := rfl

/-- The same layout for another type, of which no two values have the same parts. -/
theorem Lays.via (hc : Lays c kept mask) {make : α → β} {parts : β → α}
    (hparts : ∀ bytes, c.width ≤ bytes.length → parts (make (c.decode bytes)) = c.decode bytes) :
    Lays (c.via make parts) (fun value => make (kept (parts value))) mask where
  length_mask := hc.length_mask
  length_encode value := hc.length_encode (parts value)
  decode_encode value rest := congrArg make (hc.decode_encode (parts value) rest)
  encode_decode bytes h := by
    change c.encode (parts (make (c.decode bytes))) = _
    rw [hparts bytes h]
    exact hc.encode_decode bytes h
  kept_decode bytes h := by
    change make (kept (parts (make (c.decode bytes)))) = make (c.decode bytes)
    rw [hparts bytes h, hc.kept_decode bytes h]

/-- The same statement with what is kept said in another way. -/
theorem Lays.congr (hc : Lays c kept mask) {same : α → α} (h : ∀ value, kept value = same value) :
    Lays c same mask := (funext h : kept = same) ▸ hc

/-- The same statement with the mask spelled out. -/
theorem Lays.withMask (hc : Lays c kept mask) {same : Bytes} (h : mask = same) :
    Lays c kept same := h ▸ hc

/-- One field behind another. -/
theorem Lays.pair (hc : Lays c kept mask) (hc' : Lays c' kept' mask') :
    Lays (c.pair c') (Prod.map kept kept') (mask ++ mask') where
  length_mask := by
    rw [List.length_append, hc.length_mask, hc'.length_mask]
    rfl
  length_encode value := by
    change (c.encode value.1 ++ c'.encode value.2).length = c.width + c'.width
    rw [List.length_append, hc.length_encode, hc'.length_encode]
  decode_encode value rest := by
    change (c.decode (c.encode value.1 ++ c'.encode value.2 ++ rest),
      c'.decode ((c.encode value.1 ++ c'.encode value.2 ++ rest).drop c.width)) = _
    rw [List.append_assoc, hc.decode_encode, List.drop_left' (hc.length_encode value.1),
      hc'.decode_encode]
    rfl
  encode_decode bytes h := by
    have h : c.width + c'.width ≤ bytes.length := h
    have hrest : c'.width ≤ (bytes.drop c.width).length := by
      rw [List.length_drop]
      omega
    change c.encode (c.decode bytes) ++ c'.encode (c'.decode (bytes.drop c.width)) =
      masked (bytes.take (c.width + c'.width)) (mask ++ mask')
    rw [hc.encode_decode bytes (by omega), hc'.encode_decode _ hrest, ← hc.length_mask,
      masked_take_append _ _ (by rwa [hc.length_mask])]
  kept_decode bytes h := by
    have h : c.width + c'.width ≤ bytes.length := h
    have hrest : c'.width ≤ (bytes.drop c.width).length := by
      rw [List.length_drop]
      omega
    change (kept (c.decode bytes), kept' (c'.decode (bytes.drop c.width))) = _
    rw [hc.kept_decode bytes (by omega), hc'.kept_decode _ hrest]
    rfl

/-! ### Repeated fields -/

/-- Fields of one width are found at multiples of it. -/
theorem drop_flatMap_encode (hc : Lays c kept mask) (values : List α) (n : Nat) :
    (values.flatMap c.encode).drop (n * c.width) = (values.drop n).flatMap c.encode := by
  induction n generalizing values with
  | zero => rw [Nat.zero_mul, List.drop_zero, List.drop_zero]
  | succ n ih =>
    cases values with
    | nil => rw [List.flatMap_nil, List.drop_nil, List.drop_nil, List.flatMap_nil]
    | cons value rest =>
      rw [List.flatMap_cons, List.drop_succ_cons, ← ih, Nat.succ_mul, Nat.add_comm,
        ← List.drop_drop, List.drop_left' (hc.length_encode value)]

theorem length_flatMap_encode (hc : Lays c kept mask) (values : List α) :
    (values.flatMap c.encode).length = values.length * c.width := by
  induction values with
  | nil => rw [List.flatMap_nil, List.length_nil, List.length_nil, Nat.zero_mul]
  | cons value rest ih =>
    rw [List.flatMap_cons, List.length_append, hc.length_encode, ih, List.length_cons,
      Nat.succ_mul, Nat.add_comm]

/-- Repeated fields are read and written again each under the mask of one. -/
theorem flatMap_encode_ofFn (hc : Lays c kept mask) (n : Nat) {bytes : Bytes}
    (h : n * c.width ≤ bytes.length) :
    (List.ofFn fun i : Fin n => c.decode (bytes.drop (i.val * c.width))).flatMap c.encode =
      masked (bytes.take (n * c.width)) (List.replicate n mask).flatten := by
  induction n generalizing bytes with
  | zero => rw [List.ofFn_zero, Nat.zero_mul, List.take_zero]; rfl
  | succ n ih =>
    rw [Nat.succ_mul, Nat.add_comm] at h
    have hrest : n * c.width ≤ (bytes.drop c.width).length := by
      rw [List.length_drop]
      omega
    have hfields : (List.ofFn fun i : Fin n => c.decode (bytes.drop (i.succ.val * c.width))) =
        List.ofFn fun i : Fin n => c.decode ((bytes.drop c.width).drop (i.val * c.width)) := by
      refine congrArg List.ofFn (funext fun i => ?_)
      rw [List.drop_drop, Fin.val_succ, Nat.succ_mul, Nat.add_comm c.width]
    rw [List.ofFn_succ, List.flatMap_cons, hfields, ih hrest, Fin.val_zero, Nat.zero_mul,
      List.drop_zero, hc.encode_decode bytes (by omega), List.replicate_succ, List.flatten_cons,
      Nat.succ_mul, Nat.add_comm (n * c.width), ← hc.length_mask,
      masked_take_append _ _ (by rwa [hc.length_mask])]

/-- The same field `n` times. -/
theorem Lays.times (hc : Lays c kept mask) (n : Nat) :
    Lays (Codec.times n c) (Vector.map kept) (List.replicate n mask).flatten where
  length_mask := by
    rw [List.length_flatten, List.map_replicate, List.sum_replicate_nat, hc.length_mask]
    rfl
  length_encode values := by
    change (values.toList.flatMap c.encode).length = n * c.width
    rw [length_flatMap_encode hc, Vector.length_toList]
  decode_encode values rest := by
    ext i hi
    have hle : i * c.width ≤ (values.toList.flatMap c.encode).length := by
      rw [length_flatMap_encode hc, Vector.length_toList]
      exact Nat.mul_le_mul_right _ (Nat.le_of_lt hi)
    have hfield : values.toList.drop i = values[i] :: values.toList.drop (i + 1) := by
      rw [List.drop_eq_getElem_cons (by rwa [Vector.length_toList]), Vector.getElem_toList]
    change (Vector.ofFn fun j : Fin n => c.decode
      ((values.toList.flatMap c.encode ++ rest).drop (j.val * c.width)))[i] = _
    rw [Vector.getElem_ofFn, List.drop_append_of_le_length hle, drop_flatMap_encode hc, hfield,
      List.flatMap_cons, List.append_assoc, hc.decode_encode, Vector.getElem_map]
  encode_decode bytes h := by
    change (Vector.ofFn fun i : Fin n => c.decode
      (bytes.drop (i.val * c.width))).toList.flatMap c.encode = _
    rw [Vector.toList_ofFn]
    exact flatMap_encode_ofFn hc n h
  kept_decode bytes h := by
    have h : n * c.width ≤ bytes.length := h
    ext i hi
    have hroom : c.width ≤ (bytes.drop (i * c.width)).length := by
      have hle : (i + 1) * c.width ≤ n * c.width := Nat.mul_le_mul_right _ hi
      rw [Nat.succ_mul] at hle
      rw [List.length_drop]
      omega
    change (Vector.map kept (Vector.ofFn fun j : Fin n => c.decode
      (bytes.drop (j.val * c.width))))[i] = (Vector.ofFn fun j : Fin n => c.decode
      (bytes.drop (j.val * c.width)))[i]
    rw [Vector.getElem_map, Vector.getElem_ofFn]
    exact hc.kept_decode _ hroom

/-! ## Words -/

theorem lays_byte : Lays byte id [0xFF] := by
  refine ((lays_word 1).via fun bytes h => ?_).congr fun value => ?_
  · rw [UInt8.toNat_ofNat']
    exact (lays_word 1).kept_decode bytes h
  · have hword : value.toNat % 256 ^ 1 = value.toNat := Nat.mod_eq_of_lt value.toNat_lt
    rw [hword, UInt8.ofNat_toNat]
    rfl

theorem lays_word16 : Lays word16 id [0xFF, 0xFF] := by
  refine ((lays_word 2).via fun bytes h => ?_).congr fun value => ?_
  · rw [UInt16.toNat_ofNat']
    exact (lays_word 2).kept_decode bytes h
  · have hword : value.toNat % 256 ^ 2 = value.toNat := Nat.mod_eq_of_lt value.toNat_lt
    rw [hword, UInt16.ofNat_toNat]
    rfl

theorem lays_word32 : Lays word32 id [0xFF, 0xFF, 0xFF, 0xFF] := by
  refine ((lays_word 4).via fun bytes h => ?_).congr fun value => ?_
  · rw [UInt32.toNat_ofNat']
    exact (lays_word 4).kept_decode bytes h
  · have hword : value.toNat % 256 ^ 4 = value.toNat := Nat.mod_eq_of_lt value.toNat_lt
    rw [hword, UInt32.ofNat_toNat]
    rfl

theorem lays_int8 : Lays int8 id [0xFF] := by
  refine (lays_byte.via fun _ _ => ?_).congr fun value => ?_
  · rw [UInt8.toUInt8_toInt8]
  · exact value.toInt8_toUInt8

theorem lays_int32 : Lays int32 id [0xFF, 0xFF, 0xFF, 0xFF] := by
  refine (lays_word32.via fun _ _ => ?_).congr fun value => ?_
  · rw [UInt32.toUInt32_toInt32]
  · exact value.toInt32_toUInt32

/-- A word of bit fields. Its mask has the bits that belong to fields. -/
theorem lays_fields {f : BitField α} {cut : α → α} (hf : f.Packs cut) (h : f.width ≤ 32) :
    Lays (word32.via (fun word => f.unpack word.toNat) fun value => UInt32.ofNat (f.pack value))
      cut (littleEndian 4 (2 ^ f.width - 1)) where
  length_mask := length_littleEndian 4 _
  length_encode value := length_littleEndian 4 _
  decode_encode value rest := by
    have hlt : f.pack value < 2 ^ 32 :=
      Nat.lt_of_lt_of_le (hf.pack_lt value) (Nat.pow_le_pow_right (by decide) h)
    change f.unpack (word32.decode (word32.encode (UInt32.ofNat (f.pack value)) ++ rest)).toNat = _
    rw [lays_word32.decode_encode, id, UInt32.toNat_ofNat', Nat.mod_eq_of_lt hlt]
    simpa using hf.unpack_pack value 0
  encode_decode bytes hbytes := by
    have hbytes : 4 ≤ bytes.length := hbytes
    have hlength : (bytes.take 4).length = 4 := List.length_take_of_le hbytes
    have hword : (word32.decode bytes).toNat = ofLittleEndian (bytes.take 4) := by
      have hlt := ofLittleEndian_lt (bytes.take 4)
      rw [hlength] at hlt
      exact (UInt32.toNat_ofNat' ..).trans (Nat.mod_eq_of_lt hlt)
    have hlow : (2 : Nat) ^ f.width ≤ 2 ^ 32 := Nat.pow_le_pow_right (by decide) h
    have hmod : ofLittleEndian (bytes.take 4) % 2 ^ f.width < 2 ^ 32 :=
      Nat.lt_of_lt_of_le (Nat.mod_lt _ (Nat.two_pow_pos _)) hlow
    have hback := littleEndian_ofLittleEndian (bytes.take 4)
    rw [hlength] at hback
    change littleEndian 4 (UInt32.ofNat (f.pack (f.unpack (word32.decode bytes).toNat))).toNat =
      masked (bytes.take 4) _
    rw [hword, hf.pack_unpack, UInt32.toNat_ofNat', Nat.mod_eq_of_lt hmod,
      ← Nat.and_two_pow_sub_one_eq_mod, littleEndian_and, hback]
    rfl
  kept_decode bytes _ := by
    change cut (f.unpack (word32.decode bytes).toNat) = f.unpack (word32.decode bytes).toNat
    rw [← hf.unpack_pack _ ((word32.decode bytes).toNat / 2 ^ f.width), hf.pack_unpack,
      Nat.mod_add_div]

end Codec

end AvcDriver.Record
