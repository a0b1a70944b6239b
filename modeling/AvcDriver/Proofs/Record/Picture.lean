import AvcDriver.Proofs.Record.Codec
import AvcDriver.Record.Picture

/-!
# Picture records, written and read

A picture record takes 672 bytes, and a client may leave anything in those bits of them that have
no field. What is written is read back, each packed field cut down to its bits; what is read is
written back with the bits cleared that no field has.

* `usedBits`: the bits of a record that have a field.
* `lays_codec`: both directions of the layout.
* `encode_parse_exact`: the same, said of records and byte strings.
-/

namespace AvcDriver.Record

open Codec (Lays)

/-! ## Reference pictures -/

/-- The bits of an entry that have a field. -/
def PictureEntry.usedBits : Bytes := List.replicate 20 0xFF ++ List.replicate 16 0

theorem PictureEntry.lays_codec : Lays PictureEntry.codec id usedBits :=
  ((Codec.lays_word32.pair <| Codec.lays_word32.pair <| Codec.lays_word32.pair <|
    Codec.lays_int32.pair <| Codec.lays_int32.pair <| Codec.lays_pad 16).via
      fun _ _ => rfl).congr fun _ => rfl

/-! ## Packed fields -/

namespace SequenceFields

/-- What is left of fields that are packed. -/
def cut (f : SequenceFields) : SequenceFields := { f with
  chromaFormatIdc := f.chromaFormatIdc % 4
  log2MaxFrameNumMinus4 := f.log2MaxFrameNumMinus4 % 16
  picOrderCntType := f.picOrderCntType % 4
  log2MaxPicOrderCntLsbMinus4 := f.log2MaxPicOrderCntLsbMinus4 % 16 }

theorem packs_layout : layout.Packs cut := by
  have h := (BitField.packs_bits (show 2 ≤ 8 by decide)).pair <| BitField.packs_flag.pair <|
    BitField.packs_flag.pair <| BitField.packs_flag.pair <| BitField.packs_flag.pair <|
    BitField.packs_flag.pair <| BitField.packs_flag.pair <|
    (BitField.packs_bits (show 4 ≤ 8 by decide)).pair <|
    (BitField.packs_bits (show 2 ≤ 8 by decide)).pair <|
    (BitField.packs_bits (show 4 ≤ 8 by decide)).pair BitField.packs_flag
  refine (h.via fun _ => rfl).congr fun f => ?_
  simp only [Prod.map, BitField.low_eq_mod (show 2 < 8 by decide),
    BitField.low_eq_mod (show 4 < 8 by decide)]
  rfl

end SequenceFields

namespace PictureFields

/-- What is left of fields that are packed. -/
def cut (f : PictureFields) : PictureFields :=
  { f with weightedBipredIdc := f.weightedBipredIdc % 4 }

theorem packs_layout : layout.Packs cut := by
  have h := BitField.packs_flag.pair <| BitField.packs_flag.pair <|
    (BitField.packs_bits (show 2 ≤ 8 by decide)).pair <| BitField.packs_flag.pair <|
    BitField.packs_flag.pair <| BitField.packs_flag.pair <| BitField.packs_flag.pair <|
    BitField.packs_flag.pair <| BitField.packs_flag.pair BitField.packs_flag
  refine (h.via fun _ => rfl).congr fun f => ?_
  simp only [Prod.map, BitField.low_eq_mod (show 2 < 8 by decide)]
  rfl

end PictureFields

/-! ## Records -/

namespace Picture

/-- What is left of a record that is written. -/
def cut (record : Picture) : Picture :=
  { record with sequence := record.sequence.cut, picture := record.picture.cut }

/-- Every packed field of a record has a value that its bits have room for. -/
structure InRange (record : Picture) : Prop where
  chromaFormatIdc : record.sequence.chromaFormatIdc < 4
  log2MaxFrameNum : record.sequence.log2MaxFrameNumMinus4 < 16
  picOrderCntType : record.sequence.picOrderCntType < 4
  log2MaxPicOrderCntLsb : record.sequence.log2MaxPicOrderCntLsbMinus4 < 16
  weightedBipredIdc : record.picture.weightedBipredIdc < 4

/-- The bits of a record that have a field: not those of the gap in front of the first word of
packed fields, and not the last 34 bytes. The two words have 19 and eleven bits of fields. -/
def usedBits : Bytes :=
  (List.replicate 17 PictureEntry.usedBits).flatten ++
    List.replicate 7 0xFF ++ [0] ++ [0xFF, 0xFF, 0x07, 0] ++
    List.replicate 8 0xFF ++ [0xFF, 0x07, 0, 0] ++ List.replicate 2 0xFF ++ List.replicate 34 0

theorem mod_eq_self_iff {value modulus : UInt8} (h : 0 < modulus.toNat) :
    value % modulus = value ↔ value < modulus := by
  rw [← UInt8.toNat_inj, UInt8.toNat_mod, UInt8.lt_iff_toNat_lt]
  exact Nat.mod_eq_iff_lt (Nat.ne_of_gt h)

/-- A record is left whole exactly if its packed fields are in range. -/
theorem cut_eq_self_iff {record : Picture} : record.cut = record ↔ record.InRange := by
  constructor
  · intro h
    have hsequence : record.sequence.cut = record.sequence := congrArg sequence h
    have hpicture : record.picture.cut = record.picture := congrArg picture h
    constructor
    · exact (mod_eq_self_iff (by decide)).1 (congrArg SequenceFields.chromaFormatIdc hsequence)
    · exact (mod_eq_self_iff (by decide)).1
        (congrArg SequenceFields.log2MaxFrameNumMinus4 hsequence)
    · exact (mod_eq_self_iff (by decide)).1 (congrArg SequenceFields.picOrderCntType hsequence)
    · exact (mod_eq_self_iff (by decide)).1
        (congrArg SequenceFields.log2MaxPicOrderCntLsbMinus4 hsequence)
    · exact (mod_eq_self_iff (by decide)).1 (congrArg PictureFields.weightedBipredIdc hpicture)
  · intro h
    have hsequence : record.sequence.cut = record.sequence := by
      rw [SequenceFields.cut, (mod_eq_self_iff (by decide)).2 h.chromaFormatIdc,
        (mod_eq_self_iff (by decide)).2 h.log2MaxFrameNum,
        (mod_eq_self_iff (by decide)).2 h.picOrderCntType,
        (mod_eq_self_iff (by decide)).2 h.log2MaxPicOrderCntLsb]
    have hpicture : record.picture.cut = record.picture := by
      rw [PictureFields.cut, (mod_eq_self_iff (by decide)).2 h.weightedBipredIdc]
    rw [cut, hsequence, hpicture]

/-- **Both directions of the layout**: fields are cut down to their bits, and bits without a field
are cleared. -/
theorem lays_codec : Lays codec cut usedBits := by
  have h := PictureEntry.lays_codec.pair <| (PictureEntry.lays_codec.times 16).pair <|
    Codec.lays_word16.pair <| Codec.lays_word16.pair <| Codec.lays_byte.pair <|
    Codec.lays_byte.pair <| Codec.lays_byte.pair <| (Codec.lays_pad 1).pair <|
    (Codec.lays_fields SequenceFields.packs_layout (by decide)).pair <| Codec.lays_byte.pair <|
    Codec.lays_byte.pair <| Codec.lays_word16.pair <| Codec.lays_int8.pair <|
    Codec.lays_int8.pair <| Codec.lays_int8.pair <| Codec.lays_int8.pair <|
    (Codec.lays_fields PictureFields.packs_layout (by decide)).pair <| Codec.lays_word16.pair <|
    Codec.lays_pad 34
  refine ((h.via ?_).congr ?_).withMask ?_
  · exact fun _ _ => rfl
  · intro record
    simp only [Prod.map, Vector.map_id]
    rfl
  · decide +kernel

/-! ### Encoding and parsing -/

theorem length_encode (record : Picture) : record.encode.length = size :=
  lays_codec.length_encode record

theorem parse_of_le {bytes : Bytes} (h : size ≤ bytes.length) :
    parse bytes = .ok (codec.decode bytes) := if_neg (Nat.not_lt.2 h)

theorem parse_eq_error_iff {bytes : Bytes} {error : Error} :
    parse bytes = .error error ↔
      bytes.length < size ∧ error = .truncated .picture size bytes.length := by
  rw [parse]
  split
  · next h => simp [h, eq_comm]
  · next h => simp [h]

/-- What is read of bytes has its packed fields in range. -/
theorem inRange_decode {bytes : Bytes} (h : size ≤ bytes.length) :
    (codec.decode bytes).InRange := cut_eq_self_iff.1 (lays_codec.kept_decode bytes h)

/-- A record is read back from its bytes, whatever lies behind them. -/
theorem parse_encode_append (record : Picture) (rest : Bytes) :
    parse (record.encode ++ rest) = .ok record.cut := by
  have hlength : size ≤ (record.encode ++ rest).length := by
    rw [List.length_append, length_encode]
    exact Nat.le_add_right _ _
  rw [parse_of_le hlength]
  exact congrArg Except.ok (lays_codec.decode_encode record rest)

theorem encode_decode {bytes : Bytes} (h : size ≤ bytes.length) :
    (codec.decode bytes).encode = masked (bytes.take size) usedBits :=
  lays_codec.encode_decode bytes h

/-- Bytes that have the same bits in all fields are read as the same record. -/
theorem parse_eq_of_masked_eq {bytes other : Bytes} (h : size ≤ bytes.length)
    (hother : size ≤ other.length)
    (hsame : masked (other.take size) usedBits = masked (bytes.take size) usedBits) :
    parse other = parse bytes := by
  have hback : ∀ {bytes : Bytes}, size ≤ bytes.length →
      parse (masked (bytes.take size) usedBits) = .ok (codec.decode bytes) := by
    intro bytes h
    have hparse := parse_encode_append (codec.decode bytes) []
    rwa [List.append_nil, encode_decode h, cut_eq_self_iff.2 (inRange_decode h)] at hparse
  rw [parse_of_le h, parse_of_le hother, ← hback h, ← hback hother, hsame]

/-- **A record is written exactly, and bytes are read exactly.** A record takes 672 bytes, from
which it is read back with each packed field cut down to its bits, so that one that was in range
comes back whole. Fewer bytes are refused with how many there are. Of more, the bits that have a
field are the record: they are in range, writing the record clears all others, and bytes with the
same bits there are the same record. -/
theorem encode_parse_exact :
    (∀ record : Picture, record.encode.length = 672 ∧ parse record.encode = .ok record.cut ∧
      (record.InRange → parse record.encode = .ok record)) ∧
    ∀ bytes : Bytes,
      (∀ error, parse bytes = .error error ↔
        bytes.length < 672 ∧ error = .truncated .picture 672 bytes.length) ∧
      (672 ≤ bytes.length → ∃ record, parse bytes = .ok record ∧ record.InRange ∧
        record.encode = masked (bytes.take 672) usedBits ∧
        ∀ other : Bytes, 672 ≤ other.length →
          masked (other.take 672) usedBits = masked (bytes.take 672) usedBits →
          parse other = .ok record) := by
  refine ⟨fun record => ?_, fun bytes => ⟨fun error => parse_eq_error_iff, fun h => ?_⟩⟩
  · have hparse := parse_encode_append record []
    rw [List.append_nil] at hparse
    refine ⟨length_encode record, hparse, fun hrange => ?_⟩
    rw [hparse, cut_eq_self_iff.2 hrange]
  · refine ⟨codec.decode bytes, parse_of_le h, inRange_decode h, encode_decode h, ?_⟩
    intro other hother hsame
    rw [parse_eq_of_masked_eq h hother hsame, parse_of_le h]

/-- Bytes of ones are read as some record, which is written as the bits that have a field; one
byte less is refused, and a record with a chroma format out of range is read back with what two
bits of it are. -/
theorem encode_parse_exact_ones :
    (∃ record, parse (List.replicate 700 0xFF) = .ok record ∧ record.InRange ∧
      record.encode = usedBits) ∧
    parse (List.replicate 671 0xFF) = .error (.truncated .picture 672 671) ∧
    parse (encode { sequence := { chromaFormatIdc := 7, picOrderCntType := 255 } }) =
      .ok { sequence := { chromaFormatIdc := 3, picOrderCntType := 3 } } := by
  obtain ⟨hrecords, hbytes⟩ := encode_parse_exact
  refine ⟨?_, ?_, ?_⟩
  · obtain ⟨-, hlong⟩ := hbytes (List.replicate 700 0xFF)
    rw [List.length_replicate] at hlong
    obtain ⟨record, hparse, hrange, hencode, -⟩ := hlong (by decide)
    refine ⟨record, hparse, hrange, hencode.trans ?_⟩
    decide +kernel
  · obtain ⟨hshort, -⟩ := hbytes (List.replicate 671 0xFF)
    rw [List.length_replicate] at hshort
    exact (hshort _).2 ⟨by decide, rfl⟩
  · exact (hrecords { sequence := { chromaFormatIdc := 7, picOrderCntType := 255 } }).2.1

end Picture

end AvcDriver.Record
