import AvcDriver.Proofs.Action
import AvcDriver.Proofs.Header.Carried

/-!
# How long parameter sets are

Parameter sets are short, whatever the record holds: no element takes more than 65 bits, there are
few of them, and emulation prevention makes a payload at most twice as long.

* `Element.length_bitString_le`: the bits of a field.
* `length_pack_le`, `length_escape_le`: the bytes of a payload.
* `length_headerBytes_le`: both parameter sets take at most a kilobyte.
-/

namespace AvcDriver

namespace Nal

/-! ## Bits and bytes -/

/-- An element that is a number or a flag. -/
def Element.IsField : Element → Prop
  | .bytes _ => False
  | _ => True

/-- The code of a word has twice its bits and one more at most. -/
theorem length_expGolomb_le {value : Nat} (h : value < 2 ^ 32) : (expGolomb value).length ≤ 65 := by
  have hzeros : (value + 1).log2 < 33 :=
    (Nat.log2_lt (Nat.succ_ne_zero value)).2 (by omega)
  rw [expGolomb, List.length_append, List.length_replicate, length_bitsOf]
  omega

/-- No element is longer than the code of a word. -/
theorem Element.length_bitString_le {element : Element} (hfield : element.IsField)
    (hwritable : element.Writable) : element.bitString.length ≤ 65 := by
  cases element with
  | bits count value =>
    rw [bitString, length_bitsOf]
    exact Nat.le_succ_of_le hwritable
  | flag value => exact (by decide : 1 ≤ 65)
  | ue value => exact length_expGolomb_le value.toNat_lt
  | se value => exact length_expGolomb_le (signedCode_lt hwritable)
  | bytes value => exact hfield.elim

theorem length_bitStrings_le {elements : List Element} (hfield : ∀ e ∈ elements, e.IsField)
    (hwritable : ∀ e ∈ elements, e.Writable) :
    (elements.flatMap Element.bitString).length ≤ 65 * elements.length := by
  induction elements with
  | nil => exact Nat.le_refl 0
  | cons element rest ih =>
    obtain ⟨hfirst, hfields⟩ := List.forall_mem_cons.1 hfield
    obtain ⟨hfirst', hwritables⟩ := List.forall_mem_cons.1 hwritable
    have hbits := Element.length_bitString_le hfirst hfirst'
    have hrest := ih hfields hwritables
    rw [List.flatMap_cons, List.length_append, List.length_cons, Nat.mul_succ]
    omega

/-- The last byte is filled up. -/
theorem length_pack_le (bits : List Bool) : 8 * (pack bits).length ≤ bits.length + 7 := by
  have hpadding := padding_lt bits.length
  have hbits := congrArg List.length (ofBytes_pack bits)
  rw [Reader.length_ofBytes, List.length_append, List.length_replicate] at hbits
  omega

/-- Escaping adds a byte for each one at most. -/
theorem length_escape_le (bytes : Bytes) :
    ∀ zeros, (escape zeros bytes).length ≤ 2 * bytes.length := by
  induction bytes with
  | nil => exact fun _ => Nat.le_refl 0
  | cons byte rest ih =>
    intro zeros
    rw [escape]
    split
    · have hrest := ih (if byte = 0 then 1 else 0)
      rw [List.length_cons, List.length_cons, List.length_cons]
      omega
    · have hrest := ih (if byte = 0 then zeros + 1 else 0)
      rw [List.length_cons, List.length_cons]
      omega

end Nal

namespace Header

open Nal (Element UnitType)

/-! ## Parameter sets -/

/-- At most `count` elements, all of them fields. -/
structure Few (count : Nat) (elements : List Element) : Prop where
  length_le : elements.length ≤ count
  isField : ∀ e ∈ elements, e.IsField

/-- The elements of two parts of a parameter set. -/
theorem Few.append {count count' : Nat} {xs ys : List Element} (hxs : Few count xs)
    (hys : Few count' ys) : Few (count + count') (xs ++ ys) where
  length_le := by
    rw [List.length_append]
    exact Nat.add_le_add hxs.length_le hys.length_le
  isField := List.forall_mem_append.2 ⟨hxs.isField, hys.isField⟩

/-- The unit of a set takes its header, and two bytes for every eight bits of its payload. -/
theorem length_setUnit_le {kind : UnitType} (hkind : kind.Writable) {count : Nat}
    {elements : List Element} (hfew : Few count elements) (hwritable : ∀ e ∈ elements, e.Writable) :
    4 * (setUnit true kind elements).length ≤ 65 * count + 12 := by
  have hcount := hfew.length_le
  have hbits := Nal.length_bitStrings_le hfew.isField hwritable
  have hbytes := Nal.length_pack_le (elements.flatMap Element.bitString ++ [true])
  have hescaped :=
    Nal.length_escape_le (Nal.pack (elements.flatMap Element.bitString ++ [true])) 0
  rw [setUnit_eq hkind, List.length_cons]
  rw [List.length_append, List.length_singleton] at hbytes
  omega

theorem few_chromaElements (profile : Profile) (record : Record.Picture) :
    Few 6 (chromaElements profile record) := by
  rw [chromaElements]
  split
  · split <;> constructor <;> simp [Element.IsField]
  · constructor <;> simp

theorem few_orderCountElements {record : Record.Picture} {elements : List Element}
    (h : orderCountElements record = .ok elements) : Few 2 elements := by
  rw [orderCountElements] at h
  split at h
  · cases h
    constructor <;> simp [Element.IsField]
  · split at h
    · cases h
    · cases h
      constructor <;> simp [Element.IsField]

theorem few_cropElements (crop : Option Crop) : Few 5 (cropElements crop) := by
  cases crop <;> constructor <;> simp [cropElements, Element.IsField]

/-- A sequence parameter set has few elements. -/
theorem few_sequenceElements {profile : Profile} {record : Record.Picture} {options : Options}
    {elements : List Element} (h : sequenceElements profile record options = .ok elements) :
    Few 42 elements := by
  obtain ⟨orderCount, horder, h⟩ := bind_eq_ok.1 h
  obtain ⟨crop, -, h⟩ := bind_eq_ok.1 h
  cases h
  have hone (element : Element) (hfield : element.IsField) : Few 1 [element] :=
    ⟨Nat.le_refl 1, List.forall_mem_singleton.2 hfield⟩
  have hflags : Few 6 (List.replicate 6 (.flag false)) := by
    constructor <;> simp [Element.IsField]
  have hids : Few 3 [.bits 2 0, .bits 8 options.level.idc.toUInt64, .ue 0] := by
    constructor <;> simp [Element.IsField]
  have hsize : Few 5 [.ue record.numRefFrames.toUInt32,
      .flag record.sequence.gapsInFrameNumValueAllowed, .ue record.widthInMbsMinus1.toUInt32,
      .ue record.heightInMbsMinus1.toUInt32, .flag record.sequence.frameMbsOnly] := by
    constructor <;> simp [Element.IsField]
  have hadaptive : Few 1 (if record.sequence.frameMbsOnly then [] else
      [.flag record.sequence.mbAdaptiveFrameField]) := by
    split <;> constructor <;> simp [Element.IsField]
  have husability : Few 10 usabilityElements := by
    constructor <;> simp [usabilityElements, Element.IsField]
  exact (hone (.bits 8 profile.idc.toUInt64) trivial).append hflags |>.append hids
    |>.append (few_chromaElements profile record)
    |>.append (hone (.ue record.sequence.log2MaxFrameNumMinus4.toUInt32) trivial)
    |>.append (few_orderCountElements horder) |>.append hsize |>.append hadaptive
    |>.append (hone (.flag record.sequence.direct8x8Inference) trivial)
    |>.append (few_cropElements _) |>.append (hone (.flag true) trivial) |>.append husability

theorem few_pictureElements (record : Record.Picture) : Few 15 (pictureElements record) := by
  constructor <;> simp [pictureElements, Element.IsField]

/-- **Both parameter sets take at most a kilobyte.** -/
theorem length_headerBytes_le {profile : Profile} {record : Record.Picture}
    (h : record.sequence.picOrderCntType ≠ 1) {options : Options} {bytes : Bytes}
    (hbytes : headerBytes profile record options = .ok bytes) : bytes.length ≤ 1024 := by
  obtain ⟨elements, helements, hspelled⟩ := sequenceSet_spelled profile h options
  obtain ⟨w, hw, hkeeps⟩ :=
    keeps_parameterSets (Nal.Writer.keeps_empty true) helements hspelled.writable
  rw [headerBytes, ← bind_assoc, hw, ok_bind, hkeeps.holds.bytes_eq] at hbytes
  cases hbytes
  have hsps := length_setUnit_le (show UnitType.Writable .sps by decide)
    (few_sequenceElements helements) hspelled.writable
  have hpps := length_setUnit_le (show UnitType.Writable .pps by decide)
    (few_pictureElements record) (pictureSet_spelled record).writable
  simp only [List.length_append, List.nil_append]
  rw [show Nal.startCode.length = 4 from rfl]
  omega

end Header

end AvcDriver
