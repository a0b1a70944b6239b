import AvcDriver.Proofs.Nal.Refinement
import AvcDriver.Proofs.Nal.Splitting

/-!
# Units in a stream

Emulation prevention keeps start codes out of a unit, and the stop bit keeps zeros from its
end, so none can run over from a unit into the start code behind it either. A stream of
units is therefore split where it was put together.

* `Framed`: what is behind two zeros of a unit, and that the unit ends in no zero.
* `framed_unit`: what a writer makes of a unit is framed, whatever its bits.
* `Stream.cut_join`, `Stream.split_join`: splitting a stream of framed units gets the units back.
* `split_written`: the stream that a writer leaves behind, for any list of units.
-/

namespace AvcDriver.Nal

open Reader (ofBytes)

/-! ## Framed units -/

/-- Within a unit, two zeros stand before a byte above 3, or before a byte 3 with a byte up
to 3 behind it. It does not end in a zero. -/
structure Framed (unit : Bytes) : Prop where
  guarded : Guarded 0 unit
  last_ne_zero : ∃ last, unit.getLast? = some last ∧ last ≠ 0

/-- The last byte of a packed payload holds its stop bit. -/
theorem getLast?_pack_stop (bits : List Bool) :
    ∃ last, (pack (bits ++ [true])).getLast? = some last ∧ last ≠ 0 := by
  obtain ⟨count, hcount⟩ : ∃ count, count = padding (bits ++ [true]).length := ⟨_, rfl⟩
  have hbits := ofBytes_pack (bits ++ [true])
  rw [← hcount, List.append_assoc, List.singleton_append] at hbits
  rcases List.eq_nil_or_concat (pack (bits ++ [true])) with hnil | ⟨init, last, hconcat⟩
  · rw [hnil] at hbits
    simp at hbits
  · refine ⟨last, by rw [hconcat, List.concat_eq_append, List.getLast?_concat], ?_⟩
    rintro rfl
    -- from the end, the stop bit is less than a byte away
    have hlt : count < 8 := hcount ▸ padding_lt _
    rw [hconcat, List.concat_eq_append, Reader.ofBytes_append,
      show ofBytes [0] = List.replicate 8 false from rfl] at hbits
    have hzero : (ofBytes init ++ List.replicate 8 false).reverse[count]? = some false := by
      rw [List.reverse_append, List.reverse_replicate, List.getElem?_append_left (by simpa),
        List.getElem?_replicate, if_pos hlt]
    have hstop : (bits ++ true :: List.replicate count false).reverse[count]? = some true := by
      rw [List.reverse_append, List.reverse_cons, List.reverse_replicate, List.append_assoc,
        List.getElem?_append_right (by simp), List.length_replicate, Nat.sub_self]
      rfl
    rw [hbits, hstop] at hzero
    cases hzero

theorem framed_unit (kind : UnitType) (refIdc : Nat) (bits : List Bool) :
    Framed (Draft.unit true kind refIdc bits) where
  guarded := guarded_escape _ 0
  last_ne_zero := by
    rw [Draft.unit, Draft.payload, if_pos rfl, getLast?_escape]
    exact getLast?_pack_stop _

/-! ## Splitting -/

namespace Stream

/-- No start code begins in a unit. -/
theorem not_startCode_isPrefix {zeros : Nat} {unit : Bytes} (hguarded : Guarded zeros unit)
    (hlast : ∀ last ∈ unit.getLast?, last ≠ 0) (hne : unit ≠ []) (rest : Bytes) :
    ¬ startCode <+: unit ++ rest := by
  rintro ⟨after, hafter⟩
  -- it would have to reach past a unit of less than four bytes, whose last byte is then zero
  match unit, hne with
  | [a], _ =>
    obtain ⟨rfl, -⟩ := List.cons.inj hafter
    exact hlast 0 rfl rfl
  | [a, b], _ =>
    obtain ⟨-, htail⟩ := List.cons.inj hafter
    obtain ⟨rfl, -⟩ := List.cons.inj htail
    exact hlast 0 rfl rfl
  | [a, b, c], _ =>
    obtain ⟨-, htail⟩ := List.cons.inj hafter
    obtain ⟨-, htail⟩ := List.cons.inj htail
    obtain ⟨rfl, -⟩ := List.cons.inj htail
    exact hlast 0 rfl rfl
  | a :: b :: c :: d :: unit, _ =>
    obtain ⟨ha, htail⟩ := List.cons.inj hafter
    obtain ⟨hb, htail⟩ := List.cons.inj htail
    obtain ⟨hc, -⟩ := List.cons.inj htail
    subst ha hb hc
    -- in a longer unit, a third zero would stand behind two
    rcases hguarded.behind_zeros [] with habove | ⟨hthree, -⟩
    · exact absurd habove (by decide)
    · exact absurd hthree (by decide)

/-- Nothing is cut inside a unit. -/
theorem cut_append (unit rest : Bytes) :
    ∀ {zeros : Nat}, Guarded zeros unit → (∀ last ∈ unit.getLast?, last ≠ 0) →
      cut (unit ++ rest) = (unit ++ (cut rest).1, (cut rest).2) := by
  induction unit with
  | nil =>
    intro zeros _ _
    rfl
  | cons byte unit ih =>
    intro zeros hguarded hlast
    have hnone := not_startCode_isPrefix hguarded hlast (List.cons_ne_nil _ _) rest
    have htail : ∀ last ∈ unit.getLast?, last ≠ 0 := by
      intro last hmem
      refine hlast last ?_
      rw [List.getLast?_cons, hmem]
      rfl
    rw [List.cons_append] at hnone ⊢
    rw [cut_cons hnone, ih hguarded.2 htail]
    rfl

/-- Framed units that are joined are the pieces again. -/
theorem cut_join {units : List Bytes} (h : ∀ unit ∈ units, Framed unit) :
    cut (join units) = ([], units) := by
  induction units with
  | nil => rfl
  | cons unit units ih =>
    obtain ⟨hguarded, last, hsome, hne⟩ := h unit List.mem_cons_self
    have hlast : ∀ last ∈ unit.getLast?, last ≠ 0 := by
      intro other hother
      rwa [← Option.mem_unique hsome hother]
    have hrest := ih (fun unit hunit => h unit (List.mem_cons_of_mem _ hunit))
    have hunit := cut_append unit (join units) hguarded hlast
    rw [hrest, List.append_nil] at hunit
    change ([], (cut (unit ++ join units)).1 :: (cut (unit ++ join units)).2) = _
    rw [hunit]

/-- **Splitting a stream of framed units** gets the units back. -/
theorem split_join {units : List Bytes} (h : ∀ unit ∈ units, Framed unit) :
    split (join units) = units := by
  rw [split_eq, cut_join h]

end Stream

/-! ## Streams of units -/

/-- Whether a call can be made within a unit, and leaves it open. -/
def Call.Inside : Call → Prop
  | .append _ | .flush => True
  | .beginUnit _ _ | .finishUnit => False

instance : (call : Call) → Decidable call.Inside
  | .append _ | .flush => inferInstanceAs (Decidable True)
  | .beginUnit _ _ | .finishUnit => inferInstanceAs (Decidable False)

/-- The bits of a call within a unit. -/
def Call.bits : Call → List Bool
  | .append element => element.bitString
  | .flush | .beginUnit _ _ | .finishUnit => []

/-- The calls that write a unit. -/
structure UnitCalls where
  kind : UnitType
  refIdc : Nat
  /-- what is called between opening and closing the unit -/
  body : List Call
  body_inside : ∀ call ∈ body, call.Inside

namespace UnitCalls

/-- All calls of a unit. -/
def calls (u : UnitCalls) : List Call := .beginUnit u.kind u.refIdc :: u.body ++ [.finishUnit]

/-- The bytes of the unit in a stream. -/
def bytes (u : UnitCalls) : Bytes := Draft.unit true u.kind u.refIdc (u.body.flatMap Call.bits)

end UnitCalls

namespace Draft

/-- Calls within a unit put their bits there. -/
theorem run_inside {body : List Call} (h : ∀ call ∈ body, call.Inside) (settled : Bytes) :
    ∀ bits, (Draft.mk settled true bits).run true (body.flatMap Call.tokens) =
      ⟨settled, true, bits ++ body.flatMap Call.bits⟩ := by
  induction body with
  | nil =>
    intro bits
    rw [List.flatMap_nil, List.flatMap_nil, List.append_nil]
    rfl
  | cons call body ih =>
    intro bits
    have hcall : (Draft.mk settled true bits).run true call.tokens =
        ⟨settled, true, bits ++ call.bits⟩ := by
      have hinside := h call List.mem_cons_self
      cases call with
      | append element => exact run_bits true element.bitString _
      | flush =>
        rw [Call.bits, List.append_nil]
        rfl
      | beginUnit kind refIdc => exact hinside.elim
      | finishUnit => exact hinside.elim
    have hrest := ih (fun call hmem => h call (List.mem_cons_of_mem _ hmem)) (bits ++ call.bits)
    rw [List.flatMap_cons, run_append, hcall, hrest, List.flatMap_cons, List.append_assoc]

/-- The calls of a unit settle it behind a start code. -/
theorem run_unit (u : UnitCalls) (settled : Bytes) :
    (Draft.mk settled false []).run true (u.calls.flatMap Call.tokens) =
      ⟨settled ++ (startCode ++ u.bytes), false, []⟩ := by
  have hbody := run_inside u.body_inside (settled ++ pack [] ++ startCode)
    (headerBits u.kind u.refIdc)
  have hcalls : u.calls.flatMap Call.tokens =
      .beginUnit u.kind u.refIdc :: (u.body.flatMap Call.tokens ++ [.finishUnit]) := by
    rw [UnitCalls.calls, List.flatMap_append, List.flatMap_cons]
    rfl
  rw [hcalls, run_cons, step, run_append, hbody, show pack [] = [] from rfl, List.append_nil,
    ← List.append_assoc]
  rfl

/-- The calls of units settle them one behind another. -/
theorem run_units (units : List UnitCalls) :
    ∀ settled, (Draft.mk settled false []).run true
      ((units.flatMap UnitCalls.calls).flatMap Call.tokens) =
        ⟨settled ++ Stream.join (units.map UnitCalls.bytes), false, []⟩ := by
  induction units with
  | nil =>
    intro settled
    exact congrArg (Draft.mk · false []) (List.append_nil settled).symm
  | cons u units ih =>
    intro settled
    rw [List.flatMap_cons, List.flatMap_append, run_append, run_unit, ih, List.append_assoc]
    rfl

end Draft

/-- **A stream of units can be taken apart again**, whatever the units hold. In no unit do
two zeros stand before a byte up to 2, a byte 3 behind two zeros has a byte up to 3 behind
it, and the last byte is not zero. -/
theorem split_written {units : List UnitCalls}
    (hlegal : ({} : Draft).Legal true (units.flatMap UnitCalls.calls)) :
    ∃ w, Writer.empty.callAll (units.flatMap UnitCalls.calls) = .ok w ∧
      w.bytes = .ok (units.flatMap fun u => startCode ++ u.bytes) ∧
      Stream.split (units.flatMap fun u => startCode ++ u.bytes) = units.map UnitCalls.bytes ∧
      ∀ u ∈ units,
        (∀ before byte after, u.bytes = before ++ 0 :: 0 :: byte :: after → 2 < byte) ∧
        (∀ before after, u.bytes = before ++ 0 :: 0 :: 3 :: after →
          ∃ escaped rest, after = escaped :: rest ∧ escaped ≤ 3) ∧
        ∃ last, u.bytes.getLast? = some last ∧ last ≠ 0 := by
  have hjoin : (units.flatMap fun u => startCode ++ u.bytes) =
      Stream.join (units.map UnitCalls.bytes) := (List.flatMap_map ..).symm
  obtain ⟨w, hw, h⟩ := (Writer.keeps_empty true).callAll hlegal
  refine ⟨w, hw, ?_, ?_, fun u _ => ?_⟩
  · have hholds := h.holds
    rw [Draft.run_units units []] at hholds
    rw [hholds.bytes_eq, hjoin]
    rfl
  · rw [hjoin]
    refine Stream.split_join fun unit hunit => ?_
    obtain ⟨u, -, rfl⟩ := List.mem_map.mp hunit
    exact framed_unit _ _ _
  · have hframed : Framed u.bytes := framed_unit _ _ _
    refine ⟨fun before byte after heq => ?_, fun before after heq => ?_, hframed.last_ne_zero⟩
    · have hguarded := hframed.guarded
      rw [heq] at hguarded
      rcases hguarded.behind_zeros before with habove | ⟨rfl, -⟩
      · exact UInt8.lt_trans (show 2 < 3 by decide) habove
      · decide
    · have hguarded := hframed.guarded
      rw [heq] at hguarded
      rcases hguarded.behind_zeros before with habove | ⟨-, hescaped⟩
      · exact absurd habove (by decide)
      · exact hescaped

/-- Two units with zeros in front of a flush, of a field and of the stop bit. -/
theorem split_written_two_units :
    let units : List UnitCalls :=
      [⟨.pps, 0, [.append (.bytes [0, 0, 0]), .flush, .append (.bits 16 1)], by decide⟩,
        ⟨.sps, 3, [.append (.ue 7), .append (.bytes [0, 0, 0])], by decide⟩]
    ({} : Draft).Legal true (units.flatMap UnitCalls.calls) ∧
      ∃ w stream, Writer.empty.callAll (units.flatMap UnitCalls.calls) = .ok w ∧
        w.bytes = .ok stream ∧
        Stream.split stream = [[8, 0, 0, 3, 0, 0, 3, 1, 128], [103, 16, 0, 0, 3, 1]] := by
  intro units
  have hlegal : ({} : Draft).Legal true (units.flatMap UnitCalls.calls) := by decide
  obtain ⟨w, hw, hbytes, hsplit, -⟩ := split_written hlegal
  exact ⟨hlegal, w, _, hw, hbytes, hsplit.trans (by decide)⟩

end AvcDriver.Nal
