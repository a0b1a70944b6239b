import AvcDriver.Nal.Stream
import Mathlib.Order.Bounds.Basic

/-!
# Splitting loses nothing

Splitting a stream goes by positions: where start codes are found, then where units begin and
end, then what lies there. Seen from the bytes, a stream is what precedes its first start code,
and then units with a start code in front of each. The positions come to the same.

* `join`, `cut`: units with their start codes, and a stream taken apart into what it joins.
* `ranges_eq`, `split_eq`: the positions are those of the pieces of `cut`, for every stream.
* `not_isInfix_of_mem_cut`: no piece has a start code in it.
* `mem_starts_iff`: no start code is passed over, since none begins inside another.
* `split_lossless`: what all this says of `split`.
-/

namespace AvcDriver.Nal.Stream

/-! ## Streams and their pieces -/

/-- Units with a start code in front of each. -/
def join (units : List Bytes) : Bytes := units.flatMap (startCode ++ ·)

/-- What precedes the first start code of a stream, and what stands behind each of them, up to
the next. -/
def cut : Bytes → Bytes × List Bytes
  | 0 :: 0 :: 0 :: 1 :: rest => ([], (cut rest).1 :: (cut rest).2)
  | byte :: rest => (byte :: (cut rest).1, (cut rest).2)
  | [] => ([], [])

variable {byte : UInt8} {rest : Bytes}

theorem join_append (units more : List Bytes) : join (units ++ more) = join units ++ join more :=
  List.flatMap_append

theorem length_join_cons (unit : Bytes) (units : List Bytes) :
    (join (unit :: units)).length = 4 + unit.length + (join units).length := by
  rw [join, List.flatMap_cons, List.length_append, List.length_append]
  rfl

theorem starts_cons {position : Nat} (h : ¬ startCode <+: byte :: rest) :
    starts position (byte :: rest) = starts (position + 1) rest := by
  rw [starts]
  rintro after rfl rfl
  exact h ⟨after, rfl⟩

theorem cut_cons (h : ¬ startCode <+: byte :: rest) :
    cut (byte :: rest) = (byte :: (cut rest).1, (cut rest).2) := by
  rw [cut]
  rintro after rfl rfl
  exact h ⟨after, rfl⟩

/-- What a scan of a stream sees: a start code, to be passed as a whole, or one more byte. -/
theorem scan {motive : Bytes → Prop} (nil : motive [])
    (code : ∀ rest, motive rest → motive (startCode ++ rest))
    (skip : ∀ byte rest, ¬ startCode <+: byte :: rest → motive rest → motive (byte :: rest))
    (stream : Bytes) : motive stream := by
  fun_induction cut stream with
  | case1 rest ih => exact code rest ih
  | case2 byte rest hnone ih =>
    refine skip byte rest ?_ ih
    rintro ⟨after, hafter⟩
    obtain ⟨hbyte, hrest⟩ := List.cons.inj hafter
    exact hnone after hbyte.symm hrest.symm
  | case3 => exact nil

/-- Nothing is lost between the pieces. -/
theorem cut_append_join (stream : Bytes) : (cut stream).1 ++ join (cut stream).2 = stream := by
  induction stream using scan with
  | nil => rfl
  | code rest ih => exact congrArg (startCode ++ ·) ih
  | skip byte rest hnone ih =>
    rw [cut_cons hnone]
    exact congrArg (byte :: ·) ih

/-- **No piece has a start code in it.** -/
theorem not_isInfix_of_mem_cut {stream : Bytes} :
    ∀ piece ∈ (cut stream).1 :: (cut stream).2, ¬ startCode <:+: piece := by
  have hnil : ¬ startCode <:+: [] := by decide
  induction stream using scan with
  | nil =>
    intro piece h
    rw [List.mem_singleton.mp h]
    exact hnil
  | code rest ih =>
    intro piece h
    rcases List.mem_cons.mp h with rfl | hmem
    · exact hnil
    · exact ih piece hmem
  | skip byte rest hnone ih =>
    intro piece h
    rw [cut_cons hnone] at h
    rcases List.mem_cons.mp h with rfl | hmem
    · intro hinfix
      rcases List.infix_cons_iff.mp hinfix with hfront | hbehind
      · -- a start code in front of the piece is in front of the stream
        have hpiece : byte :: (cut rest).1 <+: byte :: rest :=
          ⟨join (cut rest).2, congrArg (byte :: ·) (cut_append_join rest)⟩
        exact hnone (hfront.trans hpiece)
      · exact ih _ List.mem_cons_self hbehind
    · exact ih piece (List.mem_cons_of_mem _ hmem)

/-- No start code begins before the first one. -/
theorem not_isPrefix_drop {stream : Bytes} :
    ∀ position < (cut stream).1.length, ¬ startCode <+: stream.drop position := by
  induction stream using scan with
  | nil => exact fun position h => absurd h (Nat.not_lt_zero position)
  | code rest ih => exact fun position h => absurd h (Nat.not_lt_zero position)
  | skip byte rest hnone ih =>
    intro position h
    rw [cut_cons hnone] at h
    cases position with
    | zero => exact hnone
    | succ position => exact ih position (Nat.lt_of_succ_lt_succ h)

/-! ## Positions of start codes -/

/-- What is found lies behind what was passed. -/
theorem le_of_mem_starts {stream : Bytes} :
    ∀ {position start : Nat}, start ∈ starts position stream → position + 4 ≤ start := by
  induction stream using scan with
  | nil => exact fun h => absurd h List.not_mem_nil
  | code rest ih =>
    intro position start h
    rcases List.mem_cons.mp h with rfl | hmem
    · exact le_rfl
    · have hle := ih hmem
      omega
  | skip byte rest hnone ih =>
    intro position start h
    rw [starts_cons hnone] at h
    have hle := ih h
    omega

/-- A start code does not begin inside another. -/
theorem not_isPrefix_drop_startCode {offset : Nat} (hpos : 0 < offset) (hlt : offset < 4)
    (rest : Bytes) : ¬ startCode <+: (startCode ++ rest).drop offset := by
  match offset, hpos, hlt with
  | 1, _, _ | 2, _, _ | 3, _, _ =>
    rintro ⟨after, hafter⟩
    simp [startCode] at hafter

/-- **No start code is passed over**, and nothing else is found. -/
theorem mem_starts_iff (stream : Bytes) :
    ∀ position offset, position + offset + 4 ∈ starts position stream ↔
      startCode <+: stream.drop offset := by
  induction stream using scan with
  | nil =>
    intro position offset
    rw [List.drop_nil]
    exact iff_of_false List.not_mem_nil (by decide)
  | code rest ih =>
    intro position offset
    change position + offset + 4 ∈ (position + 4) :: starts (position + 4) rest ↔ _
    rcases Nat.eq_zero_or_pos offset with rfl | hpos
    · exact iff_of_true List.mem_cons_self (List.prefix_append ..)
    by_cases hlt : offset < 4
    · refine iff_of_false ?_ (not_isPrefix_drop_startCode hpos hlt rest)
      intro hmem
      rcases List.mem_cons.mp hmem with heq | hmem
      · omega
      · have hle := le_of_mem_starts hmem
        omega
    · obtain ⟨behind, rfl⟩ := Nat.exists_eq_add_of_le' (Nat.not_lt.mp hlt)
      have hdrop : (startCode ++ rest).drop (behind + 4) = rest.drop behind := rfl
      have hsum : position + (behind + 4) + 4 = position + 4 + behind + 4 := by omega
      rw [List.mem_cons, hsum, hdrop, ih]
      exact or_iff_right (by omega)
  | skip byte rest hnone ih =>
    intro position offset
    rw [starts_cons hnone]
    cases offset with
    | zero =>
      refine iff_of_false (fun hmem => ?_) hnone
      have hle := le_of_mem_starts hmem
      omega
    | succ offset =>
      rw [List.drop_succ_cons, ← ih (position + 1), Nat.add_right_comm position 1, ← Nat.add_assoc]

/-! ## Positions of pieces -/

/-- Where units begin and end when they are joined behind a position. -/
def spans (position : Nat) : List Bytes → List (Nat × Nat)
  | [] => []
  | unit :: units =>
    (position + 4, position + 4 + unit.length) :: spans (position + 4 + unit.length) units

/-- What is found are the beginnings of the pieces. -/
theorem starts_eq (stream : Bytes) :
    ∀ position, starts position stream =
      (spans (position + (cut stream).1.length) (cut stream).2).map Prod.fst := by
  induction stream using scan with
  | nil => exact fun _ => rfl
  | code rest ih => exact fun position => congrArg ((position + 4) :: ·) (ih (position + 4))
  | skip byte rest hnone ih =>
    intro position
    rw [starts_cons hnone, ih, cut_cons hnone, List.length_cons, Nat.add_right_comm, Nat.add_assoc]

/-- Each span ends where the next start code begins, the last one at the end. -/
theorem zip_spans (units : List Bytes) :
    ∀ position, ((spans position units).map Prod.fst).zip
      (((spans position units).map Prod.fst).tail.map (· - startCode.length) ++
        [position + (join units).length]) = spans position units := by
  induction units with
  | nil =>
    intro position
    rfl
  | cons unit units ih =>
    intro position
    have hend : position + (join (unit :: units)).length =
        position + 4 + unit.length + (join units).length := by
      rw [length_join_cons]
      omega
    have hrest := ih (position + 4 + unit.length)
    rw [hend]
    -- the end of the first span is where the next start code begins, if there is a next unit
    cases units with
    | nil => rfl
    | cons next units => exact congrArg ((position + 4, position + 4 + unit.length) :: ·) hrest

/-- A span holds its unit. -/
theorem map_slice_spans (units : List Bytes) :
    ∀ before : Bytes, (spans before.length units).map (slice (before ++ join units)) = units := by
  induction units with
  | nil =>
    intro before
    rfl
  | cons unit units ih =>
    intro before
    have hstream : before ++ join (unit :: units) = before ++ startCode ++ unit ++ join units := by
      rw [join, List.flatMap_cons, ← join]
      simp only [List.append_assoc]
    have hlength : (before ++ startCode).length = before.length + 4 := List.length_append
    have hrest := ih (before ++ startCode ++ unit)
    rw [List.length_append, hlength] at hrest
    have hunit : slice (before ++ startCode ++ unit ++ join units)
        (before.length + 4, before.length + 4 + unit.length) = unit := by
      rw [slice, ← hlength, List.append_assoc _ unit, List.drop_left, Nat.add_sub_cancel_left,
        List.take_left]
    rw [hstream, spans, List.map_cons, hunit, hrest]

/-- Spans lie one behind another, and none reaches past the end. -/
theorem bounds_of_mem_spans {units : List Bytes} {range : Nat × Nat} :
    ∀ {position : Nat}, range ∈ spans position units →
      position + 4 ≤ range.1 ∧ range.1 ≤ range.2 ∧ range.2 ≤ position + (join units).length := by
  induction units with
  | nil => exact fun h => absurd h List.not_mem_nil
  | cons unit units ih =>
    intro position h
    rw [length_join_cons]
    rcases List.mem_cons.mp h with rfl | hmem
    · dsimp only
      omega
    · have hbounds := ih hmem
      omega

/-- **The positions of units** are those of the pieces behind the start codes. -/
theorem ranges_eq (stream : Bytes) :
    ranges stream = spans (cut stream).1.length (cut stream).2 := by
  have hlength : stream.length = (cut stream).1.length + (join (cut stream).2).length := by
    rw [← List.length_append, cut_append_join]
  rw [ranges, starts_eq, Nat.zero_add, hlength]
  exact zip_spans _ _

/-- **Splitting a stream** gets the pieces behind the start codes. -/
theorem split_eq (stream : Bytes) : split stream = (cut stream).2 := by
  have hpieces := map_slice_spans (cut stream).2 (cut stream).1
  rwa [cut_append_join, ← ranges_eq] at hpieces

/-! ## All of a stream -/

theorem startCode_isPrefix_join (unit : Bytes) (units : List Bytes) :
    startCode <+: join (unit :: units) :=
  ⟨unit ++ join units, (List.append_assoc ..).symm⟩

/-- There is a piece behind a start code exactly if there is a start code. -/
theorem cut_snd_eq_nil_iff {stream : Bytes} : (cut stream).2 = [] ↔ ¬ startCode <:+: stream := by
  have hstream := cut_append_join stream
  constructor
  · intro hnil
    -- all of the stream is in front of its first start code
    rw [hnil, join, List.flatMap_nil, List.append_nil] at hstream
    rw [← hstream]
    exact not_isInfix_of_mem_cut _ List.mem_cons_self
  · intro hnone
    by_contra hne
    obtain ⟨unit, units, hunits⟩ := List.exists_cons_of_ne_nil hne
    rw [hunits] at hstream
    have hsuffix : join (unit :: units) <:+ stream := ⟨(cut stream).1, hstream⟩
    exact hnone ((startCode_isPrefix_join unit units).isInfix.trans hsuffix.isInfix)

/-- **The pieces behind the start codes**, each with its start code again, are the stream from the
first start code on. -/
theorem isLeast_startCode {stream : Bytes} (h : startCode <:+: stream) :
    IsLeast {position | startCode <+: stream.drop position} (cut stream).1.length ∧
      join (cut stream).2 = stream.drop (cut stream).1.length := by
  have hjoin : join (cut stream).2 = stream.drop (cut stream).1.length := by
    have hdrop := congrArg (List.drop (cut stream).1.length) (cut_append_join stream)
    rwa [List.drop_left] at hdrop
  refine ⟨⟨?_, ?_⟩, hjoin⟩
  · change startCode <+: stream.drop (cut stream).1.length
    rw [← hjoin]
    have hne : (cut stream).2 ≠ [] := fun hnil => cut_snd_eq_nil_iff.mp hnil h
    obtain ⟨unit, units, hunits⟩ := List.exists_cons_of_ne_nil hne
    rw [hunits]
    exact startCode_isPrefix_join unit units
  · intro position hposition
    exact Nat.not_lt.mp fun hlt => not_isPrefix_drop position hlt hposition

/-- **Splitting a stream loses nothing and misses nothing**, whatever the stream holds. No unit
has a start code in it, and with a start code in front of each again the units are the stream from
its first start code on; there are no units exactly if there is no start code. What is found is
where start codes are, and every range of a unit lies inside the stream, behind a start code. -/
theorem split_lossless (stream : Bytes) :
    (∀ unit ∈ split stream, ¬ startCode <:+: unit) ∧
      (startCode <:+: stream → ∃ first,
        IsLeast {position | startCode <+: stream.drop position} first ∧
          (split stream).flatMap (startCode ++ ·) = stream.drop first) ∧
      (split stream = [] ↔ ¬ startCode <:+: stream) ∧
      (∀ position, position + startCode.length ∈ starts 0 stream ↔
        startCode <+: stream.drop position) ∧
      ∀ range ∈ ranges stream,
        startCode.length ≤ range.1 ∧ range.1 ≤ range.2 ∧ range.2 ≤ stream.length := by
  rw [split_eq, ranges_eq]
  refine ⟨?_, ?_, cut_snd_eq_nil_iff, fun position => ?_, fun range hrange => ?_⟩
  · exact fun unit hunit => not_isInfix_of_mem_cut unit (List.mem_cons_of_mem _ hunit)
  · exact fun hcode => ⟨_, isLeast_startCode hcode⟩
  · have hfound := mem_starts_iff stream 0 position
    rwa [Nat.zero_add] at hfound
  · have hlength := congrArg List.length (cut_append_join stream)
    rw [List.length_append] at hlength
    have hbounds := bounds_of_mem_spans hrange
    exact ⟨Nat.le_of_add_left_le hbounds.1, hbounds.2.1, hbounds.2.2.trans_eq hlength⟩

/-- More zeros than a start code has, one start code behind another, and one at the end. -/
theorem split_lossless_zero_runs :
    let stream : Bytes := [9, 0, 0, 0, 0, 1, 7, 0, 0, 0, 1, 0, 0, 0, 1, 5, 0, 0, 0, 0, 0, 1]
    startCode <:+: stream ∧ ∃ first,
      IsLeast {position | startCode <+: stream.drop position} first ∧
        [[7], [], [5, 0, 0], []].flatMap (startCode ++ ·) = stream.drop first := by
  intro stream
  have hcode : startCode <:+: stream := by decide
  obtain ⟨-, hjoin, -⟩ := split_lossless stream
  exact ⟨hcode, hjoin hcode⟩

end AvcDriver.Nal.Stream
