import AvcDriver.Memory.Lemmas
import AvcDriver.Memory.Plane
import AvcDriver.Proofs.Action

/-!
# Which bytes are copied

Copying rows of one plane onto another is a map of bytes. Byte `column` of row `row` of the origin
goes to byte `column` of row `row` of the goal, if both windows have such a byte, and nothing else
changes. Whether the rows are copied one by one or all at once makes no difference.

* `Copies`: which bytes are copied.
* `copyFlat_eq_ok`, `copyRowwise_eq_ok`: when a copy can be made all at once, or row by row.
* `copiedByte`, `byte_copyPlane`: the bytes of the memory that was copied onto.
* `byte_copyPlane_address`, `byte_copyPlane_of_ne`: the same, seen from the bytes that are copied,
  and from those that are not.
-/

namespace AvcDriver.Memory

/-! ## Bytes of a window -/

namespace Window

/-- Where byte `column` of row `row` lies. -/
def address (w : Window) (row column : Nat) : Nat := w.start + (row * w.stride + column)

/-- The row that an address lies in. -/
def row (w : Window) (address : Nat) : Nat := (address - w.start) / w.stride

/-- The place of an address in its row. -/
def column (w : Window) (address : Nat) : Nat := (address - w.start) % w.stride

/-- Byte `column` of row `row` lies inside the window, and before the next row. -/
def Has (w : Window) (row column : Nat) : Prop :=
  column < w.stride ∧ row * w.stride + column < w.size

instance (w : Window) (row column : Nat) : Decidable (w.Has row column) :=
  inferInstanceAs (Decidable (_ ∧ _))

variable {w : Window} {row column address : Nat}

/-- An address less than a stride behind the start of a row is in that row. -/
theorem row_eq (hlow : w.start + row * w.stride ≤ address)
    (hhigh : address < w.start + row * w.stride + w.stride) : w.row address = row := by
  refine Nat.div_eq_of_lt_le (by omega) ?_
  rw [Nat.succ_mul]
  omega

theorem row_address (h : column < w.stride) : w.row (w.address row column) = row := by
  refine row_eq ?_ ?_
  · rw [address]
    omega
  · rw [address]
    omega

theorem column_address (h : column < w.stride) : w.column (w.address row column) = column := by
  rw [Window.column, address, Nat.add_sub_cancel_left, Nat.add_comm, Nat.add_mul_mod_self_right,
    Nat.mod_eq_of_lt h]

theorem start_le_address : w.start ≤ w.address row column := Nat.le_add_right _ _

theorem address_row_column (h : w.start ≤ address) :
    w.address (w.row address) (w.column address) = address := by
  rw [Window.address, Window.row, Window.column, Nat.mul_comm, Nat.div_add_mod]
  omega

/-- A window has rows to go through if its stride is not zero. -/
theorem checkRows_eq_ok {done : Unit} : w.checkRows = .ok done ↔ 0 < w.stride := by
  rw [checkRows]
  split
  · next hzero => simp [hzero]
  · next hsome => simp [Nat.pos_of_ne_zero hsome]

theorem lt_rowSize_iff : column < w.rowSize row ↔ w.Has row column := by
  rw [rowSize, Has]
  omega

/-- A row with a byte is one of the rows. -/
theorem Has.row_lt (h : w.Has row column) : row < w.rows := by
  have hpos : 0 < w.stride := Nat.zero_lt_of_lt h.1
  have hsize := h.2
  rw [rows, ← Nat.succ_le_iff, Nat.le_div_iff_mul_le hpos, Nat.succ_mul]
  omega

end Window

/-! ## Copies -/

variable {source target : Memory} {origin goal : Window} {width rows row column address : Nat}

/-- Byte `column` of row `row` is copied: it is among those that were asked for, and both planes
have it. -/
def Copies (origin goal : Window) (width rows row column : Nat) : Prop :=
  row < rows ∧ column < width ∧ origin.Has row column ∧ goal.Has row column

instance : Decidable (Copies origin goal width rows row column) :=
  inferInstanceAs (Decidable (_ ∧ _))

/-- No more columns are copied than both planes have. -/
theorem copies_min_iff (origin goal : Window) (width rows row column : Nat) :
    Copies origin goal (min width (min origin.stride goal.stride)) rows row column ↔
      Copies origin goal width rows row column := by
  simp only [Copies, Window.Has]
  omega

/-- The byte at an address when all rows are copied: the byte of its row and column, if there is one
to copy, or else the one that was there. -/
def copiedByte (source : Memory) (origin : Window) (target : Memory) (goal : Window)
    (width rows address : Nat) : UInt8 :=
  if goal.start ≤ address ∧ address < target.size ∧
      Copies origin goal width rows (goal.row address) (goal.column address) then
    source.byte (origin.address (goal.row address) (goal.column address))
  else target.byte address

theorem copiedByte_min (source : Memory) (origin : Window) (target : Memory) (goal : Window)
    (width rows address : Nat) :
    copiedByte source origin target goal (min width (min origin.stride goal.stride)) rows address =
      copiedByte source origin target goal width rows address := by
  simp only [copiedByte, copies_min_iff]

/-- Copying changes the bytes that the copy covers and no others. -/
theorem byte_copy (source : Memory) (start : Nat) (target : Memory) (offset n address : Nat) :
    (source.copy start target offset n).byte address =
      if offset ≤ address ∧ address < offset + n ∧ address < target.size then
        source.byte (start + (address - offset))
      else target.byte address := by
  rw [copy, byte_overwrite, size_slice]
  simp only [Nat.lt_min]
  split
  · next hinside => exact getD_slice source start n _ (by omega)
  · rfl

@[simp] theorem size_copy (source : Memory) (start : Nat) (target : Memory) (offset n : Nat) :
    (source.copy start target offset n).size = target.size :=
  size_overwrite ..

theorem size_copyRow (source : Memory) (origin : Window) (target : Memory) (goal : Window)
    (width row : Nat) : (copyRow source origin target goal width row).size = target.size :=
  size_copy ..

/-- Copying a row changes bytes of this row only. -/
theorem byte_copyRow (hstride : 0 < goal.stride) :
    (copyRow source origin target goal width row).byte address =
      if goal.start ≤ address ∧ address < target.size ∧ goal.row address = row ∧
          Copies origin goal width (row + 1) row (goal.column address) then
        source.byte (origin.address row (goal.column address))
      else target.byte address := by
  rw [copyRow, byte_copy]
  set n := min width (min (origin.rowSize row) (goal.rowSize row)) with hn
  have hle : n ≤ goal.stride := by
    rw [Window.rowSize, Window.rowSize] at hn
    omega
  have hcopies (column : Nat) :
      Copies origin goal width (row + 1) row column ↔ column < n := by
    rw [Copies, ← Window.lt_rowSize_iff, ← Window.lt_rowSize_iff]
    omega
  by_cases hstart : goal.start ≤ address
  · have haddress := Window.address_row_column hstart
    have hcolumn : goal.column address < goal.stride := Nat.mod_lt _ hstride
    rw [Window.address] at haddress
    by_cases hrow : goal.row address = row
    · simp only [hcopies, hrow, hstart, true_and]
      rw [hrow] at haddress
      rw [Window.address]
      congr 1
      · exact propext (by omega)
      · congr 1
        omega
    · -- an address in another row is a whole row away
      have hfar : ¬ (goal.start + row * goal.stride ≤ address ∧
          address < goal.start + row * goal.stride + n) := by
        rintro ⟨hlow, hhigh⟩
        exact hrow (Window.row_eq hlow (Nat.lt_of_lt_of_le hhigh (Nat.add_le_add_left hle _)))
      rw [if_neg (fun h => hfar ⟨h.1, h.2.1⟩), if_neg (fun h => hrow h.2.2.1)]
  · rw [if_neg (fun h => hstart (Nat.le_trans (Nat.le_add_right _ _) h.1)),
      if_neg (fun h => hstart h.1)]

theorem size_copyRows (source : Memory) (origin : Window) (target : Memory) (goal : Window)
    (width : Nat) (indices : List Nat) :
    (indices.foldl (fun target row => copyRow source origin target goal width row) target).size =
      target.size := by
  induction indices generalizing target with
  | nil => rfl
  | cons row rest ih => exact (ih _).trans (size_copyRow ..)

/-- Copying the first rows, one by one. -/
theorem byte_copyRows (hstride : 0 < goal.stride) (count : Nat) :
    ((List.range count).foldl
        (fun target row => copyRow source origin target goal width row) target).byte address =
      copiedByte source origin target goal width count address := by
  induction count with
  | zero =>
    rw [copiedByte, if_neg (fun h => Nat.not_lt_zero _ h.2.2.1)]
    rfl
  | succ count ih =>
    rw [List.range_succ, List.foldl_append, List.foldl_cons, List.foldl_nil,
      byte_copyRow hstride, size_copyRows, ih, copiedByte, copiedByte]
    by_cases hrow : goal.row address = count
    · subst hrow
      have hnone : ¬ Copies origin goal width (goal.row address) (goal.row address)
          (goal.column address) := fun h => Nat.lt_irrefl _ h.1
      simp only [hnone, and_false, if_false, true_and]
    · have hearlier :
          Copies origin goal width (count + 1) (goal.row address) (goal.column address) ↔
            Copies origin goal width count (goal.row address) (goal.column address) :=
        and_congr_left fun _ => by omega
      simp only [hrow, hearlier, false_and, and_false, if_false]

/-- Rows can be copied one by one if both windows have rows to go through. -/
theorem copyRowwise_eq_ok {result : Memory} :
    copyRowwise source origin target goal width rows = .ok result ↔
      0 < origin.stride ∧ 0 < goal.stride ∧
        result = (List.range (min rows (min origin.rows goal.rows))).foldl
          (fun target row => copyRow source origin target goal width row) target := by
  rw [copyRowwise, bind_eq_ok]
  constructor
  · rintro ⟨_, horigin, h⟩
    obtain ⟨_, hgoal, h⟩ := bind_eq_ok.1 h
    cases h
    exact ⟨Window.checkRows_eq_ok.1 horigin, Window.checkRows_eq_ok.1 hgoal, rfl⟩
  · rintro ⟨horigin, hgoal, rfl⟩
    exact ⟨(), Window.checkRows_eq_ok.2 horigin,
      bind_eq_ok.2 ⟨(), Window.checkRows_eq_ok.2 hgoal, rfl⟩⟩

theorem size_copyRowwise {result : Memory}
    (h : copyRowwise source origin target goal width rows = .ok result) :
    result.size = target.size := by
  obtain ⟨-, -, rfl⟩ := copyRowwise_eq_ok.1 h
  exact size_copyRows ..

theorem byte_copyRowwise {result : Memory}
    (h : copyRowwise source origin target goal width rows = .ok result) :
    result.byte address = copiedByte source origin target goal width rows address := by
  obtain ⟨-, hstride, rfl⟩ := copyRowwise_eq_ok.1 h
  rw [byte_copyRows hstride]
  -- a row that a window does not have has no bytes to copy
  have hcopies : Copies origin goal width (min rows (min origin.rows goal.rows))
      (goal.row address) (goal.column address) ↔
        Copies origin goal width rows (goal.row address) (goal.column address) := by
    constructor
    · rintro ⟨hrow, hrest⟩
      exact ⟨(Nat.lt_min.1 hrow).1, hrest⟩
    · rintro ⟨hrow, hcolumn, horigin, hgoal⟩
      exact ⟨Nat.lt_min.2 ⟨hrow, Nat.lt_min.2 ⟨horigin.row_lt, hgoal.row_lt⟩⟩, hcolumn, horigin,
        hgoal⟩
  simp only [copiedByte, hcopies]

/-- Rows can be copied all at once if their area fits its word. -/
theorem copyFlat_eq_ok {result : Memory} :
    copyFlat source origin target goal width rows = .ok result ↔
      width * rows < 2 ^ 64 ∧
        result = source.copy origin.start target goal.start
          (min (width * rows) (min origin.size goal.size)) := by
  rw [copyFlat, bind_eq_ok]
  constructor
  · rintro ⟨area, harea, h⟩
    obtain ⟨hlt, rfl⟩ := checkedWord_eq_ok.1 harea
    cases h
    exact ⟨hlt, rfl⟩
  · rintro ⟨hlt, rfl⟩
    exact ⟨_, checkedWord_eq_ok.2 ⟨hlt, rfl⟩, rfl⟩

theorem size_copyFlat {result : Memory}
    (h : copyFlat source origin target goal width rows = .ok result) :
    result.size = target.size := by
  obtain ⟨-, rfl⟩ := copyFlat_eq_ok.1 h
  exact size_copy ..

/-- One flat copy of planes that are packed as tightly as what is copied does the same. -/
theorem byte_copyFlat {result : Memory} (hstride : 0 < width) (horigin : origin.stride = width)
    (hgoal : goal.stride = width)
    (h : copyFlat source origin target goal width rows = .ok result) :
    result.byte address =
      copiedByte source origin target goal width rows address := by
  obtain ⟨-, rfl⟩ := copyFlat_eq_ok.1 h
  rw [byte_copy, copiedByte]
  by_cases hstart : goal.start ≤ address
  · have haddress := Window.address_row_column hstart
    have hcolumn : goal.column address < width := by
      rw [Window.column, hgoal]
      exact Nat.mod_lt _ hstride
    have hrow : address - goal.start < width * rows ↔ goal.row address < rows := by
      rw [Window.row, hgoal, Nat.div_lt_iff_lt_mul hstride, Nat.mul_comm]
    rw [Window.address, hgoal] at haddress
    simp only [Copies, Window.Has, Window.address, horigin, hgoal, hcolumn, true_and]
    congr 1
    · refine propext ?_
      omega
    · congr 1
      omega
  · rw [if_neg (fun h => hstart h.1), if_neg (fun h => hstart h.1)]

/-- **Copying a plane is a map of bytes**: each byte that both planes have is copied, and every
other byte stays. -/
theorem byte_copyPlane {result : Memory}
    (h : copyPlane source origin target goal width rows = .ok result) (address : Nat) :
    result.byte address =
      copiedByte source origin target goal width rows address := by
  rw [← copiedByte_min]
  rw [copyPlane] at h
  generalize hn : min width (min origin.stride goal.stride) = n at h ⊢
  split at h
  · next hnone =>
    cases h
    rw [copiedByte, if_neg]
    rintro ⟨-, -, -, hcolumn, -⟩
    exact Nat.not_lt_zero _ (hnone ▸ hcolumn)
  · next hsome =>
    split at h
    · next hpacked => exact byte_copyFlat (Nat.pos_of_ne_zero hsome) hpacked.1 hpacked.2 h
    · exact byte_copyRowwise h

/-- A byte that is copied arrives. -/
theorem byte_copyPlane_address {result : Memory}
    (h : copyPlane source origin target goal width rows = .ok result)
    (hcopies : Copies origin goal width rows row column)
    (hinside : goal.address row column < target.size) :
    result.byte (goal.address row column) = source.byte (origin.address row column) := by
  have hcolumn : column < goal.stride := hcopies.2.2.2.1
  rw [byte_copyPlane h, copiedByte, Window.row_address hcolumn, Window.column_address hcolumn,
    if_pos ⟨Window.start_le_address, hinside, hcopies⟩]

/-- A byte that nothing is copied to stays. -/
theorem byte_copyPlane_of_ne {result : Memory}
    (h : copyPlane source origin target goal width rows = .ok result)
    (hne : ∀ row column, Copies origin goal width rows row column →
      goal.address row column ≠ address) : result.byte address = target.byte address := by
  rw [byte_copyPlane h, copiedByte, if_neg]
  rintro ⟨hstart, -, hcopies⟩
  exact hne _ _ hcopies (Window.address_row_column hstart)

/-- Copying a plane keeps the size of the memory that is copied onto. -/
theorem size_copyPlane {result : Memory}
    (h : copyPlane source origin target goal width rows = .ok result) :
    result.size = target.size := by
  rw [copyPlane] at h
  split at h
  · cases h
    rfl
  · split at h
    · exact size_copyFlat h
    · exact size_copyRowwise h

/-- Copying a plane never stops if the area that is copied fits its word. A stride of zero leaves
nothing to copy, so the rows are not gone through. -/
theorem copyPlane_ok_of_area (source : Memory) (origin : Window) (target : Memory) (goal : Window)
    {width rows : Nat} (harea : min width (min origin.stride goal.stride) * rows < 2 ^ 64) :
    ∃ result, copyPlane source origin target goal width rows = .ok result := by
  rw [copyPlane]
  generalize hn : min width (min origin.stride goal.stride) = n at harea ⊢
  split
  · exact ⟨_, rfl⟩
  · split
    · exact ⟨_, copyFlat_eq_ok.2 ⟨harea, rfl⟩⟩
    · exact ⟨_, copyRowwise_eq_ok.2 ⟨by omega, by omega, rfl⟩⟩

/-- Copying onto a plane whose area fits its word never stops. -/
theorem copyPlane_ok (source : Memory) (origin : Window) (target : Memory) {goal : Window}
    (width : Nat) {rows : Nat} (harea : goal.stride * rows < 2 ^ 64) :
    ∃ memory, copyPlane source origin target goal width rows = .ok memory :=
  copyPlane_ok_of_area source origin target goal
    (Nat.lt_of_le_of_lt (Nat.mul_le_mul_right rows (by omega)) harea)

end AvcDriver.Memory
