import AvcDriver.Proofs.Memory.Bytes
import AvcDriver.Proofs.Memory.Copy

/-!
# Rows of byte strings

Windows onto memories are byte strings, and copying one plane onto another is a map between the
indices of two of them: byte `column` of row `row` of the one goes to byte `column` of row `row` of
the other, for the rows and columns that were asked for, as far as both strides and both lengths
reach. That holds whichever way the copy is made, and no copy stops.

* `Window.bytes`: the byte string that a window shows.
* `RowsCopied`: the map of indices. `RowsCopied.unique` says that it leaves nothing open.
* `rowsCopied`: the bytes of a copy, seen as byte strings.
* `copyPlane_maps_rows`: every copy of a plane, row by row or flat.
-/

namespace AvcDriver.Memory

/-! ## What a window shows -/

namespace Window

variable {w : Window} {m : Memory}

/-- The bytes of a memory that a window shows. -/
def bytes (w : Window) (m : Memory) : Bytes := (m.toBytes.drop w.start).take w.size

theorem length_bytes (h : w.start + w.size ≤ m.size) : (w.bytes m).length = w.size := by
  rw [bytes, List.length_take, List.length_drop, length_toBytes]
  omega

theorem getElem?_bytes (h : w.start + w.size ≤ m.size) {index : Nat} (hindex : index < w.size) :
    (w.bytes m)[index]? = some (m.byte (w.start + index)) := by
  have hlt : w.start + index < m.toBytes.length := by
    rw [length_toBytes]
    omega
  rw [bytes, List.getElem?_take_of_lt hindex, List.getElem?_drop, List.getElem?_eq_getElem hlt,
    getElem_toBytes]

/-- A memory as a whole shows all of its bytes. -/
theorem bytes_whole (m : Memory) (stride : Nat) : (m.whole stride).bytes m = m.toBytes :=
  List.take_of_length_le (Nat.le_of_eq (length_toBytes m))

end Window

/-! ## Maps of indices -/

/-- The bytes `result` are those of `target` with the first `width` bytes of the first `rows` rows
of `source` copied onto them, rows being as far apart as the strides say. A byte goes where it was
in its row, if it is there and its place is there, and all other bytes stay. -/
structure RowsCopied (source : Bytes) (sourceStride : Nat) (target : Bytes) (targetStride : Nat)
    (width rows : Nat) (result : Bytes) : Prop where
  length_eq : result.length = target.length
  copied : ∀ row < rows, ∀ column < width, row * sourceStride + column < source.length →
    row * targetStride + column < target.length →
      result[row * targetStride + column]? = source[row * sourceStride + column]?
  kept : ∀ index < target.length, (∀ row < rows, ∀ column < width,
    row * sourceStride + column < source.length → row * targetStride + column ≠ index) →
      result[index]? = target[index]?

namespace RowsCopied

variable {source target result other : Bytes} {sourceStride targetStride width rows : Nat}

/-- What is copied and what stays are all bytes there are. -/
theorem unique (h : RowsCopied source sourceStride target targetStride width rows result)
    (h' : RowsCopied source sourceStride target targetStride width rows other) :
    result = other := by
  refine List.ext_getElem? fun index => ?_
  by_cases hinside : index < target.length
  · by_cases hcopied : ∃ row < rows, ∃ column < width,
        row * sourceStride + column < source.length ∧ row * targetStride + column = index
    · obtain ⟨row, hrow, column, hcolumn, hsource, rfl⟩ := hcopied
      rw [h.copied row hrow column hcolumn hsource hinside,
        h'.copied row hrow column hcolumn hsource hinside]
    · have hnone : ∀ row < rows, ∀ column < width, row * sourceStride + column < source.length →
          row * targetStride + column ≠ index :=
        fun row hrow column hcolumn hsource heq =>
          hcopied ⟨row, hrow, column, hcolumn, hsource, heq⟩
      rw [h.kept index hinside hnone, h'.kept index hinside hnone]
  · have hout := Nat.not_lt.1 hinside
    rw [List.getElem?_eq_none (Nat.le_trans (Nat.le_of_eq h.length_eq) hout),
      List.getElem?_eq_none (Nat.le_trans (Nat.le_of_eq h'.length_eq) hout)]

end RowsCopied

/-! ## Copies of planes -/

variable {source target result : Memory} {origin goal : Window} {width rows : Nat}

/-- A copy of bytes, seen through the windows, is a map of indices. -/
theorem rowsCopied (horigin : origin.start + origin.size ≤ source.size)
    (hgoal : goal.start + goal.size ≤ target.size)
    (h : copyPlane source origin target goal width rows = .ok result) :
    RowsCopied (origin.bytes source) origin.stride (goal.bytes target) goal.stride
      (min width (min origin.stride goal.stride)) rows (goal.bytes result) := by
  have hgoal' : goal.start + goal.size ≤ result.size := by rwa [size_copyPlane h]
  have hsource := Window.length_bytes horigin
  have htarget := Window.length_bytes hgoal
  refine ⟨(Window.length_bytes hgoal').trans htarget.symm, ?_, ?_⟩
  · intro row hrow column hcolumn hfrom hto
    rw [hsource] at hfrom
    rw [htarget] at hto
    have hcopies : Copies origin goal width rows row column :=
      ⟨hrow, by omega, ⟨by omega, hfrom⟩, ⟨by omega, hto⟩⟩
    have hinside : goal.address row column < target.size :=
      Nat.lt_of_lt_of_le (Nat.add_lt_add_left hto _) hgoal
    rw [Window.getElem?_bytes hgoal' hto, Window.getElem?_bytes horigin hfrom]
    exact congrArg some (byte_copyPlane_address h hcopies hinside)
  · intro index hindex hnone
    rw [htarget] at hindex
    rw [Window.getElem?_bytes hgoal' hindex, Window.getElem?_bytes hgoal hindex]
    refine congrArg some (byte_copyPlane_of_ne h fun row column hcopies haddress => ?_)
    obtain ⟨hrow, hcolumn, ⟨hstride, hfrom⟩, ⟨hstride', -⟩⟩ := hcopies
    refine hnone row hrow column (by omega) ?_ (Nat.add_left_cancel haddress)
    rwa [hsource]

/-- No byte outside the window changes. -/
theorem byte_copyPlane_of_outside
    (h : copyPlane source origin target goal width rows = .ok result) {address : Nat}
    (houtside : address < goal.start ∨ goal.start + goal.size ≤ address) :
    result.byte address = target.byte address := by
  refine byte_copyPlane_of_ne h fun row column hcopies haddress => ?_
  obtain ⟨-, -, -, ⟨-, hinside⟩⟩ := hcopies
  rw [Window.address] at haddress
  omega

section Ways

variable {n : Nat} (hn : min width (min origin.stride goal.stride) = n)
  (h : copyPlane source origin target goal width rows = .ok result)

include hn h

/-- What goes by the map of bytes is the copy of the plane. -/
theorem toBytes_eq_of_copiedByte {other : Memory} (hsize : other.size = target.size)
    (hother : ∀ address, other.byte address =
      copiedByte source origin target goal n rows address) : other.toBytes = result.toBytes := by
  subst hn
  refine List.ext_getElem ?_ fun index _ _ => ?_
  · rw [length_toBytes, length_toBytes, hsize, size_copyPlane h]
  · rw [getElem_toBytes, getElem_toBytes, hother, copiedByte_min, byte_copyPlane h]

/-- Row by row, the copy of a plane can always be made. -/
theorem exists_copyRowwise (hsome : 0 < n) :
    ∃ rowwise, copyRowwise source origin target goal n rows = .ok rowwise ∧
      rowwise.toBytes = result.toBytes := by
  obtain ⟨rowwise, hrowwise⟩ : ∃ rowwise,
      copyRowwise source origin target goal n rows = .ok rowwise :=
    -- no stride is zero, since none is less than `n`
    ⟨_, copyRowwise_eq_ok.2 ⟨by omega, by omega, rfl⟩⟩
  exact ⟨rowwise, hrowwise, toBytes_eq_of_copiedByte hn h (size_copyRowwise hrowwise)
    fun _ => byte_copyRowwise hrowwise⟩

/-- All at once, it can be made if both planes are packed as tightly as what is copied. -/
theorem exists_copyFlat (hsome : 0 < n) (horigin : origin.stride = n) (hgoal : goal.stride = n)
    (harea : n * rows < 2 ^ 64) :
    ∃ flat, copyFlat source origin target goal n rows = .ok flat ∧
      flat.toBytes = result.toBytes := by
  obtain ⟨flat, hflat⟩ : ∃ flat, copyFlat source origin target goal n rows = .ok flat :=
    ⟨_, copyFlat_eq_ok.2 ⟨harea, rfl⟩⟩
  exact ⟨flat, hflat, toBytes_eq_of_copiedByte hn h (size_copyFlat hflat)
    fun _ => byte_copyFlat hsome horigin hgoal hflat⟩

end Ways

/-- **Copying a plane maps indices**, and never stops. In the window of the goal byte `column` of
row `row` becomes byte `column` of row `row` of the origin, for the rows that were asked for and the
columns that both strides have, as far as both windows reach; all other bytes stay, in the window
and around it. It is the same whether the rows are copied one by one or, where both planes are
packed as tightly as what is copied, all at once. -/
theorem copyPlane_maps_rows {source target : Memory} {origin goal : Window}
    (horigin : origin.start + origin.size ≤ source.size)
    (hgoal : goal.start + goal.size ≤ target.size) {width rows : Nat}
    (harea : width * rows < 2 ^ 64) :
    let n := min width (min origin.stride goal.stride)
    ∃ result, copyPlane source origin target goal width rows = .ok result ∧
      RowsCopied (origin.bytes source) origin.stride (goal.bytes target) goal.stride n rows
        (goal.bytes result) ∧
      result.size = target.size ∧
      (∀ address, address < goal.start ∨ goal.start + goal.size ≤ address →
        result.byte address = target.byte address) ∧
      (0 < n → ∃ rowwise, copyRowwise source origin target goal n rows = .ok rowwise ∧
        rowwise.toBytes = result.toBytes) ∧
      (0 < n → origin.stride = n → goal.stride = n →
        ∃ flat, copyFlat source origin target goal n rows = .ok flat ∧
          flat.toBytes = result.toBytes) := by
  intro n
  have harea' : n * rows < 2 ^ 64 :=
    Nat.lt_of_le_of_lt (Nat.mul_le_mul_right rows (Nat.min_le_left ..)) harea
  obtain ⟨result, h⟩ := copyPlane_ok_of_area source origin target goal harea'
  refine ⟨result, h, rowsCopied horigin hgoal h, size_copyPlane h, ?_, ?_, ?_⟩
  · exact fun address houtside => byte_copyPlane_of_outside h houtside
  · exact fun hsome => exists_copyRowwise rfl h hsome
  · exact fun hsome horigin hgoal => exists_copyFlat rfl h hsome horigin hgoal harea'

/-- Rows of three bytes, the last of them short, into rows of four, the last one shorter still; and
into rows of three, where one flat copy is enough. -/
theorem copyPlane_maps_rows_partial :
    let source := ofBlock (Block.ofBytes [1, 2, 3, 4, 5, 6, 7, 8])
    let target := ofBlock (Block.ofBytes [20, 21, 22, 23, 24, 25, 26, 27, 28, 29, 30, 31])
    let origin := source.whole 3
    let goal : Window := { start := 1, size := 9, stride := 4 }
    let packed : Window := { start := 2, size := 7, stride := 3 }
    origin.start + origin.size ≤ source.size ∧ goal.start + goal.size ≤ target.size ∧
      packed.start + packed.size ≤ target.size ∧ 5 * 4 < 2 ^ 64 ∧
      (∃ result, copyPlane source origin target goal 5 4 = .ok result ∧
        goal.bytes result = [1, 2, 3, 24, 4, 5, 6, 28, 7]) ∧
      ∃ rowwise flat, copyRowwise source origin target packed 3 4 = .ok rowwise ∧
        copyFlat source origin target packed 3 4 = .ok flat ∧ rowwise.toBytes = flat.toBytes := by
  intro source target origin goal packed
  have hsource : origin.start + origin.size ≤ source.size := Nat.le_of_eq (Nat.zero_add _)
  have htarget : target.size = 12 := size_overwrite ..
  have hgoal : goal.start + goal.size ≤ target.size := by rw [htarget]; decide
  have hpacked : packed.start + packed.size ≤ target.size := by rw [htarget]; decide
  have harea : 5 * 4 < 2 ^ 64 := by decide
  obtain ⟨result, h, hrows, -⟩ := copyPlane_maps_rows hsource hgoal harea
  have hfrom : origin.bytes source = [1, 2, 3, 4, 5, 6, 7, 8] :=
    (Window.bytes_whole source 3).trans (toBytes_ofBytes _)
  have hto : goal.bytes target = [21, 22, 23, 24, 25, 26, 27, 28, 29] := by
    rw [Window.bytes, toBytes_ofBytes]
    rfl
  rw [hfrom, hto] at hrows
  obtain ⟨_, -, -, -, -, hrowwise, hflat⟩ := copyPlane_maps_rows hsource hpacked harea
  obtain ⟨rowwise, hrowwise, hsame⟩ := hrowwise (by decide)
  obtain ⟨flat, hflat, hsame'⟩ := hflat (by decide) rfl rfl
  refine ⟨hsource, hgoal, hpacked, harea, ?_, rowwise, flat, hrowwise, hflat,
    hsame.trans hsame'.symm⟩
  exact ⟨result, h, hrows.unique ⟨by decide, by decide, by decide⟩⟩

end AvcDriver.Memory
