import AvcDriver.Memory.Basic
import Mathlib.Data.List.Basic
import Std.Data.TreeMap.Lemmas

/-!
# What memory operations do to bytes

A memory is seen through `byte`. `byte_overwrite` says what writing a block changes,
and `getD_slice` what reading one yields. How bytes are spread over pages shows in
neither.
-/

namespace AvcDriver

namespace Block

theorem size_zeros (n : Nat) : (zeros n).size = n := by
  change (filled n 0).data.size = n
  rw [data_filled, Array.size_replicate]

theorem getD_zeros (n i : Nat) : (zeros n).data.getD i 0 = 0 := by
  rw [zeros, data_filled, Array.getD_eq_getD_getElem?, Array.getElem?_replicate]
  split <;> rfl

/-- The bytes of a block into which a slice was copied. None may be missing in front of it. -/
theorem getElem?_copySlice (source target : Block) (start offset n i : Nat)
    (h : n = 0 ∨ offset + n ≤ target.size) :
    (source.copySlice start target offset n).data[i]? =
      if offset ≤ i ∧ i < offset + n ∧ start + (i - offset) < source.size then
        source.data[start + (i - offset)]?
      else target.data[i]? := by
  simp only [← ByteArray.size_data] at *
  simp only [ByteArray.copySlice, Array.getElem?_append, Array.getElem?_extract,
    Array.size_append, Array.size_extract]
  split <;> grind

/-- The bytes of a block into which others were put. Those it did not have are zeros. -/
theorem getD_put (source : Block) (start : Nat) (target : Block) (offset n i : Nat) :
    (put source start target offset n).data.getD i 0 =
      if offset ≤ i ∧ i < offset + n ∧ start + (i - offset) < source.size then
        source.data.getD (start + (i - offset)) 0
      else target.data.getD i 0 := by
  simp only [← ByteArray.size_data]
  simp only [put, zeros, ByteArray.copySlice, ByteArray.data_append, data_filled,
    ← ByteArray.size_data, Array.getD_eq_getD_getElem?, Array.getElem?_append,
    Array.getElem?_extract, Array.size_append, Array.size_replicate, Array.size_extract,
    Array.getElem?_replicate]
  grind

end Block

namespace Memory

/-! ## Pages -/

/-- The addresses of a page. -/
theorem div_pageSize_eq_iff (address index : Nat) :
    address / pageSize = index ↔
      index * pageSize ≤ address ∧ address < index * pageSize + pageSize := by
  simp only [pageSize]
  omega

theorem mod_pageSize (address index : Nat) (h : address / pageSize = index) :
    address % pageSize = address - index * pageSize := by
  simp only [pageSize] at *
  omega

/-- All addresses of a range are in the pages that are gone through for it. -/
theorem mem_pagesBetween (start stop address : Nat) (above : start ≤ address)
    (below : address < stop) : address / pageSize ∈ pagesBetween start stop := by
  simp only [pagesBetween, if_neg (show ¬ stop ≤ start by omega), List.mem_range'_1]
  have := Nat.div_le_div_right (c := pageSize) above
  have := Nat.div_le_div_right (c := pageSize) (show address ≤ stop - 1 by omega)
  omega

/-! ## Writing -/

@[simp] theorem byte_zeros (size address : Nat) : (zeros size).byte address = 0 := by
  simp [byte, page, zeros, Std.TreeMap.getD_eq_getD_getElem?]

/-- A page is the only one that changes when it is written to. -/
theorem page_writePage (block : Block) (start stop : Nat) (m : Memory) (index other : Nat) :
    (writePage block start stop m index).page other =
      if index = other then
        Block.put block (max start (index * pageSize) - start) (m.page index)
          (max start (index * pageSize) - index * pageSize)
          (min stop (index * pageSize + pageSize) - max start (index * pageSize))
      else m.page other := by
  simp only [writePage, page, Std.TreeMap.getD_alter]
  split
  · next h => simp_all [Std.TreeMap.getD_eq_getD_getElem?]
  · next h => simp_all

/-- The bytes of a block that land in one page. -/
theorem byte_writePage (block : Block) (start stop : Nat) (m : Memory) (index address : Nat)
    (fits : stop ≤ start + block.size) :
    (writePage block start stop m index).byte address =
      if address / pageSize = index ∧ start ≤ address ∧ address < stop then
        block.data.getD (address - start) 0
      else m.byte address := by
  simp only [byte, page_writePage]
  by_cases h : address / pageSize = index
  · have bounds := (div_pageSize_eq_iff address index).1 h
    subst h
    rw [if_pos rfl, Block.getD_put, mod_pageSize _ _ rfl]
    -- the start of the page is all that matters of its number
    generalize address / pageSize * pageSize = first at *
    have place : max start first - start + (address - first - (max start first - first)) =
      address - start ∨ address < start := by omega
    grind
  · rw [if_neg (Ne.symm h), if_neg (by simp [h])]

/-- The bytes of a block that land in the pages gone through so far. -/
theorem byte_foldl_writePage (block : Block) (start stop : Nat) (fits : stop ≤ start + block.size)
    (indices : List Nat) (m : Memory) (address : Nat) :
    (indices.foldl (writePage block start stop) m).byte address =
      if address / pageSize ∈ indices ∧ start ≤ address ∧ address < stop then
        block.data.getD (address - start) 0
      else m.byte address := by
  induction indices generalizing m with
  | nil => simp
  | cons index indices ih =>
    simp only [List.foldl_cons, ih, byte_writePage _ _ _ _ _ _ fits, List.mem_cons]
    grind

/-- Writing a block changes the bytes it covers and no others, and never one past the
end. -/
theorem byte_overwrite (m : Memory) (start : Nat) (block : Block) (address : Nat) :
    (m.overwrite start block).byte address =
      if start ≤ address ∧ address < min (start + block.size) m.size then
        block.data.getD (address - start) 0
      else m.byte address := by
  rw [overwrite, byte_foldl_writePage _ _ _ (by omega)]
  have := mem_pagesBetween start (min (start + block.size) m.size) address
  grind

theorem size_foldl_writePage (block : Block) (start stop : Nat) (indices : List Nat) (m : Memory) :
    (indices.foldl (writePage block start stop) m).size = m.size := by
  induction indices generalizing m with
  | nil => rfl
  | cons index indices ih => rw [List.foldl_cons, ih]; rfl

@[simp] theorem size_overwrite (m : Memory) (start : Nat) (block : Block) :
    (m.overwrite start block).size = m.size :=
  size_foldl_writePage ..

/-! ## Reading -/

theorem size_readPage (m : Memory) (start : Nat) (block : Block) (index : Nat) :
    (m.readPage start block index).size = block.size := by
  simp only [readPage, ByteArray.copySlice, ← ByteArray.size_data, Array.size_append,
    Array.size_extract]
  omega

/-- What is read of one page lands where the block has the same addresses. -/
theorem getD_readPage (m : Memory) (start : Nat) (block : Block) (index i : Nat)
    (inside : i < block.size) :
    (m.readPage start block index).data.getD i 0 =
      if (start + i) / pageSize = index ∧ (start + i) % pageSize < (m.page index).size then
        m.byte (start + i)
      else block.data.getD i 0 := by
  simp only [readPage, byte, Array.getD_eq_getD_getElem?]
  rw [Block.getElem?_copySlice _ _ _ _ _ _ (by omega)]
  by_cases h : (start + i) / pageSize = index
  · have bounds := (div_pageSize_eq_iff (start + i) index).1 h
    rw [h, mod_pageSize _ _ h]
    generalize index * pageSize = first at *
    have place : max start first - first + (i - (max start first - start)) = start + i - first := by
      omega
    rw [place]
    split <;> split <;> first | rfl | omega
  · have bounds := mt (div_pageSize_eq_iff (start + i) index).2 h
    rw [if_neg (by omega), if_neg (by simp [h])]

theorem size_foldl_readPage (m : Memory) (start : Nat) (indices : List Nat) (block : Block) :
    (indices.foldl (m.readPage start) block).size = block.size := by
  induction indices generalizing block with
  | nil => rfl
  | cons index indices ih => rw [List.foldl_cons, ih, size_readPage]

/-- What is read of the pages gone through so far. Addresses in none of them are as they were. -/
theorem getD_foldl_readPage (m : Memory) (start : Nat) (indices : List Nat) (block : Block)
    (i : Nat) (inside : i < block.size) :
    (indices.foldl (m.readPage start) block).data.getD i 0 =
      if (start + i) / pageSize ∈ indices ∧
          (start + i) % pageSize < (m.page ((start + i) / pageSize)).size then
        m.byte (start + i)
      else block.data.getD i 0 := by
  induction indices generalizing block with
  | nil => simp
  | cons index indices ih =>
    rw [List.foldl_cons, ih _ (by rwa [size_readPage]), getD_readPage _ _ _ _ _ inside]
    simp only [List.mem_cons]
    grind

/-- A slice is as long as asked for, also where it reaches past the end of the memory. -/
@[simp] theorem size_slice (m : Memory) (start n : Nat) : (m.slice start n).size = n := by
  rw [slice, size_foldl_readPage, Block.size_zeros]

/-- A slice holds the bytes of the memory. -/
theorem getD_slice (m : Memory) (start n i : Nat) (inside : i < n) :
    (m.slice start n).data.getD i 0 = m.byte (start + i) := by
  rw [slice, getD_foldl_readPage _ _ _ _ _ (by rwa [Block.size_zeros])]
  have covered := mem_pagesBetween start (start + n) (start + i) (by omega) (by omega)
  simp only [covered, true_and]
  split
  · rfl
  · next beyond =>
    -- a page that was not written that far holds zeros there
    rw [Block.getD_zeros, byte, Array.getD_eq_getD_getElem?, Array.getElem?_eq_none (by
      rw [ByteArray.size_data]; omega)]
    rfl

end Memory

end AvcDriver
