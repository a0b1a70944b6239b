import AvcDriver.Memory.Lemmas

/-!
# All bytes of a memory

`Memory.toBytes` lists what a memory holds at its addresses, in order. So a memory that was
made of some bytes holds these, and one that was made of nothing holds zeros. A memory that was
filled with a byte holds it everywhere.
-/

namespace AvcDriver.Memory

@[simp] theorem length_toBytes (m : Memory) : m.toBytes.length = m.size := by
  rw [toBytes, Block.toBytes, Array.length_toList, ByteArray.size_data, toBlock, size_slice]

/-- The bytes of a memory, address by address. -/
theorem getElem_toBytes (m : Memory) (i : Nat) (h : i < m.toBytes.length) :
    m.toBytes[i] = m.byte i := by
  have hslice := getD_slice m 0 m.size i (by rwa [length_toBytes] at h)
  rw [Nat.zero_add, Array.getD_eq_getD_getElem?, ← Array.getElem?_toList] at hslice
  change m.toBytes[i]?.getD 0 = m.byte i at hslice
  rwa [List.getElem?_eq_getElem h] at hslice

theorem toBytes_zeros (n : Nat) : (zeros n).toBytes = List.replicate n 0 := by
  apply List.ext_getElem
  · rw [length_toBytes, List.length_replicate]
    rfl
  · intro i _ _
    rw [getElem_toBytes, byte_zeros, List.getElem_replicate]

/-- A memory that holds a block has the bytes of the block. -/
theorem toBytes_ofBlock (block : Block) : (ofBlock block).toBytes = Block.toBytes block := by
  have hsize : (ofBlock block).size = block.size := size_overwrite _ _ _
  apply List.ext_getElem
  · rw [length_toBytes, hsize]
    rfl
  · intro i hlt hlt'
    rw [length_toBytes, hsize] at hlt
    have hinside : 0 ≤ i ∧ i < min (0 + block.size) (zeros block.size).size := by
      rw [Nat.zero_add]
      exact ⟨Nat.zero_le i, Nat.lt_min.2 ⟨hlt, hlt⟩⟩
    rw [getElem_toBytes, ofBlock, byte_overwrite, if_pos hinside, Nat.sub_zero,
      Array.getD_eq_getD_getElem?, ← Array.getElem?_toList]
    change (Block.toBytes block)[i]?.getD 0 = _
    rw [List.getElem?_eq_getElem hlt']
    rfl

/-- A memory made of bytes holds these bytes. -/
theorem toBytes_ofBytes (bytes : Bytes) : (ofBlock (Block.ofBytes bytes)).toBytes = bytes :=
  toBytes_ofBlock _

/-! ## Memory filled with a byte -/

/-- The pages of filled memory: whole ones, and what is left. -/
def filledPages (n : Nat) (b : UInt8) : List (Nat × Block) :=
  (List.range (n / pageSize)).map (fun index => (index, Block.filled pageSize b)) ++
    [(n / pageSize, Block.filled (n % pageSize) b)]

/-- No page is there twice. -/
theorem pairwise_filledPages (n : Nat) (b : UInt8) :
    (filledPages n b).Pairwise fun page other => ¬ compare page.1 other.1 = .eq := by
  have hne (i j : Nat) : ¬ compare i j = .eq ↔ i ≠ j := not_congr Std.compare_eq_iff_eq
  simp only [hne]
  refine List.pairwise_append.2 ⟨?_, List.pairwise_singleton _ _, ?_⟩
  · refine List.pairwise_map.2 (List.pairwise_lt_range.imp ?_)
    exact fun hlt => Nat.ne_of_lt hlt
  · intro page hpage other hother
    obtain ⟨index, hindex, rfl⟩ := List.mem_map.1 hpage
    rw [List.mem_singleton.1 hother]
    exact Nat.ne_of_lt (List.mem_range.1 hindex)

/-- **Filled memory holds its byte at every address.** -/
theorem byte_filled {n address : Nat} (b : UInt8) (h : address < n) :
    (filled n b).byte address = b := by
  rw [filled]
  split
  · next hzero => rw [byte_zeros, hzero]
  have hpage : ∃ size, address % pageSize < size ∧
      (address / pageSize, Block.filled size b) ∈ filledPages n b := by
    have hpos : 0 < pageSize := by decide
    by_cases hwhole : address / pageSize < n / pageSize
    · refine ⟨pageSize, Nat.mod_lt _ hpos, List.mem_append_left _ ?_⟩
      exact List.mem_map.2 ⟨_, List.mem_range.2 hwhole, rfl⟩
    · have hlast : address / pageSize = n / pageSize :=
        Nat.le_antisymm (Nat.div_le_div_right (Nat.le_of_lt h)) (Nat.not_lt.1 hwhole)
      have hdivide := Nat.div_add_mod address pageSize
      have hdivide' := Nat.div_add_mod n pageSize
      rw [hlast] at hdivide
      refine ⟨n % pageSize, by omega, List.mem_append_right _ ?_⟩
      rw [hlast]
      exact List.mem_singleton_self _
  obtain ⟨size, hsize, hmem⟩ := hpage
  let m : Memory := { size := n, pages := Std.TreeMap.ofList (filledPages n b) }
  have hfound : m.page (address / pageSize) = Block.filled size b :=
    Std.TreeMap.getD_ofList_of_mem Std.ReflCmp.compare_self (pairwise_filledPages n b) hmem
  change (m.page (address / pageSize)).data.getD (address % pageSize) 0 = b
  rw [hfound, Block.data_filled, Array.getD_eq_getD_getElem?, Array.getElem?_replicate,
    if_pos hsize]
  rfl

theorem size_filled (n : Nat) (b : UInt8) : (filled n b).size = n := by
  rw [filled]
  split <;> rfl

end AvcDriver.Memory
