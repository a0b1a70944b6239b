import AvcDriver.Bytes

/-!
# Blocks of bytes

A block is a run of bytes that is handed over at once: what a client fills a buffer
with, or what is read out of a memory. `ofBytes` and `toBytes` pass between blocks and
byte strings, `filled n b` is `n` bytes `b`, and `put` replaces bytes of a block,
extending it with zeros as far as that takes.
-/

namespace AvcDriver

/-- A run of bytes. -/
abbrev Block := ByteArray

namespace Block

/-- The block of the given bytes. -/
def ofBytes (bytes : Bytes) : Block := ⟨bytes.toArray⟩

/-- The bytes of a block. -/
def toBytes (block : Block) : Bytes := block.data.toList

/-- A block of `n` bytes, all equal to `b`. It is made by doubling, so that a large
block takes few steps. -/
def filled (n : Nat) (b : UInt8) : Block :=
  if n = 0 then ByteArray.empty
  else
    let half := filled (n / 2) b
    if n % 2 = 0 then half ++ half else (half ++ half).push b

theorem data_filled (n : Nat) (b : UInt8) : (filled n b).data = Array.replicate n b := by
  fun_induction filled n b with
  | case1 => rfl
  | case2 n _ half _ ih =>
    rw [ByteArray.data_append, ih, Array.replicate_append_replicate]
    congr 1
    omega
  | case3 n _ half _ ih =>
    rw [ByteArray.data_push, ByteArray.data_append, ih, Array.replicate_append_replicate,
      ← Array.replicate_succ]
    congr 1
    omega

/-- A block of `n` zeros. -/
def zeros (n : Nat) : Block := filled n 0

/-- Whether all bytes of a block are zero. -/
def isZero (block : Block) : Bool := block.foldl (fun zero byte => zero && byte == 0) true

/-- The target with `n` bytes of the source, those from `start` on, put at `offset`. -/
def put (source : Block) (start : Nat) (target : Block) (offset n : Nat) : Block :=
  source.copySlice start (target ++ zeros (offset - target.size)) offset n

end Block

end AvcDriver
