import AvcDriver.Memory.Block
import Std.Data.TreeMap.AdditionalOperations

/-!
# Memory

A memory holds a byte at each address below its size, zero until something is written
there. It is kept in pages, and a page is made when it is first written to, so that a
memory takes no more room than what was written to it, however large it is.

`byte` is what a memory holds at an address. `slice` reads a block, and `overwrite`
writes one, dropping what would land past the end.

Several parties may use one memory. They name it by a `MemoryRef` into a
`MemoryStore`, and each sees what the others wrote.
-/

namespace AvcDriver

/-- Bytes at the addresses below `size`. -/
structure Memory where
  size : Nat
  /-- the pages that were written to, each as far as it was -/
  pages : Std.TreeMap Nat Block := {}

namespace Memory

/-- Addresses in a page. -/
def pageSize : Nat := 4096

/-- Memory of `size` zeros. -/
def zeros (size : Nat) : Memory := { size }

/-- What was written to page number `index`. -/
def page (m : Memory) (index : Nat) : Block := m.pages.getD index .empty

/-- The byte at an address. -/
def byte (m : Memory) (address : Nat) : UInt8 :=
  (m.page (address / pageSize)).data.getD (address % pageSize) 0

/-- The numbers of the pages with addresses from `start` to before `stop`. -/
def pagesBetween (start stop : Nat) : List Nat :=
  if stop ≤ start then []
  else List.range' (start / pageSize) ((stop - 1) / pageSize + 1 - start / pageSize)

/-! ## Reading -/

/-- Copy what page number `index` holds of the addresses that a block stands for, the
first of which is `start`. -/
def readPage (m : Memory) (start : Nat) (block : Block) (index : Nat) : Block :=
  let first := index * pageSize
  let low := max start first
  let high := min (start + block.size) (first + pageSize)
  (m.page index).copySlice (low - first) block (low - start) (high - low)

/-- The `n` bytes from `start` on. -/
def slice (m : Memory) (start n : Nat) : Block :=
  (pagesBetween start (start + n)).foldl (m.readPage start) (Block.zeros n)

/-- All bytes of a memory. -/
def toBlock (m : Memory) : Block := m.slice 0 m.size

/-- All bytes of a memory. -/
def toBytes (m : Memory) : Bytes := Block.toBytes m.toBlock

/-- Whether all bytes of a memory are zero. -/
def isZero (m : Memory) : Bool := m.pages.toList.all fun entry => Block.isZero entry.2

/-! ## Writing -/

/-- Write what of a block, from the address `start` on, comes to lie before `stop` and
in page number `index`. -/
def writePage (block : Block) (start stop : Nat) (m : Memory) (index : Nat) : Memory :=
  let first := index * pageSize
  let low := max start first
  let high := min stop (first + pageSize)
  let pages := m.pages.alter index fun page? =>
    some (Block.put block (low - start) (page?.getD .empty) (low - first) (high - low))
  { m with pages }

/-- The memory with a block written from `start` on. Bytes that would land past the end
are dropped. -/
def overwrite (m : Memory) (start : Nat) (block : Block) : Memory :=
  let stop := min (start + block.size) m.size
  (pagesBetween start stop).foldl (writePage block start stop) m

/-- The memory that holds exactly a block. -/
def ofBlock (block : Block) : Memory := (zeros block.size).overwrite 0 block

/-- Memory of `n` bytes, all equal to `b`. Its full pages are one block. -/
def filled (n : Nat) (b : UInt8) : Memory :=
  if b = 0 then zeros n
  else
    let full := Block.filled pageSize b
    let rest := Block.filled (n % pageSize) b
    let numbered := (List.range (n / pageSize)).map fun index => (index, full)
    { size := n, pages := Std.TreeMap.ofList (numbered ++ [(n / pageSize, rest)]) }

/-- The target with `n` bytes of the source, those from `start` on, written from
`offset` on. -/
def copy (source : Memory) (start : Nat) (target : Memory) (offset n : Nat) : Memory :=
  target.overwrite offset (source.slice start n)

/-- The memory cut or extended to `n` bytes, new bytes being zero. -/
def resized (m : Memory) (n : Nat) : Memory :=
  if m.size ≤ n then { m with size := n }
  else
    { size := n
      pages := m.pages.filterMap fun index page =>
        if index * pageSize < n then some (page.extract 0 (n - index * pageSize)) else none }

end Memory

/-! ## Stores -/

/-- Which memory of a store is meant. -/
structure MemoryRef where
  index : Nat
  deriving DecidableEq, Repr

/-- Every memory that was ever made, at the place its reference names. -/
abbrev MemoryStore := Array Memory

namespace MemoryStore

/-- Put a new memory into a store. -/
def add (m : Memory) : StateM MemoryStore MemoryRef :=
  modifyGet fun store => (⟨store.size⟩, store.push m)

/-- The memory that a reference names. -/
def find? (store : MemoryStore) (ref : MemoryRef) : Option Memory := store[ref.index]?

/-- Change the memory that a reference names. -/
def change (store : MemoryStore) (ref : MemoryRef) (f : Memory → Memory) : MemoryStore :=
  store.modify ref.index f

end MemoryStore

end AvcDriver
