/-!
# Bit fields packed into a word

Fields of a few bits share a word, first field in the lowest bits. A `BitField`
lays a value out in a fixed number of bits; `pair` puts one field above another.
Packing keeps only the bits that a field has room for, so no value can disturb
its neighbours.
-/

namespace AvcDriver.Record

/-- A layout of values of type `α` in the low bits of a number. -/
structure BitField (α : Type) where
  /-- how many bits a value takes -/
  width : Nat
  /-- the number a value becomes, below `2 ^ width` -/
  pack : α → Nat
  /-- the value in the `width` low bits of a number -/
  unpack : Nat → α

namespace BitField

variable {α β : Type}

/-- An unsigned number of at most eight bits. -/
def bits (width : Nat) : BitField UInt8 where
  width := width
  pack value := value.toNat % (1 <<< width)
  unpack word := UInt8.ofNat (word % (1 <<< width))

/-- One bit. -/
def flag : BitField Bool where
  width := 1
  pack := Bool.toNat
  unpack word := word % 2 == 1

/-- One field above another. -/
def pair (a : BitField α) (b : BitField β) : BitField (α × β) where
  width := a.width + b.width
  pack value := a.pack value.1 + (b.pack value.2 <<< a.width)
  unpack word := (a.unpack word, b.unpack (word >>> a.width))

/-- The same layout for another type. -/
def via (f : BitField α) (make : α → β) (parts : β → α) : BitField β where
  width := f.width
  pack value := f.pack (parts value)
  unpack word := make (f.unpack word)

end BitField

end AvcDriver.Record
