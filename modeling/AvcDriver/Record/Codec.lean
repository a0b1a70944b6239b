import AvcDriver.Bytes

/-!
# Fixed-width record layouts

A `Codec` lays a value out in a fixed number of bytes. Words are little-endian;
`pair` puts one field behind another, `times` repeats a field, `pad` leaves a
gap that is written as zeros and skipped when read, and `via` renames a tuple of
fields into a structure. A record's layout is then one expression, read from top
to bottom, and what holds of each part holds of the whole: `decode` takes only
the first `width` bytes into account, `encode` writes exactly `width` of them.
-/

namespace AvcDriver.Record

/-- The `count` low-order bytes of a number, least significant first. -/
def littleEndian (count value : Nat) : Bytes :=
  (List.range count).map fun i => UInt8.ofNat (value >>> (8 * i))

/-- The number whose bytes are given, least significant first. -/
def ofLittleEndian : Bytes → Nat
  | [] => 0
  | byte :: rest => byte.toNat + 256 * ofLittleEndian rest

/-- A layout of values of type `α`. -/
structure Codec (α : Type) where
  /-- how many bytes a value takes -/
  width : Nat
  /-- the bytes of a value -/
  encode : α → Bytes
  /-- the value at the front of a byte string at least `width` bytes long -/
  decode : Bytes → α

namespace Codec

variable {α β : Type}

/-- A little-endian number of `count` bytes. -/
def word (count : Nat) : Codec Nat where
  width := count
  encode := littleEndian count
  decode bytes := ofLittleEndian (bytes.take count)

/-- The same layout for another type. -/
def via (c : Codec α) (make : α → β) (parts : β → α) : Codec β where
  width := c.width
  encode value := c.encode (parts value)
  decode bytes := make (c.decode bytes)

/-- One field behind another. -/
def pair (a : Codec α) (b : Codec β) : Codec (α × β) where
  width := a.width + b.width
  encode value := a.encode value.1 ++ b.encode value.2
  decode bytes := (a.decode bytes, b.decode (bytes.drop a.width))

/-- The same field `n` times. -/
def times (n : Nat) (c : Codec α) : Codec (Vector α n) where
  width := n * c.width
  encode values := values.toList.flatMap c.encode
  decode bytes := Vector.ofFn fun i => c.decode (bytes.drop (i.val * c.width))

/-- A gap of `n` bytes. -/
def pad (n : Nat) : Codec Unit where
  width := n
  encode _ := List.replicate n 0
  decode _ := ()

/-- An unsigned byte. -/
def byte : Codec UInt8 := (word 1).via UInt8.ofNat UInt8.toNat

/-- An unsigned 16-bit word. -/
def word16 : Codec UInt16 := (word 2).via UInt16.ofNat UInt16.toNat

/-- An unsigned 32-bit word. -/
def word32 : Codec UInt32 := (word 4).via UInt32.ofNat UInt32.toNat

/-- A signed byte in two's complement. -/
def int8 : Codec Int8 := byte.via UInt8.toInt8 Int8.toUInt8

/-- A signed 32-bit word in two's complement. -/
def int32 : Codec Int32 := word32.via UInt32.toInt32 Int32.toUInt32

/-- A byte that is read as true unless it is zero, and written as 0 or 1. -/
def flag : Codec Bool := byte.via (· != 0) fun value => if value then 1 else 0

end Codec

end AvcDriver.Record
