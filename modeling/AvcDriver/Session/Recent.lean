import AvcDriver.Fault

/-!
# Recent entries

A map of limited capacity that forgets the entry put longest ago. Putting a key
again makes its entry the most recent one; looking an entry up changes nothing.

The map is kept beside a queue of its keys. `put` and `evict` change both, so that
the queue says which entry goes next.
-/

namespace AvcDriver.Session

/-- The most recently put entries. -/
structure Recent (κ β : Type) where
  capacity : Nat
  /-- the map; where in it an entry is says nothing -/
  entries : List (κ × β) := []
  /-- the keys, the one put longest ago first -/
  order : List κ := []
  deriving Repr

namespace Recent

variable {κ β : Type} [DecidableEq κ]

/-- The most entries there can be room for. A table for `n` entries has a power of two
of slots, at least `8 * n / 7` of them, and more than `2 ^ 57` are too many. -/
def maxCapacity : Nat := 7 <<< 54

/-- An empty map. It has to have room for one entry, and its table has to be possible. -/
def make (capacity : Nat) : Except Fault (Recent κ β) :=
  if capacity = 0 then .error .zeroCapacity
  else if maxCapacity < capacity then .error .tableTooLarge
  else .ok { capacity }

/-- The value of a key. -/
def peek (r : Recent κ β) (key : κ) : Option β := r.entries.lookup key

/-- Whether a key is remembered. -/
def contains (r : Recent κ β) (key : κ) : Bool := (r.peek key).isSome

/-- How many entries are remembered. -/
def size (r : Recent κ β) : Nat := r.entries.length

/-- A map without the entry of a key. -/
def remove (key : κ) (entries : List (κ × β)) : List (κ × β) := entries.filter (·.1 ≠ key)

/-- Take keys from the front of a queue, and their entries from the map, until no more
than `capacity` keys are left. -/
def evict (capacity : Nat) (entries : List (κ × β)) : List κ → List (κ × β) × List κ
  | [] => (entries, [])
  | oldest :: rest =>
    if capacity < (oldest :: rest).length then evict capacity (remove oldest entries) rest
    else (entries, oldest :: rest)

/-- Put an entry, forgetting the oldest ones beyond the capacity. The key of an entry
that is replaced gives up its place in the queue. -/
def put (r : Recent κ β) (key : κ) (value : β) : Recent κ β :=
  let order := if r.contains key then r.order.erase key else r.order
  let (entries, order) := evict r.capacity ((key, value) :: remove key r.entries) (order ++ [key])
  { r with entries, order }

end Recent

end AvcDriver.Session
