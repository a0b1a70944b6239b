import AvcDriver.Fault

/-!
# Handle tables

A client names an object by a small number, its handle. A `Table` holds the live
objects of one kind under their handles, and hands out the lowest free handle to
each new one, so handles of destroyed objects are issued again.

An object is made in two steps. `reserve` sets a handle aside; `commit` puts the
finished object under it, or `release` gives the handle back if nothing came of
the object. Between the two, the table can be used for anything else, also to make
further objects.

The counter `next` is the lowest handle that is neither live nor reserved: `reserve`
moves it on to the next such handle, and giving a handle back moves it down.
-/

namespace AvcDriver.Handle

/-- Live objects of type `α` under their handles. -/
structure Table (α : Type) where
  /-- the live objects and the handles they carry, newest first -/
  live : List (Nat × α) := []
  /-- the handles of objects that are not finished -/
  reserved : List Nat := []
  /-- the handle of the next new object -/
  next : Nat := 0
  deriving Repr

namespace Table

variable {α : Type}

/-- A table without objects. -/
def empty : Table α := {}

/-- The greatest handle, which is never issued. -/
def maxHandle : Nat := UInt32.size - 1

/-! ## Looking up -/

/-- The live object under a handle. -/
def find? (t : Table α) (handle : Nat) : Option α :=
  (t.live.find? (·.1 == handle)).map (·.2)

/-- Whether a handle is live. -/
def contains (t : Table α) (handle : Nat) : Bool := t.live.any (·.1 == handle)

/-- How many objects are live. -/
def size (t : Table α) : Nat := t.live.length

/-- Whether no object is live. -/
def isEmpty (t : Table α) : Bool := t.live.isEmpty

/-- The live objects, newest first. -/
def objects (t : Table α) : List α := t.live.map (·.2)

/-- The handles of the live objects, newest object first. -/
def handles (t : Table α) : List Nat := t.live.map (·.1)

/-- Whether a handle cannot be issued. -/
def isTaken (t : Table α) (handle : Nat) : Bool :=
  t.contains handle || t.reserved.contains handle

/-- The live object under a handle that has to be live. -/
def get (t : Table α) (handle : Nat) : Except Fault α :=
  match t.find? handle with
  | some object => .ok object
  | none => .error (.noLiveObject handle)

/-! ## Making -/

/-- The first of the handles from `handle` on that is not taken, or the last of the
`tries` handles looked at. -/
def firstFree (t : Table α) : Nat → Nat → Nat
  | 0, handle => handle
  | tries + 1, handle => if t.isTaken handle then t.firstFree tries (handle + 1) else handle

/-- The first handle from `handle` on that is not taken. As many tries as handles are
taken are enough to find it. -/
def freeFrom (t : Table α) (handle : Nat) : Nat :=
  t.firstFree (t.size + t.reserved.length) handle

/-- Set the next handle aside. -/
def reserve (t : Table α) : Except Fault (Nat × Table α) :=
  let following := t.freeFrom (t.next + 1)
  if maxHandle < following then .error .handlesExhausted
  else .ok (t.next, { t with reserved := t.next :: t.reserved, next := following })

/-- A reservation taken back: the handle can be issued again. -/
def release (t : Table α) (handle : Nat) : Table α :=
  { t with
    reserved := t.reserved.filter (· != handle)
    next := min handle t.next }

/-- A finished object put under its reserved handle. -/
def commit (t : Table α) (handle : Nat) (object : α) : Table α :=
  { t with
    live := (handle, object) :: t.live
    reserved := t.reserved.filter (· != handle) }

/-- A new object, made from its handle. -/
def create (t : Table α) (make : Nat → α) : Except Fault (Nat × Table α) := do
  let (handle, t) ← t.reserve
  pure (handle, t.commit handle (make handle))

/-! ## Removing -/

/-- Remove an object if it is live and wanted. -/
def removeIf (t : Table α) (handle : Nat) (wanted : α → Bool) : Option (α × Table α) :=
  match t.find? handle with
  | none => none
  | some object =>
    if wanted object then
      some (object, { t with
        live := t.live.eraseP (·.1 == handle)
        next := min handle t.next })
    else none

/-- Remove an object if it is live. -/
def remove (t : Table α) (handle : Nat) : Option (α × Table α) := t.removeIf handle fun _ => true

/-- Remove an object that has to be live. -/
def destroy (t : Table α) (handle : Nat) : Except Fault (α × Table α) :=
  match t.remove handle with
  | some result => .ok result
  | none => .error (.destroyUnknown handle)

/-! ## Changing -/

/-- The table with the object under a handle changed. -/
def modify (t : Table α) (handle : Nat) (change : α → α) : Table α :=
  { t with
    live := t.live.map fun item =>
      if item.1 = handle then (item.1, change item.2) else item }

end Table

end AvcDriver.Handle
