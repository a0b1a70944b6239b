import AvcDriver.Memory.Error
import AvcDriver.Memory.Plane

/-!
# Mapped buffer objects

A surface that lives in memory of another device is imported as a list of buffer
objects and the planes in them. A `Mapping` is what an import yields: a region of
memory for each object, and planes that lie inside their regions. The memory itself is
in a store. Mappings of one memory file share it, so what is written through one of
them is read through the others.

The processor may touch a mapping only between a begin and an end call on every
region. `Mapping.access` lists those calls for one access and says whether it may
go ahead.
-/

namespace AvcDriver.Memory

/-- Where a plane lies in the objects of an import. -/
structure Plane where
  object : Nat
  offset : Nat
  stride : Nat
  rows : Nat
  deriving DecidableEq, Repr

/-- The end of a plane, from the start of its object. -/
def Plane.stop (plane : Plane) : Except Fault Nat := do
  let size ← checkedWord 64 (plane.stride * plane.rows)
  checkedWord 64 (plane.offset + size)

/-- What a client names as the memory of an object. -/
inductive Source where
  /-- a descriptor number -/
  | descriptor (number : Int)
  /-- a memory file of so many zero bytes, still to be made -/
  | newFile (size : Nat)
  /-- a memory file that is there -/
  | file (memory : MemoryRef)
  deriving DecidableEq, Repr

/-- The source with its memory file made. -/
def Source.opened : Source → StateM MemoryStore Source
  | newFile size => file <$> MemoryStore.add (zeros size)
  | source => pure source

/-- A buffer object to import. -/
structure Object where
  source : Source
  size : UInt32
  deriving DecidableEq, Repr

/-- A request to map the memory of a surface. -/
structure Import where
  objects : List Object
  planes : List Plane
  deriving DecidableEq, Repr

/-! ## Mappings -/

/-- The first `size` bytes of a memory, and how its device answers to the begin and the
end of an access. -/
structure Region where
  memory : MemoryRef
  size : Nat
  beginError : Option Error := none
  endError : Option Error := none
  deriving DecidableEq, Repr

/-- Where a plane lies in its memory. -/
structure Place where
  memory : MemoryRef
  window : Window
  rows : Nat
  deriving DecidableEq, Repr

/-- The memory at a place. -/
def Place.contents (place : Place) (store : MemoryStore) : Except Fault Memory :=
  match store.find? place.memory with
  | some memory => .ok memory
  | none => .error .outOfBounds

/-- Mapped regions and the planes in them. -/
structure Mapping where
  regions : Array Region
  planes : List Plane
  deriving DecidableEq, Repr

namespace Mapping

/-- Check that plane number `index` lies inside its region. -/
def checkPlane (regions : Array Region) (index : Nat) (plane : Plane) :
    Except (Failure Error) Unit :=
  match regions[plane.object]? with
  | none => .error (.rejected (.missingObject index plane.object))
  | some region =>
    match plane.stop with
    | .error cause => .error (.faulted cause)
    | .ok stop =>
      if stop ≤ region.size then .ok ()
      else .error (.rejected (.planePastEnd index stop region.size))

/-- Check planes in order, the first of them being number `index`. -/
def checkPlanes (regions : Array Region) (index : Nat) : List Plane → Except (Failure Error) Unit
  | [] => .ok ()
  | plane :: rest => do
    checkPlane regions index plane
    checkPlanes regions (index + 1) rest

/-- A mapping of regions in which all planes lie. -/
def make (regions : Array Region) (planes : List Plane) : Except (Failure Error) Mapping := do
  checkPlanes regions 0 planes
  pure { regions, planes }

/-- Plane number `index`. -/
def plane (m : Mapping) (index : Nat) : Except Fault Plane :=
  match m.planes[index]? with
  | some plane => .ok plane
  | none => .error .outOfBounds

/-- Where plane number `index` lies. -/
def place (m : Mapping) (index : Nat) : Except Fault Place := do
  let plane ← m.plane index
  match m.regions[plane.object]? with
  | none => throw .outOfBounds
  | some region =>
    let stop ← plane.stop
    if plane.offset ≤ stop ∧ stop ≤ region.size then
      pure {
        memory := region.memory
        window := { start := plane.offset, size := stop - plane.offset, stride := plane.stride }
        rows := plane.rows }
    else throw .outOfBounds

/-! ## Access -/

/-- A call on a region around an access. -/
inductive AccessCall where
  | began (region : Nat)
  | beginFailed (region : Nat) (error : Error)
  | ended (region : Nat)
  | endFailed (region : Nat) (error : Error)
  deriving DecidableEq, Repr

/-- Begin an access to regions in order, the first being number `index`. It stops at
the first that refuses. -/
def beginCalls (index : Nat) : List Region → List AccessCall × Option Error
  | [] => ([], none)
  | region :: rest =>
    match region.beginError with
    | some error => ([.beginFailed index error], some error)
    | none =>
      let (calls, refusal) := beginCalls (index + 1) rest
      (.began index :: calls, refusal)

/-- End an access to regions in order. A region that refuses is passed over. -/
def endCalls (index : Nat) : List Region → List AccessCall
  | [] => []
  | region :: rest =>
    let call := match region.endError with
      | some error => .endFailed index error
      | none => .ended index
    call :: endCalls (index + 1) rest

/-- All calls that one access makes, and what refused it. Where it begins, it is
ended on every region when it is over. -/
def access (m : Mapping) : List AccessCall × Option Error :=
  match beginCalls 0 m.regions.toList with
  | (calls, some error) => (calls, some error)
  | (calls, none) => (calls ++ endCalls 0 m.regions.toList, none)

/-- Whether an access may go ahead. -/
def beginAccess (m : Mapping) : Except Error Unit :=
  match m.access.2 with
  | some error => .error error
  | none => .ok ()

/-! ## Planes under access -/

/-- The bytes of plane number `index`. -/
def readPlane (m : Mapping) (store : MemoryStore) (index : Nat) : Except Fault Block := do
  let place ← m.place index
  let memory ← place.contents store
  pure (memory.slice place.window.start place.window.size)

/-- Copy rows of `source` onto plane number `index`. No more rows are copied than
the plane was declared with. -/
def writePlane (m : Mapping) (store : MemoryStore) (index : Nat) (source : Memory)
    (stride width rows : Nat) : Except Fault MemoryStore := do
  let place ← m.place index
  let memory ← place.contents store
  let memory ← copyPlane source (source.whole stride) memory place.window width
    (min rows place.rows)
  pure (store.change place.memory fun _ => memory)

/-- Copy rows of plane number `index` into a memory, from `offset` on. -/
def downloadPlane (m : Mapping) (store : MemoryStore) (index : Nat) (target : Memory)
    (offset stride width rows : Nat) : Except Fault Memory := do
  let place ← m.place index
  let memory ← place.contents store
  if target.size < offset then throw .outOfBounds
  let goal : Window := { start := offset, size := target.size - offset, stride }
  copyPlane memory place.window target goal width rows

/-- Replace bytes of plane number `index` from `offset` on. Bytes past the plane are
dropped. -/
def patchPlane (m : Mapping) (store : MemoryStore) (index offset : Nat) (block : Block) :
    Except Fault MemoryStore := do
  let place ← m.place index
  let kept := block.extract 0 (place.window.size - offset)
  pure (store.change place.memory fun memory =>
    memory.overwrite (place.window.start + offset) kept)

end Mapping

end AvcDriver.Memory
