import AvcDriver.Memory.Mapping

/-!
# Mappers

A mapper turns imports into mappings. It is a function of how many imports were
asked of it before, so that any sequence of answers is the behaviour of some
mapper.

`heap` backs every object with fresh zeroed memory of its declared size. `shared`
maps the memory that the client names: a memory file, of which it maps as much as
the object's size and planes call for. The others behave like `heap` but refuse
imports or accesses, for use where refusals are to be provoked.
-/

namespace AvcDriver.Memory

/-- How imports are answered, given the number of imports so far. -/
abbrev Mapper := Nat → Import → MemoryStore → Except (Failure Error) (Mapping × MemoryStore)

namespace Mapper

/-- A mapping of fresh zeroed regions of the declared sizes. -/
def fresh (beginError endError : Option Error) (request : Import) (store : MemoryStore) :
    Except (Failure Error) (Mapping × MemoryStore) := do
  let makeRegion (object : Object) : StateM MemoryStore Region := do
    let size := object.size.toNat
    pure { memory := ← MemoryStore.add (zeros size), size, beginError, endError }
  let (regions, store) := (request.objects.mapM makeRegion).run store
  pure (← Mapping.make regions.toArray request.planes, store)

/-- Fresh zeroed memory for every object, whatever memory the client names. -/
def heap : Mapper := fun _ => fresh none none

/-- Refuses every import. -/
def refusing : Mapper := fun _ _ _ => .error (.rejected .importRefused)

/-- Like `heap`, with memory that refuses the start of every access. -/
def heapRefusingBegin : Mapper := fun _ => fresh (some .beginRefused) none

/-- Like `heap`, with memory that refuses the end of every access. -/
def heapRefusingEnd : Mapper := fun _ => fresh none (some .endRefused)

/-- Like `heap` for the first `limit` imports, after which it refuses. -/
def heapUpTo (limit : Nat) : Mapper := fun earlier request store =>
  if earlier < limit then heap earlier request store else refusing earlier request store

/-! ## Memory named by the client -/

/-- The furthest end of the planes in an object, at least `reach`. -/
def reachOf (object : Nat) (reach : Nat) : List Plane → Except Fault Nat
  | [] => .ok reach
  | plane :: rest =>
    if plane.object = object then do
      let stop ← plane.stop
      reachOf object (max reach stop) rest
    else reachOf object reach rest

/-- The bytes that an address space has room for. -/
def addressSpace : Nat := 1 <<< 47

/-- Check that `needed` bytes of a memory file of `size` bytes can be mapped. -/
def checkMappable (size needed : Nat) : Except Error Unit :=
  if size < needed then .error (.objectTooSmall size needed)
  else if needed = 0 then .error (.system .invalidArgument)
  else if addressSpace ≤ needed then .error (.system .outOfMemory)
  else .ok ()

/-- Map `needed` bytes of what the client named. Only memory files can be mapped. -/
def mapSource (source : Source) (needed : Nat) (store : MemoryStore) :
    Except Error (Region × MemoryStore) :=
  match source.opened.run store with
  | (.file memory, store) =>
    match store.find? memory with
    | none => .error (.system .badDescriptor)
    | some file => do
      checkMappable file.size needed
      pure ({ memory, size := needed }, store)
  | _ => .error (.system .badDescriptor)

/-- Map objects in order, the first being number `index`. -/
def mapObjects (planes : List Plane) (index : Nat) (store : MemoryStore) :
    List Object → Except (Failure Error) (List Region × MemoryStore)
  | [] => .ok ([], store)
  | object :: rest => do
    let needed ← (reachOf index object.size.toNat planes).mapError .faulted
    let (region, store) ← (mapSource object.source needed store).mapError .rejected
    let (regions, store) ← mapObjects planes (index + 1) store rest
    pure (region :: regions, store)

/-- Maps the memory that the client names. -/
def shared : Mapper := fun _ request store => do
  let (regions, store) ← mapObjects request.planes 0 store request.objects
  pure (← Mapping.make regions.toArray request.planes, store)

end Mapper

end AvcDriver.Memory
