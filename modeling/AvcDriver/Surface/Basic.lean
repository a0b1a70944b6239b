import AvcDriver.Engine.Picture
import AvcDriver.Memory.Mapper
import AvcDriver.Surface.Import

/-!
# Surfaces

A surface is what a picture is decoded into. One made with attributes is imported:
its pixels lie in mapped memory, which is in a store. One made without is a name
only, into which writing does nothing.

`write` puts a decoded picture into a surface, as much of it as both have;
`download` copies the top left of a surface into the memory of an image.
-/

namespace AvcDriver

/-- A surface. -/
structure Surface where
  id : Nat
  /-- the format it was asked for -/
  format : UInt32
  /-- the code of its pixels, zero without memory -/
  fourcc : UInt32
  width : UInt32
  height : UInt32
  attributes : List Surface.Attribute
  mapping : Option Memory.Mapping

namespace Surface

/-- A surface with the memory its attributes describe. `earlier` imports were made
before; a surface without attributes makes none. -/
def make (mapper : Memory.Mapper) (earlier : Nat) (id : Nat) (format width height : UInt32)
    (attributes : List Attribute) (store : MemoryStore) :
    Except (Failure DriverError) (Surface × MemoryStore) :=
  if attributes.isEmpty then
    .ok ({ id, format, fourcc := 0, width, height, attributes, mapping := none }, store)
  else do
    let (fourcc, request) ← (importRequest format width height attributes).mapError .rejected
    let (mapping, store) ← (mapper earlier request store).mapError (Failure.map .mapping)
    pure ({ id, format, fourcc, width, height, attributes, mapping := some mapping }, store)

/-- Whether making a surface asks the mapper for an import. -/
def asksMapper (format width height : UInt32) (attributes : List Attribute) : Bool :=
  !attributes.isEmpty && (importRequest format width height attributes).isOk

/-- Whether a surface has memory. -/
def isMapped (s : Surface) : Bool := s.mapping.isSome

/-- Bytes of one luma sample. -/
def sampleSize (s : Surface) : Nat := if s.fourcc = fourccP010 then 2 else 1

/-- Copy a decoded picture into a mapping: as many luma columns and rows as both
have, and the chroma that goes with them. -/
def writeMapping (s : Surface) (mapping : Memory.Mapping) (store : MemoryStore)
    (picture : Engine.Picture) : Except Fault MemoryStore := do
  let width := min picture.width.toNat s.width.toNat
  let height := min picture.height.toNat s.height.toNat
  let store ← mapping.writePlane store 0 picture.luma picture.lumaStride
    (width * s.sampleSize) height
  mapping.writePlane store 1 picture.chroma picture.chromaStride
    (roundUpEven width * s.sampleSize) (halfUp height)

/-- Copy a decoded picture into a surface. The answer says whether the surface has
memory; without, nothing changes. -/
def write (s : Surface) (store : MemoryStore) (picture : Engine.Picture) :
    Except (Failure Memory.Error) (Bool × MemoryStore) :=
  match s.mapping with
  | none => .ok (false, store)
  | some mapping => do
    mapping.beginAccess.mapError .rejected
    let store ← (s.writeMapping mapping store picture).mapError .faulted
    pure (true, store)

/-- Copy the top left of a surface into a memory laid out as an image. The answer
says whether the surface has memory. The memory is as it was left when the copy
ended, however it ended. -/
def download (s : Surface) (store : MemoryStore) (width height : UInt32)
    (layout : Image.Layout) (target : Memory) : Except (Failure Memory.Error) Bool × Memory :=
  match s.mapping with
  | none => (.ok false, target)
  | some mapping =>
    match mapping.beginAccess with
    | .error error => (.error (.rejected error), target)
    | .ok () =>
      let width := width.toNat
      let height := height.toNat
      match mapping.downloadPlane store 0 target layout.luma.offset layout.luma.stride
          width height with
      | .error cause => (.error (.faulted cause), target)
      | .ok target =>
        match mapping.downloadPlane store 1 target layout.chroma.offset layout.chroma.stride
            (roundUpEven width) (halfUp height) with
        | .error cause => (.error (.faulted cause), target)
        | .ok target => (.ok true, target)

/-- The text that shows a surface. -/
def describe (s : Surface) : String :=
  let id := s.id
  let format := s.format
  let code := s.fourcc
  let width := s.width
  let height := s.height
  let mapped := if s.isMapped then "true" else "false"
  s!"Surface \x7b id: {id}, rt_format: {format}, fourcc: {code}, width: {width}, " ++
    s!"height: {height}, mapped: {mapped} \x7d"

end Surface

/-- Which surface of a store is meant. It names the same surface for as long as
anything holds it, whatever happens to the surface's handle. -/
structure SurfaceRef where
  index : Nat
  deriving DecidableEq, Repr

/-- Every surface that was ever made, at the place its reference names. -/
abbrev SurfaceStore := Array Surface

end AvcDriver
