import AvcDriver.Config.Capability
import AvcDriver.Surface.Descriptor

/-!
# Checking an imported surface

`importRequest` turns the attributes of a surface into a request to map its
memory, or says what is wrong with them. The checks are made in a fixed order, so
of several faults the first is reported.
-/

namespace AvcDriver.Surface

open Memory (Import Object Plane)

/-- The most objects a descriptor may have. -/
def maxObjects : Nat := 4

/-- The first attribute whose kind has been seen before. -/
def repeatedKind? (seen : List Nat) : List Attribute → Option Nat
  | [] => none
  | own :: rest =>
    if own.kind ∈ seen then some own.kind else repeatedKind? (own.kind :: seen) rest

/-- The memory type among attributes. -/
def memoryType? (attributes : List Attribute) : Option UInt32 :=
  attributes.findSome? fun
    | .memoryType kind => some kind
    | _ => none

/-- The descriptor among attributes. -/
def descriptor? (attributes : List Attribute) : Option Descriptor :=
  attributes.findSome? fun
    | .descriptor value => some value
    | _ => none

/-- The surface format that pixels of a given code are decoded into. -/
def formatOf? (code : UInt32) : Option UInt32 :=
  if code = fourccNv12 then some Config.formatYuv420
  else if code = fourccP010 then some Config.formatYuv420Ten
  else none

/-- The planes of a layer, with the rows that a picture of this height has in each. -/
def importPlanes (objects : Nat) : List (DescribedPlane × Nat) → Except BadParameter (List Plane)
  | [] => .ok []
  | (plane, rows) :: rest =>
    if objects ≤ plane.object.toNat then .error (.planeObject plane.object)
    else do
      let planes ← importPlanes objects rest
      pure ({
        object := plane.object.toNat
        offset := plane.offset.toNat
        stride := plane.pitch.toNat
        rows } :: planes)

/-- Check the layers of a descriptor and find its planes. -/
def layerPlanes (d : Descriptor) : Except BadParameter (List Plane) :=
  match d.layers with
  | [layer] =>
    if layer.format ≠ d.fourcc then .error (.layerFormat layer.format d.fourcc)
    else if layer.planes.length ≠ planesOfPicture then
      .error (.planeCount layer.planes.length)
    else
      importPlanes d.objects.length
        (layer.planes.zip [d.height.toNat, halfUp d.height.toNat])
  | layers => .error (.layerCount layers.length)

/-- The descriptor among attributes, given with the memory type of descriptors, and
nothing given twice. -/
def describedMemory (attributes : List Attribute) : Except BadParameter Descriptor := do
  if let some kind := repeatedKind? [] attributes then throw (.repeatedAttribute kind)
  match memoryType? attributes with
  | none => throw .memoryTypeMissing
  | some kind =>
    if kind ≠ descriptorMemoryType then throw (.unsupportedMemoryType kind)
  match descriptor? attributes with
  | none => throw .descriptorMissing
  | some described => pure described

/-- Check that a descriptor is about a surface of this size. -/
def checkSize (d : Descriptor) (width height : UInt32) : Except BadParameter Unit := do
  if width = 0 ∨ height = 0 then throw .emptySurface
  if d.width ≠ width ∨ d.height ≠ height then
    throw (.descriptorSize d.width d.height width height)

/-- Check the objects of a descriptor: one to four, all with the same modifier. -/
def checkObjects (d : Descriptor) : Except BadParameter Unit :=
  match d.objects with
  | [] => .error (.objectCount 0)
  | first :: rest =>
    if maxObjects < rest.length + 1 then .error (.objectCount (rest.length + 1))
    else if rest.any (·.modifier ≠ first.modifier) then .error .mixedModifiers
    else .ok ()

/-- The request that a surface's attributes make, and the code of its pixels. -/
def importRequest (format width height : UInt32) (attributes : List Attribute) :
    Except DriverError (UInt32 × Import) := do
  let described ← (describedMemory attributes).mapError .invalidParameter
  (checkSize described width height).mapError .invalidParameter
  match formatOf? described.fourcc with
  | none => throw (.invalidImageFormat described.fourcc)
  | some expected => if format ≠ expected then throw (.unsupportedFormat format)
  (checkObjects described).mapError .invalidParameter
  let planes ← (layerPlanes described).mapError .invalidParameter
  let objects := described.objects.map fun o : DescribedObject =>
    ({ source := o.source, size := o.size } : Object)
  pure (described.fourcc, { objects, planes })

end AvcDriver.Surface
