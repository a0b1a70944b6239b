import AvcDriver.Image.Layout
import AvcDriver.Memory.Mapping

/-!
# Surface attributes

A client that brings its own memory describes it by a descriptor: buffer objects,
and one layer of planes in them. Descriptor, memory type and further wishes are
attributes of a surface. Memory files that a descriptor asks for are made by `opened`,
after which the attributes name those files wherever they are used.
-/

namespace AvcDriver.Surface

/-- A buffer object of a descriptor. -/
structure DescribedObject where
  source : Memory.Source
  size : UInt32
  modifier : UInt64
  deriving DecidableEq, Repr

/-- The object with its memory file made. -/
def DescribedObject.opened (o : DescribedObject) : StateM MemoryStore DescribedObject := do
  pure { o with source := ← o.source.opened }

/-- A plane of a descriptor. -/
structure DescribedPlane where
  object : UInt32
  offset : UInt32
  pitch : UInt32
  deriving DecidableEq, Repr

/-- A layer of a descriptor. -/
structure Layer where
  format : UInt32
  planes : List DescribedPlane
  deriving DecidableEq, Repr

/-- A client's description of a surface's memory. -/
structure Descriptor where
  fourcc : UInt32
  width : UInt32
  height : UInt32
  objects : List DescribedObject
  layers : List Layer
  deriving DecidableEq, Repr

/-- One object with an NV12 picture in it, the chroma plane right behind the luma
plane, in 32-bit words. -/
def Descriptor.nv12 (source : Memory.Source) (width height : UInt32) : Except Fault Descriptor := do
  let pitch ← checkedWord 32 (roundUpEven width.toNat)
  let lumaSize ← checkedWord 32 (pitch * height.toNat)
  let chromaSize ← checkedWord 32 (pitch * halfUp height.toNat)
  let size ← checkedWord 32 (lumaSize + chromaSize)
  let planeAt (offset : Nat) : DescribedPlane :=
    { object := 0, offset := UInt32.ofNat offset, pitch := UInt32.ofNat pitch }
  pure {
    fourcc := fourccNv12
    width
    height
    objects := [{ source, size := UInt32.ofNat size, modifier := 0 }]
    layers := [{ format := fourccNv12, planes := [planeAt 0, planeAt lumaSize] }] }

/-- The memory type of descriptors. -/
def descriptorMemoryType : UInt32 := 0x40000000

/-- An attribute of a surface. -/
inductive Attribute where
  | pixelFormat (fourcc : UInt32)
  | minWidth (value : UInt32)
  | maxWidth (value : UInt32)
  | minHeight (value : UInt32)
  | maxHeight (value : UInt32)
  | memoryType (kind : UInt32)
  | descriptor (value : Descriptor)
  | usageHint (value : UInt32)
  deriving DecidableEq, Repr

/-- The number of an attribute's kind. -/
def Attribute.kind : Attribute → Nat
  | pixelFormat _ => 1
  | minWidth _ => 2
  | maxWidth _ => 3
  | minHeight _ => 4
  | maxHeight _ => 5
  | memoryType _ => 6
  | descriptor _ => 7
  | usageHint _ => 8

/-- The attributes that import a descriptor. -/
def Descriptor.attributes (d : Descriptor) : List Attribute :=
  [.memoryType descriptorMemoryType, .descriptor d]

/-- The attribute with the memory files of its descriptor made. -/
def Attribute.opened : Attribute → StateM MemoryStore Attribute
  | descriptor d => do pure (descriptor { d with objects := ← d.objects.mapM (·.opened) })
  | other => pure other

/-- What surfaces can be made with. -/
def supportedAttributes : List Attribute :=
  [.pixelFormat fourccNv12, .pixelFormat fourccYv12, .maxWidth maxSurfaceSide,
    .maxHeight maxSurfaceSide]

end AvcDriver.Surface
