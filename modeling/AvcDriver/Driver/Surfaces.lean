import AvcDriver.Driver.Basic

/-!
# Requests about surfaces

Surfaces are made and destroyed in groups: all of a group or none. The surfaces of a
group are imported from the same memory.
-/

namespace AvcDriver.Driver

variable {ε : Type}

/-- What surfaces can be made with, for clients that have a configuration. -/
def surfaceAttributes (configHandle : Nat) : DriverM ε (List Surface.Attribute) := do
  let _ ← config configHandle
  pure Surface.supportedAttributes

/-- Whether surfaces of a format can be made. -/
def isSurfaceFormat (format : UInt32) : Bool :=
  format = Config.formatYuv420 ∨ format = Config.formatYuv420Ten

/-- Make one surface. -/
def createSurface (format width height : UInt32) (attributes : List Surface.Attribute) :
    DriverM ε Nat := do
  let d ← get
  let (handle, surfaces) ← Action.ofFaulting d.surfaces.reserve
  if Surface.asksMapper format width height attributes then
    set { d with imports := d.imports + 1 }
  let (surface, memories) ← settle
    (Surface.make d.mapper d.imports handle format width height attributes d.memories)
  modify fun d => { d with
    surfaces := surfaces.commit handle ⟨d.surfaceStore.size⟩
    surfaceStore := d.surfaceStore.push surface
    memories }
  pure handle

/-- Destroy a surface that has to be live. -/
def destroySurface (handle : Nat) : DriverM ε Unit := do
  let (_, surfaces) ← Action.ofFaulting ((← get).surfaces.destroy handle)
  modify fun d => { d with surfaces }

/-- Destroy surfaces that have to be live, one after the other. -/
def destroyEach : List Nat → DriverM ε Unit
  | [] => pure ()
  | handle :: rest => do
    destroySurface handle
    destroyEach rest

/-- Make a surface `count` more times after those under the handles `made`. If one is rejected, all
that were made are destroyed, the oldest first. -/
def createAfter (made : List Nat) (make : DriverM ε Nat) : Nat → DriverM ε (List Nat)
  | 0 => pure made
  | count + 1 => do
    let handle ← undoing make (destroyEach made)
    createAfter (made ++ [handle]) make count

/-- Make a surface `count` times, or not at all. -/
def createEach (make : DriverM ε Nat) (count : Nat) : DriverM ε (List Nat) :=
  createAfter [] make count

/-- Make the memory files that attributes ask for. -/
def openFiles (attributes : List Surface.Attribute) : DriverM ε (List Surface.Attribute) := do
  let d ← get
  let (attributes, memories) := (attributes.mapM Surface.Attribute.opened).run d.memories
  set { d with memories }
  pure attributes

/-- The bytes of `count` handles in a list. -/
def handleListSize (count : Nat) : Nat := 4 * count

/-- Make surfaces that share format, size and attributes. Their handles are answered as
one list, for which room is made first. -/
def createSurfaces (format width height : UInt32) (count : Nat)
    (attributes : List Surface.Attribute) : DriverM ε (List Nat) := do
  demand (isSurfaceFormat format) (.unsupportedFormat format)
  demand (width ≤ maxSurfaceSide ∧ height ≤ maxSurfaceSide)
    (.invalidParameter (.surfaceTooLarge width height))
  Action.ofFaulting (Memory.checkSize (handleListSize count))
  let attributes ← openFiles attributes
  createEach (createSurface format width height attributes) count

/-- The first of some handles under which there is no surface. -/
def unknownSurface? (d : Driver ε) (handles : List Nat) : Option Nat :=
  handles.find? fun handle => !d.surfaces.contains handle

/-- Reject a list of handles with one under which there is no surface. -/
def requireSurfaces (handles : List Nat) : DriverM ε Unit := do
  match (← get).unknownSurface? handles with
  | some bad => Action.reject (.invalidSurface bad)
  | none => pure ()

/-- A table without the objects under some handles. -/
def withoutAll {α : Type} (t : Handle.Table α) (handles : List Nat) : Handle.Table α :=
  handles.foldl (fun t handle => (t.remove handle).elim t (·.2)) t

/-- Destroy surfaces. A handle may be given more than once. -/
def destroySurfaces (handles : List Nat) : DriverM ε Unit := do
  requireSurfaces handles
  modify fun d => { d with surfaces := withoutAll d.surfaces handles }

/-- Wait until a surface is ready, which every live one is, as decoding is done when
its request is answered. -/
def syncSurface (handle : Nat) : DriverM ε Unit := do
  let _ ← surface handle

end AvcDriver.Driver
