import AvcDriver.Context
import AvcDriver.Handle.Table
import AvcDriver.Image.Basic

/-!
# The driver

A driver serves one client. It holds the client's configurations, surfaces,
contexts, buffers and images, each under a handle, and makes engines and memory
mappings by a factory and a mapper that it is given.

Surfaces and buffers are shared: a session goes on using a surface after the client
has destroyed its handle, and a new object may have been given the handle since. So
the tables hold references, and the objects are kept in stores, in the order in
which they were made. The memory that surfaces lie in is in a store of its own, as
several of them may lie in one memory file.

A request is a `DriverM` computation. Handles that come from the client are checked
before anything is done with them; a request that is rejected has changed none of
the client's objects.
-/

namespace AvcDriver

open Engine (Event Factory)

/-- How a driver is set up. -/
structure Driver.Settings where
  mode : Session.Mode := .hardware
  /-- how many render targets each session remembers -/
  capacity : Nat := 128
  engine : Engine.Settings := {}
  /-- where submitted streams are appended to -/
  dump : Session.Dump := .off
  /-- after how many rounds of one submission an engine is given up as stuck -/
  patience : Nat := UInt32.size
  deriving DecidableEq, Repr

/-- A driver whose engines have states `ε`. -/
structure Driver (ε : Type) where
  settings : Driver.Settings
  mapper : Memory.Mapper
  factory : Factory ε
  configs : Handle.Table Config := .empty
  surfaces : Handle.Table SurfaceRef := .empty
  contexts : Handle.Table (Context ε) := .empty
  buffers : Handle.Table BufferRef := .empty
  images : Handle.Table Image := .empty
  surfaceStore : SurfaceStore := #[]
  bufferStore : BufferStore := #[]
  memories : MemoryStore := #[]
  dump : Session.Dump
  /-- how many imports the mapper was asked for -/
  imports : Nat := 0
  /-- how many engines the factory was asked for -/
  engines : Nat := 0
  events : Array Event := #[]

/-- A request to a driver. -/
abbrev DriverM (ε : Type) := Action (Driver ε) DriverError

namespace Driver

variable {ε : Type}

/-- A driver without objects. -/
def make (settings : Settings) (mapper : Memory.Mapper) (factory : Factory ε) : Driver ε :=
  { settings, mapper, factory, dump := settings.dump }

/-! ## Parts of requests -/

/-- What was found, or a rejection. -/
def require {α : Type} (found : Option α) (error : DriverError) : DriverM ε α :=
  match found with
  | some object => pure object
  | none => Action.reject error

/-- A check, or a rejection. -/
def demand (holds : Bool) (error : DriverError) : DriverM ε Unit :=
  if holds then pure () else Action.reject error

/-- The outcome of a computation outside the driver. -/
def settle {α : Type} (result : Except (Failure DriverError) α) : DriverM ε α :=
  match result with
  | .ok value => pure value
  | .error failure => throw failure

/-- Run `request`, and `undo` if it is rejected. -/
def undoing {α : Type} (request : DriverM ε α) (undo : DriverM ε Unit) : DriverM ε α :=
  tryCatch request fun failure => do
    match failure with
    | .rejected _ => undo
    | .faulted _ => pure ()
    throw failure

/-- The configuration under a handle. -/
def config (handle : Nat) : DriverM ε Config := do
  require ((← get).configs.find? handle) (.invalidConfig handle)

/-- The context under a handle. -/
def context (handle : Nat) : DriverM ε (Context ε) := do
  require ((← get).contexts.find? handle) (.invalidContext handle)

/-- The surface under a handle. -/
def surface (handle : Nat) : DriverM ε SurfaceRef := do
  require ((← get).surfaces.find? handle) (.invalidSurface handle)

/-- The buffer under a handle. -/
def buffer (handle : Nat) : DriverM ε BufferRef := do
  require ((← get).buffers.find? handle) (.invalidBuffer handle)

/-- The image under a handle. -/
def image (handle : Nat) : DriverM ε Image := do
  require ((← get).images.find? handle) (.invalidImage handle)

/-- The surface that a reference names. -/
def surfaceAt (target : SurfaceRef) : DriverM ε Surface := do
  match (← get).surfaceStore[target.index]? with
  | some surface => pure surface
  | none => Action.fault .outOfBounds

/-- The buffer that a reference names. -/
def bufferAt (target : BufferRef) : DriverM ε Buffer := do
  match (← get).bufferStore[target.index]? with
  | some buffer => pure buffer
  | none => Action.fault .outOfBounds

/-- Replace the bytes of a buffer. -/
def setMemory (target : BufferRef) (memory : Memory) : DriverM ε Unit :=
  modify fun d => { d with
    bufferStore := d.bufferStore.modify target.index fun buffer => { buffer with memory } }

end Driver

end AvcDriver
