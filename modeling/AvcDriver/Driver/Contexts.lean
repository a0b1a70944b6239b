import AvcDriver.Driver.Surfaces

/-!
# Requests about contexts and decoding

A picture is decoded by three requests: begin, with the surface it goes to; render,
with its buffers; and end, which answers with the pictures that the engine has ready.
-/

namespace AvcDriver.Driver

open Session (ReadyPicture)

variable {ε : Type}

/-! ## Contexts -/

/-- Start a session for a configuration. -/
def startSession (c : Config) (width height : UInt32) : DriverM ε (Session ε) := do
  let d ← get
  let (result, events) := Session.start d.factory d.engines d.settings.mode c.profile c.entrypoint
    { width, height, settings := d.settings.engine, capacity := d.settings.capacity }
  set { d with
    engines := d.engines + events.length
    events := d.events ++ events }
  settle result

/-- Make a context, announcing the surfaces it will decode into. -/
def createContext (configHandle : Nat) (width height : UInt32) (flag : Int32)
    (targets : List Nat) : DriverM ε Nat := do
  let config ← config configHandle
  requireSurfaces targets
  let session ← startSession config width height
  let (handle, contexts) ← Action.ofFaulting
    ((← get).contexts.create fun id => { id, config, width, height, flag, targets, session })
  modify fun d => { d with contexts }
  pure handle

/-- Destroy a context and its session. -/
def destroyContext (handle : Nat) : DriverM ε Unit := do
  let (_, contexts) ← require ((← get).contexts.remove handle) (.invalidContext handle)
  modify fun d => { d with contexts }

/-- Replace a context. -/
def setContext (handle : Nat) (c : Context ε) : DriverM ε Unit :=
  modify fun d => { d with contexts := d.contexts.modify handle fun _ => c }

/-! ## Decoding -/

/-- Begin a picture that goes to a surface. -/
def beginPicture (contextHandle target : Nat) : DriverM ε Unit := do
  let target ← surface target
  let c ← context contextHandle
  setContext contextHandle (← settle (c.beginPicture target))

/-- What a session has to know about the buffer under a handle. -/
def namedBuffer (handle : Nat) : DriverM ε (BufferRef × BufferKind) := do
  let target ← buffer handle
  pure (target, (← bufferAt target).kind)

/-- Hand over buffers of the picture. -/
def renderPicture (contextHandle : Nat) (handles : List Nat) : DriverM ε Unit := do
  let c ← context contextHandle
  let buffers ← handles.mapM namedBuffer
  setContext contextHandle (← settle (c.renderPicture buffers))

/-- Whether something holds a surface: its handle, or a session whose target it is. -/
def isHeld (surfaces : Handle.Table SurfaceRef) (contexts : Handle.Table (Context ε))
    (target : SurfaceRef) : Bool :=
  surfaces.objects.any (· = target) ||
    contexts.objects.any (·.session.target? = some target)

/-- End the picture and decode it. -/
def endPicture [Engine ε] (contextHandle : Nat) : DriverM ε (List ReadyPicture) := do
  let c ← context contextHandle
  let d ← get
  let held := isHeld d.surfaces d.contexts
  let (result, c, shared) := c.endPicture d.settings.patience d.bufferStore held
    { surfaces := d.surfaceStore, memories := d.memories, dump := d.dump, events := d.events }
  set { d with
    contexts := d.contexts.modify contextHandle fun _ => c
    memories := shared.memories
    dump := shared.dump
    events := shared.events }
  settle result

/-- Where the session of a context stands. -/
def sessionState (contextHandle : Nat) : DriverM ε Session.State := do
  pure (← context contextHandle).session.state

end AvcDriver.Driver
