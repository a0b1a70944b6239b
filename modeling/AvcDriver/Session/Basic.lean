import AvcDriver.Config.Capability
import AvcDriver.Session.Decoder

/-!
# Sessions

The session of a context either decodes, or accepts every call and does nothing.
Which one contexts get is a setting of the driver.
-/

namespace AvcDriver

namespace Session

/-- Which sessions contexts get. -/
inductive Mode where
  /-- sessions that decode -/
  | hardware
  /-- sessions that do nothing -/
  | noOp
  deriving DecidableEq, Repr

/-- What a session is started with. -/
structure Options where
  width : UInt32
  height : UInt32
  settings : Engine.Settings
  /-- how many render targets are remembered -/
  capacity : Nat
  deriving DecidableEq, Repr

end Session

/-- A session, with an engine of state `ε` if it decodes. -/
inductive Session (ε : Type) where
  | noOp
  | decoder (d : Session.Decoder ε)

namespace Session

open Engine (Event Factory Params)

variable {ε : Type}

/-- What the engine of a new session has to be made for, or none if the session does
without. -/
def engineParams? (mode : Mode) (profile : Config.Profile) (entrypoint : Config.Entrypoint)
    (options : Options) : Except DriverError (Option Params) :=
  match mode with
  | .noOp => .ok none
  | .hardware =>
    if entrypoint ≠ .vld then .error (.unsupportedEntrypoint profile entrypoint)
    else
      match profile.coded? with
      | none => .error (.unsupportedProfile profile)
      | some coded =>
        .ok (some {
          profile := coded
          width := options.width
          height := options.height
          settings := options.settings })

/-- Start a session. `asked` engines were asked for before. The events say whether one
more was. -/
def start (factory : Factory ε) (asked : Nat) (mode : Mode) (profile : Config.Profile)
    (entrypoint : Config.Entrypoint) (options : Options) :
    Except (Failure DriverError) (Session ε) × List Event :=
  match engineParams? mode profile entrypoint options with
  | .error error => (.error (.rejected error), [])
  | .ok none => (.ok .noOp, [])
  | .ok (some params) =>
    let created : Event := { engine := asked, call := .create params }
    let session : Except (Failure DriverError) (Session ε) := do
      let engine ← (factory asked params).mapError fun error => .rejected (.decode error)
      let decoder ← (Decoder.make engine asked params.profile params.width params.height
        options.capacity).mapError .faulted
      pure (.decoder decoder)
    (session, [created])

/-- Where a session stands. -/
def state : Session ε → State
  | noOp => .idle
  | decoder d => d.state

/-- Whether a call is accepted now. -/
def accepts (call : Call) : Session ε → Bool
  | noOp => true
  | decoder d => d.state.accepts call

/-- The surface a session holds. -/
def target? : Session ε → Option SurfaceRef
  | noOp => none
  | decoder d => d.phase.target?

/-- Set the render target. -/
def setRenderTarget (target : SurfaceRef) : Session ε → Except Fault (Session ε)
  | noOp => .ok noOp
  | decoder d => (d.setRenderTarget target).map decoder

/-- Enqueue the buffers of a picture. -/
def enqueueWork (buffers : List (BufferRef × BufferKind)) : Session ε → Except Fault (Session ε)
  | noOp => .ok noOp
  | decoder d => (d.enqueueWork buffers).map decoder

/-- Run over the enqueued buffers. -/
def run [Engine ε] (patience : Nat) (buffers : BufferStore) (owned : SurfaceRef → Bool)
    (shared : Shared) :
    Session ε → Except (Failure DecodeError) (List ReadyPicture) × Session ε × Shared
  | noOp => (.ok [], noOp, shared)
  | decoder d =>
    let (result, d, shared) := d.run patience buffers owned shared
    (result, decoder d, shared)

end Session

end AvcDriver
