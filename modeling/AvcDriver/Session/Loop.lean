import AvcDriver.Engine.Basic
import AvcDriver.Session.Recent
import AvcDriver.Surface.Basic

/-!
# Driving an engine over a submission

`drive` gives an engine the stream of a submission until the engine has done with
it. Each round is one decode call on what is left of the stream, followed by what
the engine asks for: output buffers, or that its pictures be collected. A picture
goes to the surface that was the render target of its own tag, if that is
remembered and something still holds the surface.

An engine may ask for ever. `patience` bounds the rounds, and the pictures of one
round; an engine that goes beyond it is given up as stuck.
-/

namespace AvcDriver.Session

open Engine (Act BufferInfo Event Input Output OutputBuffer Picture)

/-- A picture that a run has collected. -/
structure ReadyPicture where
  tag : UInt32
  /-- the handle of the surface it went to, if there was one -/
  surface : Option Nat
  width : UInt32
  height : UInt32
  deriving DecidableEq, Repr

/-- What does not change during a run. -/
structure Flight where
  /-- the place of the engine among all that were asked for -/
  engineIndex : Nat
  /-- the render targets of recent tags -/
  recent : Recent UInt32 SurfaceRef
  surfaces : SurfaceStore
  /-- the surfaces that something holds -/
  held : SurfaceRef → Bool

/-- What changes during a run. -/
structure Progress (ε : Type) where
  engine : ε
  memories : MemoryStore
  events : Array Event

/-- A part of a run. -/
abbrev RunM (ε : Type) := Action (Progress ε) DecodeError

variable {ε : Type}

/-- Make an engine call, whatever comes of it. -/
def callEngine {α : Type} (act : Act ε α) : RunM ε (Except Fault α) := do
  let p ← get
  let (result, engine) := act p.engine
  set { p with engine }
  pure result

/-- Note an engine call. -/
def tell (f : Flight) (call : Engine.Call) : RunM ε Unit :=
  modify fun p => { p with events := p.events.push { engine := f.engineIndex, call } }

/-- The surface a picture belongs to, if it is remembered and held. -/
def Flight.target? (f : Flight) (tag : UInt32) : Option SurfaceRef :=
  (f.recent.peek tag).filter f.held

/-- Copy a picture into the surface it belongs to. A surface without memory, or one
that refuses the access, is reported all the same. -/
def deliver (f : Flight) (picture : Picture) : RunM ε ReadyPicture := do
  let report (surface : Option Nat) : ReadyPicture :=
    { tag := picture.tag, surface, width := picture.width, height := picture.height }
  match f.target? picture.tag with
  | none => pure (report none)
  | some target =>
    match f.surfaces[target.index]? with
    | none => pure (report none)
    | some surface =>
      match surface.write (← get).memories picture with
      | .ok (_, memories) => modify fun p => { p with memories }
      | .error (.rejected _) => pure ()
      | .error (.faulted cause) => Action.fault cause
      pure (report (some surface.id))

variable [Engine ε]

/-- Collect the pictures an engine has ready, handing each one back before the next is
asked for. -/
def collect (f : Flight) : Nat → RunM ε (List ReadyPicture)
  | 0 => Action.fault .engineStuck
  | patience + 1 => do
    let picture? ← Action.ofFaulting (← callEngine Engine.nextPicture)
    tell f (.next picture?)
    match picture? with
    | none => pure []
    | some picture =>
      let ready ← deliver f picture
      Action.ofFaulting (← callEngine (Engine.pictureConsumed picture))
      tell f (.consumed picture)
      let rest ← collect f patience
      pure (ready :: rest)

/-- Supply `count` zeroed output buffers. -/
def supply (f : Flight) (size : Nat) : Nat → RunM ε Unit
  | 0 => pure ()
  | count + 1 => do
    let buffer ← Action.ofFaulting (OutputBuffer.zeroed size)
    Action.ofFaulting (← callEngine (Engine.addBuffer buffer))
    tell f (.add buffer)
    supply f size count

/-- Supply the output buffers an engine asks for. -/
def supplyWanted (f : Flight) : RunM ε Unit := do
  let info ← Action.ofFaulting (← callEngine Engine.bufferInfo)
  tell f (.info info)
  supply f info.size info.count

/-- Drop what is in flight and fail. -/
def giveUp {α : Type} (f : Flight) (error : DecodeError) : RunM ε α := do
  Action.ofFaulting (← callEngine Engine.abort)
  tell f .abort
  Action.reject error

/-- Go on with a submission from `offset` on, `ready` pictures having been collected. -/
def driveFrom (f : Flight) (stream : Bytes) (tag : UInt32) (patience : Nat) :
    Nat → Nat → List ReadyPicture → RunM ε (List ReadyPicture)
  | 0, _, _ => Action.fault .engineStuck
  | rounds + 1, offset, ready => do
    let input : Input := { stream := stream.drop offset, tag }
    let result ← callEngine (Engine.decode input)
    tell f (.decode input result)
    let output ← Action.ofFaulting result
    let reached ← Action.ofFaulting (checkedWord 64 (offset + output.consumed))
    let offset := min reached stream.length
    match output.status with
    | .ok | .headersReady => driveFrom f stream tag patience rounds offset ready
    | .waitingForBuffer => do
      supplyWanted f
      driveFrom f stream tag patience rounds offset ready
    | .pictureDecoded | .pendingFlush => do
      let collected ← collect f patience
      driveFrom f stream tag patience rounds offset (ready ++ collected)
    | .streamProcessed => pure ready
    | .streamNotSupported => giveUp f .streamNotSupported
    | .error code => giveUp f (.hardware code)

/-- Give an engine a submission's stream until it has done with it. -/
def drive (f : Flight) (stream : Bytes) (tag : UInt32) (patience : Nat) :
    RunM ε (List ReadyPicture) :=
  driveFrom f stream tag patience patience 0 []

end AvcDriver.Session
