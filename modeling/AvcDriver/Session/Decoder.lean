import AvcDriver.Session.Loop
import AvcDriver.Session.Stream

/-!
# Decoding sessions

A `Decoder` is the session of a context that decodes. It takes a render target,
then the buffers of one picture, and then runs: it makes a stream of the buffers,
submits it under the session's current tag, and is idle again whatever came of
that. The tag moves on with every submission; one that fails before it is submitted
leaves it.

What a session holds depends on where it stands, so the phases carry it: a render
target from `targetSet` on, and buffers from `queued` on. A run that stops in the
engine leaves the session `running`.
-/

namespace AvcDriver.Session

open Engine (Event)

/-- Where a session stands and what it holds there, a render target and the buffers of its picture.

Kept apart, state, target and buffers would never disagree. A target comes with `targetSet` and
is only replaced there; buffers come with `queued`, all in one call; a run reads them and changes
none. Every answer of a run drops target and buffers together and is idle, that of a run whose
engine was aborted too, so nobody outside of a run sees a session that is aborted but not idle yet.
A run that stops instead drops nothing: it leaves what it held in the phase it had reached, `queued`
while the stream is made and `running` while the engine works. -/
inductive Phase where
  | idle
  | targetSet (target : SurfaceRef)
  | queued (target : SurfaceRef) (work : Work)
  | running (target : SurfaceRef) (work : Work)
  deriving DecidableEq, Repr

namespace Phase

/-- Where a session stands. -/
def state : Phase → State
  | idle => .idle
  | targetSet _ => .renderTargetSet
  | queued _ _ => .workEnqueued
  | running _ _ => .running

/-- The render target a session holds. -/
def target? : Phase → Option SurfaceRef
  | idle => none
  | targetSet target => some target
  | queued target _ => some target
  | running target _ => some target

end Phase

/-! ## Dumps -/

/-- Where submitted streams are appended to. -/
inductive Dump where
  | off
  /-- a file that cannot be written to -/
  | unwritable
  /-- a file, with its contents once there are any -/
  | file (contents : Option (Array UInt8))
  deriving DecidableEq, Repr

namespace Dump

/-- Append a stream. A file that cannot be written to is passed over. -/
def append (dump : Dump) (stream : Bytes) : Dump :=
  match dump with
  | off => off
  | unwritable => unwritable
  | file contents => file (some (contents.getD #[] ++ stream))

/-- The contents of the file, if there is one. -/
def contents? : Dump → Option (Array UInt8)
  | off => none
  | unwritable => none
  | file contents => contents

end Dump

/-! ## The decoder -/

/-- A session that decodes with an engine of state `ε`. -/
structure Decoder (ε : Type) where
  engine : ε
  /-- the place of the engine among all that were asked for -/
  engineIndex : Nat
  profile : Header.Profile
  options : Header.Options
  phase : Phase := .idle
  /-- the tag of the next submission -/
  tag : UInt32 := 0
  /-- the render targets of recent tags -/
  recent : Recent UInt32 SurfaceRef

/-- What sessions share. A run changes all of it but the surfaces, which say where
their memory is. -/
structure Shared where
  surfaces : SurfaceStore
  memories : MemoryStore
  dump : Dump
  events : Array Event

namespace Decoder

variable {ε : Type}

/-- A decoder with nothing in it. -/
def make (engine : ε) (engineIndex : Nat) (profile : Header.Profile) (width height : UInt32)
    (capacity : Nat) : Except Fault (Decoder ε) := do
  let recent ← Recent.make capacity
  pure { engine, engineIndex, profile, options := { width, height }, recent }

/-- Where the session stands. -/
def state (d : Decoder ε) : State := d.phase.state

/-- Set or replace the render target. The current tag is remembered to belong to it. -/
def setRenderTarget (d : Decoder ε) (target : SurfaceRef) : Except Fault (Decoder ε) :=
  if d.state.accepts .setRenderTarget then
    .ok { d with
      recent := d.recent.put d.tag target
      phase := .targetSet target }
  else .error (.renderTargetIn d.state)

/-- Enqueue the buffers of a picture. -/
def enqueueWork (d : Decoder ε) (buffers : List (BufferRef × BufferKind)) :
    Except Fault (Decoder ε) :=
  match d.phase with
  | .targetSet target =>
    .ok { d with
      phase := .queued target
        (buffers.foldl (fun work (buffer, kind) => work.add buffer kind) {}) }
  | _ => .error .workOutOfTurn

variable [Engine ε]

/-- Submit a stream, and be idle again unless the engine stops. `owned` says which
surfaces are held by others; the session holds its own render target. -/
def submit (d : Decoder ε) (patience : Nat) (owned : SurfaceRef → Bool) (shared : Shared)
    (target : SurfaceRef) (work : Work) (stream : Bytes) :
    Except (Failure DecodeError) (List ReadyPicture) × Decoder ε × Shared :=
  let flight : Flight := {
    engineIndex := d.engineIndex
    recent := d.recent
    surfaces := shared.surfaces
    held := fun surface => surface = target || owned surface }
  let (result, progress) := (drive flight stream d.tag patience).run
    { engine := d.engine, memories := shared.memories, events := shared.events }
  let phase : Phase := match result with
    | .error (.faulted _) => .running target work
    | _ => .idle
  (result,
    { d with engine := progress.engine, tag := d.tag + 1, phase },
    { surfaces := shared.surfaces
      memories := progress.memories
      dump := shared.dump.append stream
      events := progress.events })

/-- Run: make the stream of the enqueued buffers and submit it. -/
def run (d : Decoder ε) (patience : Nat) (buffers : BufferStore) (owned : SurfaceRef → Bool)
    (shared : Shared) :
    Except (Failure DecodeError) (List ReadyPicture) × Decoder ε × Shared :=
  match d.phase with
  | .queued target work =>
    match work.stream buffers d.profile d.options with
    | .ok stream => d.submit patience owned shared target work stream
    | .error (.rejected error) => (.error (.rejected error), { d with phase := .idle }, shared)
    | .error (.faulted cause) => (.error (.faulted cause), d, shared)
  | _ => (.error (.faulted .runOutOfTurn), d, shared)

end Decoder

end AvcDriver.Session
