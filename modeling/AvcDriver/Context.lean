import AvcDriver.Session.Basic

/-!
# Contexts

A context is one decoding task of a client: a configuration, a picture size, and a
session. A call that is not the session's next one is rejected before it gets there.
-/

namespace AvcDriver

/-- A decoding context. -/
structure Context (ε : Type) where
  id : Nat
  config : Config
  width : UInt32
  height : UInt32
  flag : Int32
  /-- the handles of the surfaces it was announced to decode into -/
  targets : List Nat
  session : Session ε

namespace Context

open Session (Call ReadyPicture Shared)

variable {ε : Type}

/-- Reject a call that is not the next one. -/
def check (c : Context ε) (call : Call) : Except DriverError Unit :=
  if c.session.accepts call then .ok () else .error (.outOfOrder call c.session.state)

/-- Begin a picture. -/
def beginPicture (c : Context ε) (target : SurfaceRef) :
    Except (Failure DriverError) (Context ε) := do
  (c.check .setRenderTarget).mapError .rejected
  let session ← (c.session.setRenderTarget target).mapError .faulted
  pure { c with session }

/-- Hand over buffers of the picture. -/
def renderPicture (c : Context ε) (buffers : List (BufferRef × BufferKind)) :
    Except (Failure DriverError) (Context ε) := do
  (c.check .enqueueWork).mapError .rejected
  let session ← (c.session.enqueueWork buffers).mapError .faulted
  pure { c with session }

/-- End the picture and decode it. -/
def endPicture [Engine ε] (c : Context ε) (patience : Nat) (buffers : BufferStore)
    (owned : SurfaceRef → Bool) (shared : Shared) :
    Except (Failure DriverError) (List ReadyPicture) × Context ε × Shared :=
  match c.check .run with
  | .error error => (.error (.rejected error), c, shared)
  | .ok () =>
    let (result, session, shared) := c.session.run patience buffers owned shared
    (result.mapError (Failure.map .decode), { c with session }, shared)

/-- The text that shows a context. -/
def describe (c : Context ε) : String :=
  let id := c.id
  let profile := c.config.profile.label
  let width := c.width
  let height := c.height
  let targets := ", ".intercalate (c.targets.map fun handle => s!"{handle}")
  s!"Context \x7b id: {id}, profile: {profile}, picture_width: {width}, " ++
    s!"picture_height: {height}, render_targets: [{targets}], .. \x7d"

end Context

end AvcDriver
