import AvcDriver.Proofs.Driver.Recovery
import AvcDriver.Proofs.Session.Order

/-!
# Turns of a context

A picture is begun, given its buffers, and ended, each by a request to a context. Such a turn
looks up what its handles name, and then the context moves: on what the session holds it depends
what comes of that. All else that a turn reads of a driver is how surfaces and buffers are stored,
and nothing of that is changed by turns.

* `Turn`, `Turn.move`: a turn, and the move of a session that it is for.
* `Context.take`: what comes of a move.
* `Turn.run_perform`: a turn is the lookup of its move and the move of its context.
-/

namespace AvcDriver

open Session (Decoder Move Phase ReadyPicture Shared)

variable {ε : Type}

/-! ## Moves of a context -/

namespace Context

/-- The context that a call led to, if it was accepted. -/
def moved (c : Context ε) (result : Except (Failure DriverError) (Context ε)) (shared : Shared) :
    Except (Failure DriverError) (List ReadyPicture) × Context ε × Shared :=
  match result with
  | .ok c' => (.ok [], c', shared)
  | .error failure => (.error failure, c, shared)

/-- What comes of a move: its answer, the context after it, and what contexts share. -/
def take [Engine ε] (c : Context ε) (move : Move) (patience : Nat) (buffers : BufferStore)
    (owned : SurfaceRef → Bool) (shared : Shared) :
    Except (Failure DriverError) (List ReadyPicture) × Context ε × Shared :=
  match move with
  | .begin target => c.moved (c.beginPicture target) shared
  | .render named => c.moved (c.renderPicture named) shared
  | .finish => c.endPicture patience buffers owned shared

/-- A session with a target takes the buffers. -/
theorem renderPicture_of_targetSet {c : Context ε} {session : Decoder ε}
    (hsession : c.session = .decoder session) {target : SurfaceRef}
    (hphase : session.phase = .targetSet target) (named : List (BufferRef × BufferKind)) :
    c.renderPicture named = .ok { c with
      session := .decoder { session with phase := .queued target (.ofBuffers named) } } := by
  rw [renderPicture, check_of_phase hsession hphase, hsession, Session.enqueueWork,
    Decoder.enqueueWork, hphase]
  rfl

end Context

namespace Driver

open AvcDriver.Action (run_bind run_bind_error run_bind_ok)

/-! ## Turns -/

/-- A request for a picture of a context. -/
inductive Turn where
  | begin (surface : Nat)
  | render (buffers : List Nat)
  | finish

/-- What a turn does, and the pictures that it answers with. -/
def Turn.perform [Engine ε] (handle : Nat) : Turn → DriverM ε (List ReadyPicture)
  | begin surface => do
    beginPicture handle surface
    pure []
  | render buffers => do
    renderPicture handle buffers
    pure []
  | finish => endPicture handle

/-- What a session is told of the buffer under a handle. -/
def named (d : Driver ε) (handle : Nat) : Except (Failure DriverError) (BufferRef × BufferKind) :=
  match d.buffers.find? handle with
  | none => .error (.rejected (.invalidBuffer handle))
  | some target =>
    match d.bufferStore[target.index]? with
    | none => .error (.faulted .outOfBounds)
    | some buffer => .ok (target, buffer.kind)

/-- The move that a turn is for, if its handles name something. -/
def Turn.move (d : Driver ε) : Turn → Except (Failure DriverError) Move
  | begin surface =>
    match d.surfaces.find? surface with
    | none => .error (.rejected (.invalidSurface surface))
    | some target => .ok (.begin target)
  | render handles => (handles.mapM d.named).map .render
  | finish => .ok .finish

/-- What sessions share in a driver. -/
def shared (d : Driver ε) : Shared :=
  { surfaces := d.surfaceStore, memories := d.memories, dump := d.dump, events := d.events }

/-- A driver one of whose contexts has moved. -/
def withMove (d : Driver ε) (handle : Nat) (c : Context ε) (shared : Shared) : Driver ε :=
  { d with
    contexts := d.contexts.modify handle fun _ => c
    memories := shared.memories
    dump := shared.dump
    events := shared.events }

/-- What comes of a move of one of the contexts. -/
def takeMove [Engine ε] (d : Driver ε) (handle : Nat) (c : Context ε) (move : Move) :
    Except (Failure DriverError) (List ReadyPicture) × Driver ε :=
  let (result, c', shared) :=
    c.take move d.settings.patience d.bufferStore (isHeld d.surfaces d.contexts) d.shared
  (result, d.withMove handle c' shared)

variable {d d' : Driver ε} {handle : Nat} {c : Context ε}

theorem run_namedBuffer (d : Driver ε) (handle : Nat) :
    (namedBuffer handle).run d = (d.named handle, d) := by
  rw [namedBuffer, named]
  rcases hfind : d.buffers.find? handle with _ | target
  · exact run_bind_error (buffer_run_none hfind)
  · rw [run_bind_ok (buffer_run hfind)]
    dsimp only
    rcases hfound : d.bufferStore[target.index]? with _ | buffer
    · have hmissing : (bufferAt target : DriverM ε Buffer).run d =
          (.error (.faulted .outOfBounds), d) := by
        rw [bufferAt, Action.run_get_bind, hfound]
        rfl
      exact run_bind_error hmissing
    · exact run_bind_ok (bufferAt_run hfound)

theorem run_namedBuffers (d : Driver ε) (handles : List Nat) :
    (handles.mapM namedBuffer).run d = (handles.mapM d.named, d) := by
  induction handles with
  | nil => rfl
  | cons handle rest ih =>
    rw [List.mapM_cons, List.mapM_cons]
    rcases hnamed : d.named handle with failure | item
    · exact run_bind_error ((run_namedBuffer d handle).trans (by rw [hnamed]))
    · rw [run_bind_ok ((run_namedBuffer d handle).trans (by rw [hnamed])), run_bind, ih, ok_bind]
      rcases rest.mapM d.named with failure | items
      · rfl
      · rfl

/-- Which move a turn is for is not up to the contexts. -/
theorem Turn.move_congr (turn : Turn) (hsurfaces : d'.surfaces = d.surfaces)
    (hbuffers : d'.buffers = d.buffers) (hstore : d'.bufferStore = d.bufferStore) :
    turn.move d' = turn.move d := by
  have hnamed : d'.named = d.named := by
    funext handle
    rw [named, named, hbuffers, hstore]
  cases turn with
  | begin surface => rw [move, move, hsurfaces]
  | render handles => rw [move, move, hnamed]
  | finish => rfl

/-- A context that is replaced by itself has not moved. -/
theorem withMove_self (hnodup : d.contexts.handles.Nodup)
    (hfind : d.contexts.find? handle = some c) : d.withMove handle c d.shared = d := by
  rw [withMove, Handle.Table.modify_of_find? hnodup hfind]
  rfl

/-- **A turn looks up its move, and its context takes it.** -/
theorem Turn.run_perform [Engine ε] (hnodup : d.contexts.handles.Nodup)
    (hfind : d.contexts.find? handle = some c) (turn : Turn) :
    (turn.perform handle).run d =
      match turn.move d with
      | .error failure => (.error failure, d)
      | .ok move => d.takeMove handle c move := by
  cases turn with
  | begin surface =>
    rw [perform, move]
    rcases htarget : d.surfaces.find? surface with _ | target
    · have hmissing : (beginPicture handle surface).run d =
          (.error (.rejected (.invalidSurface surface)), d) := by
        refine run_bind_error ?_
        rw [Driver.surface, Action.run_get_bind, htarget]
        rfl
      exact run_bind_error hmissing
    · rw [run_bind, beginPicture_run hfind htarget]
      dsimp only
      rw [takeMove, Context.take]
      rcases c.beginPicture target with failure | c'
      · exact congrArg (Prod.mk _) (withMove_self hnodup hfind).symm
      · rfl
  | render handles =>
    rw [perform, move, renderPicture, bind_assoc, run_bind_ok (context_run hfind), bind_assoc,
      run_bind, run_namedBuffers]
    rcases handles.mapM d.named with failure | items
    · rfl
    · dsimp only [Except.map]
      rw [takeMove, Context.take]
      rcases c.renderPicture items with failure | c'
      · exact congrArg (Prod.mk _) (withMove_self hnodup hfind).symm
      · rfl
  | finish => exact endPicture_run hfind rfl

end Driver

end AvcDriver
