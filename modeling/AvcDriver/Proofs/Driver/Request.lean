import AvcDriver.Driver.Configs
import AvcDriver.Driver.Contexts
import AvcDriver.Driver.Images
import AvcDriver.Proofs.Action

/-!
# Requests as values

A client's requests form a history. What a driver becomes over one is a fold, as each request
leaves a driver behind, whether it was answered, rejected, or stopped.

* `Request.perform`: what a request does.
* `serveAll`: a driver after a history.
* `Action.Ends.require_bind` and its like: one rule for each part that requests are made of.
-/

namespace AvcDriver

namespace Driver

/-- A request to a driver, except for those that are answered without one. -/
inductive Request where
  | createConfig (profile : Config.Profile) (entrypoint : Config.Entrypoint)
      (attributes : List Config.Attribute)
  | destroyConfig (handle : Nat)
  | surfaceAttributes (config : Nat)
  | createSurfaces (format width height : UInt32) (count : Nat)
      (attributes : List Surface.Attribute)
  | destroySurfaces (handles : List Nat)
  | syncSurface (handle : Nat)
  | createContext (config : Nat) (width height : UInt32) (flag : Int32) (targets : List Nat)
  | destroyContext (handle : Nat)
  | createBuffer (owner : Nat) (kind : BufferKind) (size count : Nat) (data : Option Block)
  /-- the client does with the bytes as it likes -/
  | mapBuffer (handle : Nat) (access : Memory → Memory)
  | resizeBuffer (handle size : Nat)
  | destroyBuffer (handle : Nat)
  | createImage (format : Image.Format) (width height : UInt32)
  | destroyImage (handle : Nat)
  | getImage (surface : Nat) (x y width height : UInt32) (image : Nat)
  | beginPicture (context surface : Nat)
  | renderPicture (context : Nat) (buffers : List Nat)
  | endPicture (context : Nat)
  | sessionState (context : Nat)

variable {ε α β : Type}

/-- What a request does, whatever it is answered. -/
def Request.perform [Engine ε] : Request → DriverM ε Unit
  | createConfig profile entrypoint attributes => do
    let _ ← Driver.createConfig profile entrypoint attributes
  | destroyConfig handle => Driver.destroyConfig handle
  | surfaceAttributes config => do
    let _ ← Driver.surfaceAttributes config
  | createSurfaces format width height count attributes => do
    let _ ← Driver.createSurfaces format width height count attributes
  | destroySurfaces handles => Driver.destroySurfaces handles
  | syncSurface handle => Driver.syncSurface handle
  | createContext config width height flag targets => do
    let _ ← Driver.createContext config width height flag targets
  | destroyContext handle => Driver.destroyContext handle
  | createBuffer owner kind size count data => do
    let _ ← Driver.createBuffer owner kind size count data
  | mapBuffer handle access => Driver.mapBuffer handle fun memory => ((), access memory)
  | resizeBuffer handle size => Driver.resizeBuffer handle size
  | destroyBuffer handle => Driver.destroyBuffer handle
  | createImage format width height => do
    let _ ← Driver.createImage format width height
  | destroyImage handle => Driver.destroyImage handle
  | getImage surface x y width height image => Driver.getImage surface x y width height image
  | beginPicture context surface => Driver.beginPicture context surface
  | renderPicture context buffers => Driver.renderPicture context buffers
  | endPicture context => do
    let _ ← Driver.endPicture context
  | sessionState context => do
    let _ ← Driver.sessionState context

/-- A driver after a request. -/
def serve [Engine ε] (d : Driver ε) (request : Request) : Driver ε := (request.perform.run d).2

/-- A driver after a history of requests. -/
def serveAll [Engine ε] (d : Driver ε) (requests : List Request) : Driver ε :=
  requests.foldl serve d

end Driver

/-! ## The parts of requests -/

namespace Action

open Driver

variable {ε α β : Type} {d : Driver ε} {Q : Except (Failure DriverError) β → Driver ε → Prop}
  {next : α → DriverM ε β}

/-- A request that needs something goes on with what is found, or is rejected. -/
theorem Ends.require_bind {found : Option α} {error : DriverError}
    (hsome : ∀ object, found = some object → Ends (next object) d Q)
    (hnone : found = none → Q (.error (.rejected error)) d) :
    Ends (require found error >>= next) d Q := by
  cases found with
  | none => exact hnone rfl
  | some object => exact hsome object rfl

/-- A request goes on if its check holds. -/
theorem Ends.demand_bind {holds : Bool} {error : DriverError} {next : Unit → DriverM ε β}
    (htrue : holds = true → Ends (next ()) d Q)
    (hfalse : holds = false → Q (.error (.rejected error)) d) :
    Ends (demand holds error >>= next) d Q := by
  cases holds with
  | true => exact htrue rfl
  | false => exact hfalse rfl

/-- A request goes on with the result of a computation outside the driver, or fails as it did. -/
theorem Ends.settle_bind {result : Except (Failure DriverError) α}
    (hok : ∀ a, result = .ok a → Ends (next a) d Q)
    (herror : ∀ failure, result = .error failure → Q (.error failure) d) :
    Ends (settle result >>= next) d Q := by
  cases result with
  | ok a => exact hok a rfl
  | error failure => exact herror failure rfl

theorem Ends.settle {result : Except (Failure DriverError) β} (h : Q result d) :
    Ends (settle result) d Q := by
  cases result with
  | ok a => exact h
  | error failure => exact h

section Lookups

variable {handle : Nat}

/-- A request on a configuration is rejected if there is none under the handle. The next lemmas say
the same of the other tables. -/
theorem Ends.config_bind {next : Config → DriverM ε β}
    (hsome : ∀ c, d.configs.find? handle = some c → Ends (next c) d Q)
    (hnone : d.configs.find? handle = none → Q (.error (.rejected (.invalidConfig handle))) d) :
    Ends (config handle >>= next) d Q := Ends.require_bind hsome hnone

theorem Ends.context_bind {next : Context ε → DriverM ε β}
    (hsome : ∀ c, d.contexts.find? handle = some c → Ends (next c) d Q)
    (hnone : d.contexts.find? handle = none → Q (.error (.rejected (.invalidContext handle))) d) :
    Ends (context handle >>= next) d Q := Ends.require_bind hsome hnone

theorem Ends.surface_bind {next : SurfaceRef → DriverM ε β}
    (hsome : ∀ target, d.surfaces.find? handle = some target → Ends (next target) d Q)
    (hnone : d.surfaces.find? handle = none → Q (.error (.rejected (.invalidSurface handle))) d) :
    Ends (surface handle >>= next) d Q := Ends.require_bind hsome hnone

theorem Ends.buffer_bind {next : BufferRef → DriverM ε β}
    (hsome : ∀ target, d.buffers.find? handle = some target → Ends (next target) d Q)
    (hnone : d.buffers.find? handle = none → Q (.error (.rejected (.invalidBuffer handle))) d) :
    Ends (buffer handle >>= next) d Q := Ends.require_bind hsome hnone

theorem Ends.image_bind {next : Image → DriverM ε β}
    (hsome : ∀ i, d.images.find? handle = some i → Ends (next i) d Q)
    (hnone : d.images.find? handle = none → Q (.error (.rejected (.invalidImage handle))) d) :
    Ends (image handle >>= next) d Q := Ends.require_bind hsome hnone

/-- A request goes on with the surface that a reference names. A reference to none stops it. -/
theorem Ends.surfaceAt_bind {target : SurfaceRef} {next : Surface → DriverM ε β}
    (hsome : ∀ surface, d.surfaceStore[target.index]? = some surface → Ends (next surface) d Q)
    (hnone : d.surfaceStore[target.index]? = none → Q (.error (.faulted .outOfBounds)) d) :
    Ends (surfaceAt target >>= next) d Q := by
  rw [surfaceAt, bind_assoc]
  refine Ends.get_bind ?_
  split
  · next surface hsurface => exact hsome surface hsurface
  · next hmissing => exact hnone hmissing

theorem Ends.bufferAt_bind {target : BufferRef} {next : Buffer → DriverM ε β}
    (hsome : ∀ buffer, d.bufferStore[target.index]? = some buffer → Ends (next buffer) d Q)
    (hnone : d.bufferStore[target.index]? = none → Q (.error (.faulted .outOfBounds)) d) :
    Ends (bufferAt target >>= next) d Q := by
  rw [bufferAt, bind_assoc]
  refine Ends.get_bind ?_
  split
  · next buffer hbuffer => exact hsome buffer hbuffer
  · next hmissing => exact hnone hmissing

end Lookups

/-- What is undone is a request that was rejected. One that stopped is left as it is. -/
theorem run_undoing (request : DriverM ε α) (undo : DriverM ε Unit) (d : Driver ε) :
    (undoing request undo).run d =
      match request.run d with
      | (.ok a, d') => (.ok a, d')
      | (.error (.rejected error), d') => (undo >>= fun _ => Action.reject error).run d'
      | (.error (.faulted cause), d') => (.error (.faulted cause), d') := by
  rw [undoing, run_tryCatch]
  rcases request.run d with ⟨(error | cause) | a, d'⟩ <;> rfl

/-- A request is undone from where it was rejected. -/
theorem Ends.undoing {request : DriverM ε α} {undo : DriverM ε Unit}
    {R Q : Except (Failure DriverError) α → Driver ε → Prop} (hrequest : Ends request d R)
    (hdone : ∀ a d', R (.ok a) d' → Q (.ok a) d')
    (hfaulted : ∀ cause d', R (.error (.faulted cause)) d' → Q (.error (.faulted cause)) d')
    (hundone : ∀ error d', R (.error (.rejected error)) d' →
      Ends (undo >>= fun _ => reject error) d' Q) :
    Ends (undoing request undo) d Q := by
  rw [Ends, run_undoing]
  rcases hrun : request.run d with ⟨(error | cause) | a, d'⟩
  · exact hundone error d' ((ends_of_run hrun).1 hrequest)
  · exact hfaulted cause d' ((ends_of_run hrun).1 hrequest)
  · exact hdone a d' ((ends_of_run hrun).1 hrequest)

/-- What a request and its undoing keep, a request that may be undone keeps. -/
theorem Keeps.undoing {I : Driver ε → Prop} {request : DriverM ε α} {undo : DriverM ε Unit}
    (hrequest : Keeps I request) (hundo : Keeps I undo) : Keeps I (undoing request undo) :=
  fun d hd => (hrequest d hd).undoing (fun _ _ h => h) (fun _ _ h => h)
    fun error d' h => hundo.bind (fun _ => Keeps.reject error) d' h

/-- What opening files and making and destroying one surface keep, making a group keeps. -/
theorem Keeps.createSurfaces {I : Driver ε → Prop} {format width height : UInt32}
    (hopen : ∀ attributes, Keeps I (openFiles attributes))
    (hcreate : ∀ attributes, Keeps I (createSurface format width height attributes))
    (hdestroy : ∀ handle, Keeps I (destroySurface handle)) (count : Nat)
    (attributes : List Surface.Attribute) :
    Keeps I (createSurfaces format width height count attributes) := by
  have hdestroyEach (handles : List Nat) : Keeps I (destroyEach handles) := by
    induction handles with
    | nil => exact Keeps.pure ()
    | cons handle rest ih => exact (hdestroy handle).bind fun _ => ih
  have hafter (attributes : List Surface.Attribute) (made : List Nat) (count : Nat) :
      Keeps I (createAfter made (createSurface format width height attributes) count) := by
    induction count generalizing made with
    | zero => exact Keeps.pure made
    | succ count ih =>
      exact ((hcreate attributes).undoing (hdestroyEach made)).bind fun handle =>
        ih (made ++ [handle])
  intro d hd
  refine Ends.demand_bind (fun _ => ?_) fun _ => hd
  refine Ends.demand_bind (fun _ => ?_) fun _ => hd
  refine Ends.ofFaulting_bind (fun _ _ => ?_) fun _ _ => hd
  exact (hopen attributes).bind (fun attributes => hafter attributes [] count) d hd

end Action

/-! ## Checks that hold, and lookups of what is there or is not -/

namespace Driver

open AvcDriver.Action (run_get_bind)

variable {ε : Type} {d : Driver ε} {handle : Nat}

/-- A check that holds is passed, and one that does not rejects the request. -/
theorem demand_run {holds : Bool} (h : holds = true) (error : DriverError) :
    (demand holds error : DriverM ε Unit).run d = (.ok (), d) := by
  rw [h]
  rfl

theorem demand_run_of_false {holds : Bool} (h : holds = false) (error : DriverError) :
    (demand holds error : DriverM ε Unit).run d = (.error (.rejected error), d) := by
  rw [h]
  rfl

/-- What is under a handle is found, and nothing is changed by looking it up. -/
theorem context_run {c : Context ε} (h : d.contexts.find? handle = some c) :
    (context handle : DriverM ε (Context ε)).run d = (.ok c, d) := by
  rw [context, run_get_bind, h]
  rfl

/-- There is no context under a handle that is not live. -/
theorem context_run_none (h : d.contexts.find? handle = none) :
    (context handle : DriverM ε (Context ε)).run d =
      (.error (.rejected (.invalidContext handle)), d) := by
  rw [context, run_get_bind, h]
  rfl

theorem surface_run {target : SurfaceRef} (h : d.surfaces.find? handle = some target) :
    (surface handle : DriverM ε SurfaceRef).run d = (.ok target, d) := by
  rw [surface, run_get_bind, h]
  rfl

theorem buffer_run {target : BufferRef} (h : d.buffers.find? handle = some target) :
    (buffer handle : DriverM ε BufferRef).run d = (.ok target, d) := by
  rw [buffer, run_get_bind, h]
  rfl

theorem buffer_run_none (h : d.buffers.find? handle = none) :
    (buffer handle : DriverM ε BufferRef).run d =
      (.error (.rejected (.invalidBuffer handle)), d) := by
  rw [buffer, run_get_bind, h]
  rfl

/-- A group of one surface is made if the surface is. -/
theorem createEach_one_run {make : DriverM ε Nat} {d' : Driver ε}
    (h : make.run d = (.ok handle, d')) : (createEach make 1).run d = (.ok [handle], d') := by
  have hundoing : (undoing make (destroyEach [])).run d = (.ok handle, d') := by
    rw [Action.run_undoing, h]
  rw [createEach, createAfter, Action.run_bind_ok hundoing]
  rfl

/-- A group is refused with its first surface, before which there is nothing to destroy. -/
theorem createEach_run_refused {make : DriverM ε Nat} {error : DriverError} {d' : Driver ε}
    (h : make.run d = (.error (.rejected error), d')) (count : Nat) :
    (createEach make (count + 1)).run d = (.error (.rejected error), d') := by
  have hundoing : (undoing make (destroyEach [])).run d = (.error (.rejected error), d') := by
    rw [Action.run_undoing, h]
    rfl
  rw [createEach, createAfter, Action.run_bind_error hundoing]

theorem bufferAt_run {target : BufferRef} {found : Buffer}
    (h : d.bufferStore[target.index]? = some found) :
    (bufferAt target : DriverM ε Buffer).run d = (.ok found, d) := by
  rw [bufferAt, run_get_bind, h]
  rfl

end Driver

end AvcDriver
