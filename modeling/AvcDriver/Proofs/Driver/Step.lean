import AvcDriver.Proofs.Driver.Request
import AvcDriver.Proofs.Handle.Lookup
import Mathlib.Logic.Relation

/-!
# Steps of a driver

A request changes a driver in steps: a surface is added to a table and to the store, a
context moves on, an image goes together with its buffer. Whatever a request is answered,
also when it is rejected or stops half way, the driver has only made steps. So an invariant
of drivers is what every step keeps.

* `Step`: one change, with all that is known when it is made.
* `keeps_steps_perform`: every request leads along steps, however it ends.
* `steps_serveAll`: so does every history.
* `invariant_of_step`: what every step keeps holds after every history.
* `atRest_serveAll`: after every history the tables are at rest.
-/

namespace AvcDriver.Driver

open AvcDriver.Action (Ends Keeps)

variable {ε : Type}

/-- A driver with one more buffer, under a handle that was set aside. -/
def withBuffer (d : Driver ε) (handle : Nat) (buffers : Handle.Table BufferRef)
    (buffer : Buffer) : Driver ε :=
  { d with
    buffers := buffers.commit handle ⟨d.bufferStore.size⟩
    bufferStore := d.bufferStore.push buffer }

/-- A driver with one more surface, under a handle that was set aside. -/
def withSurface (d : Driver ε) (handle : Nat) (surfaces : Handle.Table SurfaceRef)
    (surface : Surface) (memories : MemoryStore) : Driver ε :=
  { d with
    surfaces := surfaces.commit handle ⟨d.surfaceStore.size⟩
    surfaceStore := d.surfaceStore.push surface
    memories }

/-- What a driver starts its sessions with. -/
def sessionOptions (d : Driver ε) (width height : UInt32) : Session.Options where
  width := width
  height := height
  settings := d.settings.engine
  capacity := d.settings.capacity

/-- The buffers that are left when an image goes. -/
def buffersWithout (d : Driver ε) (image : Image) : Handle.Table BufferRef :=
  match d.buffers.removeIf image.bufferHandle (· = image.buffer) with
  | some (_, buffers) => buffers
  | none => d.buffers

variable [Engine ε]

/-- One change to a driver. -/
inductive Step : Driver ε → Driver ε → Prop
  /-- a mapper or a factory is asked, and calls are noted -/
  | ask (d : Driver ε) (imports engines : Nat) (events : Array Engine.Event) :
    Step d { d with imports, engines, events }
  /-- memory files are made -/
  | openFiles (d : Driver ε) (attributes : List Surface.Attribute) :
    Step d { d with
      memories := ((attributes.mapM Surface.Attribute.opened).run d.memories).2 }
  | addConfig {d : Driver ε} {handle : Nat} {configs : Handle.Table Config}
    {profile : Config.Profile} {entrypoint : Config.Entrypoint}
    {attributes : List Config.Attribute} {config : Config}
    (hreserve : d.configs.reserve = .ok (handle, configs))
    (hmake : Config.make handle profile entrypoint attributes = .ok config) :
    Step d { d with configs := configs.commit handle config }
  | removeConfig {d : Driver ε} {handle : Nat} {config : Config} {configs : Handle.Table Config}
    (hremove : d.configs.remove handle = some (config, configs)) :
    Step d { d with configs }
  | addSurface {d : Driver ε} {handle earlier : Nat} {surfaces : Handle.Table SurfaceRef}
    {format width height : UInt32} {attributes : List Surface.Attribute} {surface : Surface}
    {memories : MemoryStore}
    (hreserve : d.surfaces.reserve = .ok (handle, surfaces))
    (hmake : Surface.make d.mapper earlier handle format width height attributes d.memories =
      .ok (surface, memories)) :
    Step d (d.withSurface handle surfaces surface memories)
  | removeSurface {d : Driver ε} {handle : Nat} {target : SurfaceRef}
    {surfaces : Handle.Table SurfaceRef}
    (hremove : d.surfaces.remove handle = some (target, surfaces)) :
    Step d { d with surfaces }
  | addContext {d : Driver ε} {configHandle handle asked : Nat} {config : Config}
    {contexts : Handle.Table (Context ε)} {session : Session ε}
    {width height : UInt32} {flag : Int32} {targets : List Nat}
    (hconfig : d.configs.find? configHandle = some config)
    (hstart : (Session.start d.factory asked d.settings.mode config.profile config.entrypoint
      (d.sessionOptions width height)).1 = .ok session)
    (hcreate : d.contexts.create (fun id =>
      { id, config, width, height, flag, targets, session }) = .ok (handle, contexts)) :
    Step d { d with contexts }
  | removeContext {d : Driver ε} {handle : Nat} {c : Context ε}
    {contexts : Handle.Table (Context ε)}
    (hremove : d.contexts.remove handle = some (c, contexts)) :
    Step d { d with contexts }
  | beginPicture {d : Driver ε} {handle surface : Nat} {c c' : Context ε} {target : SurfaceRef}
    (hfind : d.contexts.find? handle = some c) (htarget : d.surfaces.find? surface = some target)
    (hbegin : c.beginPicture target = .ok c') :
    Step d { d with contexts := d.contexts.modify handle fun _ => c' }
  | renderPicture {d : Driver ε} {handle : Nat} {c c' : Context ε}
    {buffers : List (BufferRef × BufferKind)}
    (hfind : d.contexts.find? handle = some c)
    (hbuffers : ∀ item ∈ buffers, item.1 ∈ d.buffers.objects)
    (hrender : c.renderPicture buffers = .ok c') :
    Step d { d with contexts := d.contexts.modify handle fun _ => c' }
  /-- also where ending the picture is rejected or stops -/
  | endPicture {d : Driver ε} {handle : Nat} {c c' : Context ε}
    {result : Except (Failure DriverError) (List Session.ReadyPicture)}
    {shared' : Session.Shared}
    (hfind : d.contexts.find? handle = some c)
    (hend : c.endPicture d.settings.patience d.bufferStore (isHeld d.surfaces d.contexts)
      { surfaces := d.surfaceStore, memories := d.memories, dump := d.dump, events := d.events } =
        (result, c', shared')) :
    Step d { d with
      contexts := d.contexts.modify handle fun _ => c'
      memories := shared'.memories
      dump := shared'.dump
      events := shared'.events }
  | addBuffer {d : Driver ε} {owner handle size : Nat} {c : Context ε} {kind : BufferKind}
    {data : Option Block} {buffers : Handle.Table BufferRef} {buffer : Buffer}
    (howner : d.contexts.find? owner = some c)
    (hreserve : d.buffers.reserve = .ok (handle, buffers))
    (hmake : Buffer.make handle (some owner) kind size data = .ok buffer) :
    Step d (d.withBuffer handle buffers buffer)
  | removeBuffer {d : Driver ε} {handle : Nat} {target : BufferRef}
    {buffers : Handle.Table BufferRef}
    (hremove : d.buffers.removeIf handle d.isOwned = some (target, buffers)) :
    Step d { d with buffers }
  | setMemory {d : Driver ε} {target : BufferRef}
    (hheld : target ∈ d.buffers.objects ∨ target ∈ d.images.objects.map (·.buffer))
    (memory : Memory) :
    Step d { d with
      bufferStore := d.bufferStore.modify target.index fun buffer => { buffer with memory } }
  /-- an image is added together with its buffer -/
  | addImage {d : Driver ε} {handle bufferHandle : Nat} {format : Image.Format}
    {width height : UInt32} {layout : Image.Layout} {buffers : Handle.Table BufferRef}
    {buffer : Buffer} {images : Handle.Table Image}
    (hlayout : Image.Layout.ofFormat format width height = .ok layout)
    (hbuffer : d.buffers.reserve = .ok (bufferHandle, buffers))
    (hmake : Buffer.make bufferHandle none .image layout.dataSize none = .ok buffer)
    (hreserve : d.images.reserve = .ok (handle, images)) :
    Step d { d.withBuffer bufferHandle buffers buffer with
      images := images.commit handle {
        id := handle
        format, width, height, layout, bufferHandle
        buffer := ⟨d.bufferStore.size⟩ } }
  /-- the buffer of an image is added, and there is no handle for the image -/
  | strandBuffer {d : Driver ε} {bufferHandle : Nat} {format : Image.Format}
    {width height : UInt32} {layout : Image.Layout} {buffers : Handle.Table BufferRef}
    {buffer : Buffer} {cause : Fault}
    (hlayout : Image.Layout.ofFormat format width height = .ok layout)
    (hbuffer : d.buffers.reserve = .ok (bufferHandle, buffers))
    (hmake : Buffer.make bufferHandle none .image layout.dataSize none = .ok buffer)
    (hreserve : d.images.reserve = .error cause) :
    Step d (d.withBuffer bufferHandle buffers buffer)
  | removeImage {d : Driver ε} {handle : Nat} {image : Image} {images : Handle.Table Image}
    (hremove : d.images.remove handle = some (image, images)) :
    Step d { d with images, buffers := d.buffersWithout image }

/-- Any number of changes. -/
abbrev Steps : Driver ε → Driver ε → Prop := Relation.ReflTransGen Step

/-! ## What parts of requests do -/

section Parts

omit [Engine ε]

variable {d : Driver ε}

/-- A buffer is added, or nothing is. -/
theorem addBuffer_ends {owner : Option Nat} {kind : BufferKind} {size : Nat}
    {data : Option Block}
    {Q : Except (Failure DriverError) (Nat × BufferRef) → Driver ε → Prop}
    (hadded : ∀ handle buffers buffer, d.buffers.reserve = .ok (handle, buffers) →
      Buffer.make handle owner kind size data = .ok buffer →
      Q (.ok (handle, ⟨d.bufferStore.size⟩)) (d.withBuffer handle buffers buffer))
    (hfault : ∀ cause, Q (.error (.faulted cause)) d) :
    Ends (addBuffer owner kind size data) d Q := by
  refine Ends.get_bind (Ends.ofFaulting_bind ?_ fun cause _ => hfault cause)
  rintro ⟨handle, buffers⟩ hreserve
  refine Ends.ofFaulting_bind (fun buffer hmake => ?_) fun cause _ => hfault cause
  exact Ends.set_bind (hadded handle buffers buffer hreserve hmake)

/-- A surface is added, or the mapper was asked at most. -/
theorem createSurface_ends {format width height : UInt32} {attributes : List Surface.Attribute}
    {Q : Except (Failure DriverError) Nat → Driver ε → Prop}
    (hadded : ∀ imports handle surfaces surface memories,
      d.surfaces.reserve = .ok (handle, surfaces) →
      Surface.make d.mapper d.imports handle format width height attributes d.memories =
        .ok (surface, memories) →
      Q (.ok handle) (withSurface { d with imports } handle surfaces surface memories))
    (hfailed : ∀ imports failure, Q (.error failure) { d with imports }) :
    Ends (createSurface format width height attributes) d Q := by
  refine Ends.get_bind (Ends.ofFaulting_bind ?_ fun cause _ => hfailed d.imports (.faulted cause))
  rintro ⟨handle, surfaces⟩ hreserve
  -- whether the mapper is asked shows in the count of imports only
  suffices h : ∀ imports, Ends (do
      let made ← settle
        (Surface.make d.mapper d.imports handle format width height attributes d.memories)
      modify fun d => { d with
        surfaces := surfaces.commit handle ⟨d.surfaceStore.size⟩
        surfaceStore := d.surfaceStore.push made.1
        memories := made.2 }
      pure handle : DriverM ε Nat) { d with imports } Q by
    dsimp only
    split
    · exact Ends.set_bind (h _)
    · exact h d.imports
  intro imports
  refine Ends.settle_bind ?_ fun failure _ => hfailed imports failure
  rintro ⟨surface, memories⟩ hmake
  exact hadded imports handle surfaces surface memories hreserve hmake

/-- A request on a list of surfaces goes on if all of them are there. -/
theorem ends_requireSurfaces_bind {β : Type} {handles : List Nat}
    {next : Unit → DriverM ε β} {Q : Except (Failure DriverError) β → Driver ε → Prop}
    (hlive : Ends (next ()) d Q) (hbad : ∀ failure, Q (.error failure) d) :
    Ends (requireSurfaces handles >>= next) d Q := by
  rw [requireSurfaces, bind_assoc]
  refine Ends.get_bind ?_
  split
  · exact hbad _
  · exact hlive

/-- A session is started or not; what is asked for on the way is noted. -/
theorem startSession_ends {c : Config} {width height : UInt32}
    {Q : Except (Failure DriverError) (Session ε) → Driver ε → Prop}
    (h : ∀ engines events, Q (Session.start d.factory d.engines d.settings.mode c.profile
      c.entrypoint (d.sessionOptions width height)).1 { d with engines, events }) :
    Ends (startSession c width height) d Q := by
  refine Ends.get_bind ?_
  rcases hstart : Session.start d.factory d.engines d.settings.mode c.profile c.entrypoint
    { width, height, settings := d.settings.engine, capacity := d.settings.capacity }
    with ⟨result, events⟩
  have hstarted := h (d.engines + events.length) (d.events ++ events)
  rw [sessionOptions, hstart] at hstarted
  rcases result with failure | session
  · exact Ends.set_bind hstarted
  · exact Ends.set_bind hstarted

/-- A buffer that is named is found, and naming it changes nothing. -/
theorem namedBuffer_ends (handle : Nat) :
    Ends (namedBuffer handle) d fun result d' => d' = d ∧
      ∀ item, result = .ok item → item.1 ∈ d.buffers.objects := by
  refine Ends.buffer_bind (fun target htarget => ?_) fun _ => ⟨rfl, by rintro _ ⟨⟩⟩
  refine Ends.bufferAt_bind (fun buffer _ => ⟨rfl, ?_⟩) fun _ => ⟨rfl, by rintro _ ⟨⟩⟩
  rintro _ ⟨⟩
  exact Handle.Table.mem_objects_of_find? htarget

end Parts

/-! ## Requests lead along steps -/

section Requests

variable {start : Driver ε}

/-- A configuration that is refused makes no step. -/
theorem keeps_steps_createConfig (profile : Config.Profile) (entrypoint : Config.Entrypoint)
    (attributes : List Config.Attribute) :
    Keeps (Steps start) (createConfig profile entrypoint attributes) := by
  intro d hd
  refine Ends.get_bind (Ends.ofFaulting_bind ?_ fun _ _ => hd)
  rintro ⟨handle, configs⟩ hreserve
  refine Ends.ofExcept_bind ?_ fun _ _ => hd
  intro config hmake
  exact hd.tail (.addConfig hreserve hmake)

theorem keeps_steps_destroyConfig (handle : Nat) :
    Keeps (Steps start) (destroyConfig handle) := by
  intro d hd
  refine Ends.get_bind (Ends.require_bind ?_ fun _ => hd)
  rintro ⟨config, configs⟩ hremove
  exact hd.tail (.removeConfig hremove)

theorem keeps_steps_createSurface (format width height : UInt32)
    (attributes : List Surface.Attribute) :
    Keeps (Steps start) (createSurface format width height attributes) := by
  intro d hd
  refine createSurface_ends ?_ fun imports _ => hd.tail (.ask d imports d.engines d.events)
  intro imports handle surfaces surface memories hreserve hmake
  have hasked := hd.tail (.ask d imports d.engines d.events)
  exact hasked.tail (.addSurface hreserve hmake)

/-- A surface leaves the table and stays in the store. -/
theorem keeps_steps_destroySurface (handle : Nat) :
    Keeps (Steps start) (destroySurface handle) := by
  intro d hd
  refine Ends.get_bind (Ends.ofFaulting_bind ?_ fun _ _ => hd)
  rintro ⟨target, surfaces⟩ hdestroy
  rw [Handle.Table.destroy] at hdestroy
  split at hdestroy
  · next hremove =>
    cases hdestroy
    exact hd.tail (.removeSurface hremove)
  · cases hdestroy

/-- Surfaces that are made are a step each, and so are those that are destroyed because another one
was refused. -/
theorem keeps_steps_createSurfaces (format width height : UInt32) (count : Nat)
    (attributes : List Surface.Attribute) :
    Keeps (Steps start) (createSurfaces format width height count attributes) :=
  Keeps.createSurfaces (fun attributes d hd => hd.tail (.openFiles d attributes))
    (keeps_steps_createSurface format width height) keeps_steps_destroySurface count attributes

/-- Handles are given back one by one. -/
theorem steps_withoutAll (handles : List Nat) (d : Driver ε) :
    Steps d { d with surfaces := withoutAll d.surfaces handles } := by
  induction handles generalizing d with
  | nil => exact .refl
  | cons handle rest ih =>
    rw [withoutAll, List.foldl_cons]
    rcases hremove : d.surfaces.remove handle with _ | ⟨target, surfaces⟩
    · exact ih d
    · exact .head (.removeSurface hremove) (ih { d with surfaces })

/-- That an engine was asked for is a step also if no context comes of it. -/
theorem keeps_steps_createContext (configHandle : Nat) (width height : UInt32) (flag : Int32)
    (targets : List Nat) :
    Keeps (Steps start) (createContext configHandle width height flag targets) := by
  intro d hd
  refine Ends.config_bind (fun config hconfig => ?_) fun _ => hd
  refine ends_requireSurfaces_bind ?_ fun _ => hd
  refine (startSession_ends (Q := fun result d' => Steps start d' ∧
    d'.configs.find? configHandle = some config ∧
    (Session.start d'.factory d.engines d'.settings.mode config.profile config.entrypoint
      (d'.sessionOptions width height)).1 = result) ?_).bind ?_ fun _ _ h => h.1
  · exact fun engines events => ⟨hd.tail (.ask d d.imports engines events), hconfig, rfl⟩
  · rintro session d' ⟨hd', hconfig', hstart⟩
    refine Ends.get_bind (Ends.ofFaulting_bind ?_ fun _ _ => hd')
    rintro ⟨id, contexts⟩ hcreate
    exact hd'.tail (.addContext hconfig' hstart hcreate)

theorem keeps_steps_destroyContext (handle : Nat) :
    Keeps (Steps start) (destroyContext handle) := by
  intro d hd
  refine Ends.get_bind (Ends.require_bind ?_ fun _ => hd)
  rintro ⟨c, contexts⟩ hremove
  exact hd.tail (.removeContext hremove)

theorem keeps_steps_beginPicture (handle surface : Nat) :
    Keeps (Steps start) (beginPicture handle surface) := by
  intro d hd
  refine Ends.surface_bind (fun target htarget => ?_) fun _ => hd
  refine Ends.context_bind (fun c hfind => ?_) fun _ => hd
  refine Ends.settle_bind (fun c' hbegin => ?_) fun _ _ => hd
  exact hd.tail (.beginPicture hfind htarget hbegin)

theorem keeps_steps_renderPicture (handle : Nat) (handles : List Nat) :
    Keeps (Steps start) (renderPicture handle handles) := by
  intro d hd
  refine Ends.context_bind (fun c hfind => ?_) fun _ => hd
  refine Ends.mapM_bind namedBuffer_ends (fun named hnamed => ?_) fun _ => hd
  refine Ends.settle_bind (fun c' hrender => ?_) fun _ _ => hd
  exact hd.tail (.renderPicture hfind hnamed hrender)

/-- The end of a picture moves its context on, whether or not the picture was decoded. -/
theorem keeps_steps_endPicture (handle : Nat) : Keeps (Steps start) (endPicture handle) := by
  intro d hd
  refine Ends.context_bind (fun c hfind => Ends.get_bind ?_) fun _ => hd
  rcases hend : c.endPicture d.settings.patience d.bufferStore (isHeld d.surfaces d.contexts)
    { surfaces := d.surfaceStore, memories := d.memories, dump := d.dump, events := d.events }
    with ⟨result, c', shared'⟩
  have hended := hd.tail (.endPicture hfind hend)
  dsimp only
  rw [hend]
  refine Ends.set_bind ?_
  rcases result with failure | pictures
  · exact hended
  · exact hended

theorem keeps_steps_createBuffer (owner : Nat) (kind : BufferKind) (size count : Nat)
    (data : Option Block) : Keeps (Steps start) (createBuffer owner kind size count data) := by
  intro d hd
  refine Ends.context_bind (fun c howner => ?_) fun _ => hd
  refine Ends.ofExcept_bind (fun total _ => ?_) fun _ _ => hd
  have hadd : Ends (addBuffer (some owner) kind total data >>= fun made => pure made.1) d
      fun _ => Steps start := by
    refine Ends.bind (addBuffer_ends (Q := fun _ => Steps start) ?_ fun _ => hd)
      (fun _ _ h => h) fun _ _ h => h
    intro handle buffers buffer hreserve hmake
    exact hd.tail (.addBuffer howner hreserve hmake)
  rcases data with _ | block
  · exact hadd
  · exact Ends.demand_bind (fun _ => hadd) fun _ => hd

theorem keeps_steps_mapBuffer {α : Type} (handle : Nat) (access : Memory → α × Memory) :
    Keeps (Steps start) (mapBuffer handle access) := by
  intro d hd
  refine Ends.buffer_bind (fun target htarget => ?_) fun _ => hd
  refine Ends.bufferAt_bind (fun buffer _ => ?_) fun _ => hd
  exact hd.tail (.setMemory (.inl (Handle.Table.mem_objects_of_find? htarget)) _)

theorem keeps_steps_resizeBuffer (handle size : Nat) :
    Keeps (Steps start) (resizeBuffer handle size) := by
  intro d hd
  refine Ends.buffer_bind (fun target htarget => ?_) fun _ => hd
  refine Ends.bufferAt_bind (fun buffer _ => ?_) fun _ => hd
  refine Ends.ofFaulting_bind (fun memory _ => ?_) fun _ _ => hd
  exact hd.tail (.setMemory (.inl (Handle.Table.mem_objects_of_find? htarget)) memory)

theorem keeps_steps_destroyBuffer (handle : Nat) :
    Keeps (Steps start) (destroyBuffer handle) := by
  intro d hd
  refine Ends.get_bind (Ends.require_bind ?_ fun _ => hd)
  rintro ⟨target, buffers⟩ hremove
  exact hd.tail (.removeBuffer hremove)

/-- An image and its buffer are one step. Without a handle for the image, the buffer is stranded. -/
theorem keeps_steps_createImage (format : Image.Format) (width height : UInt32) :
    Keeps (Steps start) (createImage format width height) := by
  intro d hd
  refine Ends.settle_bind (fun layout hlayout => ?_) fun _ _ => hd
  -- the buffer alone makes no step: it is added with the image, or stranded without
  refine (addBuffer_ends (Q := fun result d' => (∃ cause, result = .error cause ∧ d' = d) ∨
    ∃ handle buffers buffer, d.buffers.reserve = .ok (handle, buffers) ∧
      Buffer.make handle none .image layout.dataSize none = .ok buffer ∧
      result = .ok (handle, ⟨d.bufferStore.size⟩) ∧ d' = d.withBuffer handle buffers buffer)
    ?_ ?_).bind ?_ ?_
  · intro handle buffers buffer hbuffer hmake
    exact .inr ⟨handle, buffers, buffer, hbuffer, hmake, rfl, rfl⟩
  · exact fun cause => .inl ⟨_, rfl, rfl⟩
  · rintro made d' (⟨cause, ⟨⟩, -⟩ | ⟨handle, buffers, buffer, hbuffer, hmake, hmade, rfl⟩)
    cases hmade
    refine Ends.get_bind (Ends.ofFaulting_bind ?_ ?_)
    · rintro ⟨id, images⟩ hreserve
      exact hd.tail (.addImage hlayout hbuffer hmake hreserve)
    · intro cause hreserve
      exact hd.tail (.strandBuffer hlayout hbuffer hmake hreserve)
  · rintro failure d' (⟨cause, -, rfl⟩ | ⟨_, _, _, _, _, ⟨⟩, _⟩)
    exact hd

theorem keeps_steps_destroyImage (handle : Nat) :
    Keeps (Steps start) (destroyImage handle) := by
  intro d hd
  refine Ends.get_bind (Ends.require_bind ?_ fun _ => hd)
  rintro ⟨image, images⟩ hremove
  exact hd.tail (.removeImage hremove)

theorem keeps_steps_getImage (surface : Nat) (x y width height : UInt32) (image : Nat) :
    Keeps (Steps start) (getImage surface x y width height image) := by
  intro d hd
  refine Ends.surface_bind (fun target _ => ?_) fun _ => hd
  refine Ends.surfaceAt_bind (fun s _ => ?_) fun _ => hd
  refine Ends.image_bind (fun i hfind => ?_) fun _ => hd
  split
  · refine Ends.ofExcept_bind (fun _ _ => ?_) fun _ _ => hd
    -- bytes that were copied stay, however the copy ends
    refine Ends.get_bind (Ends.bufferAt_bind (fun buffer _ => ?_) fun _ => hd)
    have hheld : i.buffer ∈ d.images.objects.map (·.buffer) :=
      List.mem_map_of_mem (Handle.Table.mem_objects_of_find? hfind)
    have hset := hd.tail (.setMemory (.inr hheld)
      (s.download d.memories width height i.layout buffer.memory).2)
    exact Ends.modify_bind (Ends.settle_bind (fun _ _ => hset) fun _ _ => hset)
  · exact hd

/-- **Every request leads along steps**, however it ends. -/
theorem keeps_steps_perform (request : Request) :
    Keeps (Steps start) (request.perform : DriverM ε Unit) := by
  cases request with
  | createConfig profile entrypoint attributes =>
    exact (keeps_steps_createConfig profile entrypoint attributes).bind fun _ => Keeps.pure ()
  | destroyConfig handle => exact keeps_steps_destroyConfig handle
  | surfaceAttributes config =>
    exact fun _ hd => Ends.bind (R := fun _ => Steps start)
      (Ends.config_bind (fun _ _ => hd) fun _ => hd) (fun _ _ h => h) fun _ _ h => h
  | createSurfaces format width height count attributes =>
    exact (keeps_steps_createSurfaces format width height count attributes).bind fun _ =>
      Keeps.pure ()
  | destroySurfaces handles =>
    exact fun d hd =>
      ends_requireSurfaces_bind (hd.trans (steps_withoutAll handles d)) fun _ => hd
  | syncSurface handle => exact fun _ hd => Ends.surface_bind (fun _ _ => hd) fun _ => hd
  | createContext config width height flag targets =>
    exact (keeps_steps_createContext config width height flag targets).bind fun _ => Keeps.pure ()
  | destroyContext handle => exact keeps_steps_destroyContext handle
  | createBuffer owner kind size count data =>
    exact (keeps_steps_createBuffer owner kind size count data).bind fun _ => Keeps.pure ()
  | mapBuffer handle access => exact keeps_steps_mapBuffer handle fun memory => ((), access memory)
  | resizeBuffer handle size => exact keeps_steps_resizeBuffer handle size
  | destroyBuffer handle => exact keeps_steps_destroyBuffer handle
  | createImage format width height =>
    exact (keeps_steps_createImage format width height).bind fun _ => Keeps.pure ()
  | destroyImage handle => exact keeps_steps_destroyImage handle
  | getImage surface x y width height image =>
    exact keeps_steps_getImage surface x y width height image
  | beginPicture context surface => exact keeps_steps_beginPicture context surface
  | renderPicture context buffers => exact keeps_steps_renderPicture context buffers
  | endPicture context => exact (keeps_steps_endPicture context).bind fun _ => Keeps.pure ()
  | sessionState context =>
    exact fun _ hd => Ends.bind (R := fun _ => Steps start)
      (Ends.context_bind (fun _ _ => hd) fun _ => hd) (fun _ _ h => h) fun _ _ h => h

end Requests

/-- A history leads along steps. -/
theorem steps_serveAll (requests : List Request) (d : Driver ε) :
    Steps d (d.serveAll requests) := by
  induction requests generalizing d with
  | nil => exact .refl
  | cons request rest ih =>
    rw [serveAll, List.foldl_cons]
    exact (keeps_steps_perform request d .refl).trans (ih _)

/-- **What every step keeps, a history keeps.** -/
theorem invariant_of_step {I : Driver ε → Prop}
    (hstep : ∀ {d d' : Driver ε}, Step d d' → I d → I d') {d d' : Driver ε} (hd : I d)
    (h : Steps d d') : I d' := by
  induction h with
  | refl => exact hd
  | tail _ hnext ih => exact hstep hnext ih

/-! ## Tables at rest -/

/-- All tables are at rest. -/
structure AtRest (d : Driver ε) : Prop where
  configs : d.configs.AtRest
  surfaces : d.surfaces.AtRest
  contexts : d.contexts.AtRest
  buffers : d.buffers.AtRest
  images : d.images.AtRest

omit [Engine ε] in
/-- A driver that was just made has empty tables. -/
theorem atRest_make (settings : Settings) (mapper : Memory.Mapper) (factory : Engine.Factory ε) :
    (make settings mapper factory).AtRest where
  configs := Handle.Table.atRest_empty
  surfaces := Handle.Table.atRest_empty
  contexts := Handle.Table.atRest_empty
  buffers := Handle.Table.atRest_empty
  images := Handle.Table.atRest_empty

/-- No step leaves anything half made behind. -/
theorem AtRest.step {d d' : Driver ε} (h : Step d d') (hd : d.AtRest) : d'.AtRest := by
  cases h with
  | ask => exact { hd with }
  | openFiles => exact { hd with }
  | addConfig hreserve => exact { hd with configs := hd.configs.reserve_commit hreserve _ }
  | removeConfig hremove => exact { hd with configs := hd.configs.removeIf hremove }
  | addSurface hreserve => exact { hd with surfaces := hd.surfaces.reserve_commit hreserve _ }
  | removeSurface hremove => exact { hd with surfaces := hd.surfaces.removeIf hremove }
  | addContext _ _ hcreate => exact { hd with contexts := hd.contexts.create hcreate }
  | removeContext hremove => exact { hd with contexts := hd.contexts.removeIf hremove }
  | beginPicture => exact { hd with contexts := hd.contexts.modify _ fun _ => _ }
  | renderPicture => exact { hd with contexts := hd.contexts.modify _ fun _ => _ }
  | endPicture => exact { hd with contexts := hd.contexts.modify _ fun _ => _ }
  | addBuffer _ hreserve => exact { hd with buffers := hd.buffers.reserve_commit hreserve _ }
  | removeBuffer hremove => exact { hd with buffers := hd.buffers.removeIf hremove }
  | setMemory => exact { hd with }
  | addImage _ hbuffer _ hreserve =>
    exact { hd with
      buffers := hd.buffers.reserve_commit hbuffer _
      images := hd.images.reserve_commit hreserve _ }
  | strandBuffer _ hbuffer => exact { hd with buffers := hd.buffers.reserve_commit hbuffer _ }
  | removeImage hremove =>
    refine { hd with buffers := ?_, images := hd.images.removeIf hremove }
    rw [buffersWithout]
    split
    · next hbuffer => exact hd.buffers.removeIf hbuffer
    · exact hd.buffers

/-- After every history the tables are at rest. -/
theorem atRest_serveAll (settings : Settings) (mapper : Memory.Mapper)
    (factory : Engine.Factory ε) (history : List Request) :
    ((make settings mapper factory).serveAll history).AtRest :=
  invariant_of_step AtRest.step (atRest_make settings mapper factory) (steps_serveAll history _)

end AvcDriver.Driver
