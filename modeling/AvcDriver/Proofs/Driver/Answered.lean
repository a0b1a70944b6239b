import AvcDriver.Proofs.Driver.Images
import AvcDriver.Proofs.Driver.Rejected
import AvcDriver.Proofs.Driver.Submission
import AvcDriver.Proofs.Surface.File

/-!
# Requests that are answered

What a request does where nothing is in its way: what it names is there, a handle is free, and the
memory that it needs can be had. The driver after it is told as a whole.

* `createSurfaces_file`: a surface in a memory file of its own.
* `createContext_run`: a context with its session.
* `createBuffer_run`, `destroyBuffer_run_owned`: a buffer of a context.
* `getImage_run`: a surface copied into an image.
-/

namespace AvcDriver.Driver

open AvcDriver.Action (run_bind_ok run_get_bind)
open Session (StoredAs)
open Surface (nv12Size)

variable {ε : Type} {d : Driver ε} {handle : Nat}

/-! ## Lookups -/

theorem config_run {c : Config} (h : d.configs.find? handle = some c) :
    (config handle : DriverM ε Config).run d = (.ok c, d) := by
  rw [config, run_get_bind, h]
  rfl

theorem image_run {i : Image} (h : d.images.find? handle = some i) :
    (image handle : DriverM ε Image).run d = (.ok i, d) := by
  rw [image, run_get_bind, h]
  rfl

theorem surfaceAt_run {target : SurfaceRef} {s : Surface}
    (h : d.surfaceStore[target.index]? = some s) :
    (surfaceAt target : DriverM ε Surface).run d = (.ok s, d) := by
  rw [surfaceAt, run_get_bind, h]
  rfl

/-! ## Configurations and surfaces -/

theorem createConfig_run {configs : Handle.Table Config}
    (hreserve : d.configs.reserve = .ok (handle, configs)) {profile : Config.Profile}
    {entrypoint : Config.Entrypoint} {attributes : List Config.Attribute} {config : Config}
    (hmake : Config.make handle profile entrypoint attributes = .ok config) :
    (createConfig profile entrypoint attributes).run d =
      (.ok handle, { d with configs := configs.commit handle config }) := by
  rw [createConfig, run_get_bind, hreserve]
  change (Action.ofExcept (Config.make handle profile entrypoint attributes) >>= _).run d = _
  rw [hmake]
  rfl

/-- A configuration that is there is destroyed. -/
theorem destroyConfig_run {config : Config} (h : d.configs.find? handle = some config) :
    ∃ configs, (destroyConfig handle).run d = (.ok (), { d with configs }) := by
  obtain ⟨configs, hremove⟩ : ∃ configs, d.configs.remove handle = some (config, configs) :=
    ⟨_, Handle.Table.removeIf_eq_some.2 ⟨h, rfl, rfl⟩⟩
  refine ⟨configs, ?_⟩
  rw [destroyConfig, run_get_bind, hremove]
  rfl

/-- Surfaces that are all there are required. -/
theorem requireSurfaces_run {handles : List Nat}
    (h : ∀ handle ∈ handles, ∃ target, d.surfaces.find? handle = some target) :
    (requireSurfaces handles : DriverM ε Unit).run d = (.ok (), d) := by
  have hnone : d.unknownSurface? handles = none := by
    refine List.find?_eq_none.2 fun handle hmem => ?_
    have hcontains := Handle.Table.contains_iff.2 (Handle.Table.mem_handles_iff.2 (h handle hmem))
    rw [hcontains]
    exact Bool.false_ne_true
  rw [requireSurfaces, run_get_bind, hnone]
  rfl

/-- So they are destroyed. -/
theorem destroySurfaces_run {handles : List Nat}
    (h : ∀ handle ∈ handles, ∃ target, d.surfaces.find? handle = some target) :
    (destroySurfaces handles).run d =
      (.ok (), { d with surfaces := withoutAll d.surfaces handles }) :=
  run_bind_ok (requireSurfaces_run h)

theorem createSurface_run {surfaces : Handle.Table SurfaceRef}
    (hreserve : d.surfaces.reserve = .ok (handle, surfaces)) {format width height : UInt32}
    {attributes : List Surface.Attribute}
    (hasks : Surface.asksMapper format width height attributes = true) {s : Surface}
    {memories : MemoryStore}
    (hmake : Surface.make d.mapper d.imports handle format width height attributes d.memories =
      .ok (s, memories)) :
    (createSurface format width height attributes).run d =
      (.ok handle, { d.withSurface handle surfaces s memories with imports := d.imports + 1 }) := by
  rw [createSurface, run_get_bind, hreserve]
  simp only [Action.ofFaulting, pure_bind, hasks, if_true]
  change (settle (Surface.make d.mapper d.imports handle format width height attributes
    d.memories) >>= _).run { d with imports := d.imports + 1 } = _
  rw [hmake]
  rfl

/-- **A surface in a memory file of its own.** It has room for its pictures, and opens. -/
theorem createSurfaces_file (hmapper : d.mapper = Memory.Mapper.shared)
    {surfaces : Handle.Table SurfaceRef} (hreserve : d.surfaces.reserve = .ok (handle, surfaces))
    {width height : UInt32} (hwidth : width ≠ 0 ∧ width ≤ maxSurfaceSide)
    (hheight : height ≠ 0 ∧ height ≤ maxSurfaceSide) (hsize : nv12Size width height < 2 ^ 32) :
    let size := (UInt32.ofNat (nv12Size width height)).toNat
    let memories := d.memories.push (.zeros size)
    ∃ s luma chroma, (createSurfaces Config.formatYuv420 width height 1
        (Surface.Descriptor.packed (.newFile size) width height).attributes).run d =
      (.ok [handle], { d.withSurface handle surfaces s memories with imports := d.imports + 1 }) ∧
      s.id = handle ∧ s.width = width ∧ s.height = height ∧ s.fourcc = fourccNv12 ∧ s.Opens ∧
      s.Roomy luma chroma ∧ s.Placed memories.size ∧ s.Housed memories ∧
      luma.memory = ⟨d.memories.size⟩ ∧ chroma.memory = ⟨d.memories.size⟩ := by
  intro size memories
  let file : MemoryRef := ⟨d.memories.size⟩
  let attributes := (Surface.Descriptor.packed (.file file) width height).attributes
  have hpacked := Surface.Descriptor.nv12_of_size_lt (.file file) hheight.1 hsize
  have hfile : MemoryStore.find? memories file = some (.zeros size) := Array.getElem?_push_size
  obtain ⟨s, luma, chroma, hmake, hid, hw, hh, hfourcc, hopens, hroomy, hluma, hchroma⟩ :=
    Surface.make_nv12_file hwidth.1 hheight.1 hpacked hfile
      (List.forall_mem_singleton.2 rfl) d.imports handle
  have hfaithful := Memory.Mapper.faithful_shared
  have hplaced := (Surface.placed_of_make hfaithful.sound hmake).2
  have hasks : Surface.asksMapper Config.formatYuv420 width height attributes = true :=
    Surface.asksMapper_of_make rfl hmake
  have hone : (createSurface Config.formatYuv420 width height attributes).run { d with memories } =
      (.ok handle, { d.withSurface handle surfaces s memories with imports := d.imports + 1 }) := by
    refine createSurface_run (d := { d with memories }) hreserve hasks ?_
    rw [hmapper]
    exact hmake
  refine ⟨s, luma, chroma, ?_, hid, hw, hh, hfourcc, hopens, hroomy, hplaced,
    Surface.housed_of_make hfaithful hmake, hluma, hchroma⟩
  have hsides : (decide (width ≤ maxSurfaceSide ∧ height ≤ maxSurfaceSide)) = true :=
    decide_eq_true ⟨hwidth.2, hheight.2⟩
  let asked := Surface.Descriptor.packed (.newFile size) width height
  have hopen : (openFiles asked.attributes).run d = (.ok attributes, { d with memories }) := rfl
  have hformat : isSurfaceFormat Config.formatYuv420 = true := rfl
  have hlist : (Action.ofFaulting (Memory.checkSize (handleListSize 1)) : DriverM ε Unit).run d =
    (.ok (), d) := rfl
  rw [createSurfaces, run_bind_ok (demand_run hformat _), run_bind_ok (demand_run hsides _),
    run_bind_ok hlist, run_bind_ok hopen]
  exact createEach_one_run hone

/-! ## Contexts -/

/-- A context with a session that has started. -/
theorem createContext_run {configHandle : Nat} {config : Config}
    (hconfig : d.configs.find? configHandle = some config) {targets : List Nat}
    (htargets : ∀ handle ∈ targets, ∃ target, d.surfaces.find? handle = some target)
    {width height : UInt32}
    {session : Session ε} {events : List Engine.Event}
    (hstart : Session.start d.factory d.engines d.settings.mode config.profile config.entrypoint
      (d.sessionOptions width height) = (.ok session, events)) {flag : Int32}
    {contexts : Handle.Table (Context ε)}
    (hcreate : (d.contexts.create fun id =>
      { id, config, width, height, flag, targets, session }) = .ok (handle, contexts)) :
    (createContext configHandle width height flag targets).run d =
      (.ok handle, { d with
        contexts
        engines := d.engines + events.length
        events := d.events ++ events }) := by
  have hsession : (startSession config width height : DriverM ε (Session ε)).run d =
      (.ok session, { d with
        engines := d.engines + events.length
        events := d.events ++ events }) := by
    rw [sessionOptions] at hstart
    rw [startSession, run_get_bind, hstart]
    rfl
  rw [createContext, run_bind_ok (config_run hconfig), run_bind_ok (requireSurfaces_run htargets),
    run_bind_ok hsession, run_get_bind]
  dsimp only
  rw [hcreate]
  rfl

/-- A context that is there is destroyed. -/
theorem destroyContext_run {c : Context ε} (h : d.contexts.find? handle = some c) :
    ∃ contexts, (destroyContext handle).run d = (.ok (), { d with contexts }) := by
  obtain ⟨contexts, hremove⟩ : ∃ contexts, d.contexts.remove handle = some (c, contexts) :=
    ⟨_, Handle.Table.removeIf_eq_some.2 ⟨h, rfl, rfl⟩⟩
  refine ⟨contexts, ?_⟩
  rw [destroyContext, run_get_bind, hremove]
  rfl

/-! ## Buffers -/

/-- A buffer that holds what it was made of. -/
theorem createBuffer_run {owner : Nat} {c : Context ε}
    (hcontext : d.contexts.find? owner = some c) {buffers : Handle.Table BufferRef}
    (hreserve : d.buffers.reserve = .ok (handle, buffers)) (kind : BufferKind) {bytes : Bytes}
    (hlength : bytes.length < UInt64.size) :
    (createBuffer owner kind bytes.length 1 (some (Block.ofBytes bytes))).run d =
      (.ok handle, d.withBuffer handle buffers {
        id := handle
        context := some owner
        kind
        memory := .ofBlock (Block.ofBytes bytes) }) := by
  have htotal : totalSize bytes.length 1 = .ok bytes.length := by
    rw [totalSize, Nat.mul_one, if_pos hlength]
  have hsize : (Block.ofBytes bytes).size = bytes.length := List.size_toArray
  have hmake : Buffer.make handle (some owner) kind bytes.length (some (Block.ofBytes bytes)) =
      .ok ⟨handle, some owner, kind, .ofBlock (Block.ofBytes bytes)⟩ := by
    rw [Buffer.make, if_pos hsize]
  have hadd : (addBuffer (some owner) kind bytes.length (some (Block.ofBytes bytes))).run d =
      (.ok (handle, ⟨d.bufferStore.size⟩), d.withBuffer handle buffers
        ⟨handle, some owner, kind, .ofBlock (Block.ofBytes bytes)⟩) := by
    rw [addBuffer, run_get_bind, hreserve, Action.ofFaulting, pure_bind]
    dsimp only
    rw [hmake]
    rfl
  rw [createBuffer, run_bind_ok (context_run hcontext), htotal]
  change (demand _ _ >>= _).run d = _
  rw [run_bind_ok (demand_run (decide_eq_true hsize) _), run_bind_ok hadd]
  rfl

/-- A buffer of a context is destroyed. -/
theorem destroyBuffer_run_owned {target : BufferRef} (hfind : d.buffers.find? handle = some target)
    (howned : d.isOwned target = true) :
    (destroyBuffer handle).run d = (.ok (), { d with
      buffers := { d.buffers with
        live := d.buffers.live.eraseP (·.1 == handle)
        next := min handle d.buffers.next } }) := by
  have hremove : d.buffers.removeIf handle d.isOwned = some (target, { d.buffers with
      live := d.buffers.live.eraseP (·.1 == handle)
      next := min handle d.buffers.next }) :=
    Handle.Table.removeIf_eq_some.2 ⟨hfind, howned, rfl⟩
  rw [destroyBuffer, run_get_bind, hremove]
  rfl

/-- Handles that lead to buffers in the store name them. -/
theorem named_of_storedAs {handles : List Nat} {items : List (BufferRef × BufferKind)}
    {buffers : List Buffer} (hstored : StoredAs d.bufferStore items buffers)
    (hfind : handles.map d.buffers.find? = items.map fun item => some item.1) :
    handles.mapM d.named = .ok items := by
  induction hstored generalizing handles with
  | nil =>
    rw [List.map_nil, List.map_eq_nil_iff] at hfind
    rw [hfind]
    rfl
  | @cons item buffer items buffers hstored _ ih =>
    obtain ⟨handle, rest, rfl, hhandle, hrest⟩ := List.map_eq_cons_iff.1 hfind
    obtain ⟨hbuffer, hkind⟩ := hstored
    have hnamed : d.named handle = .ok item := by
      simp only [named, hhandle, hbuffer, hkind]
    rw [List.mapM_cons, hnamed, ok_bind, ih hrest]
    rfl

/-- A client reads a buffer. -/
theorem mapBuffer_run {target : BufferRef} (hfind : d.buffers.find? handle = some target)
    {buffer : Buffer} (hbuffer : d.bufferStore[target.index]? = some buffer) {α : Type}
    (read : Memory → α) :
    (mapBuffer handle fun memory => (read memory, memory)).run d =
      (.ok (read buffer.memory), d) := by
  rw [mapBuffer, run_bind_ok (buffer_run hfind), run_bind_ok (bufferAt_run hbuffer)]
  dsimp only
  have hset : (setMemory target buffer.memory : DriverM ε Unit).run d = (.ok (), d) := by
    change (Except.ok (), { d with bufferStore := d.bufferStore.modify target.index _ }) = _
    rw [setMemory_self hbuffer]
  exact run_bind_ok hset

/-! ## Images -/

/-- A surface is copied into an image. -/
theorem getImage_run {surfaceHandle imageHandle : Nat} {target : SurfaceRef} {s : Surface}
    {i : Image} {before : Buffer} (htarget : d.surfaces.find? surfaceHandle = some target)
    (hsurface : d.surfaceStore[target.index]? = some s) (hmapped : s.isMapped = true)
    (himage : d.images.find? imageHandle = some i) {x y width height : UInt32}
    (harea : checkArea s i x y width height = .ok ())
    (hbefore : d.bufferStore[i.buffer.index]? = some before) {mapped : Bool} {after : Memory}
    (hdownload : s.download d.memories width height i.layout before.memory = (.ok mapped, after)) :
    (getImage surfaceHandle x y width height imageHandle).run d =
      (.ok (), { d with
        bufferStore := d.bufferStore.modify i.buffer.index fun buffer =>
          { buffer with memory := after } }) := by
  rw [getImage, run_bind_ok (surface_run htarget), run_bind_ok (surfaceAt_run hsurface),
    run_bind_ok (image_run himage), if_pos hmapped, harea, Action.ofExcept, pure_bind, run_get_bind,
    run_bind_ok (bufferAt_run hbefore)]
  dsimp only
  rw [hdownload]
  rfl

end AvcDriver.Driver
