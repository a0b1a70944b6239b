import AvcDriver.Proofs.Driver.Step
import AvcDriver.Proofs.Session.Sound
import AvcDriver.Proofs.Surface.Import

/-!
# Drivers that hold what is there

The tables of a driver, its images and its sessions name surfaces and buffers by reference, and
surfaces lie in memory that they name. A driver is sound if all that is named is there. It is so
when it is made, and every step keeps it so, provided that the mapper can be relied on.

* `Sound`: all that a driver names is there.
* `Sound.step`: every step keeps a driver sound.
* `sound_serveAll`: drivers are sound after every history.
-/

namespace AvcDriver.Driver

open Engine (Behaves Factory)

variable {ε : Type} {good : ε → Prop}

/-- All that a driver names is there, its mapper can be relied on, and its engines are in states
`good`, also those that are still to be made. -/
structure Sound (good : ε → Prop) (d : Driver ε) : Prop where
  mapper : d.mapper.Sound
  factory : ∀ earlier params engine, d.factory earlier params = .ok engine → good engine
  placed : ∀ surface ∈ d.surfaceStore, surface.Placed d.memories.size
  surfaces : ∀ target ∈ d.surfaces.objects, target.index < d.surfaceStore.size
  buffers : ∀ target ∈ d.buffers.objects, target.index < d.bufferStore.size
  images : ∀ image ∈ d.images.objects, image.buffer.index < d.bufferStore.size
  sessions : ∀ c ∈ d.contexts.objects,
    c.session.Sound good d.surfaceStore.size d.bufferStore.size

/-- A driver that is made names nothing. -/
theorem sound_make {settings : Settings} {mapper : Memory.Mapper} {factory : Factory ε}
    (hmapper : mapper.Sound)
    (hfactory : ∀ earlier params engine, factory earlier params = .ok engine → good engine) :
    (make settings mapper factory).Sound good where
  mapper := hmapper
  factory := hfactory
  placed := by
    rintro surface hmem
    exact absurd hmem (Array.not_mem_empty surface)
  surfaces := by rintro _ ⟨⟩
  buffers := by rintro _ ⟨⟩
  images := by rintro _ ⟨⟩
  sessions := by rintro _ ⟨⟩

namespace Sound

variable {d : Driver ε}

/-- Objects of a table may go. -/
theorem withSurfaces (h : d.Sound good) {surfaces : Handle.Table SurfaceRef}
    (hsub : surfaces.objects ⊆ d.surfaces.objects) : Sound good { d with surfaces } :=
  { h with surfaces := fun target hmem => h.surfaces target (hsub hmem) }

theorem withBuffers (h : d.Sound good) {buffers : Handle.Table BufferRef}
    (hsub : buffers.objects ⊆ d.buffers.objects) : Sound good { d with buffers } :=
  { h with buffers := fun target hmem => h.buffers target (hsub hmem) }

theorem withImages (h : d.Sound good) {images : Handle.Table Image}
    (hsub : images.objects ⊆ d.images.objects) : Sound good { d with images } :=
  { h with images := fun image hmem => h.images image (hsub hmem) }

theorem withContexts (h : d.Sound good) {contexts : Handle.Table (Context ε)}
    (hsessions : ∀ c ∈ contexts.objects, c ∈ d.contexts.objects ∨
      c.session.Sound good d.surfaceStore.size d.bufferStore.size) :
    Sound good { d with contexts } :=
  { h with
    sessions := fun c hmem => (hsessions c hmem).elim (h.sessions c) id }

/-- Memory may be added. -/
theorem withMemories (h : d.Sound good) {memories : MemoryStore}
    (hsize : d.memories.size ≤ memories.size) : Sound good { d with memories } :=
  { h with placed := fun surface hmem => (h.placed surface hmem).mono hsize }

/-- The bytes of a buffer may change. -/
theorem setMemory (h : d.Sound good) (target : BufferRef) (memory : Memory) :
    Sound good { d with
      bufferStore := d.bufferStore.modify target.index fun buffer => { buffer with memory } } := by
  have hsize : (d.bufferStore.modify target.index fun buffer => { buffer with memory }).size =
      d.bufferStore.size := Array.size_modify
  refine { h with buffers := ?_, images := ?_, sessions := ?_ }
  · rw [hsize]
    exact h.buffers
  · rw [hsize]
    exact h.images
  · rw [hsize]
    exact h.sessions

/-- A surface is added to the store, and a handle for it to the table. -/
theorem addSurface (h : d.Sound good) {handle : Nat} {surfaces : Handle.Table SurfaceRef}
    (hreserve : d.surfaces.reserve = .ok (handle, surfaces)) {surface : Surface}
    {memories : MemoryStore} (hsize : d.memories.size ≤ memories.size)
    (hplaced : surface.Placed memories.size) :
    Sound good { d with
      surfaces := surfaces.commit handle ⟨d.surfaceStore.size⟩
      surfaceStore := d.surfaceStore.push surface
      memories } := by
  have hpush : (d.surfaceStore.push surface).size = d.surfaceStore.size + 1 := Array.size_push _
  refine { h with placed := ?_, surfaces := ?_, sessions := ?_ }
  · intro other hmem
    rcases Array.mem_push.1 hmem with hold | rfl
    · exact (h.placed other hold).mono hsize
    · exact hplaced
  · rw [Handle.Table.objects_reserve_commit hreserve, hpush]
    intro target hmem
    rcases List.mem_cons.1 hmem with rfl | hold
    · exact Nat.lt_succ_self _
    · exact Nat.lt_succ_of_lt (h.surfaces target hold)
  · intro c hmem
    rw [hpush]
    exact (h.sessions c hmem).mono (Nat.le_succ _) (Nat.le_refl _)

/-- A buffer is added to the store, and a handle for it to the table. -/
theorem addBuffer (h : d.Sound good) {handle : Nat} {buffers : Handle.Table BufferRef}
    (hreserve : d.buffers.reserve = .ok (handle, buffers)) (buffer : Buffer) :
    Sound good { d with
      buffers := buffers.commit handle ⟨d.bufferStore.size⟩
      bufferStore := d.bufferStore.push buffer } := by
  have hpush : (d.bufferStore.push buffer).size = d.bufferStore.size + 1 := Array.size_push _
  refine { h with buffers := ?_, images := ?_, sessions := ?_ }
  · rw [Handle.Table.objects_reserve_commit hreserve, hpush]
    intro target hmem
    rcases List.mem_cons.1 hmem with rfl | hold
    · exact Nat.lt_succ_self _
    · exact Nat.lt_succ_of_lt (h.buffers target hold)
  · intro image hmem
    rw [hpush]
    exact Nat.lt_succ_of_lt (h.images image hmem)
  · intro c hmem
    rw [hpush]
    exact (h.sessions c hmem).mono (Nat.le_refl _) (Nat.le_succ _)

/-- A context whose session is sound may be replaced by another one. -/
theorem setContext (hd : d.Sound good) (handle : Nat) {c : Context ε}
    (hc : c.session.Sound good d.surfaceStore.size d.bufferStore.size) :
    Sound good { d with contexts := d.contexts.modify handle fun _ => c } := by
  refine hd.withContexts ?_
  intro other hmem
  rcases Handle.Table.mem_objects_modify hmem with hold | ⟨old, -, rfl⟩
  · exact .inl hold
  · exact .inr hc

/-- However a picture ends, its context has a sound session, and no memory has gone. -/
theorem endPicture [Engine ε] {stops : Fault → Prop} (hengine : Behaves good stops)
    (hd : d.Sound good) {c c' : Context ε} (hmem : c ∈ d.contexts.objects)
    {owned : SurfaceRef → Bool} {shared' : Session.Shared}
    {outcome : Except (Failure DriverError) (List Session.ReadyPicture)}
    (hend : c.endPicture d.settings.patience d.bufferStore owned
      { surfaces := d.surfaceStore, memories := d.memories, dump := d.dump, events := d.events } =
        (outcome, c', shared')) :
    c'.session.Sound good d.surfaceStore.size d.bufferStore.size ∧
      shared'.memories.size = d.memories.size := by
  rw [Context.endPicture] at hend
  split at hend
  · cases hend
    exact ⟨hd.sessions c hmem, rfl⟩
  · rcases hrun : c.session.run d.settings.patience d.bufferStore owned
      { surfaces := d.surfaceStore, memories := d.memories, dump := d.dump, events := d.events }
      with ⟨result, session, after⟩
    rw [hrun] at hend
    cases hend
    exact (hd.sessions c hmem).run hengine hd.placed hrun

/-- **Every step keeps a driver sound.** -/
theorem step [Engine ε] {stops : Fault → Prop} (hengine : Behaves good stops) {d' : Driver ε}
    (h : Step d d') (hd : d.Sound good) : d'.Sound good := by
  cases h with
  | ask => exact { hd with }
  | openFiles attributes =>
    exact hd.withMemories
      (Memory.Adds.mapM Surface.Attribute.adds_opened attributes d.memories).size_le
  | addConfig => exact { hd with }
  | removeConfig => exact { hd with }
  | addSurface hreserve hmake =>
    obtain ⟨hsize, hplaced⟩ := Surface.placed_of_make hd.mapper hmake
    exact hd.addSurface hreserve hsize hplaced
  | removeSurface hremove => exact hd.withSurfaces (Handle.Table.objects_removeIf hremove)
  | addContext _ hstart hcreate =>
    refine hd.withContexts ?_
    intro c hmem
    rw [Handle.Table.objects_create hcreate] at hmem
    rcases List.mem_cons.1 hmem with rfl | hold
    · exact .inr (Session.Sound.start hd.factory (Prod.ext hstart rfl))
    · exact .inl hold
  | removeContext hremove =>
    exact hd.withContexts fun c hmem => .inl (Handle.Table.objects_removeIf hremove hmem)
  | beginPicture hfind htarget hbegin =>
    obtain ⟨⟨⟩, -, hbegin⟩ := bind_eq_ok.1 hbegin
    obtain ⟨session, hset, hc'⟩ := bind_eq_ok.1 hbegin
    cases hc'
    have hsession := hd.sessions _ (Handle.Table.mem_objects_of_find? hfind)
    exact hd.setContext _ (hsession.setRenderTarget
      (hd.surfaces _ (Handle.Table.mem_objects_of_find? htarget)) (mapError_eq_ok.1 hset))
  | renderPicture hfind hbuffers hrender =>
    obtain ⟨⟨⟩, -, hrender⟩ := bind_eq_ok.1 hrender
    obtain ⟨session, hset, hc'⟩ := bind_eq_ok.1 hrender
    cases hc'
    have hsession := hd.sessions _ (Handle.Table.mem_objects_of_find? hfind)
    exact hd.setContext _ (hsession.enqueueWork
      (fun item hmem => hd.buffers _ (hbuffers item hmem)) (mapError_eq_ok.1 hset))
  | endPicture hfind hend =>
    obtain ⟨hsession, hsize⟩ := hd.endPicture hengine (Handle.Table.mem_objects_of_find? hfind) hend
    exact { (hd.setContext _ hsession).withMemories (Nat.le_of_eq hsize.symm) with }
  | addBuffer _ hreserve _ => exact hd.addBuffer hreserve _
  | removeBuffer hremove => exact hd.withBuffers (Handle.Table.objects_removeIf hremove)
  | setMemory _ memory => exact hd.setMemory _ memory
  | addImage _ hbuffer _ hreserve =>
    refine { hd.addBuffer hbuffer _ with images := ?_ }
    rw [Handle.Table.objects_reserve_commit hreserve]
    refine List.forall_mem_cons.2 ⟨?_, (hd.addBuffer hbuffer _).images⟩
    exact Nat.lt_of_lt_of_eq (Nat.lt_succ_self _) (Array.size_push _).symm
  | strandBuffer _ hbuffer _ _ => exact hd.addBuffer hbuffer _
  | removeImage hremove =>
    have himages := hd.withImages (Handle.Table.objects_removeIf hremove)
    refine himages.withBuffers ?_
    -- the image's buffer may have been destroyed on its own before
    rw [buffersWithout]
    split
    · next hbuffer => exact Handle.Table.objects_removeIf hbuffer
    · exact List.Subset.refl _

end Sound

/-- **Drivers are sound after every history.** -/
theorem sound_serveAll [Engine ε] {stops : Fault → Prop} (hengine : Behaves good stops)
    {settings : Settings} {mapper : Memory.Mapper} {factory : Factory ε} (hmapper : mapper.Sound)
    (hfactory : ∀ earlier params engine, factory earlier params = .ok engine → good engine)
    (requests : List Request) : ((make settings mapper factory).serveAll requests).Sound good :=
  invariant_of_step (Sound.step hengine) (sound_make hmapper hfactory) (steps_serveAll requests _)

end AvcDriver.Driver
