import AvcDriver.Engine.Script
import AvcDriver.Proofs.Driver.Custody
import AvcDriver.Proofs.Surface.Import

/-!
# Rejected requests

A request that is rejected changes none of a client's objects, and takes no handle. Most
requests make their checks first. Where work is done before a check, it is undone: surfaces
that were made before one was refused are destroyed, the oldest first, which leads the table of
surfaces back to where it was, its counter included.

What an outside party was asked for is not taken back. So a rejected request may leave
behind surfaces that no handle leads to, memory that they lay in, and the calls that were
noted.

* `Undisturbed`: nothing has changed that a client can tell.
* `rejected_undisturbed`: what a rejected request leaves behind, after every history.
-/

namespace AvcDriver

/-- A copy that is refused has not begun. -/
theorem Surface.download_of_rejected {s : Surface} {store : MemoryStore} {width height : UInt32}
    {layout : Image.Layout} {target memory : Memory} {error : Memory.Error}
    (h : s.download store width height layout target = (.error (.rejected error), memory)) :
    memory = target := by
  rw [download] at h
  split at h
  · cases h
  · split at h
    · cases h
      rfl
    · dsimp only at h
      split at h
      · cases h
      · split at h <;> cases h

/-- Ending a picture is out of turn and changes nothing, or what is rejected is its decoding. -/
theorem Context.endPicture_cases {ε : Type} [Engine ε] {c c' : Context ε} {patience : Nat}
    {buffers : BufferStore} {owned : SurfaceRef → Bool} {shared shared' : Session.Shared}
    {result : Except (Failure DriverError) (List Session.ReadyPicture)}
    (h : c.endPicture patience buffers owned shared = (result, c', shared')) :
    (c' = c ∧ shared' = shared) ∨
      ∀ error, result = .error (.rejected error) → ∃ failure, error = .decode failure := by
  rw [endPicture] at h
  split at h
  · cases h
    exact .inl ⟨rfl, rfl⟩
  · rcases hrun : c.session.run patience buffers owned shared with ⟨ran, session, after⟩
    rw [hrun] at h
    cases h
    right
    rcases ran with (failure | cause) | pictures
    · rintro error ⟨⟩
      exact ⟨failure, rfl⟩
    · rintro error ⟨⟩
    · rintro error ⟨⟩

namespace Driver

open AvcDriver.Action (Ends)
open Engine (Factory)

variable {ε : Type} {d d' d'' : Driver ε}

/-! ## What is as before -/

/-- All is as before but for the table of surfaces. Surfaces and memories may have been put behind
those that are there. -/
structure Beside (d d' : Driver ε) : Prop where
  settings : d'.settings = d.settings
  mapper : d'.mapper = d.mapper
  factory : d'.factory = d.factory
  configs : d'.configs = d.configs
  contexts : d'.contexts = d.contexts
  buffers : d'.buffers = d.buffers
  images : d'.images = d.images
  bufferStore : d'.bufferStore = d.bufferStore
  dump : d'.dump = d.dump
  surfaceStore : Kept d.surfaceStore d'.surfaceStore
  memories : d.mapper.Preserves → Kept d.memories d'.memories

/-- Nothing has changed that a client can tell: the tables, with the handles that they issue next,
the sessions, and the bytes of every buffer, image and surface are as before. -/
structure Undisturbed (d d' : Driver ε) : Prop extends Beside d d' where
  surfaces : d'.surfaces = d.surfaces

theorem Beside.refl (d : Driver ε) : Beside d d where
  settings := rfl
  mapper := rfl
  factory := rfl
  configs := rfl
  contexts := rfl
  buffers := rfl
  images := rfl
  bufferStore := rfl
  dump := rfl
  surfaceStore := Kept.refl _
  memories := fun _ => Kept.refl _

theorem Beside.trans (h : Beside d d') (h' : Beside d' d'') : Beside d d'' where
  settings := h'.settings.trans h.settings
  mapper := h'.mapper.trans h.mapper
  factory := h'.factory.trans h.factory
  configs := h'.configs.trans h.configs
  contexts := h'.contexts.trans h.contexts
  buffers := h'.buffers.trans h.buffers
  images := h'.images.trans h.images
  bufferStore := h'.bufferStore.trans h.bufferStore
  dump := h'.dump.trans h.dump
  surfaceStore := h.surfaceStore.trans h'.surfaceStore
  memories := fun hmapper => (h.memories hmapper).trans (h'.memories (h.mapper ▸ hmapper))

theorem Undisturbed.refl (d : Driver ε) : Undisturbed d d := { Beside.refl d with surfaces := rfl }

/-- If a request was rejected, it left the driver undisturbed. -/
def Harmless {α : Type} (d : Driver ε) (result : Except (Failure DriverError) α)
    (d' : Driver ε) : Prop :=
  ∀ error, result = .error (.rejected error) → Undisturbed d d'

section Harmless

variable {α : Type}

theorem harmless_ok (a : α) : Harmless d (.ok a) d' := by
  rintro error ⟨⟩

theorem harmless_faulted (cause : Fault) :
    Harmless d (.error (.faulted cause) : Except (Failure DriverError) α) d' := by
  rintro error ⟨⟩

theorem harmless_self (result : Except (Failure DriverError) α) : Harmless d result d :=
  fun _ _ => Undisturbed.refl d

/-- What a request answers does not matter. -/
theorem harmless_discard {request : DriverM ε α} (h : Ends request d (Harmless d)) :
    Ends (request >>= fun _ => pure ()) d (Harmless d) := by
  refine h.bind (fun _ _ _ => harmless_ok ()) ?_
  rintro failure d' hfailure error ⟨⟩
  exact hfailure error rfl

end Harmless

/-! ## Surfaces -/

/-- Making a surface leaves all else alone, and takes a handle if it succeeds. -/
theorem createSurface_beside (d : Driver ε) (format width height : UInt32)
    (attributes : List Surface.Attribute) :
    Ends (createSurface format width height attributes) d fun result d' => Beside d d' ∧
      (∀ handle, result = .ok handle → ∃ surfaces target,
        d.surfaces.reserve = .ok (handle, surfaces) ∧
          d'.surfaces = surfaces.commit handle target) ∧
      ∀ failure, result = .error failure → d'.surfaces = d.surfaces := by
  refine createSurface_ends ?_ fun imports failure => ?_
  · intro imports handle surfaces surface memories hreserve hmake
    refine ⟨{ Beside.refl d with
      surfaceStore := Kept.push d.surfaceStore surface
      memories := fun hmapper => Surface.kept_of_make hmapper hmake }, ?_, by rintro _ ⟨⟩⟩
    rintro _ ⟨⟩
    exact ⟨surfaces, _, hreserve, rfl⟩
  · exact ⟨{ Beside.refl d with }, by rintro _ ⟨⟩, fun _ _ => rfl⟩

theorem destroySurface_run {handle : Nat} {target : SurfaceRef} {surfaces : Handle.Table SurfaceRef}
    (h : d.surfaces.destroy handle = .ok (target, surfaces)) :
    (destroySurface handle).run d = (.ok (), { d with surfaces }) := by
  rw [destroySurface, Action.run_get_bind, h]
  rfl

/-- Surfaces on top of a table are destroyed from the oldest on, which leaves the table. -/
theorem destroyEach_run {t : Handle.Table SurfaceRef} (ht : t.AtRest) {handles : List Nat}
    (h : t.Grown handles d.surfaces) :
    (destroyEach handles).run d = (.ok (), { d with surfaces := t }) := by
  induction handles generalizing d with
  | nil =>
    rw [← h.eq_of_nil ht]
    rfl
  | cons handle handles ih =>
    obtain ⟨_, surfaces, hdestroy, hgrown⟩ := h.destroy
    rw [destroyEach, Action.run_bind_ok (destroySurface_run hdestroy)]
    exact ih (d := { d with surfaces }) hgrown

/-- What there is of a group of surfaces: those of the group on top of the others, or, if one of
them was refused, none. -/
structure Grouped (d : Driver ε) (result : Except (Failure DriverError) (List Nat))
    (d' : Driver ε) : Prop where
  beside : Beside d d'
  grown : ∀ handles, result = .ok handles → d.surfaces.Grown handles d'.surfaces
  refused : ∀ error, result = .error (.rejected error) → d'.surfaces = d.surfaces

/-- A surface that is refused takes those of its group with it. -/
theorem createSurface_undoing {format width height : UInt32} {attributes : List Surface.Attribute}
    {made : List Nat} (hd : d.surfaces.AtRest) (h : Grouped d (.ok made) d') :
    Ends (undoing (createSurface format width height attributes) (destroyEach made)) d'
      fun result d'' => Grouped d (result.map fun handle => made ++ [handle]) d'' := by
  refine (createSurface_beside d' format width height attributes).undoing ?_ ?_ ?_
  · rintro handle d₁ ⟨hbeside, htaken, -⟩
    obtain ⟨surfaces, target, hreserve, hsurfaces⟩ := htaken handle rfl
    refine ⟨h.beside.trans hbeside, ?_, by rintro _ ⟨⟩⟩
    rintro _ ⟨⟩
    exact hsurfaces ▸ (h.grown made rfl).reserve_commit hreserve target
  · rintro cause d₁ ⟨hbeside, -, -⟩
    exact ⟨h.beside.trans hbeside, by rintro _ ⟨⟩, by rintro _ ⟨⟩⟩
  · rintro error d₁ ⟨hbeside, -, hsame⟩
    have hgrown : d.surfaces.Grown made d₁.surfaces := hsame _ rfl ▸ h.grown made rfl
    rw [Ends, Action.run_bind_ok (destroyEach_run hd hgrown)]
    exact ⟨{ h.beside.trans hbeside with }, by rintro _ ⟨⟩, fun _ _ => rfl⟩

theorem createAfter_grouped {format width height : UInt32} {attributes : List Surface.Attribute}
    {made : List Nat} {count : Nat} (hd : d.surfaces.AtRest) (h : Grouped d (.ok made) d') :
    Ends (createAfter made (createSurface format width height attributes) count) d'
      (Grouped d) := by
  induction count generalizing made d' with
  | zero => exact h
  | succ count ih =>
    refine (createSurface_undoing hd h).bind (fun handle d₁ h₁ => ih h₁) fun failure d₁ h₁ => ?_
    exact ⟨h₁.beside, by rintro _ ⟨⟩, by rintro error ⟨⟩; exact h₁.refused error rfl⟩

/-- If one of a group of surfaces is refused, the table is as before all of them. -/
theorem createEach_grouped {format width height : UInt32} {attributes : List Surface.Attribute}
    {count : Nat} (hd : d.surfaces.AtRest) :
    Ends (createEach (createSurface format width height attributes) count) d (Grouped d) := by
  refine createAfter_grouped hd ⟨Beside.refl d, ?_, by rintro _ ⟨⟩⟩
  rintro _ ⟨⟩
  exact .refl hd

/-- A group of surfaces is made in one go or in two. -/
theorem createAfter_run_add {make : DriverM ε Nat} {made handles : List Nat} {before : Nat}
    (h : (createAfter made make before).run d = (.ok handles, d')) (count : Nat) :
    (createAfter made make (before + count)).run d = (createAfter handles make count).run d' := by
  induction before generalizing made d with
  | zero =>
    cases h
    rw [Nat.zero_add]
  | succ before ih =>
    rw [createAfter] at h
    rw [Nat.add_right_comm, createAfter]
    rcases hone : (undoing make (destroyEach made)).run d with ⟨failure | handle, d₁⟩
    · rw [Action.run_bind_error hone] at h
      cases h
    · rw [Action.run_bind_ok hone] at h ⊢
      exact ih h

/-- A group of surfaces is rejected if any of them is, with the same error. -/
theorem createEach_refused {format width height : UInt32} {attributes : List Surface.Attribute}
    {before count : Nat} (hd : d.surfaces.AtRest) (hlt : before < count) {handles : List Nat}
    {error : DriverError} {refused : Driver ε}
    (hmade : (createEach (createSurface format width height attributes) before).run d =
      (.ok handles, d'))
    (hrefused : (createSurface format width height attributes).run d' =
      (.error (.rejected error), refused)) :
    ((createEach (createSurface format width height attributes) count).run d).1 =
      .error (.rejected error) := by
  obtain ⟨count, rfl⟩ := Nat.exists_eq_add_of_lt hlt
  have hgrouped := (Action.ends_of_run hmade).1 (createEach_grouped hd)
  obtain ⟨-, -, hsame⟩ := (Action.ends_of_run hrefused).1
    (createSurface_beside d' format width height attributes)
  have hgrown : d.surfaces.Grown handles refused.surfaces :=
    hsame _ rfl ▸ hgrouped.grown handles rfl
  have hundone : (undoing (createSurface format width height attributes)
      (destroyEach handles)).run d' =
        (.error (.rejected error), { refused with surfaces := d.surfaces }) := by
    rw [Action.run_undoing, hrefused]
    exact Action.run_bind_ok (destroyEach_run hd hgrown)
  rw [createEach, Nat.add_assoc, createAfter_run_add hmade, createAfter,
    Action.run_bind_error hundone]

/-- Memory files are made behind the memory that is there. -/
theorem openFiles_run (d : Driver ε) (attributes : List Surface.Attribute) :
    ∃ opened memories, (openFiles attributes).run d = (.ok opened, { d with memories }) ∧
      Kept d.memories memories :=
  ⟨_, _, rfl, Memory.Adds.mapM Surface.Attribute.adds_opened attributes d.memories⟩

theorem createSurfaces_harmless (hd : d.surfaces.AtRest) (format width height : UInt32)
    (count : Nat) (attributes : List Surface.Attribute) :
    Ends (createSurfaces format width height count attributes) d (Harmless d) := by
  refine Ends.demand_bind (fun _ => ?_) fun _ => harmless_self _
  refine Ends.demand_bind (fun _ => ?_) fun _ => harmless_self _
  refine Ends.ofFaulting_bind (fun _ _ => ?_) fun _ _ => harmless_self _
  obtain ⟨opened, memories, hopen, hkept⟩ := openFiles_run d attributes
  rw [Ends, Action.run_bind_ok hopen]
  have hbeside : Beside d { d with memories } := { Beside.refl d with memories := fun _ => hkept }
  have hgrouped : Ends (createEach (createSurface format width height opened) count)
      { d with memories } (Grouped { d with memories }) := createEach_grouped hd
  intro error hrejected
  exact { hbeside.trans hgrouped.beside with surfaces := hgrouped.refused error hrejected }

/-! ## Other requests -/

theorem createContext_harmless (configHandle : Nat) (width height : UInt32) (flag : Int32)
    (targets : List Nat) :
    Ends (createContext configHandle width height flag targets) d (Harmless d) := by
  refine Ends.config_bind (fun config _ => ?_) fun _ => harmless_self _
  refine ends_requireSurfaces_bind ?_ fun _ => harmless_self _
  refine (startSession_ends (Q := fun _ => Undisturbed d) ?_).bind ?_ fun _ _ h _ _ => h
  · exact fun engines events => { Undisturbed.refl d with }
  · intro session d' _
    refine Ends.get_bind (Ends.ofFaulting_bind ?_ fun cause _ => harmless_faulted cause)
    rintro ⟨id, contexts⟩ -
    exact harmless_ok id

theorem beginPicture_harmless (handle surface : Nat) :
    Ends (beginPicture handle surface) d (Harmless d) := by
  refine Ends.surface_bind (fun target _ => ?_) fun _ => harmless_self _
  refine Ends.context_bind (fun c _ => ?_) fun _ => harmless_self _
  exact Ends.settle_bind (fun _ _ => harmless_ok ()) fun _ _ => harmless_self _

theorem renderPicture_harmless (handle : Nat) (handles : List Nat) :
    Ends (renderPicture handle handles) d (Harmless d) := by
  refine Ends.context_bind (fun c _ => ?_) fun _ => harmless_self _
  refine Ends.mapM_bind namedBuffer_ends (fun named _ => ?_) fun _ => harmless_self _
  exact Ends.settle_bind (fun _ _ => harmless_ok ()) fun _ _ => harmless_self _

/-- Ending a picture is harmless where it is out of turn; a picture whose decoding failed is over
all the same. -/
theorem endPicture_harmless [Engine ε] (hd : d.contexts.AtRest) (handle : Nat) :
    Ends (endPicture handle) d fun result d' => ∀ error, result = .error (.rejected error) →
      (∃ failure, error = .decode failure) ∨ Undisturbed d d' := by
  refine Ends.context_bind (fun c hfind => Ends.get_bind ?_) fun _ _ _ => .inr (Undisturbed.refl d)
  rcases hend : c.endPicture d.settings.patience d.bufferStore (isHeld d.surfaces d.contexts)
    { surfaces := d.surfaceStore, memories := d.memories, dump := d.dump, events := d.events }
    with ⟨result, c', shared'⟩
  dsimp only
  rw [hend]
  refine Ends.set_bind ?_
  refine Ends.settle ?_
  rcases Context.endPicture_cases hend with ⟨rfl, rfl⟩ | hdecode
  · rw [Handle.Table.modify_of_find? hd.nodup hfind]
    exact fun _ _ => .inr (Undisturbed.refl d)
  · exact fun error herror => .inl (hdecode error herror)

/-- Adding a buffer can only fault. -/
theorem addBuffer_not_rejected (owner : Option Nat) (kind : BufferKind) (size : Nat)
    (data : Option Block) :
    Ends (addBuffer owner kind size data) d fun result _ =>
      ∀ failure, result = .error failure → ∃ cause, failure = .faulted cause := by
  refine addBuffer_ends ?_ ?_
  · rintro _ _ _ _ _ _ ⟨⟩
  · rintro cause _ ⟨⟩
    exact ⟨cause, rfl⟩

theorem createBuffer_harmless (owner : Nat) (kind : BufferKind) (size count : Nat)
    (data : Option Block) : Ends (createBuffer owner kind size count data) d (Harmless d) := by
  refine Ends.context_bind (fun c _ => ?_) fun _ => harmless_self _
  refine Ends.ofExcept_bind (fun total _ => ?_) fun _ _ => harmless_self _
  have hadd : Ends (addBuffer (some owner) kind total data >>= fun made => pure made.1) d
      (Harmless d) := by
    refine (addBuffer_not_rejected (some owner) kind total data).bind
      (fun made _ _ => harmless_ok made.1) ?_
    intro failure d' hfault
    obtain ⟨cause, rfl⟩ := hfault failure rfl
    exact harmless_faulted cause
  rcases data with _ | block
  · exact hadd
  · exact Ends.demand_bind (fun _ => hadd) fun _ => harmless_self _

theorem createImage_harmless (format : Image.Format) (width height : UInt32) :
    Ends (createImage format width height) d (Harmless d) := by
  refine Ends.settle_bind (fun layout _ => ?_) fun _ _ => harmless_self _
  refine (addBuffer_not_rejected none .image layout.dataSize none).bind ?_ ?_
  · rintro ⟨bufferHandle, buffer⟩ d' -
    refine Ends.get_bind (Ends.ofFaulting_bind ?_ fun cause _ => harmless_faulted cause)
    rintro ⟨id, images⟩ -
    exact harmless_ok _
  · intro failure d' hfault
    obtain ⟨cause, rfl⟩ := hfault failure rfl
    exact harmless_faulted cause

/-- A buffer that gets the memory it has is as before. -/
theorem setMemory_self {target : BufferRef} {buffer : Buffer}
    (h : d.bufferStore[target.index]? = some buffer) :
    (d.bufferStore.modify target.index fun other => { other with memory := buffer.memory }) =
      d.bufferStore := by
  refine Array.ext_getElem? fun index => ?_
  rw [Array.getElem?_modify]
  split
  · next heq =>
    rw [← heq, h]
    rfl
  · rfl

theorem getImage_harmless (surface : Nat) (x y width height : UInt32) (image : Nat) :
    Ends (getImage surface x y width height image) d (Harmless d) := by
  refine Ends.surface_bind (fun target _ => ?_) fun _ => harmless_self _
  refine Ends.surfaceAt_bind (fun s _ => ?_) fun _ => harmless_self _
  refine Ends.image_bind (fun i _ => ?_) fun _ => harmless_self _
  split
  · refine Ends.ofExcept_bind (fun _ _ => ?_) fun _ _ => harmless_self _
    refine Ends.get_bind (Ends.bufferAt_bind (fun buffer hbuffer => ?_) fun _ => harmless_self _)
    rcases hdownload : s.download d.memories width height i.layout buffer.memory
      with ⟨(refusal | cause) | mapped, memory⟩
    · obtain rfl := Surface.download_of_rejected hdownload
      refine Ends.modify_bind ?_
      rw [setMemory_self hbuffer]
      exact harmless_self _
    · exact harmless_faulted cause
    · exact harmless_ok ()
  · exact harmless_ok ()

/-- A request that is rejected leaves the driver undisturbed, unless what is rejected is the
decoding of a picture. -/
theorem perform_harmless [Engine ε] (hd : d.AtRest) (request : Request) :
    Ends (request.perform : DriverM ε Unit) d fun result d' =>
      ∀ error, result = .error (.rejected error) →
        (∃ handle failure, request = .endPicture handle ∧ error = .decode failure) ∨
          Undisturbed d d' := by
  have hharmless : ∀ {perform : DriverM ε Unit}, Ends perform d (Harmless d) →
      Ends perform d fun result d' => ∀ error, result = .error (.rejected error) →
        (∃ handle failure, request = .endPicture handle ∧ error = .decode failure) ∨
          Undisturbed d d' :=
    fun h => h.mono fun _ _ hundisturbed error herror => .inr (hundisturbed error herror)
  cases request with
  | createConfig profile entrypoint attributes =>
    refine hharmless (harmless_discard (Ends.get_bind (Ends.ofFaulting_bind ?_ ?_)))
    · rintro ⟨handle, configs⟩ -
      exact Ends.ofExcept_bind (fun _ _ => harmless_ok handle) fun _ _ => harmless_self _
    · exact fun cause _ => harmless_faulted cause
  | destroyConfig handle =>
    exact hharmless (Ends.get_bind (Ends.require_bind (fun _ _ => harmless_ok ())
      fun _ => harmless_self _))
  | surfaceAttributes config =>
    exact hharmless (harmless_discard (Ends.config_bind (fun _ _ => harmless_self _)
      fun _ => harmless_self _))
  | createSurfaces format width height count attributes =>
    exact hharmless (harmless_discard
      (createSurfaces_harmless hd.surfaces format width height count attributes))
  | destroySurfaces handles =>
    exact hharmless (ends_requireSurfaces_bind (harmless_ok ()) fun _ => harmless_self _)
  | syncSurface handle =>
    exact hharmless (Ends.surface_bind (fun _ _ => harmless_self _) fun _ => harmless_self _)
  | createContext config width height flag targets =>
    exact hharmless (harmless_discard (createContext_harmless config width height flag targets))
  | destroyContext handle =>
    exact hharmless (Ends.get_bind (Ends.require_bind (fun _ _ => harmless_ok ())
      fun _ => harmless_self _))
  | createBuffer owner kind size count data =>
    exact hharmless (harmless_discard (createBuffer_harmless owner kind size count data))
  | mapBuffer handle access =>
    exact hharmless (Ends.buffer_bind (fun _ _ => Ends.bufferAt_bind (fun _ _ => harmless_ok ())
      fun _ => harmless_self _) fun _ => harmless_self _)
  | resizeBuffer handle size =>
    refine hharmless (Ends.buffer_bind (fun _ _ => Ends.bufferAt_bind (fun _ _ => ?_)
      fun _ => harmless_self _) fun _ => harmless_self _)
    exact Ends.ofFaulting_bind (fun _ _ => harmless_ok ()) fun cause _ => harmless_faulted cause
  | destroyBuffer handle =>
    exact hharmless (Ends.get_bind (Ends.require_bind (fun _ _ => harmless_ok ())
      fun _ => harmless_self _))
  | createImage format width height =>
    exact hharmless (harmless_discard (createImage_harmless format width height))
  | destroyImage handle =>
    exact hharmless (Ends.get_bind (Ends.require_bind (fun _ _ => harmless_ok ())
      fun _ => harmless_self _))
  | getImage surface x y width height image =>
    exact hharmless (getImage_harmless surface x y width height image)
  | beginPicture context surface => exact hharmless (beginPicture_harmless context surface)
  | renderPicture context buffers => exact hharmless (renderPicture_harmless context buffers)
  | endPicture context =>
    refine (endPicture_harmless hd.contexts context).bind (fun _ _ _ => ?_) ?_
    · rintro error ⟨⟩
    · rintro failure d' h error ⟨⟩
      refine (h error rfl).imp_left ?_
      rintro ⟨decoding, rfl⟩
      exact ⟨context, decoding, rfl, rfl⟩
  | sessionState context =>
    exact hharmless (harmless_discard (Ends.context_bind (fun _ _ => harmless_self _)
      fun _ => harmless_self _))

/-! ## Requests that name something unknown, or are refused half way -/

/-- Surfaces are destroyed if all of them are there. -/
theorem destroySurfaces_unknown {handles : List Nat} {bad : Nat} (hmem : bad ∈ handles)
    (hbad : d.surfaces.find? bad = none) :
    ∃ unknown ∈ handles, (destroySurfaces handles).run d =
      (.error (.rejected (.invalidSurface unknown)), d) := by
  have hunknown : (!d.surfaces.contains bad) = true := by
    rw [Bool.not_eq_true', ← Bool.not_eq_true, Handle.Table.contains_iff]
    exact Handle.Table.find?_eq_none_iff.1 hbad
  obtain ⟨unknown, hfirst⟩ : ∃ unknown, d.unknownSurface? handles = some unknown :=
    Option.isSome_iff_exists.1 (List.find?_isSome.2 ⟨bad, hmem, hunknown⟩)
  refine ⟨unknown, List.mem_of_find?_eq_some hfirst, ?_⟩
  have hreject : (requireSurfaces handles).run d =
      (.error (.rejected (.invalidSurface unknown)), d) := by
    rw [requireSurfaces, Action.run_get_bind, hfirst]
    rfl
  rw [destroySurfaces, Action.run_bind_error hreject]

/-- Buffers are named if all of them are there. -/
theorem namedBuffers_unknown (hd : d.Custody) {handles : List Nat} {bad : Nat}
    (hmem : bad ∈ handles) (hbad : d.buffers.find? bad = none) :
    ∃ unknown ∈ handles, (handles.mapM namedBuffer).run d =
      (.error (.rejected (.invalidBuffer unknown)), d) := by
  induction handles with
  | nil => cases hmem
  | cons handle rest ih =>
    rw [List.mapM_cons]
    rcases hfind : d.buffers.find? handle with _ | target
    · have hreject : (namedBuffer handle).run d =
          (.error (.rejected (.invalidBuffer handle)), d) :=
        Action.run_bind_error (buffer_run_none hfind)
      exact ⟨handle, List.mem_cons_self, Action.run_bind_error hreject⟩
    · obtain ⟨found, hfound, -⟩ := hd.stored handle target hfind
      have hnamed : (namedBuffer handle).run d = (.ok (target, found.kind), d) := by
        rw [namedBuffer, Action.run_bind_ok (buffer_run hfind),
          Action.run_bind_ok (bufferAt_run hfound)]
        rfl
      have hrest : bad ∈ rest := by
        refine (List.mem_cons.1 hmem).resolve_left ?_
        rintro rfl
        rw [hbad] at hfind
        cases hfind
      obtain ⟨unknown, hunknown, hreject⟩ := ih hrest
      refine ⟨unknown, List.mem_cons_of_mem _ hunknown, ?_⟩
      rw [Action.run_bind_ok hnamed, Action.run_bind_error hreject]

/-- A picture gets its buffers if all of them are there. -/
theorem renderPicture_unknown (hd : d.Custody) (contextHandle : Nat) {handles : List Nat}
    {bad : Nat} (hmem : bad ∈ handles) (hbad : d.buffers.find? bad = none) :
    ∃ error, (renderPicture contextHandle handles).run d = (.error (.rejected error), d) := by
  rw [renderPicture]
  rcases hfind : d.contexts.find? contextHandle with _ | c
  · exact ⟨_, Action.run_bind_error (context_run_none hfind)⟩
  · rw [Action.run_bind_ok (context_run hfind)]
    obtain ⟨unknown, -, hreject⟩ := namedBuffers_unknown hd hmem hbad
    exact ⟨_, Action.run_bind_error hreject⟩

/-- If one of a group of surfaces is refused, none of the group is left. -/
theorem createSurfaces_refused (hd : d.surfaces.AtRest) {format width height : UInt32}
    {before count : Nat} {attributes opened : List Surface.Attribute} {handles : List Nat}
    {error : DriverError} {started made refused : Driver ε}
    (hformat : isSurfaceFormat format = true)
    (hsize : width ≤ maxSurfaceSide ∧ height ≤ maxSurfaceSide)
    (hlist : handleListSize count ≤ Memory.maxSize)
    (hopen : (openFiles attributes).run d = (.ok opened, started)) (hlt : before < count)
    (hmade : (createEach (createSurface format width height opened) before).run started =
      (.ok handles, made))
    (hrefused : (createSurface format width height opened).run made =
      (.error (.rejected error), refused)) :
    ∃ d', (createSurfaces format width height count attributes).run d =
      (.error (.rejected error), d') ∧ Undisturbed d d' := by
  obtain ⟨_, memories, hopen', -⟩ := openFiles_run d attributes
  obtain rfl : started = { d with memories } :=
    congrArg Prod.snd (hopen.symm.trans hopen')
  have hrejected := createEach_refused (d := { d with memories }) hd hlt hmade hrefused
  have hroom : (Action.ofFaulting (Memory.checkSize (handleListSize count)) :
      DriverM ε Unit).run d = (.ok (), d) := by
    rw [Memory.checkSize, if_pos hlist]
    rfl
  have hrun : (createSurfaces format width height count attributes).run d =
      (createEach (createSurface format width height opened) count).run
        { d with memories } := by
    rw [createSurfaces, Action.run_bind_ok (demand_run hformat _),
      Action.run_bind_ok (demand_run (decide_eq_true hsize) _), Action.run_bind_ok hroom,
      Action.run_bind_ok hopen]
  rcases hall : (createSurfaces format width height count attributes).run d with ⟨result, d'⟩
  obtain rfl : result = .error (.rejected error) := by
    rw [← hrun, hall] at hrejected
    exact hrejected
  exact ⟨d', rfl, (Action.ends_of_run hall).1
    (createSurfaces_harmless hd format width height count attributes) error rfl⟩

/-- **A rejected request leaves a driver undisturbed** after every history, whatever is mapped and
whichever engines are made; for ending a picture, if it was out of turn or there was no context.
So a group of surfaces of which one is refused leaves no surface and takes no handle, and nothing
is destroyed or handed over if one of the names given is unknown. -/
theorem rejected_undisturbed [Engine ε] {settings : Settings} {mapper : Memory.Mapper}
    {factory : Factory ε} {history : List Request}
    (hserved : (make settings mapper factory).serveAll history = d) :
    (∀ (request : Request) (error : DriverError) (d' : Driver ε),
      request.perform.run d = (.error (.rejected error), d') →
      (∀ handle, request = .endPicture handle → (∃ unknown, error = .invalidContext unknown) ∨
        ∃ call state, error = .outOfOrder call state) →
      Undisturbed d d') ∧
    (∀ handle, ((config handle).run d).2 = d) ∧
    (∀ format width height before count attributes opened handles error started made refused,
      isSurfaceFormat format = true → width ≤ maxSurfaceSide ∧ height ≤ maxSurfaceSide →
      handleListSize count ≤ Memory.maxSize →
      (openFiles attributes).run d = (.ok opened, started) → before < count →
      (createEach (createSurface format width height opened) before).run started =
        (.ok handles, made) →
      (createSurface format width height opened).run made = (.error (.rejected error), refused) →
      ∃ d', (createSurfaces format width height count attributes).run d =
        (.error (.rejected error), d') ∧ Undisturbed d d') ∧
    (∀ (handles : List Nat), ∀ bad ∈ handles, d.surfaces.find? bad = none →
      ∃ unknown ∈ handles, (destroySurfaces handles).run d =
        (.error (.rejected (.invalidSurface unknown)), d)) ∧
    ∀ (contextHandle : Nat) (handles : List Nat), ∀ bad ∈ handles, d.buffers.find? bad = none →
      ∃ error, (renderPicture contextHandle handles).run d = (.error (.rejected error), d) := by
  have hd : d.Custody := hserved ▸ custody_serveAll settings mapper factory history
  refine ⟨?_, ?_, ?_, ?_, ?_⟩
  · intro request error d' hrun hturn
    rcases (Action.ends_of_run hrun).1 (perform_harmless hd.toAtRest request) error rfl with
      ⟨handle, failure, hrequest, rfl⟩ | hundisturbed
    · obtain ⟨unknown, ⟨⟩⟩ | ⟨call, state, ⟨⟩⟩ := hturn handle hrequest
    · exact hundisturbed
  · intro handle
    rw [config, Action.run_get_bind]
    cases d.configs.find? handle <;> rfl
  · intro format width height before count attributes opened handles error started made refused
      hformat hsize hlist hopen hlt hmade hrefused
    exact createSurfaces_refused hd.surfaces hformat hsize hlist hopen hlt hmade hrefused
  · exact fun handles bad hmem hbad => destroySurfaces_unknown hmem hbad
  · exact fun contextHandle handles bad hmem hbad =>
      renderPicture_unknown hd contextHandle hmem hbad

/-- One object with a picture of four by two pixels. -/
def smallDescriptor : Surface.Descriptor where
  fourcc := fourccNv12
  width := 4
  height := 2
  objects := [{ source := .descriptor 3, size := 12, modifier := 0 }]
  layers := [{
    format := fourccNv12
    planes := [{ object := 0, offset := 0, pitch := 4 }, { object := 0, offset := 8, pitch := 4 }] }]

/-- The second of two imports is refused: the surface of the first one is gone, and the next surface
gets the handle that it had. -/
theorem rejected_undisturbed_second_import :
    let d := (make {} (Memory.Mapper.heapUpTo 1) fun _ _ =>
      .ok ({ entries := [] } : Engine.Script)).serveAll
        [.createSurfaces Config.formatYuv420 4 2 1 []]
    ∃ d', (Request.createSurfaces Config.formatYuv420 4 2 2
        smallDescriptor.attributes).perform.run d =
      (.error (.rejected (.mapping .importRefused)), d') ∧
      d'.surfaces = d.surfaces ∧ d'.surfaces.next = 1 ∧ Kept d.memories d'.memories := by
  intro d
  have hserved : (make {} (Memory.Mapper.heapUpTo 1) fun _ _ =>
    .ok ({ entries := [] } : Engine.Script)).serveAll
      [.createSurfaces Config.formatYuv420 4 2 1 []] = d := rfl
  obtain ⟨hundisturbed, -⟩ := rejected_undisturbed hserved
  have hrefused : ((Request.createSurfaces Config.formatYuv420 4 2 2
      smallDescriptor.attributes).perform.run d).1 =
        .error (.rejected (.mapping .importRefused)) := rfl
  obtain ⟨d', hrun⟩ : ∃ d', (Request.createSurfaces Config.formatYuv420 4 2 2
      smallDescriptor.attributes).perform.run d =
        (.error (.rejected (.mapping .importRefused)), d') := ⟨_, Prod.ext hrefused rfl⟩
  have h := hundisturbed _ _ _ hrun (by rintro handle ⟨⟩)
  have hnext : d.surfaces.next = 1 := rfl
  exact ⟨d', hrun, h.surfaces, h.surfaces ▸ hnext,
    h.memories (Memory.Mapper.faithful_heapUpTo 1).preserves⟩

end Driver

end AvcDriver
