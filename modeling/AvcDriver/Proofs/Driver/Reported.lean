import AvcDriver.Proofs.Driver.Footprint
import AvcDriver.Proofs.Driver.Ledger

/-!
# Surfaces that are reported

With each picture that was decoded, a client is told the handle of the surface that it went to.
Handles are given out again as soon as they are free, and a surface stays as long as something
holds it: a live surface is what its handle leads to, but a session may hold its render target
longer than that.

* `Registered`: live surfaces know their handles.
* `LeadsTo`: the surface that a tag leads to, in terms of the books of the client.
* `reported_surfaces`: pictures go to the surfaces that their tags lead to, and are reported so.
* `destroyed_surface_reported`: what is reported of a surface that was destroyed.
-/

namespace AvcDriver.Driver

open AvcDriver.Action (run_bind_error)
open Engine (Factory shown)
open Session (Decoder ReadyPicture copyAll home)
open Session.Decoder (homeSurface)

variable {ε : Type} {d d' : Driver ε} {handle : Nat}

/-! ## Live surfaces -/

/-- Live surfaces are stored and know their handles. -/
structure Registered (d : Driver ε) : Prop extends d.AtRest where
  stored : ∀ handle target, d.surfaces.find? handle = some target →
    ∃ surface, d.surfaceStore[target.index]? = some surface ∧ surface.id = handle

/-- A surface is made under its handle. -/
theorem id_of_make {mapper : Memory.Mapper} {earlier id : Nat} {format width height : UInt32}
    {attributes : List Surface.Attribute} {store store' : MemoryStore} {surface : Surface}
    (h : Surface.make mapper earlier id format width height attributes store =
      .ok (surface, store')) : surface.id = id := by
  by_cases hempty : attributes.isEmpty = true
  · rw [Surface.make, if_pos hempty] at h
    cases h
    rfl
  · rw [Surface.make, if_neg hempty] at h
    obtain ⟨⟨fourcc, request⟩, -, h⟩ := bind_eq_ok.1 h
    obtain ⟨⟨mapping, store⟩, -, h⟩ := bind_eq_ok.1 h
    cases h
    rfl

theorem registered_make (settings : Settings) (mapper : Memory.Mapper) (factory : Factory ε) :
    (make settings mapper factory).Registered where
  toAtRest := atRest_make settings mapper factory
  stored := by rintro _ _ ⟨⟩

section Steps

variable [Engine ε]

/-- A surface stays in the store as it is, whatever becomes of its handle. -/
theorem surface_of_steps {index : Nat} {surface : Surface}
    (h : d.surfaceStore[index]? = some surface) (hsteps : Steps d d') :
    d'.surfaceStore[index]? = some surface := by
  refine invariant_of_step (I := fun d' => d'.surfaceStore[index]? = some surface) ?_ h hsteps
  intro d₁ d₂ hstep hstored
  cases hstep with
  | addSurface =>
    have hlt := (Array.getElem?_eq_some_iff.1 hstored).1
    exact (Array.getElem?_push_lt hlt).trans ((Array.getElem?_eq_getElem hlt).symm.trans hstored)
  | _ => exact hstored

theorem Registered.step (h : Step d d') (hd : d.Registered) : d'.Registered := by
  refine ⟨hd.toAtRest.step h, ?_⟩
  have hstore {handle : Nat} {target : SurfaceRef}
      (hfind : d.surfaces.find? handle = some target) :
      ∃ surface, d'.surfaceStore[target.index]? = some surface ∧ surface.id = handle := by
    obtain ⟨surface, hsurface, hid⟩ := hd.stored handle target hfind
    exact ⟨surface, surface_of_steps hsurface (.single h), hid⟩
  cases h with
  | @addSurface made _ _ _ _ _ _ surface _ hreserve hmake =>
    intro handle target hfind
    rw [withSurface, Handle.Table.find?_reserve_commit hreserve] at hfind
    split at hfind
    · next heq =>
      cases hfind
      exact ⟨surface, Array.getElem?_push_size, (id_of_make hmake).trans heq.symm⟩
    · exact hstore hfind
  | removeSurface hremove =>
    intro handle target hfind
    rw [Handle.Table.find?_removeIf hd.surfaces.nodup hremove] at hfind
    split at hfind
    · cases hfind
    · exact hstore hfind
  | _ => exact fun _ _ => hstore

theorem registered_serveAll (settings : Settings) (mapper : Memory.Mapper) (factory : Factory ε)
    (history : List Request) : ((make settings mapper factory).serveAll history).Registered :=
  invariant_of_step Registered.step (registered_make settings mapper factory)
    (steps_serveAll history _)

/-! ## Surfaces on the books -/

/-- The surfaces on the books are there. -/
def Stocked (books : Ledger) (d : Driver ε) : Prop :=
  ∀ handle, ∀ record ∈ books handle, ∃ surface, d.surfaceStore[record.2.index]? = some surface

theorem Stocked.serve {books : Ledger} (hd : d.Registered) (h : Stocked books d)
    (request : Request) : Stocked (request.noted d books) (d.serve request) := by
  have hsteps : Steps d (d.serve request) := keeps_steps_perform request d .refl
  have hbooks : Stocked books (d.serve request) := fun handle record hmem => by
    obtain ⟨surface, hsurface⟩ := h handle record hmem
    exact ⟨surface, surface_of_steps hsurface hsteps⟩
  cases request with
  | createContext => exact fun handle record hmem => hbooks handle record (Ledger.mem_opened hmem)
  | beginPicture =>
    intro handle record hmem
    rcases Ledger.mem_begun hmem with hold | htarget
    · exact hbooks handle record hold
    · obtain ⟨surface, hsurface, -⟩ := hd.stored _ _ htarget
      exact ⟨surface, surface_of_steps hsurface hsteps⟩
  | _ => exact hbooks

theorem Stocked.serveAll (history : List Request) :
    ∀ {d : Driver ε} {books : Ledger}, d.Registered → Stocked books d →
      Stocked (d.ledgerFrom books history) (d.serveAll history) := by
  induction history with
  | nil => exact fun _ h => h
  | cons request rest ih =>
    intro d books hd h
    exact ih (invariant_of_step Registered.step hd (keeps_steps_perform request d .refl))
      (h.serve hd request)

end Steps

/-! ## Where tags lead -/

/-- A surface without a handle that sessions still hold as their render target. -/
def Lingers (d : Driver ε) (target : SurfaceRef) : Prop :=
  (∀ handle, d.surfaces.find? handle ≠ some target) ∧ ∃ handle, d.HeldBy handle target

/-- The surface that a tag leads to, given the pictures that were begun: the one that was begun last
under the tag, which is live under the handle that it knows, or lingers. A tag leads nowhere if no
picture was begun under it, or too many others since, or if the surface was destroyed and no session
holds it. -/
def LeadsTo (d : Driver ε) (capacity : Nat) (begun : List (UInt32 × SurfaceRef)) (tag : UInt32) :
    Option Surface → Prop
  | some surface => ∃ target, begun.reverse.lookup tag = some target ∧
      d.surfaceStore[target.index]? = some surface ∧
      (d.surfaces.find? surface.id = some target ∨ d.Lingers target)
  | none => ∀ target, begun.reverse.lookup tag = some target →
      tag ∉ ((begun.map Prod.fst).dedup).rtake capacity ∨
        (∀ handle, d.surfaces.find? handle ≠ some target) ∧ ∀ handle, ¬ d.HeldBy handle target

/-- What holds a surface: its handle, or a session whose render target it is. -/
theorem isHeld_iff_exists (hd : d.AtRest) (target : SurfaceRef) :
    isHeld d.surfaces d.contexts target = true ↔
      (∃ handle, d.surfaces.find? handle = some target) ∨ ∃ handle, d.HeldBy handle target := by
  rw [isHeld_iff hd.contexts.nodup 0, List.any_eq_true]
  refine or_congr ⟨?_, ?_⟩ ⟨?_, ?_⟩
  · rintro ⟨_, hmem, htarget⟩
    obtain rfl := of_decide_eq_true htarget
    obtain ⟨⟨handle, _⟩, hlive, rfl⟩ := List.mem_map.1 hmem
    exact ⟨handle, Handle.Table.find?_of_mem hd.surfaces.nodup hlive⟩
  · rintro ⟨handle, hfind⟩
    exact ⟨target, Handle.Table.mem_objects_of_find? hfind, decide_eq_true rfl⟩
  · rintro (hheld | ⟨handle, -, hheld⟩)
    · exact ⟨0, hheld⟩
    · exact ⟨handle, hheld⟩
  · rintro ⟨handle, hheld⟩
    by_cases hzero : handle = 0
    · exact .inl (hzero ▸ hheld)
    · exact .inr ⟨handle, hzero, hheld⟩

/-- The surface that a session finds for a tag is the one that the tag leads to. -/
theorem leadsTo_homeSurface (hd : d.Registered) {books : Ledger} (hstocked : Stocked books d)
    (capacity handle : Nat) (tag : UInt32) :
    d.LeadsTo capacity (books handle) tag
      (homeSurface capacity (books handle) (isHeld d.surfaces d.contexts) d.surfaceStore tag) := by
  rw [homeSurface, home]
  split
  · next hrecent =>
    rcases hlookup : (books handle).reverse.lookup tag with _ | target
    · intro target htarget
      cases hlookup.symm.trans htarget
    have hrecord : (tag, target) ∈ books handle := by
      obtain ⟨before, after, hbooks, -⟩ := List.lookup_eq_some_iff.1 hlookup
      rw [← List.mem_reverse, hbooks]
      exact List.mem_append_right _ List.mem_cons_self
    obtain ⟨surface, hsurface⟩ := hstocked handle (tag, target) hrecord
    by_cases hheld : isHeld d.surfaces d.contexts target = true
    · rw [Option.filter_some, if_pos hheld, Option.bind_some, hsurface]
      refine ⟨target, hlookup, hsurface, ?_⟩
      by_cases hlive : ∃ handle, d.surfaces.find? handle = some target
      · obtain ⟨live, hfind⟩ := hlive
        obtain ⟨found, hfound, hid⟩ := hd.stored live target hfind
        obtain rfl := Option.some.inj (hfound.symm.trans hsurface)
        exact .inl (hid ▸ hfind)
      · have hby := ((isHeld_iff_exists hd.toAtRest target).1 hheld).resolve_left hlive
        exact .inr ⟨fun handle hfind => hlive ⟨handle, hfind⟩, hby⟩
    · rw [Option.filter_some, if_neg hheld]
      intro target' htarget'
      obtain rfl := Option.some.inj (hlookup.symm.trans htarget')
      rw [isHeld_iff_exists hd.toAtRest, not_or] at hheld
      exact .inr ⟨fun handle hfind => hheld.1 ⟨handle, hfind⟩,
        fun handle hby => hheld.2 ⟨handle, hby⟩⟩
  · next hforgotten => exact fun _ _ => .inl hforgotten

/-- What a session holds during its run, a driver holds anyway. -/
theorem heldWith_isHeld (hd : d.AtRest) {c : Context ε} (hfind : d.contexts.find? handle = some c)
    {session : Decoder ε} (hsession : c.session = .decoder session) :
    session.heldWith (isHeld d.surfaces d.contexts) = isHeld d.surfaces d.contexts := by
  funext target
  rw [Decoder.heldWith]
  by_cases hawaiting : session.phase.awaiting? = some target
  · have hheld : isHeld d.surfaces d.contexts target = true := by
      refine (isHeld_iff_exists hd target).2 (.inr ⟨handle, c, hfind, ?_⟩)
      rw [hsession, Session.target?]
      rcases hphase : session.phase with _ | _ | _ | _
      all_goals rw [hphase] at hawaiting; first | exact hawaiting | cases hawaiting
    rw [decide_eq_true hawaiting, hheld]
    rfl
  · rw [decide_eq_false hawaiting, Bool.false_or]

/-! ## Reports -/

section Reports

variable [Engine ε]

/-- A picture that is ended and answered was answered by the session. -/
theorem run_of_endPicture {c c' : Context ε} {patience : Nat} {buffers : BufferStore}
    {owned : SurfaceRef → Bool} {shared shared' : Session.Shared} {ready : List ReadyPicture}
    (h : c.endPicture patience buffers owned shared = (.ok ready, c', shared')) :
    ∃ session, c.session.run patience buffers owned shared = (.ok ready, session, shared') := by
  rw [Context.endPicture] at h
  split at h
  · cases h
  · rcases hran : c.session.run patience buffers owned shared with ⟨result, session, after⟩
    simp only [hran, Prod.mk.injEq] at h
    obtain ⟨hresult, -, rfl⟩ := h
    exact ⟨session, by rw [mapError_eq_ok.1 hresult]⟩

/-- **Pictures go to the surfaces that their tags lead to, and are reported so.** After any history
of requests, a client that keeps books of the pictures its contexts begin can tell of each picture
that ending another one answers with where its pixels are: in the surface that was begun last under
its tag. The handle that is reported is the one that this surface is live under. If it was
destroyed, the picture goes nowhere and no handle is reported, unless some session holds the surface
as its render target: then the pixels are still written, and the handle that the surface had is
reported. -/
theorem reported_surfaces {settings : Settings} {mapper : Memory.Mapper} {factory : Factory ε}
    {history : List Request} (hserved : (make settings mapper factory).serveAll history = d)
    {ready : List ReadyPicture} (hend : (endPicture handle).run d = (.ok ready, d')) :
    d'.surfaces = d.surfaces ∧ d'.surfaceStore = d.surfaceStore ∧
    ∃ calls engine, ∃ surface? : UInt32 → Option Surface,
      d'.events = d.events ++ (calls.map (Engine.Event.mk engine)).toArray ∧
      d'.memories = copyAll surface? d.memories (shown calls) ∧
      ready = (shown calls).map (ReadyPicture.of surface?) ∧
      ∀ tag, d.LeadsTo settings.capacity ((make settings mapper factory).ledger history handle) tag
        (surface? tag) := by
  have hd : d.Registered := hserved ▸ registered_serveAll settings mapper factory history
  have hstocked : Stocked ((make settings mapper factory).ledger history) d := by
    rw [← hserved]
    exact Stocked.serveAll history (registered_make settings mapper factory) (by rintro _ _ ⟨⟩)
  have hline : InLine settings.capacity ((make settings mapper factory).ledger history)
      d.contexts := hserved ▸ inLine_ledger settings mapper factory history
  generalize (make settings mapper factory).ledger history = books at hstocked hline ⊢
  have hleads := leadsTo_homeSurface hd hstocked settings.capacity handle
  rcases hfind : d.contexts.find? handle with _ | c
  · rw [endPicture, run_bind_error (context_run_none hfind)] at hend
    cases hend
  rcases hran : c.endPicture d.settings.patience d.bufferStore (isHeld d.surfaces d.contexts)
    d.shared with ⟨answer, c', shared'⟩
  rw [endPicture_run hfind hran] at hend
  cases hend
  refine ⟨rfl, rfl, ?_⟩
  obtain ⟨session', hrun⟩ := run_of_endPicture hran
  rcases hsession : c.session with _ | session
  · -- nothing is decoded, and nothing is reported
    rw [hsession] at hrun
    cases hrun
    exact ⟨[], 0, _, (Array.append_empty).symm, rfl, rfl, hleads⟩
  · obtain ⟨submissions, htraced⟩ := hline handle c session hfind hsession
    rcases hdecode : session.run d.settings.patience d.bufferStore
      (isHeld d.surfaces d.contexts) d.shared with ⟨outcome, decoder, after⟩
    rw [hsession, Session.run] at hrun
    simp only [hdecode, Prod.mk.injEq] at hrun
    obtain ⟨rfl, -, rfl⟩ := hrun
    obtain ⟨calls, hevents, hmemories, hready⟩ := htraced.run_delivers hdecode
    rw [heldWith_isHeld hd.toAtRest hfind hsession] at hmemories hready
    exact ⟨calls, session.engineIndex, _, hevents, hmemories, hready ready rfl, hleads⟩

end Reports

/-! ### A surface that is replaced while its picture waits -/

/-- An engine that shows a picture of the first submission. -/
def showingOnce : Engine.Script where
  entries := [{
    status := some .pictureDecoded
    pictures := [(none, {
      tag := 0
      width := 16
      height := 16
      luma := .zeros 256
      lumaStride := 16
      chroma := .zeros 128
      chromaStride := 16 })] }]

/-- A client hands over the buffers of a picture and destroys the surface. -/
def destroying : List Request := [
  .createConfig .h264Main .vld [],
  .createSurfaces Config.formatYuv420 16 16 1 [],
  .createContext 0 16 16 0 [],
  .createBuffer 0 .pictureParameter 672 1 none,
  .createBuffer 0 .sliceParameter 25 1 none,
  .createBuffer 0 .sliceData 2 1 (some (.ofBytes [0x41, 0x9a])),
  .beginPicture 0 0,
  .renderPicture 0 [0, 1, 2],
  .destroySurfaces [0]]

/-- Then it makes another surface, which is larger. -/
def replacing : List Request :=
  destroying ++ [.createSurfaces Config.formatYuv420 32 32 1 []]

/-- The driver after these requests. -/
def replaced : Driver Engine.Script := (following showingOnce).serveAll replacing

theorem replaced_eq : replaced = ((following showingOnce).serveAll destroying).serve
    (.createSurfaces Config.formatYuv420 32 32 1 []) := rfl

theorem replaced_session : ∃ c, replaced.contexts.find? 0 = some c ∧
    c.session = .decoder { waiting with engine := showingOnce } := by
  obtain ⟨c, hfind, hsession⟩ :
      ∃ c, ((following showingOnce).serveAll destroying).contexts.find? 0 = some c ∧
        c.session = .decoder { waiting with engine := showingOnce } := ⟨_, rfl, rfl⟩
  refine ⟨c, ?_, hsession⟩
  rw [replaced_eq, contexts_serve id]
  exact hfind

theorem replaced_buffers : replaced.bufferStore = Decoder.smallBuffers := by
  have hkeeps := keeps_createSurfaces (I := fun d : Driver Engine.Script =>
    d.bufferStore = Decoder.smallBuffers) (fun _ _ _ _ _ h => h) Config.formatYuv420 32 32 1 []
  rw [replaced_eq, serve, Request.perform, run_forget]
  exact hkeeps ((following showingOnce).serveAll destroying) rfl

theorem replaced_ledger : (following showingOnce).ledger replacing 0 = [(0, ⟨0⟩)] := rfl

theorem replaced_surfaces : replaced.surfaces.find? 0 = some ⟨1⟩ := by decide +kernel

theorem replaced_answer : ∃ d', (endPicture 0).run replaced =
    (.ok [{ tag := 0, surface := some 0, width := 16, height := 16 }], d') := by
  obtain ⟨c, hfind, hsession⟩ := replaced_session
  obtain ⟨outcome, session', shared', hsubmit, hend⟩ :=
    small_endPicture hfind hsession rfl replaced_buffers
  have houtcome : outcome = .ok [{ tag := 0, surface := some 0, width := 16, height := 16 }] := by
    rw [← show _ = outcome from congrArg Prod.fst hsubmit]
    decide +kernel
  exact ⟨_, hend.trans (congrArg (Prod.mk · _) (congrArg _ houtcome))⟩

/-- The surface of the picture lingers. -/
theorem reported_surfaces_replaced :
    ∃ surface, replaced.surfaceStore[0]? = some surface ∧ surface.id = 0 ∧
      replaced.Lingers ⟨0⟩ := by
  have hserved : (make {} Memory.Mapper.heap fun _ _ => .ok showingOnce).serveAll replacing =
    replaced := rfl
  obtain ⟨d', hend⟩ := replaced_answer
  obtain ⟨-, -, calls, engine, surface?, -, -, hready, hleads⟩ := reported_surfaces hserved hend
  have hlead : replaced.LeadsTo 128 [(0, ⟨0⟩)] 0 (surface? 0) := replaced_ledger ▸ hleads 0
  have hreported : (surface? 0).map (·.id) = some 0 := by
    obtain ⟨picture, rest, hshown⟩ : ∃ picture rest, shown calls = picture :: rest :=
      List.exists_cons_of_ne_nil fun hnil => nomatch hready.trans (congrArg _ hnil)
    rw [hshown, List.map_cons] at hready
    obtain ⟨hpicture, -⟩ := List.cons.inj hready
    have htag : 0 = picture.tag := congrArg ReadyPicture.tag hpicture
    exact htag ▸ (congrArg ReadyPicture.surface hpicture).symm
  obtain ⟨surface, hsurface, hid⟩ := Option.map_eq_some_iff.1 hreported
  rw [hsurface] at hlead
  obtain ⟨target, htarget, hstored, hlive⟩ := hlead
  cases htarget
  refine ⟨surface, hstored, hid, hlive.resolve_left ?_⟩
  rw [hid, replaced_surfaces]
  rintro ⟨⟩

/-- The picture was begun into the first surface and is reported under its handle, though the
surface was destroyed and the handle leads to the second one. -/
theorem destroyed_surface_reported :
    (following showingOnce).ledger replacing 0 = [(0, ⟨0⟩)] ∧
      replaced.surfaces.find? 0 = some ⟨1⟩ ∧
      ∃ d', (endPicture 0).run replaced =
        (.ok [{ tag := 0, surface := some 0, width := 16, height := 16 }], d') :=
  ⟨replaced_ledger, replaced_surfaces, replaced_answer⟩

end AvcDriver.Driver
