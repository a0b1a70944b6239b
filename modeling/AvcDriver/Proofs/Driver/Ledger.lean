import AvcDriver.Proofs.Driver.Order
import AvcDriver.Proofs.Session.History

/-!
# The pictures that contexts begin

A client that keeps books of the pictures it begins knows, for each context, which surface each
tag was begun into. The books are kept from the requests and their answers; the sessions of all
contexts are in line with them after every history.

* `keeps_contexts_perform`: requests on anything else leave all contexts alone.
* `Driver.ledger`: the books.
* `InLine.serve`: every request keeps sessions in line with the books.
-/

namespace AvcDriver

open Engine (Factory)
open Session (Decoder)

variable {ε : Type}

/-- A session that is started has nothing on record. -/
theorem Session.traced_start {factory : Factory ε} {asked : Nat} {mode : Mode}
    {profile : Config.Profile} {entrypoint : Config.Entrypoint} {options : Options}
    {session : Session ε} {decoder : Decoder ε}
    (h : (start factory asked mode profile entrypoint options).1 = .ok session)
    (hsession : session = .decoder decoder) : decoder.Traced options.capacity [] [] := by
  subst hsession
  rw [start] at h
  split at h
  · cases h
  · cases h
  · obtain ⟨engine, -, h⟩ := bind_eq_ok.1 h
    obtain ⟨made, hmake, h⟩ := bind_eq_ok.1 h
    cases h
    exact Decoder.traced_make (mapError_eq_ok.1 hmake)

/-- A session that is run out of turn stays as it is. -/
theorem Session.run_of_rejects [Engine ε] {session : Session ε}
    (h : session.accepts .run = false) (patience : Nat) (buffers : BufferStore)
    (owned : SurfaceRef → Bool) (shared : Shared) :
    (session.run patience buffers owned shared).2.1 = session := by
  rcases session with _ | decoder
  · rfl
  · rw [accepts, Decoder.state] at h
    rcases hphase : decoder.phase with _ | _ | _ | _
    · simp only [run, Decoder.run, hphase]
    · simp only [run, Decoder.run, hphase]
    · rw [hphase] at h
      cases h
    · simp only [run, Decoder.run, hphase]

/-- Ending a picture runs the session, in turn or not. -/
theorem Context.session_endPicture [Engine ε] (c : Context ε) (patience : Nat)
    (buffers : BufferStore) (owned : SurfaceRef → Bool) (shared : Session.Shared) :
    (c.endPicture patience buffers owned shared).2.1.session =
      (c.session.run patience buffers owned shared).2.1 := by
  by_cases haccepts : c.session.accepts .run = true
  · rw [endPicture, check, if_pos haccepts]
  · rw [endPicture, check, if_neg haccepts,
      Session.run_of_rejects (Bool.eq_false_iff.2 haccepts)]

/-- An object is made under a new handle, and none is moved. -/
theorem Handle.Table.find?_create {α : Type} {t t' : Table α} {make : Nat → α} {handle : Nat}
    (h : t.create make = .ok (handle, t')) (other : Nat) :
    t'.find? other = if other = handle then some (make handle) else t.find? other := by
  obtain ⟨⟨id, reserved⟩, hreserve, hcommit⟩ := bind_eq_ok.1 h
  cases hcommit
  exact find?_reserve_commit hreserve other _

namespace Driver

open AvcDriver.Action (Ends Keeps)

variable {d d' : Driver ε} {handle : Nat}

/-! ## Requests that leave contexts alone -/

/-- A request on contexts. -/
def Request.IsOnContexts : Request → Prop
  | createContext .. => True
  | destroyContext .. => True
  | beginPicture .. => True
  | renderPicture .. => True
  | endPicture .. => True
  | _ => False

section Contexts

variable {contexts : Handle.Table (Context ε)}

omit contexts in
/-- Making surfaces keeps what is not up to surfaces and memories. -/
theorem keeps_createSurfaces {I : Driver ε → Prop}
    (hI : ∀ (d : Driver ε) surfaces surfaceStore memories imports, I d →
      I { d with surfaces, surfaceStore, memories, imports })
    (format width height : UInt32) (count : Nat) (attributes : List Surface.Attribute) :
    Keeps I (createSurfaces format width height count attributes) := by
  have hdestroy (handle : Nat) : Keeps I (destroySurface handle) :=
    fun d hd => Ends.get_bind (Ends.ofFaulting_bind
      (fun _ _ => hI d _ d.surfaceStore d.memories d.imports hd) fun _ _ => hd)
  have hcreate (attributes : List Surface.Attribute) :
      Keeps I (createSurface format width height attributes) :=
    fun d hd => createSurface_ends (fun _ _ _ _ _ _ _ => hI d _ _ _ _ hd)
      fun imports _ => hI d d.surfaces d.surfaceStore d.memories imports hd
  exact Keeps.createSurfaces
    (fun _ d hd => hI d d.surfaces d.surfaceStore _ d.imports hd) hcreate hdestroy count attributes

theorem keeps_contexts_addBuffer (owner : Option Nat) (kind : BufferKind) (size : Nat)
    (data : Option Block) :
    Keeps (fun d : Driver ε => d.contexts = contexts) (addBuffer owner kind size data) :=
  fun _ hd => addBuffer_ends (fun _ _ _ _ _ => hd) fun _ => hd

theorem keeps_contexts_createBuffer (owner : Nat) (kind : BufferKind) (size count : Nat)
    (data : Option Block) : Keeps (fun d : Driver ε => d.contexts = contexts)
      (createBuffer owner kind size count data) := by
  intro d hd
  refine Ends.context_bind (fun _ _ => ?_) fun _ => hd
  refine Ends.ofExcept_bind (fun total _ => ?_) fun _ _ => hd
  have hadd := (keeps_contexts_addBuffer (some owner) kind total data).bind
    (fun made => Keeps.pure made.1) d hd
  rcases data with _ | block
  · exact hadd
  · exact Ends.demand_bind (fun _ => hadd) fun _ => hd

theorem keeps_contexts_createImage (format : Image.Format) (width height : UInt32) :
    Keeps (fun d : Driver ε => d.contexts = contexts) (createImage format width height) := by
  intro d hd
  refine Ends.settle_bind (fun layout _ => ?_) fun _ _ => hd
  refine (keeps_contexts_addBuffer none .image layout.dataSize none).bind (fun _ => ?_) d hd
  exact fun d hd => Ends.get_bind (Ends.ofFaulting_bind (fun _ _ => hd) fun _ _ => hd)

theorem keeps_contexts_getImage (surface : Nat) (x y width height : UInt32) (image : Nat) :
    Keeps (fun d : Driver ε => d.contexts = contexts)
      (getImage surface x y width height image) := by
  intro d hd
  refine Ends.surface_bind (fun _ _ => ?_) fun _ => hd
  refine Ends.surfaceAt_bind (fun _ _ => ?_) fun _ => hd
  refine Ends.image_bind (fun _ _ => ?_) fun _ => hd
  split
  · refine Ends.ofExcept_bind (fun _ _ => ?_) fun _ _ => hd
    refine Ends.get_bind (Ends.bufferAt_bind (fun _ _ => ?_) fun _ => hd)
    exact Ends.modify_bind (Ends.settle_bind (fun _ _ => hd) fun _ _ => hd)
  · exact hd

variable [Engine ε]

/-- **Requests on anything else leave all contexts alone.** -/
theorem keeps_contexts_perform {request : Request} (h : ¬ request.IsOnContexts) :
    Keeps (fun d : Driver ε => d.contexts = contexts) request.perform := by
  cases request with
  | createConfig profile entrypoint attributes =>
    refine Keeps.bind (fun d hd => ?_) fun _ => Keeps.pure ()
    refine Ends.get_bind (Ends.ofFaulting_bind (fun _ _ => ?_) fun _ _ => hd)
    exact Ends.ofExcept_bind (fun _ _ => hd) fun _ _ => hd
  | destroyConfig handle =>
    exact fun _ hd => Ends.get_bind (Ends.require_bind (fun _ _ => hd) fun _ => hd)
  | surfaceAttributes config =>
    exact Keeps.bind (fun _ hd => Ends.config_bind (fun _ _ => hd) fun _ => hd)
      fun _ => Keeps.pure ()
  | createSurfaces format width height count attributes =>
    exact (keeps_createSurfaces (fun _ _ _ _ _ hd => hd) format width height count
      attributes).bind fun _ => Keeps.pure ()
  | destroySurfaces handles => exact fun _ hd => ends_requireSurfaces_bind hd fun _ => hd
  | syncSurface handle => exact fun _ hd => Ends.surface_bind (fun _ _ => hd) fun _ => hd
  | createBuffer owner kind size count data =>
    exact (keeps_contexts_createBuffer owner kind size count data).bind fun _ => Keeps.pure ()
  | mapBuffer handle access =>
    exact fun _ hd =>
      Ends.buffer_bind (fun _ _ => Ends.bufferAt_bind (fun _ _ => hd) fun _ => hd) fun _ => hd
  | resizeBuffer handle size =>
    refine fun _ hd =>
      Ends.buffer_bind (fun _ _ => Ends.bufferAt_bind (fun _ _ => ?_) fun _ => hd) fun _ => hd
    exact Ends.ofFaulting_bind (fun _ _ => hd) fun _ _ => hd
  | destroyBuffer handle =>
    exact fun _ hd => Ends.get_bind (Ends.require_bind (fun _ _ => hd) fun _ => hd)
  | createImage format width height =>
    exact (keeps_contexts_createImage format width height).bind fun _ => Keeps.pure ()
  | destroyImage handle =>
    exact fun _ hd => Ends.get_bind (Ends.require_bind (fun _ _ => hd) fun _ => hd)
  | getImage surface x y width height image =>
    exact keeps_contexts_getImage surface x y width height image
  | sessionState context =>
    exact Keeps.bind (fun _ hd => Ends.context_bind (fun _ _ => hd) fun _ => hd)
      fun _ => Keeps.pure ()
  | _ => exact absurd trivial h

theorem contexts_serve {request : Request} (h : ¬ request.IsOnContexts) (d : Driver ε) :
    (d.serve request).contexts = d.contexts :=
  keeps_contexts_perform h d rfl

end Contexts

/-! ## Books -/

/-- For each context, the pictures that it began: under which tags, into which surfaces. -/
abbrev Ledger := Nat → List (UInt32 × SurfaceRef)

/-- A new context has begun no pictures. -/
def Ledger.opened (ledger : Ledger) : Except (Failure DriverError) Nat → Ledger
  | .ok handle => Function.update ledger handle []
  | .error _ => ledger

/-- A picture that is begun is noted last. -/
def Ledger.begun (ledger : Ledger) (handle : Nat) (tag? : Option UInt32)
    (target? : Option SurfaceRef) (answer : Except (Failure DriverError) Unit) : Ledger :=
  match answer, tag?, target? with
  | .ok (), some tag, some target => Function.update ledger handle (ledger handle ++ [(tag, target)])
  | _, _, _ => ledger

theorem Ledger.mem_opened {books : Ledger} {answer : Except (Failure DriverError) Nat}
    {record : UInt32 × SurfaceRef} (h : record ∈ books.opened answer handle) :
    record ∈ books handle := by
  rcases answer with failure | made
  · exact h
  · change record ∈ Function.update books made [] handle at h
    by_cases hmade : handle = made
    · subst hmade
      rw [Function.update_self] at h
      cases h
    · rwa [Function.update_of_ne hmade] at h

/-- What is on the books was there, or has just been begun. -/
theorem Ledger.mem_begun {books : Ledger} {other : Nat} {tag? : Option UInt32}
    {target? : Option SurfaceRef} {answer : Except (Failure DriverError) Unit}
    {record : UInt32 × SurfaceRef} (h : record ∈ books.begun handle tag? target? answer other) :
    record ∈ books other ∨ target? = some record.2 := by
  unfold begun at h
  split at h
  · by_cases hother : other = handle
    · subst hother
      rw [Function.update_self] at h
      rcases List.mem_append.1 h with hold | hnew
      · exact .inl hold
      · rw [List.mem_singleton.1 hnew]
        exact .inr rfl
    · rw [Function.update_of_ne hother] at h
      exact .inl h
  · exact .inl h

/-- The tag that the next picture of a context gets, if it decodes. -/
def nextTag? (d : Driver ε) (handle : Nat) : Option UInt32 :=
  (d.contexts.find? handle).bind fun c =>
    match c.session with
    | .noOp => none
    | .decoder session => some session.tag

/-- Sessions are in line with the books. -/
def InLine (capacity : Nat) (ledger : Ledger) (contexts : Handle.Table (Context ε)) : Prop :=
  ∀ handle c session, contexts.find? handle = some c → c.session = .decoder session →
    ∃ submissions, session.Traced capacity (ledger handle) submissions

section InLine

variable [Engine ε] {capacity : Nat} {books : Ledger}

/-- The books after a request. -/
def Request.noted (d : Driver ε) (books : Ledger) : Request → Ledger
  | createContext config width height flag targets =>
    books.opened ((Driver.createContext config width height flag targets).run d).1
  | beginPicture handle surface =>
    books.begun handle (d.nextTag? handle) (d.surfaces.find? surface)
      ((Driver.beginPicture handle surface).run d).1
  | _ => books

/-- The books after a history. -/
def ledgerFrom (d : Driver ε) (books : Ledger) : List Request → Ledger
  | [] => books
  | request :: rest => (d.serve request).ledgerFrom (request.noted d books) rest

/-- The books that are kept over a history. -/
def ledger (d : Driver ε) (history : List Request) : Ledger := d.ledgerFrom (fun _ => []) history

/-- A context whose session takes a call stays in line if what the call sets is noted. -/
theorem InLine.modify {contexts : Handle.Table (Context ε)} (h : InLine capacity books contexts)
    {c c' : Context ε} (hfind : contexts.find? handle = some c)
    {records : List (UInt32 × SurfaceRef)}
    (hafter : ∀ session', c'.session = .decoder session' → ∃ session step,
      c.session = .decoder session ∧ session.after step = session' ∧
        records = books handle ++ session.recordOf step) :
    InLine capacity (Function.update books handle records)
      (contexts.modify handle fun _ => c') := by
  intro other found session' hfound hsession'
  rw [Handle.Table.find?_modify] at hfound
  by_cases hother : other = handle
  · subst hother
    rw [hfind, Option.map_some, if_pos rfl] at hfound
    obtain rfl := Option.some.inj hfound
    obtain ⟨session, step, hsession, rfl, rfl⟩ := hafter session' hsession'
    obtain ⟨submissions, htraced⟩ := h other c session hfind hsession
    rw [Function.update_self]
    exact ⟨_, htraced.after step⟩
  · simp only [if_neg hother, Option.map_id'] at hfound
    rw [Function.update_of_ne hother]
    exact h other found session' hfound hsession'

/-- A call that sets nothing leaves the books as they are. -/
theorem InLine.modify_silent {contexts : Handle.Table (Context ε)}
    (h : InLine capacity books contexts) {c c' : Context ε}
    (hfind : contexts.find? handle = some c)
    (hafter : ∀ session', c'.session = .decoder session' → ∃ session step,
      c.session = .decoder session ∧ session.after step = session' ∧ session.recordOf step = []) :
    InLine capacity books (contexts.modify handle fun _ => c') := by
  have hbooks : Function.update books handle (books handle) = books := Function.update_eq_self ..
  refine hbooks ▸ h.modify hfind fun session' hsession' => ?_
  obtain ⟨session, step, hsession, hstep, hsilent⟩ := hafter session' hsession'
  exact ⟨session, step, hsession, hstep, by rw [hsilent, List.append_nil]⟩

omit [Engine ε] in
/-- A new context has nothing on record. -/
theorem InLine.create {contexts contexts' : Handle.Table (Context ε)}
    (h : InLine capacity books contexts) {make : Nat → Context ε}
    (hcreate : contexts.create make = .ok (handle, contexts'))
    (hmake : ∀ session, (make handle).session = .decoder session → session.Traced capacity [] []) :
    InLine capacity (Function.update books handle []) contexts' := by
  intro other found session hfound hsession
  rw [Handle.Table.find?_create hcreate] at hfound
  by_cases hother : other = handle
  · subst hother
    rw [if_pos rfl] at hfound
    obtain rfl := Option.some.inj hfound
    rw [Function.update_self]
    exact ⟨[], hmake session hsession⟩
  · rw [if_neg hother] at hfound
    rw [Function.update_of_ne hother]
    exact h other found session hfound hsession

omit [Engine ε] in
theorem InLine.createContext (h : InLine d.settings.capacity books d.contexts)
    (configHandle : Nat) (width height : UInt32) (flag : Int32) (targets : List Nat) :
    Ends (createContext configHandle width height flag targets) d fun answer d' =>
      InLine d.settings.capacity (books.opened answer) d'.contexts := by
  refine Ends.config_bind (fun config _ => ?_) fun _ => h
  refine ends_requireSurfaces_bind ?_ fun _ => h
  refine (startSession_ends (Q := fun result d' => d'.contexts = d.contexts ∧
    (Session.start d.factory d.engines d.settings.mode config.profile config.entrypoint
      (d.sessionOptions width height)).1 = result) fun _ _ => ⟨rfl, rfl⟩).bind ?_ ?_
  · rintro session d₁ ⟨hcontexts, hstart⟩
    refine Ends.get_bind (Ends.ofFaulting_bind ?_ fun _ _ => hcontexts ▸ h)
    rintro ⟨made, contexts⟩ hcreate
    rw [hcontexts] at hcreate
    exact h.create hcreate fun decoder hdecoder => Session.traced_start hstart hdecoder
  · rintro failure d₁ ⟨hcontexts, -⟩
    exact hcontexts ▸ h

theorem InLine.beginPicture (h : InLine d.settings.capacity books d.contexts)
    (handle surface : Nat) :
    Ends (beginPicture handle surface) d fun answer d' => InLine d.settings.capacity
      (books.begun handle (d.nextTag? handle) (d.surfaces.find? surface) answer) d'.contexts := by
  refine Ends.surface_bind (fun target htarget => ?_) fun _ => h
  refine Ends.context_bind (fun c hfind => ?_) fun _ => h
  refine Ends.settle_bind (fun c' hbegin => ?_) fun _ _ => h
  obtain ⟨-, -, hbegin⟩ := bind_eq_ok.1 hbegin
  obtain ⟨session', hset, hc'⟩ := bind_eq_ok.1 hbegin
  cases hc'
  have hset := mapError_eq_ok.1 hset
  change InLine _ (books.begun handle ((d.contexts.find? handle).bind _) _ (.ok ()))
    (d.contexts.modify handle fun _ => { c with session := session' })
  rw [hfind, htarget, Option.bind_some]
  rcases hsession : c.session with _ | session
  · rw [hsession] at hset
    cases hset
    exact h.modify_silent hfind (by rintro _ ⟨⟩)
  · rw [hsession, Session.setRenderTarget, Decoder.setRenderTarget] at hset
    split at hset
    · next haccepts =>
      cases hset
      refine h.modify hfind ?_
      rintro _ ⟨⟩
      refine ⟨session, .setRenderTarget target, hsession, ?_, ?_⟩
      · rw [Decoder.after, Decoder.setRenderTarget, if_pos haccepts]
        rfl
      · rw [Decoder.recordOf, if_pos haccepts]
    · cases hset

theorem InLine.renderPicture (h : InLine d.settings.capacity books d.contexts) (handle : Nat)
    (handles : List Nat) :
    Ends (renderPicture handle handles) d fun _ d' =>
      InLine d.settings.capacity books d'.contexts := by
  refine Ends.context_bind (fun c hfind => ?_) fun _ => h
  refine Ends.mapM_bind namedBuffer_ends (fun named _ => ?_) fun _ => h
  refine Ends.settle_bind (fun c' hrender => ?_) fun _ _ => h
  obtain ⟨-, -, hrender⟩ := bind_eq_ok.1 hrender
  obtain ⟨session', henqueue, hc'⟩ := bind_eq_ok.1 hrender
  cases hc'
  have henqueue := mapError_eq_ok.1 henqueue
  refine h.modify_silent hfind fun decoder' hdecoder' => ?_
  obtain rfl : session' = .decoder decoder' := hdecoder'
  rcases hsession : c.session with _ | session
  · rw [hsession] at henqueue
    cases henqueue
  · rw [hsession, Session.enqueueWork] at henqueue
    refine ⟨session, .enqueueWork named, rfl, ?_, rfl⟩
    rw [Decoder.after]
    rcases hresult : session.enqueueWork named with cause | decoder
    · rw [hresult] at henqueue
      cases henqueue
    · rw [hresult] at henqueue
      cases henqueue
      rfl

theorem InLine.endPicture (h : InLine d.settings.capacity books d.contexts) (handle : Nat) :
    Ends (endPicture handle) d fun _ d' => InLine d.settings.capacity books d'.contexts := by
  refine Ends.context_bind (fun c hfind => Ends.get_bind ?_) fun _ => h
  refine Ends.set_bind (Ends.settle (h.modify_silent hfind fun session' hsession' => ?_))
  have hsession' := (c.session_endPicture _ _ _ _).symm.trans hsession'
  rcases hsession : c.session with _ | session
  · rw [hsession] at hsession'
    cases hsession'
  · rw [hsession] at hsession'
    exact ⟨session, .run _ _ _ _, rfl, Session.decoder.inj hsession', rfl⟩

omit [Engine ε] in
theorem InLine.destroyContext (hd : d.AtRest) (h : InLine d.settings.capacity books d.contexts)
    (handle : Nat) :
    Ends (destroyContext handle) d fun _ d' => InLine d.settings.capacity books d'.contexts := by
  refine Ends.get_bind (Ends.require_bind ?_ fun _ => h)
  rintro ⟨removed, contexts⟩ hremove other found session hfound hsession
  change contexts.find? other = some found at hfound
  rw [Handle.Table.find?_removeIf hd.contexts.nodup hremove] at hfound
  split at hfound
  · cases hfound
  · exact h other found session hfound hsession

omit [Engine ε] in
/-- What a request does is not up to what is made of its answer. -/
theorem run_forget {α : Type} (m : DriverM ε α) (d : Driver ε) :
    ((do let _ ← m : DriverM ε Unit).run d).2 = (m.run d).2 := by
  rw [Action.run_bind]
  rcases m.run d with ⟨failure | a, d'⟩
  · rfl
  · rfl

/-- **Every request** keeps sessions in line with the books. -/
theorem InLine.serve (hd : d.AtRest) (h : InLine d.settings.capacity books d.contexts)
    (request : Request) :
    InLine d.settings.capacity (request.noted d books) (d.serve request).contexts := by
  by_cases hcontexts : request.IsOnContexts
  · cases request with
    | createContext config width height flag targets =>
      rw [Driver.serve, Request.perform, run_forget]
      exact h.createContext config width height flag targets
    | destroyContext handle => exact h.destroyContext hd handle
    | beginPicture handle surface => exact h.beginPicture handle surface
    | renderPicture handle handles => exact h.renderPicture handle handles
    | endPicture handle =>
      rw [Driver.serve, Request.perform, run_forget]
      exact h.endPicture handle
    | _ => exact hcontexts.elim
  · rw [contexts_serve hcontexts]
    cases request with
    | createContext => exact absurd trivial hcontexts
    | beginPicture => exact absurd trivial hcontexts
    | _ => exact h

/-- So does every history. -/
theorem InLine.serveAll (history : List Request) :
    ∀ {d : Driver ε} {books : Ledger}, d.AtRest → InLine d.settings.capacity books d.contexts →
      InLine d.settings.capacity (d.ledgerFrom books history) (d.serveAll history).contexts := by
  induction history with
  | nil => exact fun _ h => h
  | cons request rest ih =>
    intro d books hd h
    have hstep : Steps d (d.serve request) := keeps_steps_perform request d .refl
    have hsettings : (d.serve request).settings = d.settings := settings_serveAll [request] d
    have hrest := ih (invariant_of_step AtRest.step hd hstep) (hsettings ▸ h.serve hd request)
    rw [hsettings] at hrest
    exact hrest

/-- **Sessions are in line with the books** after every history. -/
theorem inLine_ledger (settings : Settings) (mapper : Memory.Mapper) (factory : Factory ε)
    (history : List Request) :
    InLine settings.capacity ((make settings mapper factory).ledger history)
      ((make settings mapper factory).serveAll history).contexts :=
  InLine.serveAll history (atRest_make settings mapper factory) (by rintro _ _ _ ⟨⟩)

end InLine

end Driver

end AvcDriver
