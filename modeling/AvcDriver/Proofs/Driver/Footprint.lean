import AvcDriver.Proofs.Driver.Turn
import AvcDriver.Proofs.Session.Footprint

/-!
# The footprint of a turn

A turn changes its own context, the memories of the surfaces that the context names, and the dump
by what is submitted. What it does is up to these too, and to who else holds the surfaces. A
context names the surface that it holds and those that it remembers; it comes to name another one
when a picture is begun into it.

* `Context.take_alike`: a move is up to what its context names.
* `uses`: the surfaces that a context uses if it takes turns.
* `Turn.after_spec`: what a turn changes.
* `Spares`, `Told`: what turns leave alone, and what their reports tell.
-/

namespace AvcDriver

open Session (Decoder Dump Move ReadyPicture Shared memoriesOf)

variable {ε : Type}

/-! ## What contexts name -/

/-- The surfaces that a session holds or remembers. -/
def Session.names : Session ε → Set SurfaceRef
  | .noOp => ∅
  | .decoder d => d.names

/-- A session names the surface that it holds. -/
theorem Session.mem_names_of_target {session : Session ε} {target : SurfaceRef}
    (h : session.target? = some target) : target ∈ session.names := by
  cases session with
  | noOp => cases h
  | decoder d => exact .inl h

/-- The stream that a session would submit, if there is one. -/
def Session.submission? (session : Session ε) (buffers : BufferStore) : Option Bytes :=
  match session with
  | .noOp => none
  | .decoder d => d.submission? buffers

/-! ### What becomes of a session -/

namespace Session

variable {session session' : Session ε}

/-- A render target is the only surface that a session comes to name by it. -/
theorem names_setRenderTarget {target : SurfaceRef}
    (h : session.setRenderTarget target = .ok session') :
    session'.names ⊆ session.names ∪ {target} := by
  cases session with
  | noOp =>
    cases h
    exact Set.empty_subset _
  | decoder d =>
    rw [setRenderTarget] at h
    rcases hd : d.setRenderTarget target with cause | d'
    · rw [hd] at h
      cases h
    · rw [hd] at h
      cases h
      exact Decoder.names_setRenderTarget hd

theorem names_enqueueWork {buffers : List (BufferRef × BufferKind)}
    (h : session.enqueueWork buffers = .ok session') : session'.names = session.names := by
  cases session with
  | noOp =>
    cases h
    rfl
  | decoder d =>
    rw [enqueueWork] at h
    rcases hd : d.enqueueWork buffers with cause | d'
    · rw [hd] at h
      cases h
    · rw [hd] at h
      cases h
      exact Decoder.names_enqueueWork hd

/-- A run makes a session name no more surfaces. -/
theorem names_run [Engine ε] (session : Session ε) (patience : Nat) (buffers : BufferStore)
    (owned : SurfaceRef → Bool) (shared : Shared) :
    (session.run patience buffers owned shared).2.1.names ⊆ session.names := by
  cases session with
  | noOp => exact subset_rfl
  | decoder d => exact Decoder.names_run patience buffers owned shared

end Session

/-! ### Moves -/

namespace Context

/-- The stream that a move submits, if it does. -/
def submission? (c : Context ε) (move : Move) (buffers : BufferStore) : Option Bytes :=
  match move with
  | .finish => c.session.submission? buffers
  | _ => none

variable [Engine ε] {c : Context ε} {owned owned' : SurfaceRef → Bool} {shared shared' : Shared}

/-- **A move is up to what its context names**, who else holds that, and the memories of it. -/
theorem take_alike (howned : ∀ surface ∈ c.session.names, owned' surface = owned surface)
    (hsurfaces : shared'.surfaces = shared.surfaces) {mine : Set MemoryRef}
    (hmine : memoriesOf shared.surfaces c.session.names ⊆ mine)
    (hmemories : Set.EqOn shared.memories.find? shared'.memories.find? mine) (move : Move)
    (patience : Nat) (buffers : BufferStore) :
    let took := c.take move patience buffers owned shared
    let took' := c.take move patience buffers owned' shared'
    took'.1 = took.1 ∧ took'.2.1 = took.2.1 ∧
      Shared.SameChange mine shared took.2.2 shared' took'.2.2 := by
  cases move with
  | begin target =>
    rcases hbegin : c.beginPicture target with failure | c'
    all_goals
      simp only [take, moved, hbegin, true_and]
      exact .refl hmemories
  | render named =>
    rcases hrender : c.renderPicture named with failure | c'
    all_goals
      simp only [take, moved, hrender, true_and]
      exact .refl hmemories
  | finish =>
    rcases hcheck : c.check .run with error | ⟨⟩
    · simp only [take, endPicture, hcheck, true_and]
      exact .refl hmemories
    rcases hsession : c.session with _ | d
    · simp only [take, endPicture, hcheck, hsession, Session.run, true_and]
      exact .refl hmemories
    · rw [hsession] at howned hmine
      obtain ⟨hresult, hd, hchange⟩ :=
        Decoder.run_alike howned hsurfaces hmine hmemories patience buffers
      simp only [take, endPicture, hcheck, hsession, Session.run, hresult, hd, true_and]
      exact hchange

/-- A context comes to name no surface but the one that is begun. -/
theorem names_take (move : Move) (patience : Nat) (buffers : BufferStore)
    (owned : SurfaceRef → Bool) (shared : Shared) :
    (c.take move patience buffers owned shared).2.1.session.names ⊆
      c.session.names ∪ {target | target ∈ move.target?} := by
  cases move with
  | begin target =>
    rcases hbegin : c.beginPicture target with failure | c'
    · simp only [take, moved, hbegin]
      exact Set.subset_union_left
    · simp only [take, moved, hbegin]
      obtain ⟨-, -, hbegin⟩ := bind_eq_ok.1 hbegin
      obtain ⟨session, hset, hc'⟩ := bind_eq_ok.1 hbegin
      cases hc'
      refine (Session.names_setRenderTarget (mapError_eq_ok.1 hset)).trans ?_
      exact Set.union_subset_union_right _ (by rintro _ rfl; exact rfl)
  | render named =>
    refine Set.Subset.trans ?_ Set.subset_union_left
    rcases hrender : c.renderPicture named with failure | c'
    · simp only [take, moved, hrender]
      exact subset_rfl
    · simp only [take, moved, hrender]
      obtain ⟨-, -, hrender⟩ := bind_eq_ok.1 hrender
      obtain ⟨session, hset, hc'⟩ := bind_eq_ok.1 hrender
      cases hc'
      exact (Session.names_enqueueWork (mapError_eq_ok.1 hset)).subset
  | finish =>
    refine Set.Subset.trans ?_ Set.subset_union_left
    rcases hcheck : c.check .run with error | ⟨⟩
    · simp only [take, endPicture, hcheck]
      exact subset_rfl
    · simp only [take, endPicture, hcheck]
      exact c.session.names_run patience buffers owned shared

/-- A move appends to the dump what it submits. -/
theorem take_dump (move : Move) (patience : Nat) (buffers : BufferStore)
    (owned : SurfaceRef → Bool) (shared : Shared) :
    (c.take move patience buffers owned shared).2.2.dump =
      (c.submission? move buffers).elim shared.dump shared.dump.append := by
  cases move with
  | begin target =>
    rcases hbegin : c.beginPicture target with failure | c'
    all_goals simp only [take, moved, hbegin, submission?, Option.elim_none]
  | render named =>
    rcases hrender : c.renderPicture named with failure | c'
    all_goals simp only [take, moved, hrender, submission?, Option.elim_none]
  | finish =>
    rcases hsession : c.session with _ | d
    · simp only [take, endPicture, check, hsession, Session.accepts, Session.run, submission?,
        Session.submission?, if_true, Option.elim_none]
    · have hdump := d.run_dump patience buffers owned shared
      rcases hcheck : c.check .run with error | ⟨⟩
      · -- a session that does not accept the call has nothing to submit
        have hnone : d.submission? buffers = none := by
          rw [check, hsession] at hcheck
          rcases hphase : d.phase with _ | _ | _ | _
          · rw [Decoder.submission?, hphase]
          · rw [Decoder.submission?, hphase]
          · simp [Session.accepts, Decoder.state, hphase, Session.Phase.state,
              Session.State.accepts] at hcheck
          · rw [Decoder.submission?, hphase]
        simp only [take, endPicture, hcheck, submission?, hsession, Session.submission?, hnone,
          Option.elim_none]
      · simp only [take, endPicture, hcheck, hsession, Session.run, submission?,
          Session.submission?]
        exact hdump

end Context

namespace Driver

/-! ## What contexts use -/

/-- The surfaces that the session of a context holds or remembers. -/
def names (d : Driver ε) (handle : Nat) : Set SurfaceRef :=
  {target | ∃ c, d.contexts.find? handle = some c ∧ target ∈ c.session.names}

/-- The surface that a turn begins a picture into. -/
def Turn.names (d : Driver ε) (turn : Turn) : Set SurfaceRef :=
  {target | ∃ surface, turn = .begin surface ∧ d.surfaces.find? surface = some target}

/-- The surfaces that a context uses if it takes turns: those that it names already, and those that
it begins pictures into. -/
def uses (d : Driver ε) (handle : Nat) (turns : List Turn) : Set SurfaceRef :=
  {target | target ∈ d.names handle ∨ ∃ turn ∈ turns, target ∈ turn.names d}

/-- Two sets of surfaces have no surface in common, and no memory. -/
structure Apart (d : Driver ε) (used used' : Set SurfaceRef) : Prop where
  surfaces : Disjoint used used'
  memories : Disjoint (memoriesOf d.surfaceStore used) (memoriesOf d.surfaceStore used')

/-- A session of the context under a handle holds a surface. -/
def HeldBy (d : Driver ε) (handle : Nat) (target : SurfaceRef) : Prop :=
  ∃ c, d.contexts.find? handle = some c ∧ c.session.target? = some target

/-- The session of another context holds a surface. -/
def HeldElsewhere (d : Driver ε) (handle : Nat) (target : SurfaceRef) : Prop :=
  ∃ other ≠ handle, d.HeldBy other target

variable {d d' : Driver ε} {handle other : Nat} {c : Context ε} {used used' : Set SurfaceRef}

/-- A surface is held by its handle, by the session of one context, or by another's. -/
theorem isHeld_iff (hnodup : d.contexts.handles.Nodup) (handle : Nat) (target : SurfaceRef) :
    isHeld d.surfaces d.contexts target = true ↔
      d.surfaces.objects.any (· = target) = true ∨ d.HeldBy handle target ∨
        d.HeldElsewhere handle target := by
  have hcontexts : d.contexts.objects.any (·.session.target? = some target) = true ↔
      ∃ handle, d.HeldBy handle target := by
    rw [List.any_eq_true]
    constructor
    · rintro ⟨c, hmem, htarget⟩
      obtain ⟨⟨handle, c⟩, hlive, rfl⟩ := List.mem_map.1 hmem
      exact ⟨handle, c, Handle.Table.find?_of_mem hnodup hlive, of_decide_eq_true htarget⟩
    · rintro ⟨handle, c, hfind, htarget⟩
      exact ⟨c, Handle.Table.mem_objects_of_find? hfind, decide_eq_true htarget⟩
  rw [isHeld, Bool.or_eq_true, hcontexts]
  refine or_congr_right ⟨?_, ?_⟩
  · rintro ⟨other, hheld⟩
    by_cases hsame : other = handle
    · exact .inl (hsame ▸ hheld)
    · exact .inr ⟨other, hsame, hheld⟩
  · rintro (hheld | ⟨other, -, hheld⟩)
    · exact ⟨handle, hheld⟩
    · exact ⟨other, hheld⟩

/-! ## Turns -/

/-- Another context has not moved. -/
theorem find?_withMove_of_ne (hne : other ≠ handle) (c : Context ε) (shared : Shared) :
    (d.withMove handle c shared).contexts.find? other = d.contexts.find? other := by
  rw [withMove, Handle.Table.find?_modify]
  simp only [if_neg hne, Option.map_id']

theorem find?_withMove (hfind : d.contexts.find? handle = some c) (c' : Context ε)
    (shared : Shared) : (d.withMove handle c' shared).contexts.find? handle = some c' := by
  rw [withMove, Handle.Table.find?_modify, hfind, Option.map_some, if_pos rfl]

/-- A move of one context changes nothing of what other contexts hold. -/
theorem heldElsewhere_withMove (c : Context ε) (shared : Shared) (target : SurfaceRef) :
    (d.withMove handle c shared).HeldElsewhere handle target ↔ d.HeldElsewhere handle target := by
  refine exists_congr fun other => and_congr_right fun hne => ?_
  rw [HeldBy, HeldBy, find?_withMove_of_ne hne]

/-- The stream that a turn submits, if it does. -/
def Turn.submission? (d : Driver ε) (handle : Nat) (turn : Turn) : Option Bytes :=
  match turn.move d, d.contexts.find? handle with
  | .ok move, some c => c.submission? move d.bufferStore
  | _, _ => none

/-- The surface that a move begins a picture on is one that its turn names. -/
theorem Turn.names_of_move {turn : Turn} {move : Move} (h : turn.move d = .ok move) :
    {target | target ∈ move.target?} ⊆ turn.names d := by
  cases turn with
  | begin surface =>
    rw [Turn.move] at h
    split at h
    · cases h
    · next htarget =>
      cases h
      rintro target ⟨⟩
      exact ⟨surface, rfl, htarget⟩
  | render handles =>
    rw [Turn.move] at h
    rcases hnamed : handles.mapM d.named with failure | items
    · rw [hnamed] at h
      cases h
    · rw [hnamed] at h
      cases h
      rintro target ⟨⟩
  | finish =>
    cases h
    rintro target ⟨⟩

/-- What is told of a turn: its answer, what was said to engines meanwhile, and the stream that was
submitted. -/
structure Report where
  answer : Except (Failure DriverError) (List ReadyPicture)
  said : List Engine.Event
  submitted : Option Bytes

theorem drop_said (events said : Array Engine.Event) :
    (events ++ said).toList.drop events.size = said.toList := by
  rw [Array.toList_append, ← Array.length_toList, List.drop_left]

/-! ## What turns leave alone, and what is told of them -/

/-- What turns leave alone: other contexts than those of `handles`, other memories than those that
are touched, and all that is not changed by decoding. -/
structure Spares (handles : Set Nat) (touched : Set MemoryRef) (d d' : Driver ε) : Prop where
  rest : { d' with
    contexts := d.contexts, memories := d.memories, dump := d.dump, events := d.events } = d
  table : d'.contexts.handles = d.contexts.handles ∧ d'.contexts.reserved = d.contexts.reserved ∧
    d'.contexts.next = d.contexts.next
  contexts : ∀ other ∉ handles, d'.contexts.find? other = d.contexts.find? other
  memories : Set.EqOn d'.memories.find? d.memories.find? touchedᶜ

/-- What reports tell of a driver: what was appended to its dump, and what was said. -/
structure Told (reports : List (Nat × Report)) (d d' : Driver ε) : Prop where
  dump : d'.dump = (reports.filterMap (·.2.submitted)).foldl Dump.append d.dump
  events : d'.events = d.events ++ (reports.flatMap (·.2.said)).toArray

namespace Spares

variable {handles handles' : Set Nat} {touched touched' : Set MemoryRef} {d'' : Driver ε}

/-- A driver spares all of itself. -/
theorem refl (handles : Set Nat) (touched : Set MemoryRef) (d : Driver ε) :
    Spares handles touched d d :=
  ⟨rfl, ⟨rfl, rfl, rfl⟩, fun _ _ => rfl, Set.eqOn_refl _ _⟩

theorem trans (h : Spares handles touched d d') (h' : Spares handles touched d' d'') :
    Spares handles touched d d'' := by
  refine ⟨?_, ?_, ?_, h'.memories.trans h.memories⟩
  · rw [← h.rest]
    exact congrArg (fun last : Driver ε => { last with
      contexts := d.contexts, memories := d.memories, dump := d.dump, events := d.events }) h'.rest
  · exact ⟨h'.table.1.trans h.table.1, h'.table.2.1.trans h.table.2.1,
      h'.table.2.2.trans h.table.2.2⟩
  · exact fun other hother => (h'.contexts other hother).trans (h.contexts other hother)

/-- Who spares all but some contexts and memories spares all but more of them. -/
theorem mono (h : Spares handles touched d d') (hhandles : handles ⊆ handles')
    (htouched : touched ⊆ touched') : Spares handles' touched' d d' where
  rest := h.rest
  table := h.table
  contexts other hother := h.contexts other fun hmem => hother (hhandles hmem)
  memories := h.memories.mono (Set.compl_subset_compl.2 htouched)

theorem surfaceStore_eq (h : Spares handles touched d d') : d'.surfaceStore = d.surfaceStore := by
  have hrest := congrArg surfaceStore h.rest
  exact hrest

end Spares

/-- What is told by two stretches of a run is told by both together. -/
theorem Told.trans {reports more : List (Nat × Report)} {d'' : Driver ε} (h : Told reports d d')
    (h' : Told more d' d'') : Told (reports ++ more) d d'' := by
  constructor
  · rw [h'.dump, h.dump, List.filterMap_append, List.foldl_append]
  · rw [h'.events, h.events, List.flatMap_append, ← List.append_toArray, Array.append_assoc]

section Turns

variable [Engine ε]

/-- A driver after a turn. -/
def Turn.after (d : Driver ε) (handle : Nat) (turn : Turn) : Driver ε :=
  ((turn.perform handle).run d).2

/-- **What a turn changes**: its context, which comes to name the surface that is begun at most,
the memories of what the context names, and the dump by what is submitted. -/
theorem Turn.after_spec (hnodup : d.contexts.handles.Nodup)
    (hfind : d.contexts.find? handle = some c) (turn : Turn) :
    ∃ c' shared', turn.after d handle = d.withMove handle c' shared' ∧
      c'.session.names ⊆ c.session.names ∪ turn.names d ∧
      Shared.SameChange (memoriesOf d.surfaceStore c.session.names) d.shared shared' d.shared
        shared' ∧
      shared'.dump = (turn.submission? d handle).elim d.dump d.dump.append := by
  have hrun := turn.run_perform hnodup hfind
  rcases hmove : turn.move d with failure | move
  · rw [hmove] at hrun
    refine ⟨c, d.shared, ?_, Set.subset_union_left, .refl (Set.eqOn_refl _ _), ?_⟩
    · rw [after, hrun, withMove_self hnodup hfind]
    · rw [submission?, hmove, Option.elim_none]
      rfl
  · rw [hmove] at hrun
    have howned : ∀ surface ∈ c.session.names, isHeld d.surfaces d.contexts surface =
        isHeld d.surfaces d.contexts surface := fun _ _ => rfl
    obtain ⟨-, -, hchange⟩ := Context.take_alike howned
      (rfl : d.shared.surfaces = d.shared.surfaces) subset_rfl (Set.eqOn_refl _ _) move
      d.settings.patience d.bufferStore
    have hnames := c.names_take move d.settings.patience d.bufferStore
      (isHeld d.surfaces d.contexts) d.shared
    have hdump := c.take_dump move d.settings.patience d.bufferStore
      (isHeld d.surfaces d.contexts) d.shared
    refine ⟨_, _, congrArg Prod.snd hrun, ?_, hchange, ?_⟩
    · exact hnames.trans (Set.union_subset_union_right _ (Turn.names_of_move hmove))
    · rw [submission?, hmove, hfind]
      exact hdump

/-- The report of a turn. -/
def Turn.report (d : Driver ε) (handle : Nat) (turn : Turn) : Report where
  answer := ((turn.perform handle).run d).1
  said := (turn.after d handle).events.toList.drop d.events.size
  submitted := turn.submission? d handle

/-- **A turn spares** the other contexts, and all memory in which no surface lies that its session
names or comes to name. -/
theorem Turn.spares (hnodup : d.contexts.handles.Nodup) (hfind : d.contexts.find? handle = some c)
    (hnames : c.session.names ⊆ used) (turn : Turn) :
    Spares {handle} (memoriesOf d.surfaceStore used) d (turn.after d handle) := by
  obtain ⟨c', shared', hafter, -, hchange, -⟩ := turn.after_spec hnodup hfind
  rw [hafter]
  refine ⟨rfl, ⟨Handle.Table.handles_modify _ _ _, rfl, rfl⟩, ?_, ?_⟩
  · exact fun other hother => find?_withMove_of_ne hother c' shared'
  · intro ref hfree
    exact hchange.memories.kept fun hmem => hfree (Session.memoriesOf_mono _ hnames hmem)

/-- A turn tells the calls of its own engine, and nothing else. -/
theorem Turn.told (hnodup : d.contexts.handles.Nodup) (hfind : d.contexts.find? handle = some c)
    (turn : Turn) : Told [(handle, turn.report d handle)] d (turn.after d handle) := by
  obtain ⟨c', shared', hafter, -, hchange, hdump⟩ := turn.after_spec hnodup hfind
  obtain ⟨said, hsaid, -⟩ := hchange.events
  have hevents : (turn.after d handle).events = d.events ++ said := by
    rw [hafter]
    exact hsaid
  constructor
  · rw [hafter]
    refine hdump.trans ?_
    rw [Turn.report]
    rcases turn.submission? d handle with _ | stream <;> rfl
  · have hreport : (turn.report d handle).said = said.toList := by
      rw [Turn.report, hevents]
      exact drop_said d.events said
    rw [hevents, List.flatMap_singleton, hreport]

end Turns

end Driver

end AvcDriver
