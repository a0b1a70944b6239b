import AvcDriver.Proofs.Driver.Footprint
import AvcDriver.Proofs.Driver.Order
import AvcDriver.Proofs.Driver.Pixels

/-!
# Contexts that are apart

Contexts whose surfaces are different, and lie in different memories, do not interfere. However
their turns are interleaved, each is answered as if there were only its own turns, says the same
to its engine, stands where its own turns lead it, and finds the same pictures in its surfaces.
Only in which order streams come to lie in the dump is up to the interleaving.

* `AlikeFor`: two drivers that a context cannot tell apart. Its own turns keep them so, and so do
  the turns of contexts that are apart from it.
* `play`: turns of several contexts, one after the other, with a report of each.
* `AlikeFor.play`: what a context sees of turns is what it sees of its own.
* `contexts_do_not_interfere`: so it is for two contexts, however their turns are interleaved.
-/

namespace AvcDriver

open Session (Decoder Dump ReadyPicture memoriesOf)

variable {ε : Type}

namespace Driver

variable {d d' : Driver ε} {handle other : Nat} {c c' : Context ε} {used used' : Set SurfaceRef}

/-! ## What a context can tell -/

/-- Two drivers that a context cannot tell apart if it uses no other surfaces than `used`. Other
contexts may stand elsewhere, but they hold the same of these surfaces. -/
structure AlikeFor (handle : Nat) (used : Set SurfaceRef) (d d' : Driver ε) : Prop where
  settings : d'.settings = d.settings
  surfaces : d'.surfaces = d.surfaces
  surfaceStore : d'.surfaceStore = d.surfaceStore
  buffers : d'.buffers = d.buffers
  bufferStore : d'.bufferStore = d.bufferStore
  context : d'.contexts.find? handle = d.contexts.find? handle
  held : ∀ target ∈ used, d'.HeldElsewhere handle target ↔ d.HeldElsewhere handle target
  memories : Set.EqOn d.memories.find? d'.memories.find? (memoriesOf d.surfaceStore used)

namespace AlikeFor

theorem refl (handle : Nat) (used : Set SurfaceRef) (d : Driver ε) : AlikeFor handle used d d :=
  ⟨rfl, rfl, rfl, rfl, rfl, rfl, fun _ _ => Iff.rfl, Set.eqOn_refl _ _⟩

theorem isHeld_eq (h : AlikeFor handle used d d') (hnodup : d.contexts.handles.Nodup)
    (hnodup' : d'.contexts.handles.Nodup) {target : SurfaceRef} (hmem : target ∈ used) :
    isHeld d'.surfaces d'.contexts target = isHeld d.surfaces d.contexts target := by
  have hby : d'.HeldBy handle target ↔ d.HeldBy handle target := by
    rw [HeldBy, HeldBy, h.context]
  rw [Bool.eq_iff_iff, isHeld_iff hnodup' handle, isHeld_iff hnodup handle, h.surfaces, hby,
    h.held target hmem]

section Turns

variable [Engine ε]

/-- **A turn of the context is the same in both**, and leaves them alike. -/
theorem turn (h : AlikeFor handle used d d') (hnodup : d.contexts.handles.Nodup)
    (hnodup' : d'.contexts.handles.Nodup) (hfind : d.contexts.find? handle = some c)
    (hnames : c.session.names ⊆ used) (turn : Turn) :
    turn.report d' handle = turn.report d handle ∧
      AlikeFor handle used (turn.after d handle) (turn.after d' handle) := by
  have hfind' : d'.contexts.find? handle = some c := h.context.trans hfind
  have hmove' := turn.move_congr h.surfaces h.buffers h.bufferStore
  have hsubmission : turn.submission? d' handle = turn.submission? d handle := by
    rw [Turn.submission?, Turn.submission?, hmove', h.context, h.bufferStore]
  have hrun := turn.run_perform hnodup hfind
  have hrun' := turn.run_perform hnodup' hfind'
  rcases hmove : turn.move d with failure | move
  · rw [hmove] at hrun
    rw [hmove', hmove] at hrun'
    refine ⟨?_, ?_⟩
    · have hsilent : ∀ d : Driver ε, d.events.toList.drop d.events.size = [] := fun d => by
        rw [← Array.length_toList, List.drop_length]
      rw [Turn.report, Turn.report, hsubmission, Turn.after, Turn.after, hrun, hrun', hsilent,
        hsilent]
    · rw [Turn.after, Turn.after, hrun, hrun']
      exact h
  · have howned : ∀ surface ∈ c.session.names, isHeld d'.surfaces d'.contexts surface =
        isHeld d.surfaces d.contexts surface :=
      fun _ hmem => h.isHeld_eq hnodup hnodup' (hnames hmem)
    obtain ⟨hresult, hmoved, hchange⟩ := Context.take_alike howned
      (show d'.shared.surfaces = d.shared.surfaces from h.surfaceStore)
      (Session.memoriesOf_mono _ hnames) h.memories move d.settings.patience d.bufferStore
    rcases htook : c.take move d.settings.patience d.bufferStore
      (isHeld d.surfaces d.contexts) d.shared with ⟨result, c₁, shared₁⟩
    rcases htook' : c.take move d.settings.patience d.bufferStore
      (isHeld d'.surfaces d'.contexts) d'.shared with ⟨result', c₁', shared₁'⟩
    rw [htook, htook'] at hresult hmoved hchange
    obtain rfl : result' = result := hresult
    obtain rfl : c₁' = c₁ := hmoved
    simp only [hmove, takeMove, htook] at hrun
    simp only [hmove', hmove, takeMove, h.settings, h.bufferStore, htook'] at hrun'
    refine ⟨?_, ?_⟩
    · obtain ⟨said, hsaid, hsaid'⟩ := hchange.events
      have hafter : (turn.after d handle).events = d.events ++ said := by
        rw [Turn.after, hrun]
        exact hsaid
      have hafter' : (turn.after d' handle).events = d'.events ++ said := by
        rw [Turn.after, hrun']
        exact hsaid'
      rw [Turn.report, Turn.report, hsubmission, hafter, hafter', drop_said, drop_said, hrun, hrun']
    · rw [Turn.after, Turn.after, hrun, hrun']
      refine ⟨h.settings, h.surfaces, h.surfaceStore, h.buffers, h.bufferStore, ?_, ?_,
        hchange.memories.same⟩
      · exact (find?_withMove hfind' _ _).trans (find?_withMove hfind _ _).symm
      · intro target hmem
        rw [heldElsewhere_withMove, heldElsewhere_withMove]
        exact h.held target hmem

/-- **The turn of a context that is apart makes no difference.** -/
theorem aside (h : AlikeFor handle used d d') (hnodup : d.contexts.handles.Nodup)
    (hne : other ≠ handle) (hfind : d.contexts.find? other = some c) (turn : Turn)
    (hnames : c.session.names ∪ turn.names d ⊆ used') (hapart : d.Apart used used') :
    AlikeFor handle used (turn.after d other) d' := by
  obtain ⟨c', shared', hafter, hnames', hchange, -⟩ := turn.after_spec hnodup hfind
  rw [hafter]
  refine ⟨h.settings, h.surfaces, h.surfaceStore, h.buffers, h.bufferStore, ?_, ?_, ?_⟩
  · rw [find?_withMove_of_ne hne.symm]
    exact h.context
  · intro target hmem
    -- neither before nor after the turn does its context hold a surface in `used`
    have hfree : ∀ c : Context ε, c.session.names ⊆ used' → c.session.target? ≠ some target :=
      fun c hsub htarget =>
        Set.disjoint_left.1 hapart.surfaces hmem (hsub (Session.mem_names_of_target htarget))
    rw [h.held target hmem]
    refine exists_congr fun another => and_congr_right fun _ => ?_
    by_cases hsame : another = other
    · subst hsame
      refine iff_of_false ?_ ?_
      · rintro ⟨before, hbefore, htarget⟩
        obtain rfl : c = before := Option.some.inj (hfind.symm.trans hbefore)
        exact hfree c (Set.subset_union_left.trans hnames) htarget
      · rintro ⟨after, hfound, htarget⟩
        rw [find?_withMove hfind] at hfound
        obtain rfl : c' = after := Option.some.inj hfound
        exact hfree c' (hnames'.trans hnames) htarget
    · rw [HeldBy, HeldBy, find?_withMove_of_ne hsame]
  · refine Set.EqOn.trans (fun ref hmem => ?_) h.memories
    refine hchange.memories.kept fun htouched => ?_
    exact Set.disjoint_left.1 hapart.memories hmem
      (Session.memoriesOf_mono _ (Set.subset_union_left.trans hnames) htouched)

end Turns

end AlikeFor

/-! ## Turns of several contexts -/

/-- Contexts that are about to take turns are there, and use no surfaces but their own. -/
structure Confined (used : Nat → Set SurfaceRef) (mixed : List (Nat × Turn)) (d : Driver ε) :
    Prop where
  nodup : d.contexts.handles.Nodup
  there : ∀ step ∈ mixed, ∃ c, d.contexts.find? step.1 = some c
  named : ∀ step ∈ mixed, d.names step.1 ⊆ used step.1
  begun : ∀ step ∈ mixed, step.2.names d ⊆ used step.1

section Runs

variable [Engine ε] {used : Nat → Set SurfaceRef} {mixed : List (Nat × Turn)}

/-- The turns of several contexts, one after the other: the reports of them, each with its context,
and the driver after them. -/
def play (d : Driver ε) : List (Nat × Turn) → List (Nat × Report) × Driver ε
  | [] => ([], d)
  | (handle, turn) :: rest =>
    let (reports, last) := (turn.after d handle).play rest
    ((handle, turn.report d handle) :: reports, last)

/-- Contexts use no surfaces but their own after each turn. -/
theorem Confined.tail {turn : Turn} {rest : List (Nat × Turn)}
    (h : Confined used ((handle, turn) :: rest) d) : Confined used rest (turn.after d handle) := by
  obtain ⟨c, hfind⟩ := h.there _ List.mem_cons_self
  obtain ⟨c', shared', hafter, hnames, -, -⟩ := turn.after_spec h.nodup hfind
  have hown : c.session.names ∪ turn.names d ⊆ used handle :=
    Set.union_subset (fun target hmem => h.named _ List.mem_cons_self ⟨c, hfind, hmem⟩)
      (h.begun _ List.mem_cons_self)
  rw [hafter]
  refine ⟨?_, fun step hstep => ?_, fun step hstep => ?_, fun step hstep => ?_⟩
  · rw [withMove, Handle.Table.handles_modify]
    exact h.nodup
  · by_cases hsame : step.1 = handle
    · exact ⟨c', hsame ▸ find?_withMove hfind c' shared'⟩
    · rw [find?_withMove_of_ne hsame]
      exact h.there step (List.mem_cons_of_mem _ hstep)
  · rintro target ⟨found, hfound, hmem⟩
    by_cases hsame : step.1 = handle
    · rw [hsame, find?_withMove hfind] at hfound
      obtain rfl : c' = found := Option.some.inj hfound
      exact hsame ▸ hown (hnames hmem)
    · rw [find?_withMove_of_ne hsame] at hfound
      exact h.named step (List.mem_cons_of_mem _ hstep) ⟨found, hfound, hmem⟩
  · exact h.begun step (List.mem_cons_of_mem _ hstep)

/-- All that turns change is told, or belongs to what their contexts use. -/
theorem Confined.play_spares (h : Confined used mixed d) :
    Spares {other | ∃ step ∈ mixed, step.1 = other}
      {ref | ∃ step ∈ mixed, ref ∈ memoriesOf d.surfaceStore (used step.1)} d (d.play mixed).2 := by
  induction mixed generalizing d with
  | nil => exact .refl _ _ d
  | cons step rest ih =>
    obtain ⟨handle, turn⟩ := step
    obtain ⟨c, hfind⟩ := h.there _ List.mem_cons_self
    have hfirst := turn.spares h.nodup hfind fun target hmem =>
      h.named _ List.mem_cons_self ⟨c, hfind, hmem⟩
    have hstore : (turn.after d handle).surfaceStore = d.surfaceStore :=
      hfirst.surfaceStore_eq
    have hrest := ih h.tail
    rw [hstore] at hrest
    refine (hfirst.mono ?_ ?_).trans (hrest.mono ?_ ?_)
    · rintro _ rfl
      exact ⟨_, List.mem_cons_self, rfl⟩
    · exact fun ref hmem => ⟨_, List.mem_cons_self, hmem⟩
    · rintro _ ⟨step, hstep, rfl⟩
      exact ⟨step, List.mem_cons_of_mem _ hstep, rfl⟩
    · rintro ref ⟨step, hstep, hmem⟩
      exact ⟨step, List.mem_cons_of_mem _ hstep, hmem⟩

theorem Confined.play_told (h : Confined used mixed d) :
    Told (d.play mixed).1 d (d.play mixed).2 := by
  induction mixed generalizing d with
  | nil => exact ⟨rfl, Array.append_empty.symm⟩
  | cons step rest ih =>
    obtain ⟨handle, turn⟩ := step
    obtain ⟨c, hfind⟩ := h.there _ List.mem_cons_self
    exact (turn.told h.nodup hfind).trans (ih h.tail)

/-- **A context that is apart from the others sees its own turns only.** The induction is on the
turns: those of the context are the same in both drivers, and the others make no difference. -/
theorem AlikeFor.play (h : AlikeFor handle (used handle) d d') (hmixed : Confined used mixed d)
    (hnodup' : d'.contexts.handles.Nodup)
    (hapart : ∀ step ∈ mixed, step.1 ≠ handle → d.Apart (used handle) (used step.1)) :
    (d.play mixed).1.filter (·.1 = handle) = (d'.play (mixed.filter (·.1 = handle))).1 ∧
      AlikeFor handle (used handle) (d.play mixed).2
        (d'.play (mixed.filter (·.1 = handle))).2 := by
  induction mixed generalizing d d' with
  | nil => exact ⟨rfl, h⟩
  | cons step rest ih =>
    obtain ⟨other, turn⟩ := step
    obtain ⟨c, hfind⟩ := hmixed.there _ List.mem_cons_self
    have hnames : c.session.names ⊆ used other := fun target hmem =>
      hmixed.named _ List.mem_cons_self ⟨c, hfind, hmem⟩
    have hstore : (turn.after d other).surfaceStore = d.surfaceStore :=
      (Turn.spares hmixed.nodup hfind hnames turn).surfaceStore_eq
    have hapart' : ∀ step ∈ rest, step.1 ≠ handle →
        (turn.after d other).Apart (used handle) (used step.1) := by
      intro step hstep hne
      obtain ⟨hsurfaces, hmemories⟩ := hapart step (List.mem_cons_of_mem _ hstep) hne
      exact ⟨hsurfaces, by rwa [hstore]⟩
    by_cases hsame : other = handle
    · subst hsame
      obtain ⟨hreport, halike⟩ := h.turn hmixed.nodup hnodup' hfind hnames turn
      have hnodup'' : (turn.after d' other).contexts.handles.Nodup := by
        rw [(Turn.spares hnodup' (h.context.trans hfind) hnames turn).table.1]
        exact hnodup'
      obtain ⟨hreports, hlast⟩ := ih halike hmixed.tail hnodup'' hapart'
      rw [List.filter_cons_of_pos (by simp)]
      refine ⟨?_, hlast⟩
      rw [Driver.play, Driver.play, List.filter_cons_of_pos (by simp), hreport]
      exact congrArg _ hreports
    · have halike := h.aside hmixed.nodup hsame hfind turn
        (Set.union_subset hnames (hmixed.begun _ List.mem_cons_self))
        (hapart _ List.mem_cons_self hsame)
      obtain ⟨hreports, hlast⟩ := ih halike hmixed.tail hnodup' hapart'
      rw [List.filter_cons_of_neg (by simpa using hsame)]
      refine ⟨?_, hlast⟩
      rw [Driver.play, List.filter_cons_of_neg (by simpa using hsame)]
      exact hreports

end Runs

/-! ## Two contexts -/

/-- The turns of two contexts, in an order that keeps the order of each. -/
inductive Interleaves (a b : Nat) : List Turn → List Turn → List (Nat × Turn) → Prop
  | nil : Interleaves a b [] [] []
  | first {turns turns' : List Turn} {mixed : List (Nat × Turn)} (turn : Turn)
      (rest : Interleaves a b turns turns' mixed) :
      Interleaves a b (turn :: turns) turns' ((a, turn) :: mixed)
  | second {turns turns' : List Turn} {mixed : List (Nat × Turn)} (turn : Turn)
      (rest : Interleaves a b turns turns' mixed) :
      Interleaves a b turns (turn :: turns') ((b, turn) :: mixed)

namespace Interleaves

variable {a b : Nat} {turns turns' : List Turn} {mixed : List (Nat × Turn)}

theorem symm (h : Interleaves a b turns turns' mixed) : Interleaves b a turns' turns mixed := by
  induction h with
  | nil => exact .nil
  | first turn _ ih => exact .second turn ih
  | second turn _ ih => exact .first turn ih

theorem mem (h : Interleaves a b turns turns' mixed) {step : Nat × Turn} (hstep : step ∈ mixed) :
    step.1 = a ∧ step.2 ∈ turns ∨ step.1 = b ∧ step.2 ∈ turns' := by
  induction h with
  | nil => cases hstep
  | first turn _ ih =>
    rcases List.mem_cons.1 hstep with rfl | hrest
    · exact .inl ⟨rfl, List.mem_cons_self⟩
    · exact (ih hrest).imp_left fun h => ⟨h.1, List.mem_cons_of_mem _ h.2⟩
  | second turn _ ih =>
    rcases List.mem_cons.1 hstep with rfl | hrest
    · exact .inr ⟨rfl, List.mem_cons_self⟩
    · exact (ih hrest).imp_right fun h => ⟨h.1, List.mem_cons_of_mem _ h.2⟩

theorem filter_eq (hne : a ≠ b) (h : Interleaves a b turns turns' mixed) :
    mixed.filter (·.1 = a) = turns.map (a, ·) := by
  induction h with
  | nil => rfl
  | first turn _ ih =>
    rw [List.filter_cons_of_pos (by simp), List.map_cons, ih]
  | second turn _ ih =>
    rw [List.filter_cons_of_neg (by simpa using hne.symm), ih]

end Interleaves

/-- What a context sees of some turns is what it sees of others: the reports of its own turns, where
it stands after them, and what is in its memories. -/
structure SameFor (handle : Nat) (mine : Set MemoryRef)
    (ran alone : List (Nat × Report) × Driver ε) : Prop where
  reports : ran.1.filter (·.1 = handle) = alone.1
  context : ran.2.contexts.find? handle = alone.2.contexts.find? handle
  memories : Set.EqOn ran.2.memories.find? alone.2.memories.find? mine

section Pairs

variable {a b : Nat} {turns turns' : List Turn} {mixed : List (Nat × Turn)}

theorem Apart.symm (h : d.Apart used used') : d.Apart used' used :=
  ⟨h.surfaces.symm, h.memories.symm⟩

/-- What either of two contexts uses. -/
def usesOf (d : Driver ε) (a b : Nat) (turns turns' : List Turn) : Nat → Set SurfaceRef :=
  Function.update (fun _ => d.uses b turns') a (d.uses a turns)

theorem usesOf_left : d.usesOf a b turns turns' a = d.uses a turns := Function.update_self ..

theorem usesOf_right (hne : a ≠ b) : d.usesOf a b turns turns' b = d.uses b turns' :=
  Function.update_of_ne hne.symm ..

theorem confined_of_interleaves (hnodup : d.contexts.handles.Nodup) (hne : a ≠ b)
    (ha : d.contexts.find? a = some c) (hb : d.contexts.find? b = some c')
    (hmixed : Interleaves a b turns turns' mixed) :
    Confined (d.usesOf a b turns turns') mixed d := by
  refine ⟨hnodup, fun step hstep => ?_, fun step hstep target hmem => ?_,
    fun step hstep target hmem => ?_⟩
  · rcases hmixed.mem hstep with ⟨hhandle, -⟩ | ⟨hhandle, -⟩
    · exact ⟨c, hhandle ▸ ha⟩
    · exact ⟨c', hhandle ▸ hb⟩
  · rcases hmixed.mem hstep with ⟨hhandle, -⟩ | ⟨hhandle, -⟩
    · rw [hhandle] at hmem ⊢
      rw [usesOf_left]
      exact .inl hmem
    · rw [hhandle] at hmem ⊢
      rw [usesOf_right hne]
      exact .inl hmem
  · rcases hmixed.mem hstep with ⟨hhandle, hturn⟩ | ⟨hhandle, hturn⟩
    · rw [hhandle, usesOf_left]
      exact .inr ⟨step.2, hturn, hmem⟩
    · rw [hhandle, usesOf_right hne]
      exact .inr ⟨step.2, hturn, hmem⟩

/-- Drivers are equal but for dump and notes if what turns do not spare is the same in both. -/
theorem Spares.eq_of_same {handles : Set Nat} {touched : Set MemoryRef} {last last' : Driver ε}
    (h : Spares handles touched d last) (h' : Spares handles touched d last')
    (hnodup : d.contexts.handles.Nodup)
    (hcontexts : ∀ other ∈ handles, last'.contexts.find? other = last.contexts.find? other)
    (hmemories : Set.EqOn last'.memories.find? last.memories.find? touched) :
    last' = { last with dump := last'.dump, events := last'.events } := by
  have htable : last'.contexts = last.contexts := by
    refine Handle.Table.ext_find? (h.table.1 ▸ hnodup) (h'.table.1.trans h.table.1.symm)
      (h'.table.2.1.trans h.table.2.1.symm) (h'.table.2.2.trans h.table.2.2.symm) fun other => ?_
    by_cases hother : other ∈ handles
    · exact hcontexts other hother
    · exact (h'.contexts other hother).trans (h.contexts other hother).symm
  have hstore : last'.memories = last.memories := by
    refine Array.ext_getElem? fun index => ?_
    by_cases hmem : (⟨index⟩ : MemoryRef) ∈ touched
    · exact hmemories hmem
    · exact (h'.memories hmem).trans (h.memories hmem).symm
  calc last' = { last with
        contexts := last'.contexts, memories := last'.memories, dump := last'.dump,
        events := last'.events } := congrArg (fun other : Driver ε => { other with
          contexts := last'.contexts, memories := last'.memories, dump := last'.dump,
          events := last'.events }) (h'.rest.trans h.rest.symm)
    _ = { last with dump := last'.dump, events := last'.events } := by rw [htable, hstore]

variable [Engine ε]

theorem spares_of_interleaves (hnodup : d.contexts.handles.Nodup) (hne : a ≠ b)
    (ha : d.contexts.find? a = some c) (hb : d.contexts.find? b = some c')
    (hmixed : Interleaves a b turns turns' mixed) :
    Spares {other | other = a ∨ other = b} (memoriesOf d.surfaceStore (d.uses a turns) ∪
      memoriesOf d.surfaceStore (d.uses b turns')) d (d.play mixed).2 := by
  refine (confined_of_interleaves hnodup hne ha hb hmixed).play_spares.mono ?_ ?_
  · rintro _ ⟨step, hstep, rfl⟩
    exact (hmixed.mem hstep).imp And.left And.left
  · rintro ref ⟨step, hstep, hmem⟩
    rcases hmixed.mem hstep with ⟨hhandle, -⟩ | ⟨hhandle, -⟩
    · rw [hhandle, usesOf_left] at hmem
      exact .inl hmem
    · rw [hhandle, usesOf_right hne] at hmem
      exact .inr hmem

/-- The first of two contexts sees its own turns only. -/
theorem sameFor_of_interleaves (hnodup : d.contexts.handles.Nodup) (hne : a ≠ b)
    (ha : d.contexts.find? a = some c) (hb : d.contexts.find? b = some c')
    (hapart : d.Apart (d.uses a turns) (d.uses b turns'))
    (hmixed : Interleaves a b turns turns' mixed) :
    SameFor a (memoriesOf d.surfaceStore (d.uses a turns)) (d.play mixed)
      (d.play (turns.map (a, ·))) := by
  have hconfined := confined_of_interleaves hnodup hne ha hb hmixed
  obtain ⟨hreports, hlast⟩ :=
    (AlikeFor.refl a (d.usesOf a b turns turns' a) d).play hconfined hnodup
      fun step hstep hother => by
      rcases hmixed.mem hstep with ⟨hhandle, -⟩ | ⟨hhandle, -⟩
      · exact absurd hhandle hother
      · rwa [hhandle, usesOf_left, usesOf_right hne]
  rw [hmixed.filter_eq hne] at hreports hlast
  have hmemories := hlast.memories
  rw [hconfined.play_spares.surfaceStore_eq, usesOf_left] at hmemories
  exact ⟨hreports, hlast.context.symm, hmemories⟩

/-- **Contexts do not interfere.** Let two contexts use different surfaces, which lie in different
memories, those counted that they remember. However their turns are interleaved, each context is
answered as if there were only its own turns, says the same to its engine and submits the same to
it, stands where its turns lead it, and finds the same in the memories of its surfaces. Another
interleaving leads to the same driver, except for the order in which streams were appended to the
dump, and calls were noted. -/
theorem contexts_do_not_interfere {settings : Settings} {mapper : Memory.Mapper}
    {factory : Engine.Factory ε} {history : List Request}
    (hd : (make settings mapper factory).serveAll history = d) (hne : a ≠ b)
    (ha : d.contexts.find? a = some c) (hb : d.contexts.find? b = some c')
    (hapart : d.Apart (d.uses a turns) (d.uses b turns'))
    (hmixed : Interleaves a b turns turns' mixed) :
    SameFor a (memoriesOf d.surfaceStore (d.uses a turns)) (d.play mixed)
        (d.play (turns.map (a, ·))) ∧
      SameFor b (memoriesOf d.surfaceStore (d.uses b turns')) (d.play mixed)
        (d.play (turns'.map (b, ·))) ∧
      Told (d.play mixed).1 d (d.play mixed).2 ∧
      ∀ mixed', Interleaves a b turns turns' mixed' → ∃ dump events,
        (d.play mixed').2 = { (d.play mixed).2 with dump, events } := by
  have hnodup : d.contexts.handles.Nodup :=
    hd ▸ (atRest_serveAll settings mapper factory history).contexts.nodup
  have hfirst : ∀ {mixed : List (Nat × Turn)}, Interleaves a b turns turns' mixed →
      SameFor a (memoriesOf d.surfaceStore (d.uses a turns)) (d.play mixed)
        (d.play (turns.map (a, ·))) :=
    fun hmixed => sameFor_of_interleaves hnodup hne ha hb hapart hmixed
  have hsecond : ∀ {mixed : List (Nat × Turn)}, Interleaves a b turns turns' mixed →
      SameFor b (memoriesOf d.surfaceStore (d.uses b turns')) (d.play mixed)
        (d.play (turns'.map (b, ·))) :=
    fun hmixed => sameFor_of_interleaves hnodup hne.symm hb ha hapart.symm hmixed.symm
  refine ⟨hfirst hmixed, hsecond hmixed,
    (confined_of_interleaves hnodup hne ha hb hmixed).play_told, fun mixed' hmixed' => ?_⟩
  have hspares := spares_of_interleaves hnodup hne ha hb hmixed
  have hspares' := spares_of_interleaves hnodup hne ha hb hmixed'
  refine ⟨_, _, hspares.eq_of_same hspares' hnodup (fun other hother => ?_) fun ref hmem => ?_⟩
  · rcases hother with rfl | rfl
    · exact (hfirst hmixed').context.trans (hfirst hmixed).context.symm
    · exact (hsecond hmixed').context.trans (hsecond hmixed).context.symm
  · rcases hmem with hmem | hmem
    · exact ((hfirst hmixed').memories hmem).trans ((hfirst hmixed).memories hmem).symm
    · exact ((hsecond hmixed').memories hmem).trans ((hsecond hmixed).memories hmem).symm

end Pairs

/-! ### Two clients of one driver -/

/-- A surface of four by four pixels in the memory behind a descriptor. -/
def fourByFour (descriptor : Int) : List Surface.Attribute := Surface.Descriptor.attributes {
  fourcc := fourccNv12
  width := 4
  height := 4
  objects := [{ source := .descriptor descriptor, size := 24, modifier := 0 }]
  layers := [{
    format := fourccNv12
    planes := [
      { object := 0, offset := 0, pitch := 4 }, { object := 0, offset := 16, pitch := 4 }] }] }

/-- Two contexts and a surface for each, and the buffers of a picture. -/
def pairing : List Request := [
  .createConfig .h264Main .vld [],
  .createSurfaces Config.formatYuv420 4 4 1 (fourByFour 3),
  .createSurfaces Config.formatYuv420 4 4 1 (fourByFour 4),
  .createContext 0 4 4 0 [],
  .createContext 0 4 4 0 [],
  .createBuffer 0 .pictureParameter 672 1 none,
  .createBuffer 0 .sliceParameter 25 1 none,
  .createBuffer 0 .sliceData 2 1 (some (.ofBytes [0x41, 0x9a]))]

/-- An engine that shows a picture of every submission. -/
def showing : Engine.Script where
  entries := [{ status := some .pictureDecoded, consumed := 6, pictures := [(none, paddedPicture)] }]

/-- The turns of one picture that goes to a surface. -/
def pictureInto (surface : Nat) : List Turn := [.begin surface, .render [0, 1, 2], .finish]

/-- A context that remembers nothing uses the surface that its picture goes to. -/
theorem uses_pictureInto {d : Driver ε} {handle surface : Nat} {c : Context ε} {session : Decoder ε}
    {target : SurfaceRef} (hfind : d.contexts.find? handle = some c)
    (hsession : c.session = .decoder session) (hidle : session.phase = .idle)
    (hrecent : session.recent.entries = []) (hsurface : d.surfaces.find? surface = some target) :
    d.uses handle (pictureInto surface) = {target} := by
  have hnone : c.session.names = ∅ := by
    rw [hsession, Session.names, Decoder.names, hidle, hrecent]
    refine Set.eq_empty_of_forall_notMem ?_
    rintro other (hheld | ⟨entry, hentry, -⟩)
    · cases hheld
    · cases hentry
  refine Set.Subset.antisymm ?_ ?_
  · rintro other (⟨found, hfound, hmem⟩ | ⟨turn, hturn, begun, rfl, hbegun⟩)
    · obtain rfl : c = found := Option.some.inj (hfind.symm.trans hfound)
      rw [hnone] at hmem
      exact hmem.elim
    · obtain rfl : begun = surface := by simpa [pictureInto] using hturn
      exact Option.some.inj (hbegun.symm.trans hsurface)
  · rintro _ rfl
    exact .inr ⟨.begin surface, List.mem_cons_self, surface, rfl, hsurface⟩

theorem memoriesOf_singleton {surfaces : SurfaceStore} {target : SurfaceRef}
    {mapping : Memory.Mapping}
    (h : (surfaces[target.index]?).map (·.mapping) = some (some mapping)) :
    memoriesOf surfaces {target} = mapping.memories := by
  obtain ⟨surface, hsurface, hmapping⟩ := Option.map_eq_some_iff.1 h
  ext ref
  constructor
  · rintro ⟨_, rfl, found, hfound, other, hother, hmem⟩
    obtain rfl : surface = found := Option.some.inj (hsurface.symm.trans hfound)
    rw [hmapping] at hother
    obtain rfl := Option.some.inj hother
    exact hmem
  · exact fun hmem => ⟨target, rfl, surface, hsurface, mapping, hmapping, hmem⟩

/-- The mapping of a surface of four by four pixels. -/
def fourByFourMapping (memory : MemoryRef) : Memory.Mapping where
  regions := #[{ memory, size := 24 }]
  planes := [
    { object := 0, offset := 0, stride := 4, rows := 4 },
    { object := 0, offset := 16, stride := 4, rows := 2 }]

theorem memories_fourByFourMapping (memory : MemoryRef) :
    (fourByFourMapping memory).memories = {memory} := by
  ext ref
  simp [Memory.Mapping.memories, fourByFourMapping, eq_comm]

set_option maxRecDepth 1024 in
/-- Two pictures are decoded at the same time, each into its own memory. -/
theorem contexts_do_not_interfere_pair :
    let d := (following showing).serveAll pairing
    let mixed : List (Nat × Turn) := [(0, .begin 0), (1, .begin 1), (0, .render [0, 1, 2]),
      (1, .render [0, 1, 2]), (1, .finish), (0, .finish)]
    SameFor 0 {⟨0⟩} (d.play mixed) (d.play ((pictureInto 0).map (0, ·))) ∧
      SameFor 1 {⟨1⟩} (d.play mixed) (d.play ((pictureInto 1).map (1, ·))) := by
  intro d mixed
  obtain ⟨c, session, ha, hsession, hidle, hrecent⟩ : ∃ c session, d.contexts.find? 0 = some c ∧
      c.session = .decoder session ∧ session.phase = .idle ∧ session.recent.entries = [] :=
    ⟨_, _, rfl, rfl, rfl, rfl⟩
  obtain ⟨c', session', hb, hsession', hidle', hrecent'⟩ : ∃ c session,
      d.contexts.find? 1 = some c ∧ c.session = .decoder session ∧ session.phase = .idle ∧
        session.recent.entries = [] := ⟨_, _, rfl, rfl, rfl, rfl⟩
  have huses : d.uses 0 (pictureInto 0) = {⟨0⟩} :=
    uses_pictureInto ha hsession hidle hrecent rfl
  have huses' : d.uses 1 (pictureInto 1) = {⟨1⟩} :=
    uses_pictureInto hb hsession' hidle' hrecent' rfl
  have hmemories : memoriesOf d.surfaceStore {⟨0⟩} = {⟨0⟩} :=
    (memoriesOf_singleton (show _ = some (some (fourByFourMapping ⟨0⟩)) from rfl)).trans
      (memories_fourByFourMapping ⟨0⟩)
  have hmemories' : memoriesOf d.surfaceStore {⟨1⟩} = {⟨1⟩} :=
    (memoriesOf_singleton (show _ = some (some (fourByFourMapping ⟨1⟩)) from rfl)).trans
      (memories_fourByFourMapping ⟨1⟩)
  have hapart : d.Apart (d.uses 0 (pictureInto 0)) (d.uses 1 (pictureInto 1)) := by
    rw [huses, huses']
    refine ⟨Set.disjoint_singleton.2 (by decide), ?_⟩
    rw [hmemories, hmemories']
    exact Set.disjoint_singleton.2 (by decide)
  have hmixed : Interleaves 0 1 (pictureInto 0) (pictureInto 1) mixed :=
    .first _ (.second _ (.first _ (.second _ (.second _ (.first _ .nil)))))
  obtain ⟨hfirst, hsecond, -, -⟩ := contexts_do_not_interfere
    (show (make {} Memory.Mapper.heap fun _ _ => .ok showing).serveAll pairing = d from rfl)
    (by decide) ha hb hapart hmixed
  rw [huses, hmemories] at hfirst
  rw [huses', hmemories'] at hsecond
  exact ⟨hfirst, hsecond⟩

end Driver

end AvcDriver
