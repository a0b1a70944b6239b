import AvcDriver.Proofs.Session.Run
import AvcDriver.Session.Basic

/-!
# Sessions that hold what is there

A session names surfaces and buffers by reference. It names none that is not in its store, and
its engine is in one of the states it keeps to; every call on the session keeps it that way.

* `Decoder.Sound`: what a session names is there.
* `Decoder.Sound.run`: a run keeps it, whatever its engine does, and drops no memory.
* `Sound.start`: a session that is started names nothing.
-/

namespace AvcDriver

namespace Session

open Engine (Behaves Event Factory)

variable {ε : Type} {good : ε → Prop} {surfaces surfaces' buffers buffers' : Nat}

/-! ## Decoding sessions -/

/-- The buffers that a session holds. -/
def Phase.refs : Phase → List BufferRef
  | idle => []
  | targetSet _ => []
  | queued _ work => work.refs
  | running _ work => work.refs

/-- A session whose engine is in one of the states `good` names only surfaces and buffers that
are among the first ones of their stores. -/
structure Decoder.Sound (good : ε → Prop) (surfaces buffers : Nat) (d : Decoder ε) : Prop where
  engine : good d.engine
  target : ∀ target ∈ d.phase.target?, target.index < surfaces
  recent : ∀ entry ∈ d.recent.entries, entry.2.index < surfaces
  work : ∀ ref ∈ d.phase.refs, ref.index < buffers

/-- Work that is added to refers to one buffer more at most. -/
theorem Work.mem_refs_add {work : Work} {buffer ref : BufferRef} {kind : BufferKind}
    (h : ref ∈ (work.add buffer kind).refs) : ref ∈ work.refs ∨ ref = buffer := by
  cases kind <;>
    simp only [add, refs, List.mem_append, Option.toList_some, List.mem_singleton] at h ⊢ <;>
    tauto

/-- Work consists of buffers that were added to it. -/
theorem Work.mem_refs_foldl {named : List (BufferRef × BufferKind)} {ref : BufferRef} :
    ∀ {work : Work},
      ref ∈ (named.foldl (fun work (buffer, kind) => work.add buffer kind) work).refs →
        ref ∈ work.refs ∨ ∃ item ∈ named, item.1 = ref := by
  induction named with
  | nil =>
    intro work h
    exact .inl h
  | cons item rest ih =>
    intro work h
    rcases ih h with hmem | ⟨later, hlater, rfl⟩
    · rcases Work.mem_refs_add hmem with hold | rfl
      · exact .inl hold
      · exact .inr ⟨item, List.mem_cons_self, rfl⟩
    · exact .inr ⟨later, List.mem_cons_of_mem _ hlater, rfl⟩

section Recent

variable {κ β : Type} [DecidableEq κ]

theorem Recent.evict_subset {capacity : Nat} (order : List κ) {entries : List (κ × β)} :
    (evict capacity entries order).1 ⊆ entries := by
  induction order generalizing entries with
  | nil => exact List.Subset.refl _
  | cons oldest rest ih =>
    rw [evict]
    split
    · exact fun _ hmem => List.mem_of_mem_filter (ih hmem)
    · exact List.Subset.refl _

/-- What a session remembers after a put is what it remembered before, or was put. -/
theorem Recent.mem_entries_put {r : Recent κ β} {key : κ} {value : β} {entry : κ × β}
    (h : entry ∈ (r.put key value).entries) : entry ∈ r.entries ∨ entry = (key, value) := by
  rcases List.mem_cons.1 (evict_subset _ h) with hnew | hold
  · exact .inr hnew
  · exact .inl (List.mem_of_mem_filter hold)

end Recent

/-- Copying pictures makes no memory and drops none. -/
theorem size_copyAll (surface? : UInt32 → Option Surface) (memories : MemoryStore)
    (pictures : List Engine.Picture) :
    (copyAll surface? memories pictures).size = memories.size := by
  induction pictures generalizing memories with
  | nil => rfl
  | cons picture rest ih => exact (ih _).trans (size_copyInto _ _ _)

namespace Decoder

variable {d d' : Decoder ε}

/-- Stores that grow hold what they held. -/
theorem Sound.mono (h : d.Sound good surfaces buffers) (hsurfaces : surfaces ≤ surfaces')
    (hbuffers : buffers ≤ buffers') : d.Sound good surfaces' buffers' where
  engine := h.engine
  target target hmem := Nat.lt_of_lt_of_le (h.target target hmem) hsurfaces
  recent entry hmem := Nat.lt_of_lt_of_le (h.recent entry hmem) hsurfaces
  work ref hmem := Nat.lt_of_lt_of_le (h.work ref hmem) hbuffers

/-- A session that was just made refers to nothing. -/
theorem sound_make {engine : ε} (hengine : good engine) {engineIndex capacity : Nat}
    {profile : Header.Profile} {width height : UInt32}
    (h : make engine engineIndex profile width height capacity = .ok d) :
    d.Sound good surfaces buffers := by
  obtain ⟨recent, hrecent, hd⟩ := bind_eq_ok.1 h
  cases hd
  refine ⟨hengine, by rintro _ ⟨⟩, ?_, by rintro _ ⟨⟩⟩
  rw [Recent.make] at hrecent
  split at hrecent
  · cases hrecent
  · split at hrecent
    · cases hrecent
    · cases hrecent
      rintro _ ⟨⟩

/-- A session refers to its new target, which is there. -/
theorem Sound.setRenderTarget (h : d.Sound good surfaces buffers) {target : SurfaceRef}
    (htarget : target.index < surfaces) (hset : d.setRenderTarget target = .ok d') :
    d'.Sound good surfaces buffers := by
  rw [Decoder.setRenderTarget] at hset
  split at hset
  · cases hset
    refine ⟨h.engine, ?_, ?_, by rintro _ ⟨⟩⟩
    · rintro _ ⟨⟩
      exact htarget
    · intro entry hmem
      rcases Recent.mem_entries_put hmem with hold | rfl
      · exact h.recent entry hold
      · exact htarget
  · cases hset

/-- A session refers to the buffers it was given, which are there. -/
theorem Sound.enqueueWork (h : d.Sound good surfaces buffers)
    {named : List (BufferRef × BufferKind)} (hnamed : ∀ item ∈ named, item.1.index < buffers)
    (hset : d.enqueueWork named = .ok d') : d'.Sound good surfaces buffers := by
  rw [Decoder.enqueueWork] at hset
  split at hset
  · next target hphase =>
    cases hset
    refine ⟨h.engine, ?_, h.recent, ?_⟩
    · rintro _ ⟨⟩
      exact h.target target (by rw [hphase]; rfl)
    · intro ref hmem
      rcases Work.mem_refs_foldl hmem with hold | ⟨item, hitem, rfl⟩
      · cases hold
      · exact hnamed item hitem
  · cases hset

/-- **A run names no more than was named**, and there are as many memories after it as before. -/
theorem Sound.run [Engine ε] {stops : Fault → Prop} (hengine : Behaves good stops)
    (h : d.Sound good surfaces buffers) {patience : Nat} {store : BufferStore}
    {owned : SurfaceRef → Bool} {shared shared' : Shared}
    (hplaced : ∀ surface ∈ shared.surfaces, surface.Placed shared.memories.size)
    {outcome : Except (Failure DecodeError) (List ReadyPicture)}
    (hrun : d.run patience store owned shared = (outcome, d', shared')) :
    d'.Sound good surfaces buffers ∧ shared'.memories.size = shared.memories.size := by
  rcases d.run_cases patience store owned shared with
    ⟨cause, -, hstops⟩ | ⟨target, work, error, hphase, -, hdrops⟩ |
      ⟨target, work, stream, hphase, -, hsubmits⟩
  · rw [hstops] at hrun
    cases hrun
    exact ⟨h, rfl⟩
  · rw [hdrops] at hrun
    cases hrun
    exact ⟨⟨h.engine, by rintro _ ⟨⟩, h.recent, by rintro _ ⟨⟩⟩, rfl⟩
  · obtain ⟨engine, phase, hends, hsession⟩ :=
      d.submit_session patience owned shared target work stream
    rw [← hsubmits, hrun] at hsession
    let s : Surroundings ε := { good, stops, memories := shared.memories.size }
    have hfit : s.Fit (d.flight target owned shared.surfaces) :=
      Surroundings.fit_of_placed hengine hplaced
    rw [hsubmits] at hrun
    obtain ⟨calls, -, hmemories, hgood, -⟩ := submit_does hfit h.engine rfl hrun
    obtain rfl : d' = _ := hsession
    refine ⟨⟨hgood, ?_, h.recent, ?_⟩, ?_⟩
    -- a session whose engine stopped still holds its target and its work
    · rcases hends with rfl | rfl
      · rintro _ ⟨⟩
      · rintro _ ⟨⟩
        exact h.target target (by rw [hphase]; rfl)
    · rcases hends with rfl | rfl
      · rintro _ ⟨⟩
      · have hwork := h.work
        rw [hphase] at hwork
        exact hwork
    · rw [hmemories, size_copyAll]

end Decoder

/-! ## All sessions -/

variable {session session' : Session ε}

/-- A session that decodes names only what is there. -/
def Sound (good : ε → Prop) (surfaces buffers : Nat) : Session ε → Prop
  | .noOp => True
  | .decoder d => d.Sound good surfaces buffers

/-- A session stays sound when surfaces and buffers are added. -/
theorem Sound.mono (h : session.Sound good surfaces buffers)
    (hsurfaces : surfaces ≤ surfaces') (hbuffers : buffers ≤ buffers') :
    session.Sound good surfaces' buffers' := by
  cases session with
  | noOp => trivial
  | decoder d => exact Decoder.Sound.mono h hsurfaces hbuffers

/-- **A session that is started names nothing.** -/
theorem Sound.start {factory : Factory ε}
    (hfactory : ∀ earlier params engine, factory earlier params = .ok engine → good engine)
    {asked : Nat} {mode : Mode} {profile : Config.Profile} {entrypoint : Config.Entrypoint}
    {options : Options} {events : List Event}
    (h : Session.start factory asked mode profile entrypoint options = (.ok session, events)) :
    session.Sound good surfaces buffers := by
  rw [Session.start] at h
  split at h
  · cases h
  · cases h
    trivial
  · obtain ⟨hsession, -⟩ := Prod.mk.inj h
    obtain ⟨engine, hengine, hsession⟩ := bind_eq_ok.1 hsession
    obtain ⟨d, hd, hsession⟩ := bind_eq_ok.1 hsession
    cases hsession
    exact Decoder.sound_make (hfactory _ _ _ (mapError_eq_ok.1 hengine)) (mapError_eq_ok.1 hd)

theorem Sound.setRenderTarget (h : session.Sound good surfaces buffers) {target : SurfaceRef}
    (htarget : target.index < surfaces) (hset : session.setRenderTarget target = .ok session') :
    session'.Sound good surfaces buffers := by
  cases session with
  | noOp =>
    cases hset
    trivial
  | decoder d =>
    rw [Session.setRenderTarget] at hset
    rcases hd : d.setRenderTarget target with cause | d'
    · rw [hd] at hset
      cases hset
    · rw [hd] at hset
      cases hset
      exact Decoder.Sound.setRenderTarget h htarget hd

theorem Sound.enqueueWork (h : session.Sound good surfaces buffers)
    {named : List (BufferRef × BufferKind)} (hnamed : ∀ item ∈ named, item.1.index < buffers)
    (hset : session.enqueueWork named = .ok session') :
    session'.Sound good surfaces buffers := by
  cases session with
  | noOp =>
    cases hset
    trivial
  | decoder d =>
    rw [Session.enqueueWork] at hset
    rcases hd : d.enqueueWork named with cause | d'
    · rw [hd] at hset
      cases hset
    · rw [hd] at hset
      cases hset
      exact Decoder.Sound.enqueueWork h hnamed hd

/-- Also a session that does nothing is sound after a run. -/
theorem Sound.run [Engine ε] {stops : Fault → Prop} (hengine : Behaves good stops)
    (h : session.Sound good surfaces buffers) {patience : Nat} {store : BufferStore}
    {owned : SurfaceRef → Bool} {shared shared' : Shared}
    (hplaced : ∀ surface ∈ shared.surfaces, surface.Placed shared.memories.size)
    {outcome : Except (Failure DecodeError) (List ReadyPicture)}
    (hrun : session.run patience store owned shared = (outcome, session', shared')) :
    session'.Sound good surfaces buffers ∧ shared'.memories.size = shared.memories.size := by
  cases session with
  | noOp =>
    cases hrun
    exact ⟨trivial, rfl⟩
  | decoder d =>
    rcases hd : d.run patience store owned shared with ⟨result, d', after⟩
    rw [Session.run, hd] at hrun
    cases hrun
    exact Decoder.Sound.run hengine h hplaced hd

end Session

end AvcDriver
