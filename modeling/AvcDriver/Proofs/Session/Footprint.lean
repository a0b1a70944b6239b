import AvcDriver.Proofs.Session.Sound
import Mathlib.Data.Set.Function

/-!
# The footprint of a run

A run reads and changes the memories of the surfaces that its session remembers, and no others.
So two runs of one session do the same if these memories hold the same: they are answered alike,
say the same to the engine, and leave the memories alike, whatever else there is beside them.

* `MemoryStore.SameChange`: two changes that are the same to some memories, and touch no other.
* `Surface.write_alike`: writing a picture is such a change.
* `Matches`: two parts of runs that do the same; one rule for each thing a run is made of.
* `Decoder.submit_alike`, `Decoder.run_alike`: two submissions, and two runs, of one session.
-/

namespace AvcDriver

/-! ## Changes of memories -/

namespace MemoryStore

/-- Two changes of stores are the same to the memories in `mine`, and touch no other. -/
structure SameChange (mine : Set MemoryRef) (store after store' after' : MemoryStore) : Prop where
  same : Set.EqOn after.find? after'.find? mine
  kept : Set.EqOn after.find? store.find? mineᶜ
  kept' : Set.EqOn after'.find? store'.find? mineᶜ

namespace SameChange

variable {mine : Set MemoryRef} {store between after store' between' after' : MemoryStore}

/-- Nothing is changed. -/
theorem refl (h : Set.EqOn store.find? store'.find? mine) :
    SameChange mine store store store' store' :=
  ⟨h, Set.eqOn_refl _ _, Set.eqOn_refl _ _⟩

theorem trans (h : SameChange mine store between store' between')
    (h' : SameChange mine between after between' after') :
    SameChange mine store after store' after' :=
  ⟨h'.same, h'.kept.trans h.kept, h'.kept'.trans h.kept'⟩

/-- One of the memories is replaced. -/
theorem change (h : Set.EqOn store.find? store'.find? mine) {ref : MemoryRef} (hmem : ref ∈ mine)
    (memory : Memory) :
    SameChange mine store (store.change ref fun _ => memory) store'
      (store'.change ref fun _ => memory) := by
  have hkept : ∀ store : MemoryStore,
      Set.EqOn (store.change ref fun _ => memory).find? store.find? mineᶜ := by
    intro store other hother
    rw [find?_change, if_neg]
    rintro rfl
    exact hother hmem
  refine ⟨fun other hother => ?_, hkept store, hkept store'⟩
  rw [find?_change, find?_change, h hother]

end SameChange

end MemoryStore

open MemoryStore (SameChange)

/-! ## Writing pictures -/

namespace Memory.Mapping

variable {m : Mapping} {index : Nat} {mine : Set MemoryRef} {store store' : MemoryStore}

/-- The memories that a mapping is of. -/
def memories (m : Mapping) : Set MemoryRef := {ref | ∃ region ∈ m.regions, region.memory = ref}

/-- A plane lies in a memory of its mapping. -/
theorem memory_mem_of_place {place : Place} (h : m.place index = .ok place) :
    place.memory ∈ m.memories := by
  obtain ⟨plane, region, -, hregion, -, rfl⟩ := place_eq_ok.1 h
  exact ⟨region, Array.mem_of_getElem? hregion, rfl⟩

/-- Writing a plane is up to its memory only. -/
theorem writePlane_alike (hmine : m.memories ⊆ mine)
    (hstores : Set.EqOn store.find? store'.find? mine) (source : Memory)
    (stride width rows : Nat) :
    (∃ cause, m.writePlane store index source stride width rows = .error cause ∧
      m.writePlane store' index source stride width rows = .error cause) ∨
    ∃ after after', m.writePlane store index source stride width rows = .ok after ∧
      m.writePlane store' index source stride width rows = .ok after' ∧
      SameChange mine store after store' after' := by
  rw [writePlane, writePlane]
  rcases hplace : m.place index with cause | place
  · exact .inl ⟨cause, rfl, rfl⟩
  have hmem : place.memory ∈ mine := hmine (memory_mem_of_place hplace)
  have hcontents : place.contents store' = place.contents store := by
    rw [Place.contents, Place.contents, hstores hmem]
  rw [ok_bind, ok_bind, hcontents]
  rcases place.contents store with cause | memory
  · exact .inl ⟨cause, rfl, rfl⟩
  rw [ok_bind, ok_bind]
  rcases copyPlane source (source.whole stride) memory place.window width (min rows place.rows)
    with cause | copy
  · exact .inl ⟨cause, rfl, rfl⟩
  · exact .inr ⟨_, _, rfl, rfl, SameChange.change hstores hmem copy⟩

end Memory.Mapping

namespace Surface

variable {s : Surface} {mine : Set MemoryRef} {store store' : MemoryStore}

/-- The memories that a surface lies in. -/
def memories (s : Surface) : Set MemoryRef := {ref | ∃ mapping ∈ s.mapping, ref ∈ mapping.memories}

/-- A picture is written alike into stores that agree where the surface lies. -/
theorem writeMapping_alike {mapping : Memory.Mapping} (hmine : mapping.memories ⊆ mine)
    (hstores : Set.EqOn store.find? store'.find? mine) (picture : Engine.Picture) :
    (∃ cause, s.writeMapping mapping store picture = .error cause ∧
      s.writeMapping mapping store' picture = .error cause) ∨
    ∃ after after', s.writeMapping mapping store picture = .ok after ∧
      s.writeMapping mapping store' picture = .ok after' ∧
      SameChange mine store after store' after' := by
  rw [writeMapping, writeMapping]
  rcases Memory.Mapping.writePlane_alike hmine hstores picture.luma picture.lumaStride
    (min picture.width.toNat s.width.toNat * s.sampleSize)
    (min picture.height.toNat s.height.toNat) with
    ⟨cause, hluma, hluma'⟩ | ⟨luma, luma', hluma, hluma', hfirst⟩
  · rw [hluma, hluma']
    exact .inl ⟨cause, rfl, rfl⟩
  · rw [hluma, hluma', ok_bind, ok_bind]
    rcases Memory.Mapping.writePlane_alike hmine hfirst.same picture.chroma picture.chromaStride
      (roundUpEven (min picture.width.toNat s.width.toNat) * s.sampleSize)
      (halfUp (min picture.height.toNat s.height.toNat)) with
      ⟨cause, hchroma, hchroma'⟩ | ⟨chroma, chroma', hchroma, hchroma', hsecond⟩
    · exact .inl ⟨cause, hchroma, hchroma'⟩
    · exact .inr ⟨chroma, chroma', hchroma, hchroma', hfirst.trans hsecond⟩

/-- **Writing a picture is up to the memories of its surface only**, and changes no other. -/
theorem write_alike (hmine : s.memories ⊆ mine) (hstores : Set.EqOn store.find? store'.find? mine)
    (picture : Engine.Picture) :
    (∃ failure, s.write store picture = .error failure ∧
      s.write store' picture = .error failure) ∨
    ∃ mapped after after', s.write store picture = .ok (mapped, after) ∧
      s.write store' picture = .ok (mapped, after') ∧
        SameChange mine store after store' after' := by
  rw [write, write]
  rcases hmapping : s.mapping with _ | mapping
  · exact .inr ⟨false, store, store', rfl, rfl, .refl hstores⟩
  have hmine' : mapping.memories ⊆ mine := fun ref hmem => hmine ⟨mapping, hmapping, hmem⟩
  dsimp only
  rcases mapping.beginAccess with error | ⟨⟩
  · exact .inl ⟨.rejected error, rfl, rfl⟩
  rcases writeMapping_alike (s := s) hmine' hstores picture with
    ⟨cause, hwrite, hwrite'⟩ | ⟨after, after', hwrite, hwrite', hsame⟩
  · rw [hwrite, hwrite']
    exact .inl ⟨.faulted cause, rfl, rfl⟩
  · rw [hwrite, hwrite']
    exact .inr ⟨true, after, after', rfl, rfl, hsame⟩

end Surface

namespace Session

open Engine (Act OutputBuffer Picture)

variable {ε α β : Type} {mine : Set MemoryRef}

/-! ## Parts of runs -/

/-- Two courses are the same, but for memories that are not in `mine`, which neither changes, and
for what was said before. -/
structure SameCourse (mine : Set MemoryRef) (p q p' q' : Progress ε) : Prop where
  engine : q'.engine = q.engine
  memories : SameChange mine p.memories q.memories p'.memories q'.memories
  events : ∃ said, q.events = p.events ++ said ∧ q'.events = p'.events ++ said

/-- Wherever engines and the memories in `mine` are alike, `m'` and `m` do the same. -/
def Matches (mine : Set MemoryRef) (m' m : RunM ε α) : Prop :=
  ∀ p p', p'.engine = p.engine → Set.EqOn p.memories.find? p'.memories.find? mine →
    (m'.run p').1 = (m.run p).1 ∧ SameCourse mine p (m.run p).2 p' (m'.run p').2

namespace SameCourse

variable {p q r p' q' r' : Progress ε}

theorem refl (hengine : p'.engine = p.engine)
    (hmemories : Set.EqOn p.memories.find? p'.memories.find? mine) :
    SameCourse mine p p p' p' :=
  ⟨hengine, .refl hmemories, #[], Array.append_empty.symm, Array.append_empty.symm⟩

theorem trans (h : SameCourse mine p q p' q') (h' : SameCourse mine q r q' r') :
    SameCourse mine p r p' r' := by
  obtain ⟨said, hsaid, hsaid'⟩ := h.events
  obtain ⟨more, hmore, hmore'⟩ := h'.events
  refine ⟨h'.engine, h.memories.trans h'.memories, said ++ more, ?_, ?_⟩
  · rw [hmore, hsaid, Array.append_assoc]
  · rw [hmore', hsaid', Array.append_assoc]

end SameCourse

namespace Matches

/-- What leaves its surroundings alone. -/
theorem of_still {m : RunM ε α} {result : Except (Failure DecodeError) α}
    (h : ∀ p, m.run p = (result, p)) : Matches mine m m := by
  intro p p' hengine hmemories
  rw [h, h]
  exact ⟨rfl, .refl hengine hmemories⟩

theorem pure (a : α) : Matches mine (pure a : RunM ε α) (pure a) := of_still fun _ => rfl

theorem fault (cause : Fault) :
    Matches mine (Action.fault cause : RunM ε α) (Action.fault cause) := of_still fun _ => rfl

theorem reject (error : DecodeError) :
    Matches mine (Action.reject error : RunM ε α) (Action.reject error) :=
  of_still fun _ => rfl

theorem ofFaulting (result : Except Fault α) :
    Matches mine (Action.ofFaulting result : RunM ε α) (Action.ofFaulting result) := by
  cases result with
  | ok a => exact of_still fun _ => rfl
  | error cause => exact of_still fun _ => rfl

/-- Two parts of a run, one after the other. -/
theorem bind {m' m : RunM ε α} {next' next : α → RunM ε β} (hm : Matches mine m' m)
    (hnext : ∀ a, Matches mine (next' a) (next a)) :
    Matches mine (m' >>= next') (m >>= next) := by
  intro p p' hengine hmemories
  obtain ⟨hresult, hcourse⟩ := hm p p' hengine hmemories
  rcases hrun : m.run p with ⟨failure | a, q⟩
  · rcases hrun' : m'.run p' with ⟨result, q'⟩
    rw [hrun, hrun'] at hresult hcourse
    obtain rfl : result = .error failure := hresult
    rw [Action.run_bind_error hrun, Action.run_bind_error hrun']
    exact ⟨rfl, hcourse⟩
  · rcases hrun' : m'.run p' with ⟨result, q'⟩
    rw [hrun, hrun'] at hresult hcourse
    obtain rfl : result = .ok a := hresult
    rw [Action.run_bind_ok hrun, Action.run_bind_ok hrun']
    obtain ⟨hresult', hcourse'⟩ := hnext a q q' hcourse.engine hcourse.memories.same
    exact ⟨hresult', hcourse.trans hcourse'⟩

/-- An engine's calls read no memory. -/
theorem callEngine (act : Act ε α) :
    Matches mine (callEngine act : RunM ε (Except Fault α)) (Session.callEngine act) := by
  intro p p' hengine hmemories
  have hrun : ∀ p : Progress ε, (Session.callEngine act).run p =
      (.ok (act p.engine).1, { p with engine := (act p.engine).2 }) := fun _ => rfl
  rw [hrun, hrun, hengine]
  exact ⟨rfl, rfl, .refl hmemories, #[], Array.append_empty.symm, Array.append_empty.symm⟩

end Matches

/-! ## Flights -/

/-- Two flights of one engine whose pictures go to the same surfaces, which lie in `mine`. -/
structure Flight.Alike (mine : Set MemoryRef) (f f' : Flight) : Prop where
  engineIndex : f'.engineIndex = f.engineIndex
  surface? : f'.surface? = f.surface?
  memories : ∀ tag surface, f.surface? tag = some surface → surface.memories ⊆ mine

/-- A picture without a surface goes nowhere. -/
theorem deliver_run_of_none {f : Flight} {picture : Picture}
    (h : f.surface? picture.tag = none) (p : Progress ε) :
    (deliver f picture).run p = (.ok (.of f.surface? picture), p) := by
  rcases htarget : f.target? picture.tag with _ | target
  · simp only [deliver, htarget, ReadyPicture.of, h]
    rfl
  · have hnone : f.surfaces[target.index]? = none := by
      rwa [Flight.surface?, htarget] at h
    simp only [deliver, htarget, hnone, ReadyPicture.of, h]
    rfl

/-- A picture is written into its surface. A surface that refuses access is passed over. -/
theorem deliver_run_of_some {f : Flight} {picture : Picture} {surface : Surface}
    (h : f.surface? picture.tag = some surface) (p : Progress ε) :
    (deliver f picture).run p =
      match surface.write p.memories picture with
      | .ok (_, memories) => (.ok (.of f.surface? picture), { p with memories })
      | .error (.rejected _) => (.ok (.of f.surface? picture), p)
      | .error (.faulted cause) => (.error (.faulted cause), p) := by
  obtain ⟨target, htarget, hsurface⟩ := Option.bind_eq_some_iff.1 h
  rcases hwrite : surface.write p.memories picture with (error | cause) | ⟨mapped, memories⟩
  all_goals
    simp only [deliver, htarget, hsurface, Action.run_get_bind, ReadyPicture.of, h, hwrite]
    rfl

section Flights

variable {f f' : Flight}

theorem Matches.tell (hf : f.Alike mine f') (call : Engine.Call) :
    Matches mine (tell f' call : RunM ε Unit) (tell f call) := by
  intro p p' hengine hmemories
  have hrun : ∀ (f : Flight) (p : Progress ε), (Session.tell f call : RunM ε Unit).run p =
      (.ok (), { p with events := p.events.push ⟨f.engineIndex, call⟩ }) := fun _ _ => rfl
  rw [hrun, hrun, hf.engineIndex]
  exact ⟨rfl, hengine, .refl hmemories, #[⟨f.engineIndex, call⟩], rfl, rfl⟩

/-- A picture is delivered alike to surfaces that agree. -/
theorem Matches.deliver (hf : f.Alike mine f') (picture : Picture) :
    Matches mine (deliver f' picture : RunM ε ReadyPicture) (deliver f picture) := by
  intro p p' hengine hmemories
  have hsurface : f'.surface? picture.tag = f.surface? picture.tag := by rw [hf.surface?]
  rcases hfound : f.surface? picture.tag with _ | surface
  · rw [deliver_run_of_none hfound, deliver_run_of_none (hsurface.trans hfound), hf.surface?]
    exact ⟨rfl, .refl hengine hmemories⟩
  · rw [deliver_run_of_some hfound, deliver_run_of_some (hsurface.trans hfound), hf.surface?]
    rcases Surface.write_alike (hf.memories _ _ hfound) hmemories picture with
      ⟨error | cause, hwrite, hwrite'⟩ | ⟨mapped, after, after', hwrite, hwrite', hsame⟩
    · rw [hwrite, hwrite']
      exact ⟨rfl, .refl hengine hmemories⟩
    · rw [hwrite, hwrite']
      exact ⟨rfl, .refl hengine hmemories⟩
    · rw [hwrite, hwrite']
      exact ⟨rfl, hengine, hsame, #[], Array.append_empty.symm, Array.append_empty.symm⟩

variable [Engine ε]

/-- All that an engine shows is delivered alike. -/
theorem collect_matches (hf : f.Alike mine f') (patience : Nat) :
    Matches mine (collect f' patience : RunM ε (List ReadyPicture))
      (collect f patience) := by
  induction patience with
  | zero => exact .fault _
  | succ patience ih =>
    rw [collect, collect]
    refine (Matches.callEngine _).bind fun answer =>
      (Matches.ofFaulting answer).bind fun picture? => (Matches.tell hf _).bind fun _ => ?_
    rcases picture? with _ | picture
    · exact .pure []
    · refine (Matches.deliver hf picture).bind fun ready =>
        (Matches.callEngine _).bind fun answer =>
        (Matches.ofFaulting answer).bind fun _ => (Matches.tell hf _).bind fun _ => ?_
      exact ih.bind fun rest => .pure _

theorem supply_matches (hf : f.Alike mine f') (size count : Nat) :
    Matches mine (supply f' size count : RunM ε Unit) (supply f size count) := by
  induction count with
  | zero => exact .pure ()
  | succ count ih =>
    rw [supply, supply]
    exact (Matches.ofFaulting _).bind fun buffer => (Matches.callEngine _).bind fun answer =>
      (Matches.ofFaulting answer).bind fun _ => (Matches.tell hf _).bind fun _ => ih

theorem supplyWanted_matches (hf : f.Alike mine f') :
    Matches mine (supplyWanted f' : RunM ε Unit) (supplyWanted f) :=
  (Matches.callEngine _).bind fun answer => (Matches.ofFaulting answer).bind fun info =>
    (Matches.tell hf _).bind fun _ => supply_matches hf info.size info.count

theorem giveUp_matches (hf : f.Alike mine f') (error : DecodeError) :
    Matches mine (giveUp f' error : RunM ε α) (giveUp f error) :=
  (Matches.callEngine _).bind fun answer => (Matches.ofFaulting answer).bind fun _ =>
    (Matches.tell hf _).bind fun _ => .reject error

/-- A status is answered alike if the rest of the run is alike. -/
theorem respond_matches (hf : f.Alike mine f') (patience : Nat)
    {proceed' proceed : List ReadyPicture → RunM ε (List ReadyPicture)}
    (hproceed : ∀ ready, Matches mine (proceed' ready) (proceed ready))
    (ready : List ReadyPicture) (status : Engine.Status) :
    Matches mine (respond f' patience proceed' ready status)
      (respond f patience proceed ready status) := by
  cases status with
  | ok => exact hproceed ready
  | headersReady => exact hproceed ready
  | waitingForBuffer => exact (supplyWanted_matches hf).bind fun _ => hproceed ready
  | pictureDecoded => exact (collect_matches hf patience).bind fun collected => hproceed _
  | pendingFlush => exact (collect_matches hf patience).bind fun collected => hproceed _
  | streamProcessed => exact .pure ready
  | streamNotSupported => exact giveUp_matches hf _
  | error code => exact giveUp_matches hf _

/-- **Two flights that are alike have the same course**, as long as their engine and the memories
of its surfaces are alike. The induction is on the rounds that the engine is still given. -/
theorem driveFrom_matches (hf : f.Alike mine f') (stream : Bytes) (tag : UInt32)
    (patience rounds offset : Nat) (ready : List ReadyPicture) :
    Matches mine
      (driveFrom f' stream tag patience rounds offset ready : RunM ε (List ReadyPicture))
      (driveFrom f stream tag patience rounds offset ready) := by
  induction rounds generalizing offset ready with
  | zero => exact .fault _
  | succ rounds ih =>
    rw [driveFrom_succ, driveFrom_succ]
    refine (Matches.callEngine _).bind fun answer => (Matches.tell hf _).bind fun _ =>
      (Matches.ofFaulting answer).bind fun output => (Matches.ofFaulting _).bind fun reached => ?_
    exact respond_matches hf patience (fun ready => ih _ ready) ready output.status

end Flights

/-! ## Sessions -/

/-- The surfaces that a session holds or remembers. -/
def Decoder.names (d : Decoder ε) : Set SurfaceRef :=
  {target | target ∈ d.phase.target? ∨ ∃ entry ∈ d.recent.entries, entry.2 = target}

/-- The memories that surfaces lie in. -/
def memoriesOf (surfaces : SurfaceStore) (targets : Set SurfaceRef) : Set MemoryRef :=
  {ref | ∃ target ∈ targets, ∃ surface, surfaces[target.index]? = some surface ∧
    ref ∈ surface.memories}

/-- More surfaces lie in more memory. -/
theorem memoriesOf_mono (surfaces : SurfaceStore) {targets targets' : Set SurfaceRef}
    (h : targets ⊆ targets') : memoriesOf surfaces targets ⊆ memoriesOf surfaces targets' := by
  rintro ref ⟨target, hmem, hsurface⟩
  exact ⟨target, h hmem, hsurface⟩

/-- What sessions share was changed alike: the memories in `mine`, and what was said. -/
structure Shared.SameChange (mine : Set MemoryRef) (shared after shared' after' : Shared) :
    Prop where
  memories : MemoryStore.SameChange mine shared.memories after.memories shared'.memories
    after'.memories
  events : ∃ said, after.events = shared.events ++ said ∧ after'.events = shared'.events ++ said

theorem Shared.SameChange.refl {shared shared' : Shared}
    (h : Set.EqOn shared.memories.find? shared'.memories.find? mine) :
    Shared.SameChange mine shared shared shared' shared' :=
  ⟨.refl h, #[], Array.append_empty.symm, Array.append_empty.symm⟩

namespace Decoder

variable {d : Decoder ε} {owned owned' : SurfaceRef → Bool} {shared shared' : Shared}

/-- A session names the surfaces that it remembers. -/
theorem mem_names_of_peek {tag : UInt32} {target : SurfaceRef}
    (h : d.recent.peek tag = some target) : target ∈ d.names := by
  obtain ⟨front, back, hentries, -⟩ := List.lookup_eq_some_iff.1 h
  refine .inr ⟨(tag, target), ?_, rfl⟩
  rw [hentries]
  exact List.mem_append_right _ List.mem_cons_self

/-- Where the pictures of a session go is up to who else holds its surfaces. -/
theorem flight_alike (howned : ∀ surface ∈ d.names, owned' surface = owned surface)
    (target : SurfaceRef) {surfaces : SurfaceStore} (hmine : memoriesOf surfaces d.names ⊆ mine) :
    (d.flight target owned surfaces).Alike mine (d.flight target owned' surfaces) where
  engineIndex := rfl
  surface? := by
    funext tag
    have htarget : (d.flight target owned' surfaces).target? tag =
        (d.flight target owned surfaces).target? tag := by
      rw [Flight.target?, Flight.target?]
      rcases hpeek : d.recent.peek tag with _ | surface
      · simp only [flight, hpeek, Option.filter_none]
      · simp only [flight, hpeek, Option.filter_some, howned surface (mem_names_of_peek hpeek)]
    rw [Flight.surface?, Flight.surface?, htarget]
    rfl
  memories := by
    intro tag surface hsurface ref hmem
    obtain ⟨named, hnamed, hfound⟩ := Option.bind_eq_some_iff.1 hsurface
    have hpeek : d.recent.peek tag = some named := (Option.filter_eq_some_iff.1 hnamed).1
    exact hmine ⟨named, mem_names_of_peek hpeek, surface, hfound, hmem⟩

variable [Engine ε]

/-- **A submission is up to its engine and the memories of the surfaces of its session**, and to
who holds these surfaces. -/
theorem submit_alike (howned : ∀ surface ∈ d.names, owned' surface = owned surface)
    (hsurfaces : shared'.surfaces = shared.surfaces)
    (hmine : memoriesOf shared.surfaces d.names ⊆ mine)
    (hmemories : Set.EqOn shared.memories.find? shared'.memories.find? mine) (patience : Nat)
    (target : SurfaceRef) (work : Work) (stream : Bytes) :
    let ran := d.submit patience owned shared target work stream
    let ran' := d.submit patience owned' shared' target work stream
    ran'.1 = ran.1 ∧ ran'.2.1 = ran.2.1 ∧
      Shared.SameChange mine shared ran.2.2 shared' ran'.2.2 := by
  let p : Progress ε := { engine := d.engine, memories := shared.memories, events := shared.events }
  let p' : Progress ε :=
    { engine := d.engine, memories := shared'.memories, events := shared'.events }
  obtain ⟨hresult, hcourse⟩ := driveFrom_matches (flight_alike howned target hmine) stream d.tag
    patience patience 0 [] p p' rfl hmemories
  rcases hrun : (driveFrom (d.flight target owned shared.surfaces) stream d.tag patience patience
    0 []).run p with ⟨result, q⟩
  rcases hrun' : (driveFrom (d.flight target owned' shared.surfaces) stream d.tag patience patience
    0 []).run p' with ⟨result', q'⟩
  rw [hrun, hrun'] at hresult hcourse
  obtain rfl : result' = result := hresult
  obtain ⟨engine, memories, events⟩ := q
  obtain ⟨engine', memories', events'⟩ := q'
  obtain rfl : engine' = engine := hcourse.engine
  simp only [flight, p, p'] at hrun hrun'
  simp only [submit, drive, hsurfaces, hrun, hrun', true_and]
  exact ⟨hcourse.memories, hcourse.events⟩

/-- So is a run. -/
theorem run_alike (howned : ∀ surface ∈ d.names, owned' surface = owned surface)
    (hsurfaces : shared'.surfaces = shared.surfaces)
    (hmine : memoriesOf shared.surfaces d.names ⊆ mine)
    (hmemories : Set.EqOn shared.memories.find? shared'.memories.find? mine) (patience : Nat)
    (buffers : BufferStore) :
    let ran := d.run patience buffers owned shared
    let ran' := d.run patience buffers owned' shared'
    ran'.1 = ran.1 ∧ ran'.2.1 = ran.2.1 ∧
      Shared.SameChange mine shared ran.2.2 shared' ran'.2.2 := by
  rcases hphase : d.phase with _ | target | ⟨target, work⟩ | ⟨target, work⟩
  · simp only [run, hphase, true_and]
    exact .refl hmemories
  · simp only [run, hphase, true_and]
    exact .refl hmemories
  · rcases hstream : work.stream buffers d.profile d.options with (error | cause) | stream
    · simp only [run, hphase, hstream, true_and]
      exact .refl hmemories
    · simp only [run, hphase, hstream, true_and]
      exact .refl hmemories
    · rw [run_eq_submit hphase hstream, run_eq_submit hphase hstream]
      exact submit_alike howned hsurfaces hmine hmemories patience target work stream
  · simp only [run, hphase, true_and]
    exact .refl hmemories

/-! ### What becomes of a session -/

omit [Engine ε] in
/-- A target that is set is named from then on. -/
theorem names_setRenderTarget {d' : Decoder ε} {target : SurfaceRef}
    (h : d.setRenderTarget target = .ok d') : d'.names ⊆ d.names ∪ {target} := by
  rw [setRenderTarget] at h
  split at h
  · cases h
    rintro other (hheld | ⟨entry, hentry, rfl⟩)
    · exact .inr (Option.mem_some.1 hheld).symm
    · rcases Recent.mem_entries_put hentry with hold | rfl
      · exact .inl (.inr ⟨entry, hold, rfl⟩)
      · exact .inr rfl
  · cases h

omit [Engine ε] in
theorem names_enqueueWork {d' : Decoder ε} {buffers : List (BufferRef × BufferKind)}
    (h : d.enqueueWork buffers = .ok d') : d'.names = d.names := by
  rw [enqueueWork] at h
  split at h
  · next target hphase =>
    cases h
    rw [names, names, hphase]
    rfl
  · cases h

/-- A run names no surface that was not named before. -/
theorem names_run (patience : Nat) (buffers : BufferStore) (owned : SurfaceRef → Bool)
    (shared : Shared) : (d.run patience buffers owned shared).2.1.names ⊆ d.names := by
  rcases d.run_cases patience buffers owned shared with
    ⟨cause, -, hstops⟩ | ⟨target, work, error, -, -, hdrops⟩ |
      ⟨target, work, stream, hphase, -, hsubmits⟩
  · rw [hstops]
  · rw [hdrops]
    rintro other (hheld | hremembered)
    · cases hheld
    · exact .inr hremembered
  · obtain ⟨engine, phase, hends, hsession⟩ :=
      d.submit_session patience owned shared target work stream
    rw [hsubmits, hsession]
    rintro other (hheld | hremembered)
    · rcases hends with rfl | rfl
      · cases hheld
      · exact .inl (by rwa [hphase])
    · exact .inr hremembered

omit [Engine ε] in
/-- The stream that a run would submit, if there is one. -/
def submission? (d : Decoder ε) (buffers : BufferStore) : Option Bytes :=
  match d.phase with
  | .queued _ work => (work.stream buffers d.profile d.options).toOption
  | _ => none

/-- The dump is appended what is submitted, and nothing else. -/
theorem run_dump (patience : Nat) (buffers : BufferStore) (owned : SurfaceRef → Bool)
    (shared : Shared) : (d.run patience buffers owned shared).2.2.dump =
      (d.submission? buffers).elim shared.dump shared.dump.append := by
  rcases hphase : d.phase with _ | target | ⟨target, work⟩ | ⟨target, work⟩
  · simp only [run, submission?, hphase, Option.elim_none]
  · simp only [run, submission?, hphase, Option.elim_none]
  · rcases hstream : work.stream buffers d.profile d.options with (error | cause) | stream
    · simp only [run, submission?, hphase, hstream, Except.toOption, Option.elim_none]
    · simp only [run, submission?, hphase, hstream, Except.toOption, Option.elim_none]
    · rw [run_eq_submit hphase hstream]
      simp only [submission?, hphase, hstream, Except.toOption, Option.elim_some]
      rfl
  · simp only [run, submission?, hphase, Option.elim_none]

end Decoder

end Session

end AvcDriver
