import AvcDriver.Proofs.Session.Recent
import AvcDriver.Proofs.Session.Run

/-!
# Pictures over the history of a session

An engine may show the picture of a submission during a later one. It is told apart by its tag,
and a session remembers which render target each recent tag had. What a session has come to know
is described by its history alone: the render targets that were set, each under the tag that was
current then, and the submissions that were made.

* `home`: the surface that a tag belongs to, in terms of what was recorded.
* `Decoder.Traced.after`: every call keeps the session in line with its history.
* `Decoder.Traced.run_delivers`: a run delivers its pictures by what the session recorded.
* `Decoder.pictures_come_home`: after any history, pictures go to the surface their tag belongs
  to, and a picture that comes late by less submissions than tags are remembered goes to the
  surface it was submitted for.
-/

namespace AvcDriver.Session

open Engine (shown)

variable {ε α : Type}

/-! ## Histories -/

/-- A call on a session. -/
inductive Step where
  | setRenderTarget (target : SurfaceRef)
  | enqueueWork (buffers : List (BufferRef × BufferKind))
  | run (patience : Nat) (buffers : BufferStore) (owned : SurfaceRef → Bool) (shared : Shared)

/-- The target of the next submission. -/
def Phase.awaiting? : Phase → Option SurfaceRef
  | idle => none
  | targetSet target => some target
  | queued target _ => some target
  | running _ _ => none

namespace Decoder

/-- The render target that a call sets, under the current tag. -/
def recordOf (d : Decoder ε) : Step → List (UInt32 × SurfaceRef)
  | .setRenderTarget target => if d.state.accepts .setRenderTarget then [(d.tag, target)] else []
  | .enqueueWork _ => []
  | .run .. => []

/-- The render target that a call makes a submission for. -/
def submissionOf (d : Decoder ε) : Step → List SurfaceRef
  | .setRenderTarget _ => []
  | .enqueueWork _ => []
  | .run _ buffers _ _ =>
    match d.phase with
    | .queued target work =>
      if (work.stream buffers d.profile d.options).isOk then [target] else []
    | _ => []

variable [Engine ε]

/-- The session after a call. A call that is out of turn leaves it as it is. -/
def after (d : Decoder ε) : Step → Decoder ε
  | .setRenderTarget target => (d.setRenderTarget target).toOption.getD d
  | .enqueueWork buffers => (d.enqueueWork buffers).toOption.getD d
  | .run patience buffers owned shared => (d.run patience buffers owned shared).2.1

theorem after_run_eq (d : Decoder ε) (patience : Nat) (buffers : BufferStore)
    (owned : SurfaceRef → Bool) (shared : Shared) :
    d.after (.run patience buffers owned shared) = (d.run patience buffers owned shared).2.1 := rfl

/-- The session after a history. -/
def afterAll (d : Decoder ε) (history : List Step) : Decoder ε := history.foldl after d

/-- What the calls of a history come to, one after the other. -/
def along (ofStep : Decoder ε → Step → List α) (d : Decoder ε) : List Step → List α
  | [] => []
  | step :: rest => ofStep d step ++ along ofStep (d.after step) rest

/-- The render targets that a history sets. -/
def records (d : Decoder ε) (history : List Step) : List (UInt32 × SurfaceRef) :=
  d.along recordOf history

/-- The render targets that a history makes submissions for. -/
def submissions (d : Decoder ε) (history : List Step) : List SurfaceRef :=
  d.along submissionOf history

theorem along_concat (ofStep : Decoder ε → Step → List α) (d : Decoder ε) (history : List Step)
    (last : Step) : d.along ofStep (history ++ [last]) =
      d.along ofStep history ++ ofStep (d.afterAll history) last := by
  induction history generalizing d with
  | nil => rw [List.nil_append, along, along, along, List.append_nil, List.nil_append]; rfl
  | cons step rest ih =>
    rw [List.cons_append, along, along, ih, List.append_assoc]
    rfl

theorem submissions_concat (d : Decoder ε) (history : List Step) (last : Step) :
    d.submissions (history ++ [last]) =
      d.submissions history ++ (d.afterAll history).submissionOf last :=
  d.along_concat submissionOf history last

end Decoder

/-! ## Where tags belong -/

/-- The surface that a tag belongs to: of those that were set under it the last one, if the tag
is one of the `capacity` tags under which surfaces were set last, and the surface is still held. -/
def home (capacity : Nat) (records : List (UInt32 × SurfaceRef)) (held : SurfaceRef → Bool)
    (tag : UInt32) : Option SurfaceRef :=
  if tag ∈ ((records.map Prod.fst).dedup).rtake capacity then
    (records.reverse.lookup tag).filter held
  else none

/-! ## Sessions in line with their history -/

/-- Submissions have the tags that count them, in order, and the last surface that was set under
each is the one it was made for. The next submission's tag may have been used, too. -/
structure Numbered (records : List (UInt32 × SurfaceRef)) (submissions : List SurfaceRef)
    (phase : Phase) : Prop where
  tags : ∃ count, (records.map Prod.fst).dedup = (List.range count).map UInt32.ofNat ∧
    (count = submissions.length ∧ phase.awaiting? = none ∨ count = submissions.length + 1)
  submitted : ∀ i < submissions.length,
    records.reverse.lookup (UInt32.ofNat i) = submissions[i]?
  awaiting : ∀ target ∈ phase.awaiting?,
    records.reverse.lookup (UInt32.ofNat submissions.length) = some target

theorem ofNat_ne_of_lt {m n : Nat} (hmn : m < n) (hn : n < 2 ^ 32) :
    UInt32.ofNat m ≠ UInt32.ofNat n := by
  intro h
  have hnat := congrArg UInt32.toNat h
  rw [UInt32.toNat_ofNat', UInt32.toNat_ofNat', Nat.mod_eq_of_lt (Nat.lt_trans hmn hn),
    Nat.mod_eq_of_lt hn] at hnat
  omega

theorem filter_tags {n count : Nat} (hn : n < 2 ^ 32) (hcount : count = n ∨ count = n + 1) :
    ((List.range count).map UInt32.ofNat).filter (· ≠ UInt32.ofNat n) =
      (List.range n).map UInt32.ofNat := by
  have hall : ((List.range n).map UInt32.ofNat).filter (· ≠ UInt32.ofNat n) =
      (List.range n).map UInt32.ofNat := by
    rw [List.filter_eq_self]
    intro tag hmem
    obtain ⟨i, hi, rfl⟩ := List.mem_map.1 hmem
    exact decide_eq_true (ofNat_ne_of_lt (List.mem_range.1 hi) hn)
  rcases hcount with rfl | rfl
  · exact hall
  · rw [List.range_succ, List.map_append, List.filter_append, hall]
    simp

/-- A session is in line with what was recorded and submitted. -/
structure Decoder.Traced (capacity : Nat) (records : List (UInt32 × SurfaceRef))
    (submissions : List SurfaceRef) (d : Decoder ε) : Prop where
  remembers : d.recent.Remembers records
  capacity_eq : d.recent.capacity = capacity
  tag_eq : d.tag = UInt32.ofNat submissions.length
  numbered : submissions.length < 2 ^ 32 → Numbered records submissions d.phase

namespace Numbered

variable {records : List (UInt32 × SurfaceRef)} {submissions : List SurfaceRef}
  {phase : Phase}

/-- A surface is set under the tag of the next submission. -/
theorem record (h : Numbered records submissions phase) (hlt : submissions.length < 2 ^ 32)
    (target : SurfaceRef) :
    Numbered (records ++ [(UInt32.ofNat submissions.length, target)]) submissions
      (.targetSet target) where
  tags := by
    obtain ⟨count, htags, hcount⟩ := h.tags
    refine ⟨submissions.length + 1, ?_, .inr rfl⟩
    -- the tag goes to the end, whether or not a surface was set under it before
    have hfilter := filter_tags hlt (hcount.imp_left And.left)
    rw [← htags] at hfilter
    rw [List.map_append, List.map_singleton, dedup_concat, List.range_succ, List.map_append,
      ← hfilter, List.map_singleton]
  submitted i hi := by
    rw [List.reverse_append, List.reverse_singleton, List.singleton_append, List.lookup_cons,
      beq_false_of_ne (ofNat_ne_of_lt hi hlt)]
    exact h.submitted i hi
  awaiting := by
    rintro _ ⟨⟩
    rw [List.reverse_append, List.reverse_singleton, List.singleton_append, List.lookup_cons_self]

/-- A submission is made for the surface that was awaited. -/
theorem submit (h : Numbered records submissions phase) {target : SurfaceRef}
    (htarget : phase.awaiting? = some target) {phase' : Phase} (hnone : phase'.awaiting? = none) :
    Numbered records (submissions ++ [target]) phase' where
  tags := by
    obtain ⟨count, htags, ⟨-, hidle⟩ | hcount⟩ := h.tags
    · rw [hidle] at htarget
      cases htarget
    · refine ⟨count, htags, .inl ⟨?_, hnone⟩⟩
      rw [hcount, List.length_append, List.length_singleton]
  submitted i hi := by
    rw [List.length_append, List.length_singleton] at hi
    rcases Nat.lt_succ_iff_lt_or_eq.1 hi with hlt | rfl
    · rw [List.getElem?_append_left hlt]
      exact h.submitted i hlt
    · rw [List.getElem?_concat_length]
      exact h.awaiting target htarget
  awaiting := by
    rw [hnone]
    rintro _ ⟨⟩

/-- Other calls may drop the surface that is awaited, but set none. -/
theorem mono (h : Numbered records submissions phase) {phase' : Phase}
    (hphase : phase'.awaiting? = phase.awaiting? ∨ phase'.awaiting? = none) :
    Numbered records submissions phase' where
  tags := by
    obtain ⟨count, htags, hcount⟩ := h.tags
    refine ⟨count, htags, ?_⟩
    rcases hphase with heq | hnone
    · rwa [heq]
    · exact hcount.imp_left fun hidle => ⟨hidle.1, hnone⟩
  submitted := h.submitted
  awaiting target hmem := by
    rcases hphase with heq | hnone
    · exact h.awaiting target (heq ▸ hmem)
    · rw [hnone] at hmem
      cases hmem

end Numbered

namespace Decoder

variable [Engine ε] {d : Decoder ε}

/-- What a run does to a session: nothing, or it drops what was enqueued, or it makes a
submission. -/
theorem after_run (d : Decoder ε) (patience : Nat) (buffers : BufferStore)
    (owned : SurfaceRef → Bool) (shared : Shared) :
    (d.submissionOf (.run patience buffers owned shared) = [] ∧
      (d.after (.run patience buffers owned shared) = d ∨
        d.after (.run patience buffers owned shared) = { d with phase := .idle })) ∨
      ∃ target engine phase, d.phase.awaiting? = some target ∧
        d.submissionOf (.run patience buffers owned shared) = [target] ∧
        phase.awaiting? = none ∧
        d.after (.run patience buffers owned shared) =
          { d with engine, tag := d.tag + 1, phase } := by
  rcases d.run_cases patience buffers owned shared with
    ⟨cause, hstream, hrun⟩ | ⟨target, work, error, hphase, hstream, hrun⟩ |
      ⟨target, work, stream, hphase, hstream, hrun⟩
  · refine .inl ⟨?_, .inl ?_⟩
    · rw [submissionOf]
      split
      · next hphase =>
        rw [hstream _ _ hphase]
        rfl
      · rfl
    · rw [after_run_eq, hrun]
  · refine .inl ⟨?_, .inr ?_⟩
    · simp only [submissionOf, hphase, hstream]
      rfl
    · rw [after_run_eq, hrun]
  · obtain ⟨engine, phase, hends, hsession⟩ :=
      d.submit_session patience owned shared target work stream
    refine .inr ⟨target, engine, phase, ?_, ?_, ?_, ?_⟩
    · rw [hphase]
      rfl
    · simp only [submissionOf, hphase, hstream]
      rfl
    · rcases hends with rfl | rfl <;> rfl
    · rw [after_run_eq, hrun, hsession]

variable {capacity : Nat} {records : List (UInt32 × SurfaceRef)} {submissions : List SurfaceRef}

/-- **Every call** keeps a session in line with its history. -/
theorem Traced.after (h : d.Traced capacity records submissions) (step : Step) :
    (d.after step).Traced capacity (records ++ d.recordOf step)
      (submissions ++ d.submissionOf step) := by
  cases step with
  | setRenderTarget target =>
    rw [submissionOf, List.append_nil, recordOf, Decoder.after, setRenderTarget]
    split
    · refine ⟨h.remembers.put _ _, h.capacity_eq, h.tag_eq, ?_⟩
      intro hlt
      rw [h.tag_eq]
      exact (h.numbered hlt).record hlt target
    · rw [List.append_nil]
      exact h
  | enqueueWork buffers =>
    rw [submissionOf, recordOf, List.append_nil, List.append_nil, Decoder.after, enqueueWork]
    split
    · next target hphase =>
      refine ⟨h.remembers, h.capacity_eq, h.tag_eq, fun hlt => (h.numbered hlt).mono (.inl ?_)⟩
      rw [hphase]
      rfl
    · exact h
  | run patience buffers owned shared =>
    rw [recordOf, List.append_nil]
    rcases d.after_run patience buffers owned shared with
      ⟨hnone, hsame | hidle⟩ | ⟨target, engine, phase, htarget, hone, hphase, hafter⟩
    · rw [hnone, List.append_nil, hsame]
      exact h
    · rw [hnone, List.append_nil, hidle]
      exact ⟨h.remembers, h.capacity_eq, h.tag_eq, fun hlt => (h.numbered hlt).mono (.inr rfl)⟩
    · rw [hone, hafter]
      refine ⟨h.remembers, h.capacity_eq, ?_, ?_⟩
      · rw [List.length_append, List.length_singleton, UInt32.ofNat_add, ← h.tag_eq]
        rfl
      · intro hlt
        rw [List.length_append, List.length_singleton] at hlt
        exact (h.numbered (Nat.lt_of_succ_lt hlt)).submit htarget hphase

/-- So does every history. -/
theorem Traced.afterAll (history : List Step) :
    ∀ {d : Decoder ε} {records submissions}, d.Traced capacity records submissions →
      (d.afterAll history).Traced capacity (records ++ d.records history)
        (submissions ++ d.submissions history) := by
  induction history with
  | nil =>
    intro d records submissions h
    rw [Decoder.records, Decoder.submissions, along, along, List.append_nil, List.append_nil]
    exact h
  | cons step rest ih =>
    intro d records submissions h
    have hrest := ih (h.after step)
    rw [List.append_assoc, List.append_assoc] at hrest
    exact hrest

omit [Engine ε] in
theorem traced_make {engine : ε} {engineIndex : Nat} {profile : Header.Profile}
    {width height : UInt32} (h : make engine engineIndex profile width height capacity = .ok d) :
    d.Traced capacity [] [] := by
  obtain ⟨recent, hrecent, hd⟩ := bind_eq_ok.1 h
  cases hd
  obtain ⟨hremembers, hcapacity⟩ := Recent.remembers_make hrecent
  refine ⟨hremembers, hcapacity, rfl, fun _ => ⟨⟨0, rfl, .inl ⟨rfl, rfl⟩⟩, ?_, ?_⟩⟩
  · intro i hi
    exact absurd hi (Nat.not_lt_zero i)
  · rintro target ⟨⟩

omit [Engine ε] in
/-- A session in line with its history remembers where tags belong. -/
theorem Traced.target_eq (h : d.Traced capacity records submissions)
    (held : SurfaceRef → Bool) (tag : UInt32) :
    (d.recent.peek tag).filter held = home capacity records held tag := by
  rw [h.remembers.peek_eq, h.capacity_eq, home]
  split
  · rfl
  · rfl

omit [Engine ε] in
theorem awaiting_of_mem_submissionOf {step : Step} {target : SurfaceRef}
    (h : target ∈ d.submissionOf step) : d.phase.awaiting? = some target := by
  cases step with
  | setRenderTarget _ => cases h
  | enqueueWork _ => cases h
  | run patience buffers owned shared =>
    rw [submissionOf] at h
    split at h
    · next hphase =>
      split at h
      · rw [hphase, List.mem_singleton.1 h]
        rfl
      · cases h
    · cases h

omit [Engine ε] in
/-- A call makes at most one submission. -/
theorem length_submissionOf_le (d : Decoder ε) (step : Step) :
    (d.submissionOf step).length ≤ 1 := by
  cases step with
  | setRenderTarget _ => exact Nat.zero_le _
  | enqueueWork _ => exact Nat.zero_le _
  | run patience buffers owned shared =>
    rw [submissionOf]
    split
    · split
      · exact Nat.le_refl _
      · exact Nat.zero_le _
    · exact Nat.zero_le _

omit [Engine ε] in
/-- The tag of a submission belongs to the surface that it was made for until as many submissions
have followed as tags are remembered. -/
theorem Traced.home_submission (h : d.Traced capacity records submissions) {step : Step}
    (hlt : submissions.length < 2 ^ 32) {i : Nat} {own : SurfaceRef}
    (hown : (submissions ++ d.submissionOf step)[i]? = some own)
    (hlate : submissions.length < i + capacity) {held : SurfaceRef → Bool}
    (hheld : held own = true) :
    home capacity records held (UInt32.ofNat i) = some own := by
  have hnumbered := h.numbered hlt
  obtain ⟨count, htags, hcount⟩ := hnumbered.tags
  obtain ⟨hset, hcovered⟩ : records.reverse.lookup (UInt32.ofNat i) = some own ∧ i < count := by
    by_cases hi : i < submissions.length
    · rw [List.getElem?_append_left hi] at hown
      exact ⟨(hnumbered.submitted i hi).trans hown, by omega⟩
    · -- the submission is the one that is being made
      rw [List.getElem?_append_right (Nat.le_of_not_lt hi)] at hown
      have hawaiting := awaiting_of_mem_submissionOf (List.mem_of_getElem? hown)
      have hone := d.length_submissionOf_le step
      obtain ⟨hbound, -⟩ := List.getElem?_eq_some_iff.1 hown
      obtain rfl : i = submissions.length := by omega
      refine ⟨hnumbered.awaiting own hawaiting, ?_⟩
      rcases hcount with ⟨-, hnone⟩ | rfl
      · rw [hnone] at hawaiting
        cases hawaiting
      · exact Nat.lt_succ_self _
  -- tags count submissions, so the last ones are those of the last submissions
  have hmem : UInt32.ofNat i ∈ ((records.map Prod.fst).dedup).rtake capacity := by
    rw [htags, List.rtake, ← List.map_drop, List.length_map, List.length_range]
    refine List.mem_map_of_mem (List.mem_drop_iff_getElem.2 ⟨i - (count - capacity), ?_, ?_⟩)
    · rw [List.length_range]
      omega
    · rw [List.getElem_range]
      omega
  rw [home, if_pos hmem, hset, Option.filter_some, if_pos hheld]

/-! ## Pictures that come home -/

/-- The surface that a tag belongs to, as it is now. -/
def homeSurface (capacity : Nat) (records : List (UInt32 × SurfaceRef))
    (held : SurfaceRef → Bool) (surfaces : SurfaceStore) (tag : UInt32) : Option Surface :=
  (home capacity records held tag).bind fun target => surfaces[target.index]?

/-- What is held during a run: the session's own render target, and what others hold. -/
def heldWith (d : Decoder ε) (owned : SurfaceRef → Bool) (target : SurfaceRef) : Bool :=
  d.phase.awaiting? = some target || owned target

/-- A run made its calls on the engine, and each picture that was shown in them went to its
surface and, if the run was answered, was told to have gone there. -/
def Delivers (d : Decoder ε) (surface? : UInt32 → Option Surface) (shared shared' : Shared)
    (outcome : Except (Failure DecodeError) (List ReadyPicture)) : Prop :=
  ∃ calls,
    shared'.events = shared.events ++ (calls.map (Engine.Event.mk d.engineIndex)).toArray ∧
    shared'.memories = copyAll surface? shared.memories (shown calls) ∧
    ∀ ready, outcome = .ok ready → ready = (shown calls).map (ReadyPicture.of surface?)

omit [Engine ε] in
/-- A run that does not submit makes no calls, and tells of no pictures. -/
theorem Delivers.nothing (d : Decoder ε) (surface? : UInt32 → Option Surface) (shared : Shared)
    (failure : Failure DecodeError) : d.Delivers surface? shared shared (.error failure) :=
  ⟨[], (Array.append_empty).symm, rfl, by rintro _ ⟨⟩⟩

/-- During a run of a session in line with its history, pictures go where their tags belong. -/
theorem Traced.run_delivers (h : d.Traced capacity records submissions) {patience : Nat}
    {buffers : BufferStore} {owned : SurfaceRef → Bool} {shared shared' : Shared}
    {outcome : Except (Failure DecodeError) (List ReadyPicture)} {d' : Decoder ε}
    (hrun : d.run patience buffers owned shared = (outcome, d', shared')) :
    d.Delivers (homeSurface capacity records (d.heldWith owned) shared.surfaces) shared shared'
      outcome := by
  rcases d.run_cases patience buffers owned shared with
    ⟨cause, -, hstops⟩ | ⟨target, work, error, -, -, hdrops⟩ |
      ⟨target, work, stream, hphase, hstream, hsubmits⟩
  · rw [hstops] at hrun
    cases hrun
    exact .nothing ..
  · rw [hdrops] at hrun
    cases hrun
    exact .nothing ..
  · rw [hsubmits] at hrun
    obtain ⟨calls, hevents, hmemories, -, -, hend⟩ :=
      submit_does (Surroundings.fit_unruly shared.memories.size _) trivial rfl hrun
    have hheld : (d.flight target owned shared.surfaces).held = d.heldWith owned := by
      funext surface
      simp only [flight, heldWith, hphase, Phase.awaiting?, Option.some.injEq, eq_comm]
    have hsurface : (d.flight target owned shared.surfaces).surface? =
        homeSurface capacity records (d.heldWith owned) shared.surfaces := by
      funext tag
      rw [Flight.surface?, Flight.target?, hheld, homeSurface, ← h.target_eq]
      rfl
    rw [hsurface] at hmemories hend
    refine ⟨calls, hevents, hmemories, ?_⟩
    rintro ready rfl
    rcases hend with ⟨pictures, _ | _, hconv, -, hready⟩ | ⟨cause, hready, -⟩
    · cases hready
    · cases hready
      rw [hconv.shown_eq]
    · cases hready

/-- **Pictures come home.** After any history of a session, each picture that its engine shows
during a run goes to the surface that its tag belongs to, and is told to have gone there; if it
belongs nowhere, it goes nowhere. Of less than `2 ^ 32` submissions, a picture that comes less
than `capacity` of them late belongs to the surface that it was submitted for, if that is still
held. -/
theorem pictures_come_home {engine : ε} {engineIndex : Nat} {profile : Header.Profile}
    {width height : UInt32} {d₀ : Decoder ε}
    (hmake : make engine engineIndex profile width height capacity = .ok d₀) (history : List Step)
    {patience : Nat} {buffers : BufferStore} {owned : SurfaceRef → Bool} {shared shared' : Shared}
    {outcome : Except (Failure DecodeError) (List ReadyPicture)} {d' : Decoder ε}
    (hrun : (d₀.afterAll history).run patience buffers owned shared = (outcome, d', shared')) :
    (∃ calls,
      shared'.events =
        shared.events ++ (calls.map (Engine.Event.mk (d₀.afterAll history).engineIndex)).toArray ∧
      shared'.memories =
        copyAll (homeSurface capacity (d₀.records history)
          ((d₀.afterAll history).heldWith owned) shared.surfaces) shared.memories (shown calls) ∧
      ∀ ready, outcome = .ok ready → ready = (shown calls).map (ReadyPicture.of
        (homeSurface capacity (d₀.records history)
          ((d₀.afterAll history).heldWith owned) shared.surfaces))) ∧
      ((d₀.submissions history).length < 2 ^ 32 → ∀ i own,
        (d₀.submissions (history ++ [.run patience buffers owned shared]))[i]? = some own →
        (d₀.submissions history).length < i + capacity →
        (d₀.afterAll history).heldWith owned own = true →
        home capacity (d₀.records history) ((d₀.afterAll history).heldWith owned)
          (UInt32.ofNat i) = some own) := by
  have h := (traced_make hmake).afterAll history
  rw [List.nil_append, List.nil_append] at h
  refine ⟨h.run_delivers hrun, ?_⟩
  intro hlt i own hown hlate hheld
  rw [submissions_concat] at hown
  exact h.home_submission hlt hown hlate hheld

/-! ### A picture that comes one submission late -/

/-- A session that remembers two tags. Its engine shows nothing in the first submission and two
pictures in the second. -/
def lateDecoder : Decoder Engine.Script :=
  let picture (luma blue red : UInt8) : Engine.Picture := {
    tag := 0
    width := 1
    height := 1
    luma := .ofBlock (.ofBytes [luma])
    lumaStride := 1
    chroma := .ofBlock (.ofBytes [blue, red])
    chromaStride := 2 }
  { engine := {
      entries := [
        { status := some .streamProcessed },
        { status := some .pictureDecoded
          pictures := [(some 0, picture 1 2 3), (none, picture 4 5 6)] }] }
    engineIndex := 0
    profile := .main
    options := { width := 16, height := 16 }
    recent := { capacity := 2 } }

/-- Two surfaces of one pixel, each mapped to a memory of its own. -/
def twoSurfaces : Shared :=
  let mapping (memory : MemoryRef) : Memory.Mapping := {
    regions := #[{ memory, size := 3 }]
    planes := [
      { object := 0, offset := 0, stride := 1, rows := 1 },
      { object := 0, offset := 1, stride := 2, rows := 1 }] }
  let surface (id : Nat) (memory : MemoryRef) : Surface := {
    id, format := 0, fourcc := fourccNv12, width := 1, height := 1, attributes := []
    mapping := some (mapping memory) }
  { surfaces := #[surface 7 ⟨0⟩, surface 8 ⟨1⟩]
    memories := #[.zeros 3, .zeros 3]
    dump := .off
    events := #[] }

/-- The buffers of a submission. -/
def smallNames : List (BufferRef × BufferKind) :=
  [(⟨0⟩, .pictureParameter), (⟨1⟩, .sliceParameter), (⟨2⟩, .sliceData)]

/-- The session makes its first submission and is about to make its second one. -/
def betweenSubmissions : List Step := [
  .setRenderTarget ⟨0⟩,
  .enqueueWork smallNames,
  .run 2 smallBuffers (fun _ => true) twoSurfaces,
  .setRenderTarget ⟨1⟩,
  .enqueueWork smallNames]

/-- The session about to make its first submission. -/
def lateFirst : Decoder Engine.Script :=
  (lateDecoder.after (.setRenderTarget ⟨0⟩)).after (.enqueueWork smallNames)

theorem lateFirst_run :
    lateFirst.run 2 smallBuffers (fun _ => true) twoSurfaces =
      lateFirst.submit 2 (fun _ => true) twoSurfaces ⟨0⟩ smallWork [0, 0, 0, 1, 0x41, 0x9a] :=
  run_eq_submit rfl (smallWork_stream _ _) 2 _ _

theorem afterAll_betweenSubmissions :
    lateDecoder.afterAll betweenSubmissions =
      ((lateFirst.submit 2 (fun _ => true) twoSurfaces ⟨0⟩ smallWork
        [0, 0, 0, 1, 0x41, 0x9a]).2.1.after (.setRenderTarget ⟨1⟩)).after
          (.enqueueWork smallNames) := by
  rw [betweenSubmissions, afterAll, List.foldl_cons, List.foldl_cons, ← lateFirst,
    List.foldl_cons, List.foldl_cons, List.foldl_cons, List.foldl_nil, after_run_eq, lateFirst_run]

theorem submissions_betweenSubmissions :
    lateDecoder.submissions betweenSubmissions = [⟨0⟩] := by
  have hphase : lateFirst.phase = .queued ⟨0⟩ smallWork := rfl
  have hstream := smallWork_stream lateFirst.profile lateFirst.options
  have hfirst : lateFirst.submissionOf (.run 2 smallBuffers (fun _ => true) twoSurfaces) =
      [⟨0⟩] := by
    simp only [submissionOf, hphase, hstream]
    rfl
  rw [submissions, betweenSubmissions, along, along, ← lateFirst, along, hfirst]
  rfl

theorem pictures_come_home_late :
    ∃ calls outcome d' shared',
      (lateDecoder.afterAll betweenSubmissions).run 3 smallBuffers (fun _ => true) twoSurfaces =
        (outcome, d', shared') ∧
      (shown calls).map (·.tag) = [0, 1] ∧
      outcome = .ok ((shown calls).map (ReadyPicture.of (homeSurface 2
        (lateDecoder.records betweenSubmissions)
        ((lateDecoder.afterAll betweenSubmissions).heldWith fun _ => true)
        twoSurfaces.surfaces))) ∧
      shared'.memories = copyAll (homeSurface 2
        (lateDecoder.records betweenSubmissions)
        ((lateDecoder.afterAll betweenSubmissions).heldWith fun _ => true)
        twoSurfaces.surfaces) twoSurfaces.memories (shown calls) ∧
      shared'.memories.toList.map (·.toBytes) = [[1, 2, 3], [4, 5, 6]] ∧
      home 2 (lateDecoder.records betweenSubmissions)
        ((lateDecoder.afterAll betweenSubmissions).heldWith fun _ => true) 0 = some ⟨0⟩ := by
  obtain ⟨second, hsecond⟩ : ∃ second, second = lateDecoder.afterAll betweenSubmissions :=
    ⟨_, rfl⟩
  have hsubmitted := hsecond.trans afterAll_betweenSubmissions
  have hphase : second.phase = .queued ⟨1⟩ smallWork := by
    rw [hsubmitted]
    decide +kernel
  have hstream : smallWork.stream smallBuffers second.profile second.options =
      .ok [0, 0, 0, 1, 0x41, 0x9a] := smallWork_stream _ _
  obtain ⟨ran, hran⟩ : ∃ ran, ran = second.submit 3 (fun _ => true) twoSurfaces ⟨1⟩ smallWork
    [0, 0, 0, 1, 0x41, 0x9a] := ⟨_, rfl⟩
  have hrun : second.run 3 smallBuffers (fun _ => true) twoSurfaces = ran :=
    (run_eq_submit hphase hstream 3 _ _).trans hran.symm
  rw [hsecond] at hrun
  have hmake : make lateDecoder.engine 0 .main 16 16 2 = .ok lateDecoder := rfl
  obtain ⟨⟨calls, hevents, hmemories, hready⟩, hhome⟩ :=
    pictures_come_home hmake betweenSubmissions hrun
  obtain ⟨ready, houtcome⟩ : ∃ ready, ran.1 = .ok ready := by
    have hok : ran.1.isOk := by
      rw [hran, hsubmitted]
      decide +kernel
    rcases h : ran.1 with failure | ready
    · rw [h] at hok
      cases hok
    · exact ⟨ready, rfl⟩
  have hcalls : calls = ran.2.2.events.toList.map (·.call) := by
    rw [hevents]
    simp [twoSurfaces, Function.comp_def]
  refine ⟨calls, ran.1, ran.2.1, ran.2.2, hrun, ?_, ?_, hmemories, ?_, ?_⟩
  · rw [hcalls, hran, hsubmitted]
    decide +kernel
  · rw [houtcome, hready ready houtcome]
  · rw [hran, hsubmitted]
    decide +kernel
  · refine hhome ?_ 0 ⟨0⟩ ?_ ?_ ?_
    · rw [submissions_betweenSubmissions]
      decide
    · rw [submissions_concat, submissions_betweenSubmissions]
      rfl
    · rw [submissions_betweenSubmissions]
      decide
    · exact Bool.or_true _

end Decoder

end AvcDriver.Session
