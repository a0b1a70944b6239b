import AvcDriver.Proofs.Session.Gray
import AvcDriver.Proofs.Session.History
import AvcDriver.Proofs.Session.Patience

/-!
# The lifetime of a session with a gray engine

Between any two calls on a session its gray engine rests, and what it has been supplied with can
be told from the history: nothing before the first submission, and both of its buffers from then
on. A run that fails before it submits anything counts for nothing, and a submission without a
stream counts as one. Only a run that was given up, or whose stream was too long for a word, leaves
the session otherwise; it stays where it stopped then, and makes no more calls.

* `Decoder.callsOf`: the calls on its engine that a call on a session makes.
* `Decoder.Rests`: a session whose engine rests, after some calls and some submissions.
* `Decoder.Rests.run`: a run of such a session.
* `Decoder.RestsOrStopped.afterAll`: what every history leaves.
* `Decoder.gray_submissions_settle`: what a run comes to after any history.
-/

namespace AvcDriver.Session

open Engine (Event Gray added added_append answers answers_append wanted wanted_append)
open Engine.Gray (Fits Resting outputBuffers wantedInfo)

/-! ## The calls of a submission -/

section Calls

variable (isNew : Bool) (width height : UInt32) (stream : Bytes) (tag : UInt32)

theorem added_grayCalls : added (grayCalls isNew width height stream tag) =
    if isNew then outputBuffers width height else [] := by
  have hanswer : added (answerCalls width height stream tag) = [] := by
    rw [answerCalls]
    split <;> rfl
  rw [grayCalls, added_append, hanswer, List.append_nil]
  cases isNew <;> rfl

theorem wanted_grayCalls : wanted (grayCalls isNew width height stream tag) =
    if isNew then [wantedInfo width height] else [] := by
  have hanswer : wanted (answerCalls width height stream tag) = [] := by
    rw [answerCalls]
    split <;> rfl
  rw [grayCalls, wanted_append, hanswer, List.append_nil]
  cases isNew <;> rfl

theorem answers_grayCalls : answers (grayCalls isNew width height stream tag) =
    (if isNew then [.ok ⟨.waitingForBuffer, 0⟩] else []) ++
      ((if stream = [] then [] else [.ok ⟨.pictureDecoded, stream.length⟩]) ++
        [.ok ⟨.streamProcessed, 0⟩]) := by
  rw [grayCalls, answerCalls, answers_append, answers_append]
  by_cases hstream : stream = []
  · rw [if_pos hstream, if_pos hstream]
    cases isNew <;> rfl
  · rw [if_neg hstream, if_neg hstream]
    cases isNew <;> rfl

/-- A submission takes three rounds at most, and the last one finds it done. -/
theorem rounds_grayCalls : (answers (grayCalls isNew width height stream tag)).length ≤ 3 ∧
    (answers (grayCalls isNew width height stream tag)).getLast? =
      some (.ok ⟨.streamProcessed, 0⟩) := by
  rw [answers_grayCalls, ← List.append_assoc]
  refine ⟨?_, List.getLast?_concat⟩
  rw [List.length_append, List.length_append]
  have hsupply : (if isNew then [(.ok ⟨.waitingForBuffer, 0⟩ : Except Fault Engine.Output)]
      else []).length ≤ 1 := by
    cases isNew <;> decide
  have hpicture : (if stream = [] then []
      else [(.ok ⟨.pictureDecoded, stream.length⟩ : Except Fault Engine.Output)]).length ≤ 1 := by
    split <;> simp
  exact Nat.add_le_add (Nat.add_le_add hsupply hpicture) (Nat.le_refl 1)

end Calls

/-! ## Calls over a history -/

/-- The surfaces of a run lie in its memories. -/
def Step.Placed : Step → Prop
  | .setRenderTarget _ => True
  | .enqueueWork _ => True
  | .run _ _ _ shared => ∀ surface ∈ shared.surfaces, surface.Placed shared.memories.size

namespace Decoder

/-- The calls on its engine that a call on a session makes. -/
def callsOf {ε : Type} [Engine ε] (d : Decoder ε) : Step → List Engine.Call
  | .setRenderTarget _ => []
  | .enqueueWork _ => []
  | .run patience buffers owned shared =>
    ((d.run patience buffers owned shared).2.2.events.toList.drop shared.events.size).map
      Event.call

/-- The calls on its engine over a history. -/
def calls {ε : Type} [Engine ε] (d : Decoder ε) (history : List Step) : List Engine.Call :=
  d.along callsOf history

section Any

variable {ε : Type} [Engine ε] {d : Decoder ε} {patience : Nat} {buffers : BufferStore}
  {owned : SurfaceRef → Bool} {shared : Shared}

theorem callsOf_run {calls : List Engine.Call} (engineIndex : Nat)
    (h : (d.run patience buffers owned shared).2.2.events =
      shared.events ++ (calls.map (Event.mk engineIndex)).toArray) :
    d.callsOf (.run patience buffers owned shared) = calls := by
  rw [callsOf, h, Array.toList_append, ← Array.length_toList, List.drop_left, List.map_map]
  exact List.map_id _

theorem calls_concat (d : Decoder ε) (history : List Step) (last : Step) :
    d.calls (history ++ [last]) = d.calls history ++ (d.afterAll history).callsOf last :=
  d.along_concat callsOf history last

theorem afterAll_concat (d : Decoder ε) (history : List Step) (last : Step) :
    d.afterAll (history ++ [last]) = (d.afterAll history).after last := by
  rw [afterAll, List.foldl_append]
  rfl

theorem after_of_running (h : d.state = .running) (step : Step) : d.after step = d := by
  cases step with
  | setRenderTarget target =>
    rw [after, setRenderTarget, h]
    rfl
  | enqueueWork buffers =>
    rw [after, enqueueWork]
    split
    · next hphase =>
      rw [state, hphase] at h
      cases h
    · rfl
  | run patience buffers owned shared =>
    rw [after, run]
    split
    · next hphase =>
      rw [state, hphase] at h
      cases h
    · rfl

end Any

/-! ## Engines at rest -/

variable {d : Decoder Gray} {width height : UInt32} {calls : List Engine.Call}
  {submissions : List SurfaceRef}

/-- A session whose gray engine rests. It was asked for its buffers and supplied with them if
there was a submission. -/
structure Rests (width height : UInt32) (calls : List Engine.Call) (submissions : List SurfaceRef)
    (d : Decoder Gray) : Prop where
  engine : d.engine.Resting width height
  supplied : d.engine.buffers = if submissions = [] then [] else outputBuffers width height
  added : added calls = if submissions = [] then [] else outputBuffers width height
  wanted : wanted calls = if submissions = [] then [] else [wantedInfo width height]

/-- A session that rests, or one that was stopped in its engine. -/
def RestsOrStopped (width height : UInt32) (calls : List Engine.Call)
    (submissions : List SurfaceRef) (d : Decoder Gray) : Prop :=
  d.state = .running ∨ d.Rests width height calls submissions

namespace Rests

/-- An engine is new until there was a submission. -/
theorem isEmpty_buffers (h : d.Rests width height calls submissions) :
    d.engine.buffers.isEmpty = submissions.isEmpty := by
  rw [h.supplied]
  cases submissions <;> rfl

/-- What does not concern the engine leaves it at rest. -/
theorem of_engine_eq (h : d.Rests width height calls submissions) {d' : Decoder Gray}
    (hsame : d'.engine = d.engine) : d'.Rests width height calls submissions where
  engine := by
    rw [hsame]
    exact h.engine
  supplied := by
    rw [hsame]
    exact h.supplied
  added := h.added
  wanted := h.wanted

/-- An engine that was supplied unless it had been before, and asked for its buffers then. -/
theorem submit (h : d.Rests width height calls submissions) {d' : Decoder Gray}
    (hrest : d'.engine.Resting width height)
    (hbuffers : d'.engine.buffers =
      if d.engine.buffers.isEmpty then outputBuffers width height else d.engine.buffers)
    (stream : Bytes) (tag : UInt32) (target : SurfaceRef) :
    d'.Rests width height (calls ++ grayCalls submissions.isEmpty width height stream tag)
      (submissions ++ [target]) where
  engine := hrest
  supplied := by
    rw [hbuffers, h.supplied]
    cases submissions <;> rfl
  added := by
    rw [added_append, added_grayCalls, h.added]
    cases submissions with
    | nil => rfl
    | cons first rest => exact List.append_nil _
  wanted := by
    rw [wanted_append, wanted_grayCalls, h.wanted]
    cases submissions with
    | nil => rfl
    | cons first rest => rfl

variable {patience : Nat} {buffers : BufferStore} {shared : Shared} {target : SurfaceRef}
  {work : Work} {stream : Bytes}

/-- **A run of a session that rests** shows its pictures and leaves the session at rest. -/
theorem run (hfits : Fits width height) (h : d.Rests width height calls submissions)
    (hphase : d.phase = .queued target work)
    (hstream : work.stream buffers d.profile d.options = .ok stream)
    (hplaced : ∀ surface ∈ shared.surfaces, surface.Placed shared.memories.size)
    (hpatience : 3 ≤ patience) (hlength : stream.length < 2 ^ 64) (owned : SurfaceRef → Bool) :
    (d.run patience buffers owned shared).1 =
        .ok ((grayPictures width height stream d.tag).map
          (.of (d.flight target owned shared.surfaces).surface?)) ∧
      (d.run patience buffers owned shared).2.1.phase = .idle ∧
      d.callsOf (.run patience buffers owned shared) =
        grayCalls submissions.isEmpty width height stream d.tag ∧
      (d.after (.run patience buffers owned shared)).Rests width height
        (calls ++ d.callsOf (.run patience buffers owned shared)) (submissions ++ [target]) := by
  obtain ⟨more, rfl⟩ : ∃ more, patience = more + 3 :=
    ⟨patience - 3, (Nat.sub_add_cancel hpatience).symm⟩
  obtain ⟨engine, hrest, hbuffers, hsubmit⟩ :=
    submit_rests hfits h.engine hplaced hlength target owned work more
  have hrun := (run_eq_submit hphase hstream (more + 3) owned shared).trans hsubmit
  rw [h.isEmpty_buffers] at hrun
  have hcalls : d.callsOf (.run (more + 3) buffers owned shared) =
      grayCalls submissions.isEmpty width height stream d.tag :=
    callsOf_run d.engineIndex (by rw [hrun])
  rw [hcalls, after_run_eq, hrun]
  exact ⟨rfl, rfl, rfl, h.submit hrest hbuffers stream d.tag target⟩

/-- A run that submits leaves the session at rest, or it stops. -/
theorem after_submission (hfits : Fits width height) (h : d.Rests width height calls submissions)
    (hphase : d.phase = .queued target work)
    (hstream : work.stream buffers d.profile d.options = .ok stream)
    (hplaced : ∀ surface ∈ shared.surfaces, surface.Placed shared.memories.size)
    (owned : SurfaceRef → Bool) :
    (d.after (.run patience buffers owned shared)).RestsOrStopped width height
      (calls ++ d.callsOf (.run patience buffers owned shared)) (submissions ++ [target]) := by
  have hsubmit := run_eq_submit hphase hstream patience owned shared
  by_cases hfaults : ∃ cause, (d.run patience buffers owned shared).1 = .error (.faulted cause)
  · obtain ⟨cause, hfaults⟩ := hfaults
    refine .inl ?_
    rw [after_run_eq, hsubmit, state,
      submit_phase_of_faulted ((congrArg Prod.fst hsubmit).symm.trans hfaults)]
    rfl
  · -- what was not given up is the same with enough patience
    have hmore := d.run_of_le_patience (Nat.le_add_right patience 3) buffers owned shared
      fun hstuck => hfaults ⟨_, hstuck⟩
    have hlength : stream.length < 2 ^ 64 := by
      by_contra hlong
      refine hfaults ⟨.overflow, ?_⟩
      rw [← hmore, run_eq_submit hphase hstream]
      exact submit_overflows hfits h.engine hlong target owned work patience
    have hrun := h.run hfits hphase hstream hplaced (Nat.le_add_left 3 patience) hlength owned
    rw [callsOf, after_run_eq, hmore] at hrun
    exact .inr hrun.2.2.2

end Rests

namespace RestsOrStopped

/-- **Every call** leaves a session at rest, or stopped in its engine. -/
theorem after (hfits : Fits width height) (h : d.RestsOrStopped width height calls submissions)
    (step : Step) (hplaced : step.Placed) :
    (d.after step).RestsOrStopped width height (calls ++ d.callsOf step)
      (submissions ++ d.submissionOf step) := by
  rcases h with hrunning | h
  · refine .inl ?_
    rwa [after_of_running hrunning]
  cases step with
  | setRenderTarget target =>
    rw [callsOf, submissionOf, List.append_nil, List.append_nil, Decoder.after, setRenderTarget]
    split
    · exact .inr (h.of_engine_eq rfl)
    · exact .inr h
  | enqueueWork buffers =>
    rw [callsOf, submissionOf, List.append_nil, List.append_nil, Decoder.after, enqueueWork]
    split
    · exact .inr (h.of_engine_eq rfl)
    · exact .inr h
  | run patience buffers owned shared =>
    rcases d.run_cases patience buffers owned shared with
      ⟨cause, hstream, hrun⟩ | ⟨target, work, error, hphase, hstream, hrun⟩ |
        ⟨target, work, stream, hphase, hstream, -⟩
    · have hnone : d.submissionOf (.run patience buffers owned shared) = [] := by
        rw [submissionOf]
        split
        · next hphase =>
          rw [hstream _ _ hphase]
          rfl
        · rfl
      have hcalls : d.callsOf (.run patience buffers owned shared) = [] :=
        callsOf_run d.engineIndex (by rw [hrun]; exact (Array.append_empty ..).symm)
      rw [hnone, hcalls, List.append_nil, List.append_nil, after_run_eq, hrun]
      exact .inr h
    · have hnone : d.submissionOf (.run patience buffers owned shared) = [] := by
        simp only [submissionOf, hphase, hstream]
        rfl
      have hcalls : d.callsOf (.run patience buffers owned shared) = [] :=
        callsOf_run d.engineIndex (by rw [hrun]; exact (Array.append_empty ..).symm)
      rw [hnone, hcalls, List.append_nil, List.append_nil, after_run_eq, hrun]
      exact .inr (h.of_engine_eq rfl)
    · have hone : d.submissionOf (.run patience buffers owned shared) = [target] := by
        simp only [submissionOf, hphase, hstream]
        rfl
      rw [hone]
      exact h.after_submission hfits hphase hstream hplaced owned

/-- So does every history. -/
theorem afterAll (hfits : Fits width height) (history : List Step)
    (hplaced : ∀ step ∈ history, step.Placed)
    (h : d.RestsOrStopped width height calls submissions) :
    (d.afterAll history).RestsOrStopped width height (calls ++ d.calls history)
      (submissions ++ d.submissions history) := by
  induction history generalizing d calls submissions with
  | nil =>
    rw [Decoder.calls, Decoder.submissions, along, along, List.append_nil, List.append_nil]
    exact h
  | cons step rest ih =>
    have hrest := ih (fun step hmem => hplaced step (List.mem_cons_of_mem _ hmem))
      (h.after hfits step (hplaced step List.mem_cons_self))
    rw [List.append_assoc, List.append_assoc] at hrest
    exact hrest

end RestsOrStopped

/-- A session with a new gray engine rests. -/
theorem rests_make {params : Engine.Params} (hfits : Fits params.width params.height) {g : Gray}
    (hg : Gray.make params = .ok g) {engineIndex : Nat} {profile : Header.Profile}
    {codedWidth codedHeight : UInt32} {capacity : Nat}
    (hmake : make g engineIndex profile codedWidth codedHeight capacity = .ok d) :
    d.Rests params.width params.height [] [] := by
  obtain ⟨g', hg', hrest, hnone⟩ := Gray.make_run hfits rfl rfl
  rw [hg'] at hg
  cases hg
  obtain ⟨recent, -, hd⟩ := bind_eq_ok.1 hmake
  cases hd
  exact ⟨hrest, hnone, rfl, rfl⟩

/-- **A session with a gray engine settles every submission**, whatever came before it. A run
whose stream is made ends after three rounds at most, the last of which finds the engine done, and
the session is idle again. It shows one picture, of the engine's size and with the submission's own
tag, unless the stream is empty. The engine is asked which buffers it wants in the first such run
only, can always tell, and is supplied with two buffers over all. -/
theorem gray_submissions_settle {params : Engine.Params}
    (hfits : Fits params.width params.height) {g : Gray}
    (hg : Gray.make params = .ok g) {engineIndex : Nat} {profile : Header.Profile}
    {codedWidth codedHeight : UInt32} {capacity : Nat} {d₀ : Decoder Gray}
    (hmake : make g engineIndex profile codedWidth codedHeight capacity = .ok d₀)
    (history : List Step) (hhistory : ∀ step ∈ history, step.Placed) {target : SurfaceRef}
    {work : Work} (hphase : (d₀.afterAll history).phase = .queued target work)
    {buffers : BufferStore} {stream : Bytes}
    (hstream : work.stream buffers (d₀.afterAll history).profile (d₀.afterAll history).options =
      .ok stream) (hlength : stream.length < 2 ^ 64) {patience : Nat} (hpatience : 3 ≤ patience)
    (owned : SurfaceRef → Bool) {shared : Shared}
    (hshared : (Step.run patience buffers owned shared).Placed) :
    let run := Step.run patience buffers owned shared
    let isFirst := d₀.submissions history = []
    let calls := (d₀.afterAll history).callsOf run
    (∃ surface, ((d₀.afterAll history).run patience buffers owned shared).1 =
        .ok (if stream = [] then [] else
          [{ tag := UInt32.ofNat (d₀.submissions history).length, surface,
             width := params.width, height := params.height }])) ∧
      (d₀.afterAll (history ++ [run])).phase = .idle ∧
      (answers calls).length ≤ 3 ∧ (answers calls).getLast? = some (.ok ⟨.streamProcessed, 0⟩) ∧
      wanted calls = (if isFirst then [wantedInfo params.width params.height] else []) ∧
      (∃ info, (d₀.afterAll history).engine.info = .ok info) ∧
      added (d₀.calls history) =
        (if isFirst then [] else outputBuffers params.width params.height) ∧
      added (d₀.calls (history ++ [run])) = outputBuffers params.width params.height ∧
      (outputBuffers params.width params.height).length = 2 := by
  intro run isFirst calls
  have hrests : (d₀.afterAll history).Rests params.width params.height (d₀.calls history)
      (d₀.submissions history) := by
    rcases RestsOrStopped.afterAll hfits history hhistory (.inr (rests_make hfits hg hmake)) with
      hrunning | hrests
    · rw [state, hphase] at hrunning
      cases hrunning
    · exact hrests
  have htag : (d₀.afterAll history).tag = UInt32.ofNat (d₀.submissions history).length :=
    ((traced_make hmake).afterAll history).tag_eq
  obtain ⟨hrun, hidle, hcalls, hafter⟩ := hrests.run hfits hphase hstream hshared hpatience
    hlength owned
  obtain ⟨hrounds, hlast⟩ := rounds_grayCalls (d₀.submissions history).isEmpty params.width
    params.height stream (d₀.afterAll history).tag
  rw [← hcalls] at hrounds hlast
  refine ⟨?_, ?_, hrounds, hlast, ?_, ⟨_, Gray.info_eq hfits hrests.engine⟩, hrests.added, ?_,
    List.length_replicate⟩
  · refine ⟨((((d₀.afterAll history).flight target owned shared.surfaces).surface?
      (d₀.afterAll history).tag).map (·.id)), hrun.trans ?_⟩
    rw [grayPictures, htag]
    split <;> rfl
  · rw [afterAll_concat]
    exact hidle
  · rw [show wanted calls = _ from congrArg wanted hcalls, wanted_grayCalls]
    simp only [isFirst, List.isEmpty_iff]
  · rw [calls_concat, hafter.added, if_neg (List.append_ne_nil_of_right_ne_nil _ (by simp))]

/-! ### A picture after a submission without a stream -/

/-- A session whose submissions go to a gray engine for pictures of one macroblock. -/
def grayDecoder : Decoder Gray where
  engine := { width := 16, height := 16 }
  engineIndex := 0
  profile := .main
  options := { width := 16, height := 16 }
  recent := { capacity := 2 }

/-- A submission without slices. -/
def emptyNames : List (BufferRef × BufferKind) := [(⟨0⟩, .pictureParameter), (⟨1⟩, .sliceParameter)]

/-- A submission without slices, as it is kept. -/
def emptyWork : Work := { pictureParameters := some ⟨0⟩, sliceParameters := [⟨1⟩] }

theorem emptyWork_stream (profile : Header.Profile) (options : Header.Options) :
    emptyWork.stream smallBuffers profile options = .ok [] := by
  have hrefs : ∀ ref ∈ emptyWork.refs, ref.index < smallBuffers.size := by decide
  have hpicture : Work.contents smallBuffers ⟨0⟩ = List.replicate 672 0 :=
    (Work.contents_eq (.zeros 672) rfl).trans (Memory.toBytes_zeros 672)
  have hslice : Work.contents smallBuffers ⟨1⟩ = List.replicate 25 0 :=
    (Work.contents_eq (.zeros 25) rfl).trans (Memory.toBytes_zeros 25)
  have hrecords := Work.records_eq hrefs ⟨0⟩ rfl ⟨1⟩ rfl
  rw [hpicture, hslice, parse_zeroPicture, ok_bind, parse_zeroSlice, ok_bind] at hrecords
  rw [Work.stream_of_records hrecords,
    Work.write_eq_of_predicted (by rintro ref ⟨⟩) rfl]
  rfl

/-- The session about to make its first submission, which has no slices. -/
def grayFirst : Decoder Gray :=
  (grayDecoder.after (.setRenderTarget ⟨0⟩)).after (.enqueueWork emptyNames)

/-- The session makes its first submission and is about to make its second one. -/
def afterEmptySubmission : List Step := [
  .setRenderTarget ⟨0⟩,
  .enqueueWork emptyNames,
  .run 3 smallBuffers (fun _ => true) twoSurfaces,
  .setRenderTarget ⟨1⟩,
  .enqueueWork smallNames]

theorem afterAll_afterEmptySubmission :
    grayDecoder.afterAll afterEmptySubmission =
      ((grayFirst.submit 3 (fun _ => true) twoSurfaces ⟨0⟩ emptyWork []).2.1.after
        (.setRenderTarget ⟨1⟩)).after (.enqueueWork smallNames) := by
  have hrun : grayFirst.run 3 smallBuffers (fun _ => true) twoSurfaces =
      grayFirst.submit 3 (fun _ => true) twoSurfaces ⟨0⟩ emptyWork [] :=
    run_eq_submit rfl (emptyWork_stream _ _) 3 _ _
  rw [afterEmptySubmission, afterAll, List.foldl_cons, List.foldl_cons, ← grayFirst,
    List.foldl_cons, List.foldl_cons, List.foldl_cons, List.foldl_nil, after_run_eq, hrun]

theorem submissions_afterEmptySubmission :
    grayDecoder.submissions afterEmptySubmission = [⟨0⟩] := by
  have hphase : grayFirst.phase = .queued ⟨0⟩ emptyWork := rfl
  have hstream := emptyWork_stream grayFirst.profile grayFirst.options
  have hfirst : grayFirst.submissionOf (.run 3 smallBuffers (fun _ => true) twoSurfaces) =
      [⟨0⟩] := by
    simp only [submissionOf, hphase, hstream]
    rfl
  rw [submissions, afterEmptySubmission, along, along, ← grayFirst, along, hfirst]
  rfl

theorem placed_twoSurfaces :
    ∀ surface ∈ twoSurfaces.surfaces, surface.Placed twoSurfaces.memories.size := by
  intro surface hsurface mapping hmapping
  obtain rfl | rfl := List.mem_pair.1 (Array.mem_toList_iff.2 hsurface)
  all_goals
    cases hmapping
    exact ⟨⟨_, rfl, by decide⟩, ⟨_, rfl, by decide⟩⟩

theorem gray_submissions_settle_after_empty :
    (∃ surface, ((grayDecoder.afterAll afterEmptySubmission).run 3 smallBuffers (fun _ => true)
        twoSurfaces).1 = .ok [{ tag := 1, surface, width := 16, height := 16 }]) ∧
      wanted ((grayDecoder.afterAll afterEmptySubmission).callsOf
        (.run 3 smallBuffers (fun _ => true) twoSurfaces)) = [] ∧
      (added (grayDecoder.calls afterEmptySubmission)).length = 2 := by
  let params : Engine.Params :=
    { profile := .main, width := 16, height := 16, settings := {} }
  have hfits : Fits params.width params.height := ⟨by decide, by decide, by decide⟩
  have hphase : (grayDecoder.afterAll afterEmptySubmission).phase = .queued ⟨1⟩ smallWork := by
    rw [afterAll_afterEmptySubmission]
    decide +kernel
  have hhistory : ∀ step ∈ afterEmptySubmission, step.Placed := by
    simpa [afterEmptySubmission, Step.Placed] using placed_twoSurfaces
  obtain ⟨hready, -, -, -, hwanted, -, hadded, -, -⟩ :=
    gray_submissions_settle hfits (show Gray.make params = .ok grayDecoder.engine from rfl)
      (show make grayDecoder.engine 0 .main 16 16 2 = .ok grayDecoder from rfl)
      afterEmptySubmission hhistory hphase (smallWork_stream _ _) (by decide) (Nat.le_refl 3)
      (fun _ => true) placed_twoSurfaces
  rw [submissions_afterEmptySubmission] at hready hwanted hadded
  refine ⟨hready, hwanted, ?_⟩
  rw [hadded]
  rfl

end Decoder

end AvcDriver.Session
