import AvcDriver.Engine.Gray
import AvcDriver.Proofs.Memory.Bytes
import AvcDriver.Proofs.Session.Submission

/-!
# Submissions to a gray engine

A gray engine is asked for a picture of which nothing is known but its size. The first submission
supplies it with its two output buffers; every one that is not empty is answered with one flat
picture, and then it is done. So it takes three rounds at most, and it is ready for the next one.

* `Engine.Gray.Resting`: a gray engine between submissions.
* `driveFrom_run`: one round with any engine, given its answer.
* `supply_round`, `answer_gray`: the rounds with a gray engine.
* `drive_gray`: all of a submission to a gray engine, call by call.
* `Decoder.submit_rests`, `Decoder.submit_gray`: what a session makes of it.
-/

namespace AvcDriver

/-! ## The engine -/

namespace Engine.Gray

/-- Pictures of a size for which the buffers can be told in 32-bit words. -/
structure Fits (width height : UInt32) : Prop where
  wide : 0 < width.toNat
  high : 0 < height.toNat
  samples : roundUpMacroblock width.toNat * roundUpMacroblock height.toNat * 3 < 2 ^ 32

/-- The buffers that are wanted for pictures of a size. -/
def wantedInfo (width height : UInt32) : BufferInfo where
  size := roundUpMacroblock width.toNat * roundUpMacroblock height.toNat * 3 / 2
  count := wantedBuffers

/-- The output buffers for pictures of a size. -/
def outputBuffers (width height : UInt32) : List OutputBuffer :=
  List.replicate wantedBuffers
    ⟨(wantedInfo width height).size, .zeros (wantedInfo width height).size⟩

/-- The flat picture of a size. -/
def flat (width height tag : UInt32) : Picture where
  tag
  width
  height
  luma := .filled (roundUpEven width.toNat * height.toNat) level
  lumaStride := roundUpEven width.toNat
  chroma := .filled (roundUpEven width.toNat * halfUp height.toNat) level
  chromaStride := roundUpEven width.toNat

/-- A gray engine between submissions: no picture is due, and it has all of its buffers or none. -/
structure Resting (width height : UInt32) (g : Gray) : Prop where
  width : g.width = width
  height : g.height = height
  answered : g.answered = none
  ready : g.ready = none
  buffers : g.buffers.length = 0 ∨ g.buffers.length = wantedBuffers

variable {width height : UInt32} {g : Gray}

theorem make_run (h : Fits width height) {params : Params} (hwidth : params.width = width)
    (hheight : params.height = height) :
    ∃ g, make params = .ok g ∧ g.Resting width height ∧ g.buffers = [] := by
  have hsize : ¬ (params.width = 0 ∨ params.height = 0) := by
    rw [hwidth, hheight]
    rintro (rfl | rfl)
    · exact Nat.lt_irrefl 0 h.wide
    · exact Nat.lt_irrefl 0 h.high
  exact ⟨_, if_neg hsize, ⟨hwidth, hheight, rfl, rfl, .inl rfl⟩, rfl⟩

/-- A side in whole macroblocks is at least as long. -/
theorem le_roundUpMacroblock (n : Nat) :
    n ≤ roundUpMacroblock n ∧ roundUpMacroblock n ≤ n + 15 := by
  rw [roundUpMacroblock]
  omega

/-- The samples of a picture are no more than those of its macroblocks. -/
theorem Fits.area_lt (h : Fits width height) :
    roundUpEven width.toNat * height.toNat < 2 ^ 32 := by
  have hwide : roundUpEven width.toNat ≤ roundUpMacroblock width.toNat := by
    rw [roundUpEven, roundUpMacroblock]
    omega
  have hle := Nat.mul_le_mul hwide (le_roundUpMacroblock height.toNat).1
  have hsamples := h.samples
  omega

theorem picture_eq (h : Fits width height) (hwidth : g.width = width)
    (hheight : g.height = height) (tag : UInt32) : g.picture tag = .ok (flat width height tag) := by
  have hluma : roundUpEven width.toNat * height.toNat ≤ Memory.maxSize :=
    Nat.le_trans (Nat.le_of_lt h.area_lt) (by decide)
  have hhalf : halfUp height.toNat ≤ height.toNat := by
    have hpos := h.high
    rw [halfUp]
    omega
  have hchroma : roundUpEven width.toNat * halfUp height.toNat ≤ Memory.maxSize :=
    Nat.le_trans (Nat.mul_le_mul_left _ hhalf) hluma
  rw [picture, hwidth, hheight, Memory.allocate, Memory.checkSize, if_pos hluma,
    Memory.allocate, Memory.checkSize, if_pos hchroma]
  rfl

/-- An engine between submissions can always tell which buffers it still wants. -/
theorem info_eq (h : Fits width height) (hg : g.Resting width height) :
    g.info = .ok
      { wantedInfo width height with count := wantedBuffers - g.buffers.length } := by
  have hsamples := h.samples
  have hwide := (le_roundUpMacroblock width.toNat).1
  have hhigh := (le_roundUpMacroblock height.toNat).1
  have hwidth := h.wide
  have hheight := h.high
  have hle := Nat.le_mul_of_pos_right (roundUpMacroblock width.toNat)
    (show 0 < roundUpMacroblock height.toNat by omega)
  have hle' := Nat.le_mul_of_pos_left (roundUpMacroblock height.toNat)
    (show 0 < roundUpMacroblock width.toNat by omega)
  have hnone : ¬ wantedBuffers < g.buffers.length := by
    rcases hg.buffers with hbuffers | hbuffers
    · rw [hbuffers]
      exact Nat.not_lt_zero _
    · rw [hbuffers]
      exact Nat.lt_irrefl _
  rw [info, hg.width, hg.height]
  refine bind_eq_ok.2 ⟨_, checkedWord_eq_ok.2 ⟨by omega, rfl⟩, ?_⟩
  refine bind_eq_ok.2 ⟨_, checkedWord_eq_ok.2 ⟨by omega, rfl⟩, ?_⟩
  refine bind_eq_ok.2 ⟨_, checkedWord_eq_ok.2 ⟨by omega, rfl⟩, ?_⟩
  refine bind_eq_ok.2 ⟨_, checkedWord_eq_ok.2 ⟨hsamples, rfl⟩, ?_⟩
  dsimp only
  rw [if_neg hnone]
  rfl

theorem wantedInfo_le (h : Fits width height) :
    (wantedInfo width height).size ≤ Memory.maxSize := by
  have hsamples := h.samples
  have hsize : (wantedInfo width height).size < 2 ^ 32 := by
    rw [wantedInfo]
    dsimp only
    omega
  exact Nat.le_trans (Nat.le_of_lt hsize) (by decide)

/-! ### Answers -/

/-- An engine without its buffers asks for them. -/
theorem decode_waiting (hnone : g.buffers.length < wantedBuffers) (input : Input) :
    decode input g = (.ok ⟨.waitingForBuffer, 0⟩, g) := by
  rw [decode, if_pos hnone]

/-- A submission that is new is answered with a picture. -/
theorem decode_new (h : Fits width height) (hg : g.Resting width height)
    (hfull : ¬ g.buffers.length < wantedBuffers) {stream : Bytes} (hstream : stream ≠ [])
    (tag : UInt32) :
    decode { stream, tag } g = (.ok ⟨.pictureDecoded, stream.length⟩,
      { g with answered := some tag, ready := some (flat width height tag) }) := by
  have hpicture := picture_eq (g := { g with answered := some tag }) h hg.width hg.height tag
  have hnew : g.answered.isNone = true ∧ (!stream.isEmpty) = true := by
    rw [hg.answered]
    simpa using hstream
  simp only [decode, if_neg hfull, if_pos hnew, hpicture]

/-- A submission that has been answered is done, and so is one with nothing in it. -/
theorem decode_answered (hfull : ¬ g.buffers.length < wantedBuffers) {input : Input}
    (hanswered : g.answered = none → input.stream = []) :
    decode input g = (.ok ⟨.streamProcessed, input.stream.length⟩,
      { g with answered := none }) := by
  have hold : ¬ (g.answered.isNone = true ∧ (!input.stream.isEmpty) = true) := by
    rintro ⟨hnone, hsome⟩
    rw [hanswered (Option.isNone_iff_eq_none.1 hnone)] at hsome
    cases hsome
  rw [decode, if_neg hfull, if_neg hold]

end Engine.Gray

namespace Session

open AvcDriver.Action (run_bind_error run_bind_ok)
open Engine (Event Gray Input Output OutputBuffer Picture)
open Engine.Gray (Fits Resting flat outputBuffers wantedInfo)

/-! ## Rounds with any engine -/

section Rounds

variable {ε α β : Type} {f : Flight} {p : Progress ε}

/-- Later in a run: calls were made and told, and the engine has come on. -/
def Progress.later (p : Progress ε) (f : Flight) (engine : ε) (calls : List Engine.Call) :
    Progress ε :=
  { p with engine, events := p.events ++ (calls.map (Event.mk f.engineIndex)).toArray }

theorem Progress.later_later (engine engine' : ε) (calls more : List Engine.Call) :
    (p.later f engine calls).later f engine' more = p.later f engine' (calls ++ more) := by
  simp [later]

/-- A call that returns. -/
theorem callEngine_run {act : Engine.Act ε α} {a : α} {engine : ε}
    (hact : act p.engine = (.ok a, engine)) :
    (callEngine act : RunM ε _).run p = (.ok (.ok a), { p with engine }) := by
  change (Except.ok (act p.engine).1, ({ p with engine := (act p.engine).2 } : Progress ε)) = _
  rw [hact]

/-- A call that returns, and is told. -/
theorem call_run {act : Engine.Act ε α} {a : α} {engine : ε} (hact : act p.engine = (.ok a, engine))
    (call : α → Engine.Call) (next : α → RunM ε β) :
    (callEngine act >>= fun result => Action.ofFaulting result >>= fun a =>
      tell f (call a) >>= fun _ => next a).run p = (next a).run (p.later f engine [call a]) :=
  (run_bind_ok (callEngine_run hact)).trans rfl

/-- A picture is delivered if the surfaces lie in memory. -/
theorem deliver_run_of_placed (hplaced : ∀ surface ∈ f.surfaces, surface.Placed p.memories.size)
    (picture : Picture) :
    (deliver f picture).run p = (.ok (.of f.surface? picture),
      { p with memories := copyInto (f.surface? picture.tag) p.memories picture }) := by
  obtain ⟨result, hrun, rfl | ⟨surface, hmem, cause, hwrite, -⟩⟩ := deliver_run f picture p
  · exact hrun
  · exact absurd hwrite (surface.write_never_faults (hplaced surface hmem) picture cause)

/-- One round, given the engine's answer. -/
theorem driveFrom_run [Engine ε] {stream : Bytes} {tag : UInt32} {offset : Nat} {input : Input}
    (hinput : input = { stream := stream.drop offset, tag }) {output : Output} {engine : ε}
    (hdecode : (Engine.decode input : Engine.Act ε Output) p.engine = (.ok output, engine))
    (hword : offset + output.consumed < 2 ^ 64) (patience rounds : Nat)
    (ready : List ReadyPicture) :
    (driveFrom f stream tag patience (rounds + 1) offset ready).run p =
      (respond f patience (driveFrom f stream tag patience rounds
        (min (offset + output.consumed) stream.length)) ready output.status).run
          (p.later f engine [.decode input (.ok output)]) := by
  subst hinput
  let input : Input := { stream := stream.drop offset, tag }
  let noted := p.later f engine [.decode input (.ok output)]
  have hreached : (Action.ofFaulting (checkedWord 64 (offset + output.consumed)) :
      RunM ε Nat).run noted = (.ok (offset + output.consumed), noted) := by
    rw [checkedWord_eq_ok.2 ⟨hword, rfl⟩]
    rfl
  rw [driveFrom_succ]
  exact (run_bind_ok (callEngine_run hdecode)).trans (run_bind_ok hreached)

/-- An engine that consumes more than a word can tell stops the run. -/
theorem driveFrom_overflows [Engine ε] {stream : Bytes} {tag : UInt32} {offset : Nat}
    {output : Output} {engine : ε}
    (hdecode : (Engine.decode { stream := stream.drop offset, tag } : Engine.Act ε Output)
      p.engine = (.ok output, engine))
    (hword : ¬ offset + output.consumed < 2 ^ 64) (patience rounds : Nat)
    (ready : List ReadyPicture) :
    ((driveFrom f stream tag patience (rounds + 1) offset ready).run p).1 =
      .error (.faulted .overflow) := by
  let input : Input := { stream := stream.drop offset, tag }
  let noted := p.later f engine [.decode input (.ok output)]
  have hreached : (Action.ofFaulting (checkedWord 64 (offset + output.consumed)) :
      RunM ε Nat).run noted = (.error (.faulted .overflow), noted) := by
    rw [checkedWord_eq_error hword]
    rfl
  rw [driveFrom_succ]
  refine (congrArg Prod.fst (run_bind_ok (callEngine_run hdecode))).trans ?_
  exact congrArg Prod.fst (run_bind_error hreached)

end Rounds

/-! ## Rounds with a gray engine -/

section GrayRounds

variable {f : Flight} {p : Progress Gray} {width height : UInt32} {stream : Bytes}

/-- Output buffers that are supplied, behind those that were. -/
def suppliedTo (g : Gray) (size count : Nat) : Gray :=
  { g with buffers := g.buffers ++ List.replicate count ⟨size, .zeros size⟩ }

theorem supply_gray {size : Nat} (hsize : size ≤ Memory.maxSize) (count : Nat) :
    ∀ p : Progress Gray, (supply f size count).run p =
      (.ok (), p.later f (suppliedTo p.engine size count) (suppliedCalls { size, count })) := by
  induction count with
  | zero =>
    intro p
    change (Except.ok (), p) = _
    simp [Progress.later, suppliedTo, suppliedCalls]
  | succ count ih =>
    intro p
    let buffer : OutputBuffer := ⟨size, .zeros size⟩
    have hadd : (Engine.addBuffer buffer : Engine.Act Gray Unit) p.engine =
      (.ok (), suppliedTo p.engine size 1) := rfl
    rw [supply, zeroed_eq_ok hsize]
    refine (call_run hadd (fun _ => .add buffer) fun _ => supply f size count).trans ?_
    rw [ih, Progress.later_later]
    simp [suppliedTo, suppliedCalls, Progress.later, List.replicate_succ, buffer]

theorem supplyWanted_gray (hfits : Fits width height) (hrest : p.engine.Resting width height)
    (hnone : p.engine.buffers.length = 0) :
    (supplyWanted f).run p = (.ok (), p.later f
      (suppliedTo p.engine (wantedInfo width height).size (wantedInfo width height).count)
      (.info (wantedInfo width height) :: suppliedCalls (wantedInfo width height))) := by
  have hwanted := Engine.Gray.info_eq hfits hrest
  rw [hnone] at hwanted
  have hinfo : (Engine.bufferInfo : Engine.Act Gray _) p.engine =
      (.ok (wantedInfo width height), p.engine) := Prod.ext hwanted rfl
  rw [supplyWanted]
  refine (call_run hinfo .info fun info => supply f info.size info.count).trans ?_
  rw [supply_gray (Engine.Gray.wantedInfo_le hfits), Progress.later_later]
  rfl

/-- The picture that is due is handed out. -/
theorem next_gray (f : Flight) (p : Progress Gray) (patience : Nat) :
    (collect f (patience + 1)).run p = (match p.engine.ready with
      | none => (pure [] : RunM Gray (List ReadyPicture))
      | some picture => do
        let ready ← deliver f picture
        Action.ofFaulting (← callEngine (Engine.pictureConsumed picture))
        tell f (.consumed picture)
        let rest ← collect f patience
        pure (ready :: rest)).run
          (p.later f { p.engine with ready := none } [.next p.engine.ready]) := by
  have hnext : (Engine.nextPicture : Engine.Act Gray _) p.engine =
      (.ok p.engine.ready, { p.engine with ready := none }) := rfl
  rw [collect]
  exact call_run hnext .next _

theorem collect_gray {picture : Picture} (hready : p.engine.ready = some picture)
    (hplaced : ∀ surface ∈ f.surfaces, surface.Placed p.memories.size) (patience : Nat) :
    (collect f (patience + 2)).run p = (.ok [.of f.surface? picture],
      ({ p with
        memories := copyInto (f.surface? picture.tag) p.memories picture } : Progress Gray).later f
          { p.engine with ready := none } (collectedCalls [picture])) := by
  let shown := p.later f { p.engine with ready := none } [.next (some picture)]
  let copied : Progress Gray :=
    { shown with memories := copyInto (f.surface? picture.tag) shown.memories picture }
  let consumed := copied.later f copied.engine [.consumed picture]
  have hdeliver : (deliver f picture).run shown = (.ok (.of f.surface? picture), copied) :=
    deliver_run_of_placed (p := shown) hplaced picture
  have hconsumed : (Engine.pictureConsumed picture : Engine.Act Gray Unit) copied.engine =
    (.ok (), copied.engine) := rfl
  have hrest : (collect f (patience + 1)).run consumed =
      (.ok [], consumed.later f { p.engine with ready := none } [.next none]) :=
    next_gray f consumed patience
  rw [next_gray, hready]
  refine (run_bind_ok hdeliver).trans ?_
  refine (call_run hconsumed (fun _ => .consumed picture) _).trans ?_
  refine (run_bind_ok hrest).trans ?_
  have hlast : consumed.later f { p.engine with ready := none } [.next none] =
      ({ p with memories := copied.memories } : Progress Gray).later f
        { p.engine with ready := none } (collectedCalls [picture]) := rfl
  rw [hlast]
  rfl

/-- The pictures that a submission to a gray engine is answered with: one, if there is a stream. -/
def grayPictures (width height : UInt32) (stream : Bytes) (tag : UInt32) : List Picture :=
  if stream = [] then [] else [flat width height tag]

/-- The calls in which a gray engine that has its buffers answers. -/
def answerCalls (width height : UInt32) (stream : Bytes) (tag : UInt32) : List Engine.Call :=
  (if stream = [] then []
    else .decode { stream, tag } (.ok ⟨.pictureDecoded, stream.length⟩) ::
      collectedCalls [flat width height tag]) ++
    [.decode { stream := [], tag } (.ok ⟨.streamProcessed, 0⟩)]

/-- An engine that has its buffers is done with an empty submission at once. -/
theorem answer_empty (hrest : p.engine.Resting width height)
    (hfull : p.engine.buffers.length = Engine.Gray.wantedBuffers) (tag : UInt32)
    (patience rounds : Nat) :
    (driveFrom f [] tag patience (rounds + 1) 0 []).run p =
      (.ok [], p.later f p.engine [.decode { stream := [], tag } (.ok ⟨.streamProcessed, 0⟩)]) := by
  have hnotWanting : ¬ p.engine.buffers.length < Engine.Gray.wantedBuffers :=
    Nat.not_lt.2 (Nat.le_of_eq hfull.symm)
  have hsame : ({ p.engine with answered := none } : Gray) = p.engine := by
    rw [← hrest.answered]
  have hdecode : (Engine.decode { stream := [], tag } : Engine.Act Gray Output) p.engine =
      (.ok ⟨.streamProcessed, 0⟩, p.engine) :=
    (Engine.Gray.decode_answered hnotWanting fun _ => rfl).trans (Prod.ext rfl hsame)
  exact (driveFrom_run rfl hdecode (by decide) _ _ _).trans rfl

/-- An engine that has its buffers answers with its picture, and then is done. -/
theorem answer_picture (hfits : Fits width height) (hrest : p.engine.Resting width height)
    (hfull : p.engine.buffers.length = Engine.Gray.wantedBuffers)
    (hplaced : ∀ surface ∈ f.surfaces, surface.Placed p.memories.size) (hstream : stream ≠ [])
    (hlength : stream.length < 2 ^ 64) (tag : UInt32) (patience rounds : Nat) :
    (driveFrom f stream tag (patience + 2) (rounds + 2) 0 []).run p =
      (.ok [.of f.surface? (flat width height tag)],
        ({ p with memories := copyInto (f.surface? tag) p.memories (flat width height tag) } :
          Progress Gray).later f p.engine
            (.decode { stream, tag } (.ok ⟨.pictureDecoded, stream.length⟩) ::
              (collectedCalls [flat width height tag] ++
                [.decode { stream := [], tag } (.ok ⟨.streamProcessed, 0⟩)]))) := by
  have hnotWanting : ¬ p.engine.buffers.length < Engine.Gray.wantedBuffers :=
    Nat.not_lt.2 (Nat.le_of_eq hfull.symm)
  let decoded : Gray :=
    { p.engine with answered := some tag, ready := some (flat width height tag) }
  have hdecode : (Engine.decode { stream, tag } : Engine.Act Gray Output) p.engine =
      (.ok ⟨.pictureDecoded, stream.length⟩, decoded) :=
    Engine.Gray.decode_new hfits hrest hnotWanting hstream tag
  let first := p.later f decoded [.decode { stream, tag } (.ok ⟨.pictureDecoded, stream.length⟩)]
  let copied : Progress Gray :=
    { p with memories := copyInto (f.surface? tag) p.memories (flat width height tag) }
  let second := (copied.later f decoded
    [.decode { stream, tag } (.ok ⟨.pictureDecoded, stream.length⟩)]).later f
      { decoded with ready := none } (collectedCalls [flat width height tag])
  have hcollect : (collect f (patience + 2)).run first =
      (.ok [.of f.surface? (flat width height tag)], second) :=
    collect_gray (p := first) rfl hplaced patience
  -- with the picture handed out and the answer forgotten, the engine is as it was
  have hsame : ({ p.engine with answered := none, ready := none } : Gray) = p.engine := by
    rw [← hrest.answered, ← hrest.ready]
  have hend : (Engine.decode { stream := [], tag } : Engine.Act Gray Output) second.engine =
      (.ok ⟨.streamProcessed, 0⟩, p.engine) :=
    (Engine.Gray.decode_answered (g := second.engine) hnotWanting (by rintro ⟨⟩)).trans
      (Prod.ext rfl hsame)
  have hdrop : stream.drop stream.length = [] := List.drop_length
  refine (driveFrom_run rfl hdecode (by rwa [Nat.zero_add]) _ _ _).trans ?_
  refine (run_bind_ok hcollect).trans ?_
  rw [Nat.zero_add, Nat.min_self]
  refine (driveFrom_run (by rw [hdrop]) hend hlength _ _ _).trans ?_
  rw [Progress.later_later, Progress.later_later]
  rfl

/-- An engine that has its buffers answers and is as it was. -/
theorem answer_gray (hfits : Fits width height) (hrest : p.engine.Resting width height)
    (hfull : p.engine.buffers.length = Engine.Gray.wantedBuffers)
    (hplaced : ∀ surface ∈ f.surfaces, surface.Placed p.memories.size)
    (hlength : stream.length < 2 ^ 64) (tag : UInt32) (patience rounds : Nat) :
    (driveFrom f stream tag (patience + 2) (rounds + 2) 0 []).run p =
      (.ok ((grayPictures width height stream tag).map (.of f.surface?)),
        ({ p with
          memories := copyAll f.surface? p.memories (grayPictures width height stream tag) } :
            Progress Gray).later f p.engine (answerCalls width height stream tag)) := by
  by_cases hstream : stream = []
  · subst hstream
    exact answer_empty hrest hfull tag _ _
  · rw [grayPictures, answerCalls, if_neg hstream, if_neg hstream]
    exact answer_picture hfits hrest hfull hplaced hstream hlength tag _ _

/-- The calls in which a gray engine is supplied with its buffers. -/
def supplyCalls (width height : UInt32) (stream : Bytes) (tag : UInt32) : List Engine.Call :=
  .decode { stream, tag } (.ok ⟨.waitingForBuffer, 0⟩) :: .info (wantedInfo width height) ::
    suppliedCalls (wantedInfo width height)

/-- An engine without buffers takes one round to be supplied with them. -/
theorem supply_round (hfits : Fits width height) (hrest : p.engine.Resting width height)
    (hnone : p.engine.buffers = []) (tag : UInt32) (patience rounds : Nat) :
    (driveFrom f stream tag patience (rounds + 1) 0 []).run p =
      (driveFrom f stream tag patience rounds 0 []).run
        (p.later f { p.engine with buffers := outputBuffers width height }
          (supplyCalls width height stream tag)) := by
  let asked := p.later f p.engine [.decode { stream, tag } (.ok ⟨.waitingForBuffer, 0⟩)]
  have hdecode : (Engine.decode { stream, tag } : Engine.Act Gray Output) p.engine =
      (.ok ⟨.waitingForBuffer, 0⟩, p.engine) :=
    Engine.Gray.decode_waiting (by rw [hnone]; decide) _
  have hsupply : (supplyWanted f).run asked = (.ok (), asked.later f
      { p.engine with buffers := outputBuffers width height }
      (.info (wantedInfo width height) :: suppliedCalls (wantedInfo width height))) := by
    refine (supplyWanted_gray (p := asked) hfits hrest (congrArg List.length hnone)).trans ?_
    rw [suppliedTo, show asked.engine.buffers = [] from hnone, List.nil_append]
    rfl
  refine (driveFrom_run rfl hdecode (by decide) _ _ _).trans ?_
  refine (run_bind_ok hsupply).trans ?_
  rw [Nat.zero_add, Nat.zero_min, Progress.later_later]
  rfl

/-- The calls of a submission to a gray engine: a new one is supplied with its buffers, and it
answers. -/
def grayCalls (isNew : Bool) (width height : UInt32) (stream : Bytes) (tag : UInt32) :
    List Engine.Call :=
  (if isNew then supplyCalls width height stream tag else []) ++
    answerCalls width height stream tag

/-- **A submission to a gray engine**: its calls, the picture that comes of it, and the engine
resting again with its buffers. -/
theorem drive_gray (hfits : Fits width height) (hrest : p.engine.Resting width height)
    (hplaced : ∀ surface ∈ f.surfaces, surface.Placed p.memories.size)
    (hlength : stream.length < 2 ^ 64) (tag : UInt32) (patience : Nat) :
    ∃ engine, engine.Resting width height ∧
      engine.buffers =
        (if p.engine.buffers.isEmpty then outputBuffers width height else p.engine.buffers) ∧
      (drive f stream tag (patience + 3)).run p =
        (.ok ((grayPictures width height stream tag).map (.of f.surface?)),
          ({ p with
            memories := copyAll f.surface? p.memories (grayPictures width height stream tag) } :
              Progress Gray).later f engine
                (grayCalls p.engine.buffers.isEmpty width height stream tag)) := by
  rcases hrest.buffers with hnone | hfull
  · have hempty := List.eq_nil_of_length_eq_zero hnone
    have hbuffers : (outputBuffers width height).length = Engine.Gray.wantedBuffers :=
      List.length_replicate
    let engine : Gray := { p.engine with buffers := outputBuffers width height }
    have hrest' : engine.Resting width height :=
      ⟨hrest.width, hrest.height, hrest.answered, hrest.ready, .inr hbuffers⟩
    have hnew : p.engine.buffers.isEmpty = true := List.isEmpty_iff.2 hempty
    refine ⟨engine, hrest', (if_pos hnew).symm, ?_⟩
    refine (supply_round hfits hrest hempty tag _ _).trans ?_
    let supplied := p.later f engine (supplyCalls width height stream tag)
    refine (answer_gray (p := supplied) hfits hrest' hbuffers hplaced hlength tag _ _).trans ?_
    rw [grayCalls, if_pos hnew]
    refine congrArg (Prod.mk _) ?_
    exact Progress.later_later (p := { p with memories := _ }) ..
  · have hold : ¬ p.engine.buffers.isEmpty = true := by
      rw [List.isEmpty_iff]
      rintro hempty
      rw [hempty] at hfull
      cases hfull
    refine ⟨p.engine, hrest, (if_neg hold).symm, ?_⟩
    refine (answer_gray hfits hrest hfull hplaced hlength tag _ _).trans ?_
    rw [grayCalls, if_neg hold, List.nil_append]

/-- A stream that is longer than a word can tell stops the run. -/
theorem drive_gray_overflows (hfits : Fits width height) (hrest : p.engine.Resting width height)
    (hlength : ¬ stream.length < 2 ^ 64) (tag : UInt32) (patience : Nat) :
    ((drive f stream tag (patience + 3)).run p).1 = .error (.faulted .overflow) := by
  have hstream : stream ≠ [] := by
    rintro rfl
    exact hlength (by decide)
  -- an engine that has its buffers takes the whole stream at once
  have hanswer {p : Progress Gray} (hrest : p.engine.Resting width height)
      (hfull : p.engine.buffers.length = Engine.Gray.wantedBuffers) (patience rounds : Nat) :
      ((driveFrom f stream tag patience (rounds + 1) 0 []).run p).1 =
        .error (.faulted .overflow) := by
    have hdecode := Engine.Gray.decode_new hfits hrest (Nat.not_lt.2 (Nat.le_of_eq hfull.symm))
      hstream tag
    exact driveFrom_overflows hdecode (by rwa [Nat.zero_add]) _ _ _
  rcases hrest.buffers with hnone | hfull
  · refine (congrArg Prod.fst
      (supply_round hfits hrest (List.eq_nil_of_length_eq_zero hnone) tag _ _)).trans ?_
    exact hanswer (p := p.later f { p.engine with buffers := outputBuffers width height } _)
      ⟨hrest.width, hrest.height, hrest.answered, hrest.ready, .inr List.length_replicate⟩
      List.length_replicate _ _
  · exact hanswer hrest hfull _ _

end GrayRounds

/-! ## Submissions -/

namespace Decoder

variable {d : Decoder Gray} {width height : UInt32} {shared : Shared} {stream : Bytes}

/-- A submission to a gray engine that rests ends with its pictures, and the session is idle
again. -/
theorem submit_rests (hfits : Fits width height) (hrest : d.engine.Resting width height)
    (hplaced : ∀ surface ∈ shared.surfaces, surface.Placed shared.memories.size)
    (hlength : stream.length < 2 ^ 64) (target : SurfaceRef) (owned : SurfaceRef → Bool)
    (work : Work) (patience : Nat) :
    ∃ engine, engine.Resting width height ∧
      engine.buffers =
        (if d.engine.buffers.isEmpty then outputBuffers width height else d.engine.buffers) ∧
      d.submit (patience + 3) owned shared target work stream =
        (.ok ((grayPictures width height stream d.tag).map
          (.of (d.flight target owned shared.surfaces).surface?)),
          { d with engine, tag := d.tag + 1, phase := .idle },
          { shared with
            memories := copyAll (d.flight target owned shared.surfaces).surface? shared.memories
              (grayPictures width height stream d.tag)
            dump := shared.dump.append stream
            events := shared.events ++ ((grayCalls d.engine.buffers.isEmpty width height stream
              d.tag).map (Event.mk d.engineIndex)).toArray }) := by
  obtain ⟨engine, hrest', hbuffers, hdrive⟩ :=
    drive_gray (f := d.flight target owned shared.surfaces)
      (p := { engine := d.engine, memories := shared.memories, events := shared.events })
      hfits hrest hplaced hlength d.tag patience
  refine ⟨engine, hrest', hbuffers, ?_⟩
  simp only [flight] at hdrive
  simp only [submit, hdrive]
  rfl

/-- A submission to a gray engine that rests stops if its stream is too long. -/
theorem submit_overflows (hfits : Fits width height) (hrest : d.engine.Resting width height)
    (hlength : ¬ stream.length < 2 ^ 64) (target : SurfaceRef) (owned : SurfaceRef → Bool)
    (work : Work) (patience : Nat) :
    (d.submit (patience + 3) owned shared target work stream).1 =
      .error (.faulted .overflow) :=
  drive_gray_overflows (f := d.flight target owned shared.surfaces)
    (p := { engine := d.engine, memories := shared.memories, events := shared.events })
    hfits hrest hlength d.tag patience

/-- **A session with a gray engine** shows its picture on the render target and is idle again. -/
theorem submit_gray (hfits : Fits width height) (hrest : d.engine.Resting width height)
    {target : SurfaceRef} (hpeek : d.recent.peek d.tag = some target) {surface : Surface}
    (hsurface : shared.surfaces[target.index]? = some surface)
    (hplaced : ∀ surface ∈ shared.surfaces, surface.Placed shared.memories.size)
    (hstream : stream ≠ []) (hlength : stream.length < 2 ^ 64) (owned : SurfaceRef → Bool)
    (work : Work) (patience : Nat) :
    ∃ engine, engine.Resting width height ∧
      d.submit (patience + 3) owned shared target work stream =
        (.ok [{ tag := d.tag, surface := some surface.id, width, height }],
          { d with engine, tag := d.tag + 1, phase := .idle },
          { shared with
            memories := copyInto (some surface) shared.memories (flat width height d.tag)
            dump := shared.dump.append stream
            events := shared.events ++ ((grayCalls d.engine.buffers.isEmpty width height stream
              d.tag).map (Event.mk d.engineIndex)).toArray }) := by
  have hfound : (d.flight target owned shared.surfaces).surface? d.tag = some surface := by
    have htarget : (d.flight target owned shared.surfaces).target? d.tag = some target := by
      rw [Flight.target?, show (d.flight target owned shared.surfaces).recent = d.recent from rfl,
        hpeek]
      simp [flight]
    rw [Flight.surface?, htarget]
    exact hsurface
  obtain ⟨engine, hrest', -, hsubmit⟩ :=
    submit_rests hfits hrest hplaced hlength target owned work patience
  have hready : ReadyPicture.of (d.flight target owned shared.surfaces).surface?
      (flat width height d.tag) =
      { tag := d.tag, surface := some surface.id, width, height } := by
    rw [ReadyPicture.of, show (flat width height d.tag).tag = d.tag from rfl, hfound]
    rfl
  rw [grayPictures, if_neg hstream, List.map_singleton, hready, copyAll, List.foldl_cons,
    List.foldl_nil, show (flat width height d.tag).tag = d.tag from rfl, hfound] at hsubmit
  exact ⟨engine, hrest', hsubmit⟩

end Decoder

end Session

end AvcDriver
