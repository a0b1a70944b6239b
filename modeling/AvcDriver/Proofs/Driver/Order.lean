import AvcDriver.Proofs.Driver.Turn
import AvcDriver.Proofs.Session.Limits

/-!
# Turns in order

A context accepts turns as pictures are made of: begin, which may be repeated, render, end. All
other turns are rejected and change nothing. What the session holds after its turns is what was
handed over in those that were accepted, whatever the client has put into its buffers, however
decoding ends, and whatever else is requested of the driver in between.

* `Context.take_of_rejects`: a move that is out of order.
* `Course`: the turns of a context among other requests, with the moves that were accepted.
* `Stands`: the session of a context holds what its moves gave it.
* `turns_in_order`: a turn is out of order exactly if its call is not the next one of the protocol.
-/

namespace AvcDriver

open Engine (Behaves Factory)
open Session (Call Decoder Move Phase ReadyPicture Shared Viable Work standing)

variable {ε : Type}

/-! ## Moves of a context that decodes -/

namespace Context

variable [Engine ε] {c : Context ε} {session : Decoder ε} (patience : Nat)
  (buffers : BufferStore) (owned : SurfaceRef → Bool) (shared : Shared)

/-- A move that the session does not accept is out of order and leaves everything as it is. -/
theorem take_of_rejects (hsession : c.session = .decoder session) {move : Move}
    (h : session.state.accepts move.call = false) :
    c.take move patience buffers owned shared =
      (.error (.rejected (.outOfOrder move.call session.state)), c, shared) := by
  have hcheck : c.check move.call = .error (.outOfOrder move.call session.phase.state) := by
    rw [check_of_phase hsession rfl]
    exact if_neg (by rw [← Decoder.state, h]; decide)
  cases move with
  | begin target =>
    simp only [Move.call] at hcheck
    simp only [take, moved, beginPicture, hcheck]
    rfl
  | render named =>
    simp only [Move.call] at hcheck
    simp only [take, moved, renderPicture, hcheck]
    rfl
  | finish =>
    simp only [Move.call] at hcheck
    simp only [take, endPicture, hcheck]
    rfl

end Context

/-! ## Contexts that were made -/

/-- A session in hardware mode decodes and is idle. -/
theorem Session.start_hardware {factory : Factory ε} {asked : Nat} {profile : Config.Profile}
    {entrypoint : Config.Entrypoint} {options : Session.Options} {session : Session ε}
    (h : (Session.start factory asked .hardware profile entrypoint options).1 = .ok session) :
    ∃ decoder : Decoder ε, session = .decoder decoder ∧ decoder.phase = .idle := by
  rw [Session.start] at h
  split at h
  · cases h
  · next hparams =>
    -- only a session that does nothing goes without an engine
    rw [Session.engineParams?] at hparams
    split at hparams
    · cases hparams
    · split at hparams
      · cases hparams
      · cases hparams
  · obtain ⟨engine, -, h⟩ := bind_eq_ok.1 h
    obtain ⟨decoder, hmake, h⟩ := bind_eq_ok.1 h
    cases h
    obtain ⟨recent, -, hdecoder⟩ := bind_eq_ok.1 (mapError_eq_ok.1 hmake)
    cases hdecoder
    exact ⟨_, rfl, rfl⟩

namespace Driver

open AvcDriver.Action (Ends)

variable {d d' : Driver ε} {handle : Nat}

/-- The session of a context decodes and is in a phase. -/
def InPhase (d : Driver ε) (handle : Nat) (phase : Phase) : Prop :=
  ∃ (c : Context ε) (session : Decoder ε), d.contexts.find? handle = some c ∧
    c.session = .decoder session ∧ session.phase = phase

theorem createContext_idle (hmode : d.settings.mode = .hardware) (configHandle : Nat)
    (width height : UInt32) (flag : Int32) (targets : List Nat) :
    Ends (createContext configHandle width height flag targets) d fun result d' =>
      ∀ handle, result = .ok handle → d'.InPhase handle .idle := by
  refine Ends.config_bind (fun config _ => ?_) (by rintro _ _ ⟨⟩)
  refine ends_requireSurfaces_bind ?_ (by rintro _ _ ⟨⟩)
  refine (startSession_ends (Q := fun result _ =>
    (Session.start d.factory d.engines d.settings.mode config.profile config.entrypoint
      (d.sessionOptions width height)).1 = result) fun _ _ => rfl).bind ?_ (by rintro _ _ _ _ ⟨⟩)
  intro session d₁ hstart
  refine Ends.get_bind (Ends.ofFaulting_bind ?_ (by rintro _ _ _ ⟨⟩))
  rintro ⟨handle, contexts⟩ hcreate
  rintro _ ⟨⟩
  rw [hmode] at hstart
  obtain ⟨decoder, rfl, hidle⟩ := Session.start_hardware hstart
  obtain ⟨⟨id, reserved⟩, hreserve, hcommit⟩ := bind_eq_ok.1 hcreate
  cases hcommit
  let made : Context ε :=
    { id := handle, config, width, height, flag, targets, session := .decoder decoder }
  have hfind : (reserved.commit handle made).find? handle = some made :=
    (Handle.Table.find?_commit reserved handle handle made).trans (if_pos rfl)
  exact ⟨made, decoder, hfind, rfl, hidle⟩

/-! ## Turns of a context that decodes -/

/-- An answer tells that a turn was out of order. -/
def OutOfOrder (answer : Except (Failure DriverError) (List ReadyPicture)) : Prop :=
  ∃ call state, answer = .error (.rejected (.outOfOrder call state))

section Turns

variable [Engine ε]

/-- A turn has a session submit its work. -/
structure Turn.Submits (d : Driver ε) (handle : Nat) (turn : Turn) (session : Decoder ε)
    (work : Work) : Prop where
  finish : turn = .finish
  found : ∃ c, d.contexts.find? handle = some c ∧ c.session = .decoder session
  queued : ∃ target, session.phase = .queued target work

/-- The calls that a turn makes on engines. -/
def Turn.calls (d : Driver ε) (handle : Nat) (turn : Turn) : List Engine.Call :=
  (((turn.perform handle).run d).2.events.toList.drop d.events.size).map (·.call)

/-- What a turn relies on: an engine that settles and keeps within the limits, and a picture whose
parameter sets can be written. -/
structure Turn.Regular (d : Driver ε) (handle : Nat) (turn : Turn) : Prop where
  settles : ((turn.perform handle).run d).1 ≠ .error (.faulted .engineStuck)
  writable : ∀ session work, turn.Submits d handle session work → ¬ work.Unwritable d.bufferStore
  within : ∀ session work, turn.Submits d handle session work → ∀ stream,
    work.stream d.bufferStore session.profile session.options = .ok stream →
      ∀ call ∈ turn.calls d handle, call.Within stream

/-- The turns of a context with what they name there, among other requests to its driver, and the
moves that were accepted of them. -/
inductive Course (handle : Nat) (start : Driver ε) : List Move → Driver ε → Prop
  | start : Course handle start [] start
  /-- another request, which leaves the context alone -/
  | aside {moves : List Move} {d : Driver ε} (before : Course handle start moves d)
      (request : Request)
      (apart : (d.serve request).contexts.find? handle = d.contexts.find? handle) :
      Course handle start moves (d.serve request)
  | accepted {moves : List Move} {d : Driver ε} (before : Course handle start moves d)
      {turn : Turn} {move : Move} (live : turn.move d = .ok move) (regular : turn.Regular d handle)
      (answer : ¬ OutOfOrder ((turn.perform handle).run d).1) :
      Course handle start (moves ++ [move]) ((turn.perform handle).run d).2
  | refused {moves : List Move} {d : Driver ε} (before : Course handle start moves d)
      {turn : Turn} {move : Move} (live : turn.move d = .ok move) (regular : turn.Regular d handle)
      (answer : OutOfOrder ((turn.perform handle).run d).1) :
      Course handle start moves ((turn.perform handle).run d).2

theorem Turn.keeps_steps_perform {start : Driver ε} (turn : Turn) (handle : Nat) :
    Action.Keeps (Steps start) (turn.perform handle) := by
  cases turn with
  | begin surface =>
    exact (keeps_steps_beginPicture handle surface).bind fun _ => Action.Keeps.pure []
  | render handles =>
    exact (keeps_steps_renderPicture handle handles).bind fun _ => Action.Keeps.pure []
  | finish => exact keeps_steps_endPicture handle

omit [Engine ε] in
theorem inPhase_withMove {c : Context ε} (hfind : d.contexts.find? handle = some c)
    {session : Decoder ε} {phase : Phase} (hphase : session.phase = phase) (shared : Shared) :
    (d.withMove handle { c with session := .decoder session } shared).InPhase handle phase := by
  refine ⟨{ c with session := .decoder session }, session, ?_, rfl, hphase⟩
  rw [withMove, Handle.Table.find?_modify, hfind, Option.map_some, if_pos rfl]

omit [Engine ε] in
theorem Turn.eq_finish {turn : Turn} (h : turn.move d = .ok .finish) : turn = .finish := by
  cases turn with
  | begin surface =>
    rw [Turn.move] at h
    split at h <;> cases h
  | render handles =>
    rw [Turn.move] at h
    rcases hnamed : handles.mapM d.named with failure | items
    · rw [hnamed] at h
      cases h
    · rw [hnamed] at h
      cases h
  | finish => rfl

/-- A turn that the session does not accept is out of order and changes nothing. -/
theorem turn_of_rejects (hd : d.AtRest) {c : Context ε} {session : Decoder ε}
    (hfind : d.contexts.find? handle = some c) (hsession : c.session = .decoder session)
    {turn : Turn} {move : Move} (hmove : turn.move d = .ok move)
    (h : session.state.accepts move.call = false) :
    (turn.perform handle).run d =
      (.error (.rejected (.outOfOrder move.call session.state)), d) := by
  rw [turn.run_perform hd.contexts.nodup hfind, hmove]
  simp only [takeMove, Context.take_of_rejects _ _ _ _ hsession h,
    withMove_self hd.contexts.nodup hfind]

/-- What comes of a turn that the session accepts. -/
theorem turn_of_accepts {good : ε → Prop} (hreturns : Behaves good fun _ => False)
    (hsound : d.Sound good) (hd : d.AtRest) {moves : List Move}
    (hphase : d.InPhase handle (standing moves)) {turn : Turn} {move : Move}
    (hmove : turn.move d = .ok move) (hregular : turn.Regular d handle)
    (haccepts : (standing moves).state.accepts move.call = true) :
    (∃ result : Except DecodeError (List ReadyPicture),
      ((turn.perform handle).run d).1 = result.mapError fun error => .rejected (.decode error)) ∧
    ((turn.perform handle).run d).2.InPhase handle (standing (moves ++ [move])) := by
  obtain ⟨c, session, hfind, hsession, hphase⟩ := hphase
  have hstate : session.state = (standing moves).state := congrArg Phase.state hphase
  have hrun := turn.run_perform hd.contexts.nodup hfind
  rw [hmove] at hrun
  cases move with
  | begin target =>
    have hbegin := Context.beginPicture_of_accepts hsession (hstate ▸ haccepts) target
    simp only [takeMove, Context.take, Context.moved, hbegin] at hrun
    rw [hrun, Session.standing_begin]
    exact ⟨⟨.ok [], rfl⟩, inPhase_withMove hfind rfl _⟩
  | render named =>
    rcases hstanding : standing moves with _ | target | _ | _
    · rw [hstanding] at haccepts
      cases haccepts
    · rw [hstanding] at hphase
      have hrender := Context.renderPicture_of_targetSet hsession hphase named
      simp only [takeMove, Context.take, Context.moved, hrender] at hrun
      rw [hrun, Session.standing_render (Session.lastTarget?_of_standing hstanding)]
      exact ⟨⟨.ok [], rfl⟩, inPhase_withMove hfind rfl _⟩
    · rw [hstanding] at haccepts
      cases haccepts
    · rw [hstanding] at haccepts
      cases haccepts
  | finish =>
    obtain ⟨target, work, hqueued⟩ : ∃ target work, standing moves = .queued target work := by
      rcases hstanding : standing moves with _ | target | ⟨target, work⟩ | _
      · rw [hstanding] at haccepts
        cases haccepts
      · rw [hstanding] at haccepts
        cases haccepts
      · exact ⟨target, work, rfl⟩
      · rw [hstanding] at haccepts
        cases haccepts
    rw [hqueued] at hphase
    have hsubmits : turn.Submits d handle session work :=
      ⟨turn.eq_finish hmove, ⟨c, hfind, hsession⟩, ⟨target, hphase⟩⟩
    have hsession' : session.Sound good d.surfaceStore.size d.bufferStore.size := by
      have hsessions := hsound.sessions c (Handle.Table.mem_objects_of_find? hfind)
      rwa [hsession] at hsessions
    rcases hran : session.run d.settings.patience d.bufferStore (isHeld d.surfaces d.contexts)
      d.shared with ⟨ran, session', shared'⟩
    simp only [takeMove, Context.take, Context.endPicture_of_queued hsession hphase hran] at hrun
    have hsettles : ran ≠ .error (.faulted .engineStuck) := by
      rintro rfl
      refine hregular.settles ?_
      rw [hrun]
      rfl
    obtain ⟨calls, hevents, hend⟩ := Decoder.run_within hreturns hsession' hphase
      (hregular.writable session work hsubmits) hsound.placed hran hsettles
    have hcalls : turn.calls d handle = calls := by
      rw [Turn.calls, hrun, show (d.withMove handle { c with session := .decoder session' }
        shared').events = _ from hevents, Array.toList_append, ← Array.length_toList]
      exact (congrArg (List.map _) List.drop_left).trans (by simp [Function.comp_def])
    obtain ⟨hanswered, hidle⟩ := hend fun stream hstream => by
      rw [← hcalls]
      exact hregular.within session work hsubmits stream hstream
    rw [hrun, Session.standing_finish]
    refine ⟨?_, inPhase_withMove hfind hidle _⟩
    rcases ran with (error | cause) | pictures
    · exact ⟨.error error, rfl⟩
    · exact absurd rfl (hanswered cause)
    · exact ⟨.ok pictures, rfl⟩

/-! ## Courses -/

theorem Step.settings_eq (h : Step d d') : d'.settings = d.settings := by
  cases h <;> rfl

theorem settings_serveAll (history : List Request) (d : Driver ε) :
    (d.serveAll history).settings = d.settings :=
  invariant_of_step (fun hstep hsame => hstep.settings_eq.trans hsame) rfl
    (steps_serveAll history d)

/-- What holds of a driver and a context after its turns: the driver is sound and at rest, the
moves that were accepted are in order, and the session is where they led it. -/
structure Stands (good : ε → Prop) (handle : Nat) (moves : List Move) (d : Driver ε) : Prop where
  sound : d.Sound good
  atRest : d.AtRest
  viable : Viable (moves.map Move.call)
  phase : d.InPhase handle (standing moves)

/-- What comes of a turn is up to whether its call is the next one. -/
theorem Stands.turn {good : ε → Prop} (hreturns : Behaves good fun _ => False) {moves : List Move}
    (h : Stands good handle moves d) {turn : Turn} {move : Move} (hmove : turn.move d = .ok move)
    (hregular : turn.Regular d handle) :
    (¬ Viable ((moves ++ [move]).map Move.call) ∧ OutOfOrder ((turn.perform handle).run d).1 ∧
      ((turn.perform handle).run d).2 = d) ∨
    (Viable ((moves ++ [move]).map Move.call) ∧
      (∃ result : Except DecodeError (List ReadyPicture),
        ((turn.perform handle).run d).1 = result.mapError fun error => .rejected (.decode error)) ∧
      Stands good handle (moves ++ [move]) ((turn.perform handle).run d).2) := by
  have hviable := Session.viable_concat_iff h.viable move
  by_cases haccepts : (standing moves).state.accepts move.call = true
  · obtain ⟨hanswer, hphase⟩ :=
      turn_of_accepts hreturns h.sound h.atRest h.phase hmove hregular haccepts
    have hsteps : Steps d ((turn.perform handle).run d).2 := turn.keeps_steps_perform handle d .refl
    refine .inr ⟨hviable.2 haccepts, hanswer, ?_, ?_, hviable.2 haccepts, hphase⟩
    · exact invariant_of_step (Sound.step hreturns) h.sound hsteps
    · exact invariant_of_step AtRest.step h.atRest hsteps
  · obtain ⟨c, session, hfind, hsession, hphase⟩ := h.phase
    have hrejects : session.state.accepts move.call = false := by
      rw [Decoder.state, hphase]
      exact Bool.not_eq_true _ ▸ haccepts
    have hrun := turn_of_rejects h.atRest hfind hsession hmove hrejects
    refine .inl ⟨fun hnext => haccepts (hviable.1 hnext), ?_, ?_⟩
    · rw [hrun]
      exact ⟨_, _, rfl⟩
    · rw [hrun]

theorem not_outOfOrder {answer : Except (Failure DriverError) (List ReadyPicture)}
    {result : Except DecodeError (List ReadyPicture)}
    (h : answer = result.mapError fun error => .rejected (.decode error)) :
    ¬ OutOfOrder answer := by
  rintro ⟨call, state, hanswer⟩
  rw [hanswer] at h
  rcases result with error | pictures <;> cases h

/-- **A context stands where its moves led it**, at every point of a course. -/
theorem Course.stands {good : ε → Prop} (hreturns : Behaves good fun _ => False) {start : Driver ε}
    (hstart : Stands good handle [] start) {moves : List Move}
    (h : Course handle start moves d) : Stands good handle moves d := by
  induction h with
  | start => exact hstart
  | @aside moves d before request apart ih =>
    have hsteps : Steps d (d.serve request) := keeps_steps_perform request d .refl
    refine ⟨invariant_of_step (Sound.step hreturns) ih.sound hsteps,
      invariant_of_step AtRest.step ih.atRest hsteps, ih.viable, ?_⟩
    rw [InPhase, apart]
    exact ih.phase
  | accepted before live regular answer ih =>
    rcases ih.turn hreturns live regular with ⟨-, hout, -⟩ | ⟨-, -, hstands⟩
    · exact absurd hout answer
    · exact hstands
  | refused before live regular answer ih =>
    rcases ih.turn hreturns live regular with ⟨-, -, hsame⟩ | ⟨-, ⟨result, hresult⟩, -⟩
    · rwa [hsame]
    · exact absurd answer (not_outOfOrder hresult)

/-- **Turns are accepted in order, and all others change nothing.** Let a driver in hardware mode
have made a context after any history, with a mapper that can be relied on and engines whose calls
return. Whatever turns the context takes then, among any other requests that leave it alone, the
accepted ones are in order, its session is where they led it, and is never seen running. The next
turn is out of order exactly if its call is not the next one of the protocol, and then it changes
nothing; any other turn is answered, or rejected for what comes of decoding. This is as long as
engines settle and keep within the limits, and no intra picture of order count type 1 is ended. -/
theorem turns_in_order {good : ε → Prop} (hreturns : Behaves good fun _ => False)
    {settings : Settings} {mapper : Memory.Mapper} {factory : Factory ε}
    (hmode : settings.mode = .hardware) (hmapper : mapper.Sound)
    (hfactory : ∀ earlier params engine, factory earlier params = .ok engine → good engine)
    {history : List Request} {configHandle : Nat} {width height : UInt32} {flag : Int32}
    {targets : List Nat} {start : Driver ε}
    (hcreate : (createContext configHandle width height flag targets).run
      ((make settings mapper factory).serveAll history) = (.ok handle, start))
    {moves : List Move} (hcourse : Course handle start moves d) :
    Viable (moves.map Move.call) ∧ d.InPhase handle (standing moves) ∧
      (standing moves).state ≠ .running ∧
      ((sessionState handle).run d).1 = .ok (standing moves).state ∧
      ∀ (turn : Turn) (move : Move), turn.move d = .ok move → turn.Regular d handle →
        (OutOfOrder ((turn.perform handle).run d).1 ↔
          ¬ Viable ((moves ++ [move]).map Move.call)) ∧
        (OutOfOrder ((turn.perform handle).run d).1 → ((turn.perform handle).run d).2 = d) ∧
        (¬ OutOfOrder ((turn.perform handle).run d).1 →
          ∃ result : Except DecodeError (List ReadyPicture), ((turn.perform handle).run d).1 =
            result.mapError fun error => .rejected (.decode error)) := by
  have hstart : Stands good handle [] start := by
    have hsteps : Steps (make settings mapper factory) start := by
      have hcreated := keeps_steps_createContext configHandle width height flag targets _
        (steps_serveAll history (make settings mapper factory))
      exact (Action.ends_of_run hcreate).1 hcreated
    have hsettings := settings_serveAll history (make settings mapper factory)
    have hidle := createContext_idle ((congrArg Settings.mode hsettings).trans hmode) configHandle
      width height flag targets
    exact ⟨invariant_of_step (Sound.step hreturns) (sound_make hmapper hfactory) hsteps,
      invariant_of_step AtRest.step (atRest_make settings mapper factory) hsteps,
      Session.viable_nil, (Action.ends_of_run hcreate).1 hidle handle rfl⟩
  have hstands := hcourse.stands hreturns hstart
  obtain ⟨c, session, hfind, hsession, hphase⟩ := hstands.phase
  refine ⟨hstands.viable, hstands.phase, ?_, ?_, fun turn move hmove hregular => ?_⟩
  · rw [Session.state_standing hstands.viable]
    exact Session.State.after_ne_running (by rintro ⟨⟩)
  · rw [sessionState_run hfind, hsession, ← hphase]
    rfl
  · rcases hstands.turn hreturns hmove hregular with
      ⟨hnot, hout, hsame⟩ | ⟨hnext, ⟨result, hresult⟩, -⟩
    · exact ⟨iff_of_true hout hnot, fun _ => hsame, fun h => absurd hout h⟩
    · have haccepted := not_outOfOrder hresult
      exact ⟨iff_of_false haccepted (not_not_intro hnext), fun h => absurd h haccepted,
        fun _ => ⟨result, hresult⟩⟩

/-- Any turn but the last of a picture is regular if it is answered, and accepted. -/
theorem Course.answered {start : Driver ε} {moves : List Move}
    (before : Course handle start moves d) (turn : Turn) (move : Move)
    (live : turn.move d = .ok move) (hturn : turn ≠ .finish)
    (h : ((turn.perform handle).run d).1 = .ok []) :
    Course handle start (moves ++ [move]) ((turn.perform handle).run d).2 := by
  refine before.accepted live ⟨?_, ?_, ?_⟩ ?_
  · rw [h]
    rintro ⟨⟩
  · exact fun _ _ hsubmits => absurd hsubmits.finish hturn
  · exact fun _ _ hsubmits => absurd hsubmits.finish hturn
  · rintro ⟨call, state, hanswer⟩
    rw [h] at hanswer
    cases hanswer

end Turns

/-! ### Ending a picture with little in it -/

/-- An engine that wants a buffer of more bytes than one memory can have. -/
def wanting : Engine.Script where
  entries := [{ status := some .waitingForBuffer, info := some { size := 2 ^ 63, count := 1 } }]

/-- An engine that twice says to have consumed all bytes that a word can count. -/
def rushing : Engine.Script where
  entries := List.replicate 2 { status := some .ok, consumed := 2 ^ 64 - 1 }

section Small

variable {d : Driver Engine.Script} {c : Context Engine.Script} {session : Decoder Engine.Script}

theorem small_stream (hbuffers : d.bufferStore = Decoder.smallBuffers) :
    Decoder.smallWork.stream d.bufferStore session.profile session.options =
      .ok [0, 0, 0, 1, 0x41, 0x9a] := hbuffers ▸ Decoder.smallWork_stream _ _

theorem small_writable (hbuffers : d.bufferStore = Decoder.smallBuffers) :
    ¬ Decoder.smallWork.Unwritable d.bufferStore := by
  intro h
  have hstream := Decoder.smallWork_stream waiting.profile waiting.options
  rw [← hbuffers, Work.stream_faults h] at hstream
  cases hstream

/-- What comes of ending the picture is what comes of submitting it. -/
theorem small_endPicture (hfind : d.contexts.find? 0 = some c)
    (hsession : c.session = .decoder session)
    (hphase : session.phase = .queued ⟨0⟩ Decoder.smallWork)
    (hbuffers : d.bufferStore = Decoder.smallBuffers) :
    ∃ outcome session' shared', session.submit d.settings.patience (isHeld d.surfaces d.contexts)
        d.shared ⟨0⟩ Decoder.smallWork [0, 0, 0, 1, 0x41, 0x9a] = (outcome, session', shared') ∧
      (endPicture 0).run d = (outcome.mapError (Failure.map .decode),
        d.withMove 0 { c with session := .decoder session' } shared') := by
  refine ⟨_, _, _, rfl, ?_⟩
  have hrun := Decoder.run_eq_submit hphase (small_stream hbuffers) d.settings.patience
    (isHeld d.surfaces d.contexts) d.shared
  exact endPicture_run hfind (Context.endPicture_of_queued hsession hphase hrun)

/-- The work that is submitted is that of the picture. -/
theorem small_submits (hfind : d.contexts.find? 0 = some c)
    (hsession : c.session = .decoder session)
    (hphase : session.phase = .queued ⟨0⟩ Decoder.smallWork) {turn : Turn}
    {session' : Decoder Engine.Script} {work : Work} (h : turn.Submits d 0 session' work) :
    Decoder.smallWork = work := by
  obtain ⟨-, ⟨c', hfind', hsession'⟩, target, hqueued⟩ := h
  obtain rfl : c = c' := Option.some.inj (hfind.symm.trans hfind')
  obtain rfl : session = session' := Session.decoder.inj (hsession.symm.trans hsession')
  rw [hphase] at hqueued
  exact (Phase.queued.inj hqueued).2

/-- Ending the picture is regular if the submission settles and keeps within the limits. -/
theorem small_regular (hfind : d.contexts.find? 0 = some c)
    (hsession : c.session = .decoder session)
    (hphase : session.phase = .queued ⟨0⟩ Decoder.smallWork)
    (hbuffers : d.bufferStore = Decoder.smallBuffers)
    (hsettles : (session.submit d.settings.patience (isHeld d.surfaces d.contexts) d.shared ⟨0⟩
      Decoder.smallWork [0, 0, 0, 1, 0x41, 0x9a]).1 ≠ .error (.faulted .engineStuck))
    (hwithin : ∀ call ∈ (((session.submit d.settings.patience (isHeld d.surfaces d.contexts)
      d.shared ⟨0⟩ Decoder.smallWork [0, 0, 0, 1, 0x41, 0x9a]).2.2.events.toList.drop
        d.events.size).map (·.call)), call.Within [0, 0, 0, 1, 0x41, 0x9a]) :
    Turn.finish.Regular d 0 := by
  obtain ⟨outcome, session', shared', hsubmit, hend⟩ :=
    small_endPicture hfind hsession hphase hbuffers
  rw [hsubmit] at hsettles hwithin
  refine ⟨?_, fun session₁ work hsubmits => ?_, fun session₁ work hsubmits stream hstream => ?_⟩
  · rw [Turn.perform, hend]
    intro hstuck
    refine hsettles ?_
    rcases outcome with (error | cause) | pictures
    · cases hstuck
    · cases hstuck
      rfl
    · cases hstuck
  · obtain rfl := small_submits hfind hsession hphase hsubmits
    exact small_writable hbuffers
  · obtain rfl := small_submits hfind hsession hphase hsubmits
    obtain rfl : [0, 0, 0, 1, 0x41, 0x9a] = stream :=
      Except.ok.inj ((small_stream hbuffers).symm.trans hstream)
    rw [Turn.calls, Turn.perform, hend]
    exact hwithin

/-- If the submission stops, the session is seen running. -/
theorem small_running (hfind : d.contexts.find? 0 = some c)
    (hsession : c.session = .decoder session)
    (hphase : session.phase = .queued ⟨0⟩ Decoder.smallWork)
    (hbuffers : d.bufferStore = Decoder.smallBuffers) {cause : Fault}
    (hstops : (session.submit d.settings.patience (isHeld d.surfaces d.contexts) d.shared ⟨0⟩
      Decoder.smallWork [0, 0, 0, 1, 0x41, 0x9a]).1 = .error (.faulted cause)) :
    ((endPicture 0).run d).1 = .error (.faulted cause) ∧
      ((sessionState 0).run ((endPicture 0).run d).2).1 = .ok .running := by
  obtain ⟨outcome, session', shared', hsubmit, hend⟩ :=
    small_endPicture hfind hsession hphase hbuffers
  have hrunning : session'.phase.state = .running := by
    have hphase' := Decoder.submit_phase_of_faulted hstops
    rw [hsubmit] at hphase'
    exact congrArg Phase.state hphase'
  rw [hsubmit] at hstops
  rw [hend]
  refine ⟨by rw [show outcome = _ from hstops]; rfl, ?_⟩
  obtain ⟨c', decoder, hfind', hsession', hphase'⟩ :=
    inPhase_withMove hfind (rfl : session'.phase = session'.phase) shared'
  rw [sessionState_run hfind', hsession', ← hrunning, ← hphase']
  rfl

end Small

/-- The moves of the client that is about to end its picture. -/
def smallMoves : List Move :=
  [.begin ⟨0⟩, .render [(⟨0⟩, .pictureParameter), (⟨1⟩, .sliceParameter), (⟨2⟩, .sliceData)]]

theorem enqueuing_course (picture slice : Memory) :
    ∃ start, (createContext 0 16 16 0 []).run (scripted.serveAll
        [.createConfig .h264Main .vld [], .createSurfaces Config.formatYuv420 16 16 1 []]) =
          (.ok 0, start) ∧
      Course 0 start smallMoves (scripted.serveAll (enqueuing picture slice)) := by
  let ready : Decoder Engine.Script :=
    { waiting with phase := .idle, recent := { capacity := 128 } }
  let begun : Decoder Engine.Script := { waiting with phase := .targetSet ⟨0⟩ }
  let handles : List (Nat × BufferRef) := [(2, ⟨2⟩), (1, ⟨1⟩), (0, ⟨0⟩)]
  let hosted := hosting { entries := [] }
  let start := hosted ready [] #[]
  let zeroPicture := pictureBuffer (.zeros 672)
  let zeroSlice := sliceBuffer (.zeros 25)
  refine ⟨start, rfl, ?_⟩
  rw [scripted, serveAll_enqueuing]
  -- the states on the way are those of `serveAll_enqueuing`
  have hstart : Course 0 start [] start := .start
  have hpicture : Course 0 start [] (hosted ready [(0, ⟨0⟩)] #[zeroPicture]) :=
    hstart.aside (.createBuffer 0 .pictureParameter 672 1 none) rfl
  have hslice : Course 0 start [] (hosted ready [(1, ⟨1⟩), (0, ⟨0⟩)] #[zeroPicture, zeroSlice]) :=
    hpicture.aside (.createBuffer 0 .sliceParameter 25 1 none) rfl
  have hdata : Course 0 start [] (hosted ready handles (clientBuffers (.zeros 672) (.zeros 25))) :=
    hslice.aside (.createBuffer 0 .sliceData 2 1 (some (.ofBytes [0x41, 0x9a]))) rfl
  have hfilled : Course 0 start [] (hosted ready handles (clientBuffers picture (.zeros 25))) :=
    hdata.aside (.mapBuffer 0 fun _ => picture) rfl
  have hready : Course 0 start [] (hosted ready handles (clientBuffers picture slice)) :=
    hfilled.aside (.mapBuffer 1 fun _ => slice) rfl
  have hbegun : Course 0 start [.begin ⟨0⟩] (hosted begun handles (clientBuffers picture slice)) :=
    hready.answered (.begin 0) (.begin ⟨0⟩) rfl (by rintro ⟨⟩) rfl
  exact hbegun.answered (.render [0, 1, 2])
    (.render [(⟨0⟩, .pictureParameter), (⟨1⟩, .sliceParameter), (⟨2⟩, .sliceData)])
    rfl (by rintro ⟨⟩) rfl

theorem enqueuing_begin (picture slice : Memory) :
    let d := scripted.serveAll (enqueuing picture slice)
    Turn.move d (.begin 0) = .ok (.begin ⟨0⟩) ∧ (((Turn.begin 0).perform 0).run d).1 =
      .error (.rejected (.outOfOrder .setRenderTarget .workEnqueued)) := by
  rw [scripted, serveAll_enqueuing]
  exact ⟨rfl, rfl⟩

/-- The picture that is enqueued can be ended, and no other can be begun before. -/
theorem turns_in_order_small :
    let d := scripted.serveAll (enqueuing (.zeros 672) (.zeros 25))
    ((sessionState 0).run d).1 = .ok .workEnqueued ∧
      OutOfOrder (((Turn.begin 0).perform 0).run d).1 ∧
      (((Turn.begin 0).perform 0).run d).2 = d ∧ ¬ OutOfOrder ((Turn.finish.perform 0).run d).1 := by
  intro d
  obtain ⟨start, hcreate, hcourse⟩ := enqueuing_course (.zeros 672) (.zeros 25)
  have hfactory : ∀ (earlier : Nat) (params : Engine.Params) (engine : Engine.Script),
      (.ok { entries := [] } : Except DecodeError Engine.Script) = .ok engine →
        ∀ entry ∈ engine.entries, entry.status ≠ none := by
    rintro _ _ _ ⟨⟩ _ ⟨⟩
  obtain ⟨-, -, -, hstate, hturn⟩ := turns_in_order Engine.Script.behaves rfl
    Memory.Mapper.sound_heap hfactory hcreate hcourse
  obtain ⟨hmove, hbegin⟩ := enqueuing_begin (.zeros 672) (.zeros 25)
  obtain ⟨hout, hsame, -⟩ := hturn (.begin 0) (.begin ⟨0⟩) hmove (by
    refine ⟨?_, ?_, ?_⟩
    · rw [hbegin]
      rintro ⟨⟩
    · exact fun _ _ hsubmits => nomatch hsubmits.finish
    · exact fun _ _ hsubmits => nomatch hsubmits.finish)
  have hrejected : OutOfOrder (((Turn.begin 0).perform 0).run d).1 := hbegin ▸ ⟨_, _, rfl⟩
  refine ⟨hstate, hrejected, hsame hrejected, ?_⟩
  -- ending the picture is regular, as the engine is done at once
  obtain ⟨c, hfind, hsession⟩ : ∃ c, d.contexts.find? 0 = some c ∧ c.session = .decoder waiting :=
    enqueuing_session _ _ _
  have hbuffers : d.bufferStore = Decoder.smallBuffers := enqueuing_buffers _ _ _
  have hregular : Turn.finish.Regular d 0 :=
    small_regular hfind hsession rfl hbuffers (by decide +kernel) (by decide +kernel)
  obtain ⟨hout', -, -⟩ := hturn .finish .finish rfl hregular
  rw [hout', not_not, Session.viable_iff]
  exact ⟨rfl, rfl, rfl, trivial⟩

/-- An engine whose calls return, and that would be done after two more of them at most, can say
what stops a run: that it wants a buffer larger than there can be, or that it consumed more than a
word can count. The session is then seen running. -/
theorem unlimited_engines_leave_running :
    let wants := (following wanting).serveAll (enqueuing (.zeros 672) (.zeros 25))
    let rushes := (following rushing).serveAll (enqueuing (.zeros 672) (.zeros 25))
    (∀ entry ∈ wanting.entries ++ rushing.entries, entry.status ≠ none) ∧
      ¬ Decoder.smallWork.Unwritable wants.bufferStore ∧
      ((endPicture 0).run wants).1 = .error (.faulted .allocationTooLarge) ∧
      ((sessionState 0).run ((endPicture 0).run wants).2).1 = .ok .running ∧
      ¬ Decoder.smallWork.Unwritable rushes.bufferStore ∧
      ((endPicture 0).run rushes).1 = .error (.faulted .overflow) ∧
      ((sessionState 0).run ((endPicture 0).run rushes).2).1 = .ok .running := by
  intro wants rushes
  obtain ⟨c, hfind, hsession⟩ := enqueuing_session wanting (.zeros 672) (.zeros 25)
  obtain ⟨c', hfind', hsession'⟩ := enqueuing_session rushing (.zeros 672) (.zeros 25)
  have hbuffers := enqueuing_buffers wanting (.zeros 672) (.zeros 25)
  have hbuffers' := enqueuing_buffers rushing (.zeros 672) (.zeros 25)
  obtain ⟨hwants, hwants'⟩ : ((endPicture 0).run wants).1 = .error (.faulted .allocationTooLarge) ∧
      ((sessionState 0).run ((endPicture 0).run wants).2).1 = .ok .running :=
    small_running hfind hsession rfl hbuffers (by decide +kernel)
  obtain ⟨hrushes, hrushes'⟩ : ((endPicture 0).run rushes).1 = .error (.faulted .overflow) ∧
      ((sessionState 0).run ((endPicture 0).run rushes).2).1 = .ok .running :=
    small_running hfind' hsession' rfl hbuffers' (by decide +kernel)
  refine ⟨by decide, ?_⟩
  exact ⟨small_writable hbuffers, hwants, hwants', small_writable hbuffers', hrushes, hrushes'⟩

end Driver

end AvcDriver
