import AvcDriver.Proofs.Session.Run

/-!
# Patience with an engine

A run gives its engine up as stuck after so many rounds. Nothing else depends on that number: a
run that was not given up is the same with any more patience. An engine that settles is not given
up with the patience that it takes, so its run is one and the same with every patience from there
on, as if there were no limit.

* `Outlasts`: a part of a run does what another one does, unless that is given up.
* `Decoder.run_of_le_patience`: more patience changes no run that was not given up.
* `Decoder.run_of_settles`: more patience than an engine takes to settle changes nothing.
-/

namespace AvcDriver.Session

open Engine (Behaves)

variable {ε α β : Type}

/-- Wherever `m` is not given up, `m'` does the same. -/
def Outlasts (m' m : RunM ε α) : Prop :=
  ∀ p, (m.run p).1 ≠ .error (.faulted .engineStuck) → m'.run p = m.run p

namespace Outlasts

theorem refl (m : RunM ε α) : Outlasts m m := fun _ _ => rfl

/-- What is given up at once is outlasted by anything. -/
theorem stuck (m : RunM ε α) : Outlasts m (Action.fault .engineStuck) :=
  fun _ h => absurd rfl h

/-- More patience in both parts of an action outlasts less in both. -/
theorem bind {m' m : RunM ε α} {next' next : α → RunM ε β} (hm : Outlasts m' m)
    (hnext : ∀ a, Outlasts (next' a) (next a)) : Outlasts (m' >>= next') (m >>= next) := by
  intro p hsettles
  rcases hrun : m.run p with ⟨failure | a, between⟩
  · -- a failure of the first part is the outcome of both
    have hfails : (m >>= next).run p = (.error failure, between) := Action.run_bind_error hrun
    have hsame := hm p <| by
      rw [hrun]
      rintro ⟨⟩
      rw [hfails] at hsettles
      exact hsettles rfl
    rw [hfails, Action.run_bind_error (hsame.trans hrun)]
  · have hsame := hm p (by rw [hrun]; rintro ⟨⟩)
    rw [Action.run_bind_ok hrun] at hsettles ⊢
    rw [Action.run_bind_ok (hsame.trans hrun)]
    exact hnext a between hsettles

end Outlasts

variable [Engine ε] (f : Flight)

/-- With more patience, all pictures that were collected with less are collected. -/
theorem collect_outlasts {patience patience' : Nat} (hle : patience ≤ patience') :
    Outlasts (collect f patience' : RunM ε (List ReadyPicture)) (collect f patience) := by
  induction patience generalizing patience' with
  | zero => exact .stuck _
  | succ patience ih =>
    obtain ⟨more, rfl⟩ : ∃ more, patience' = more + 1 := ⟨patience' - 1, by omega⟩
    rw [collect, collect]
    refine (Outlasts.refl _).bind fun answer => (Outlasts.refl _).bind fun picture? =>
      (Outlasts.refl _).bind fun _ => ?_
    rcases picture? with _ | picture
    · exact .refl _
    · refine (Outlasts.refl _).bind fun ready => (Outlasts.refl _).bind fun answer =>
        (Outlasts.refl _).bind fun _ => (Outlasts.refl _).bind fun _ => ?_
      exact (ih (Nat.le_of_succ_le_succ hle)).bind fun rest => .refl _

theorem respond_outlasts {patience patience' : Nat} (hle : patience ≤ patience')
    {proceed' proceed : List ReadyPicture → RunM ε (List ReadyPicture)}
    (hproceed : ∀ ready, Outlasts (proceed' ready) (proceed ready)) (ready : List ReadyPicture)
    (status : Engine.Status) :
    Outlasts (respond f patience' proceed' ready status)
      (respond f patience proceed ready status) := by
  cases status with
  | ok => exact hproceed ready
  | headersReady => exact hproceed ready
  | waitingForBuffer => exact (Outlasts.refl _).bind fun _ => hproceed ready
  | pictureDecoded => exact (collect_outlasts f hle).bind fun collected => hproceed _
  | pendingFlush => exact (collect_outlasts f hle).bind fun collected => hproceed _
  | streamProcessed => exact .refl _
  | streamNotSupported => exact .refl _
  | error code => exact .refl _

/-- With more patience and more rounds, a run goes on as with less. -/
theorem driveFrom_outlasts (stream : Bytes) (tag : UInt32) {patience patience' rounds rounds' : Nat}
    (hle : patience ≤ patience') (hrounds : rounds ≤ rounds') (offset : Nat)
    (ready : List ReadyPicture) :
    Outlasts (driveFrom f stream tag patience' rounds' offset ready : RunM ε (List ReadyPicture))
      (driveFrom f stream tag patience rounds offset ready) := by
  induction rounds generalizing rounds' offset ready with
  | zero => exact .stuck _
  | succ rounds ih =>
    obtain ⟨more, rfl⟩ : ∃ more, rounds' = more + 1 := ⟨rounds' - 1, by omega⟩
    rw [driveFrom_succ, driveFrom_succ]
    refine (Outlasts.refl _).bind fun answer => (Outlasts.refl _).bind fun _ =>
      (Outlasts.refl _).bind fun output => (Outlasts.refl _).bind fun reached => ?_
    exact respond_outlasts f hle (fun ready => ih (Nat.le_of_succ_le_succ hrounds) _ ready) ready
      output.status

namespace Decoder

/-- A run that was not given up is the same with any more patience. -/
theorem run_of_le_patience (d : Decoder ε) {patience patience' : Nat} (hle : patience ≤ patience')
    (buffers : BufferStore) (owned : SurfaceRef → Bool) (shared : Shared)
    (hunstuck : (d.run patience buffers owned shared).1 ≠ .error (.faulted .engineStuck)) :
    d.run patience' buffers owned shared = d.run patience buffers owned shared := by
  rcases hphase : d.phase with _ | target | ⟨target, work⟩ | ⟨target, work⟩
  · rw [run, run, hphase]
  · rw [run, run, hphase]
  · rcases hstream : work.stream buffers d.profile d.options with (error | cause) | stream
    · simp only [run, hphase, hstream]
    · simp only [run, hphase, hstream]
    · rw [run_eq_submit hphase hstream] at hunstuck ⊢
      rw [run_eq_submit hphase hstream]
      have hsame := driveFrom_outlasts (d.flight target owned shared.surfaces) stream d.tag hle hle
        0 [] { engine := d.engine, memories := shared.memories, events := shared.events } hunstuck
      simp only [flight] at hsame
      simp only [submit, drive, hsame]
  · rw [run, run, hphase]

/-- **More patience than its engine takes to settle changes nothing about a run.** -/
theorem run_of_settles {good : ε → Prop} (hreturns : Behaves good fun _ => False) {d : Decoder ε}
    (hgood : good d.engine) {target : SurfaceRef} {work : Work}
    (hphase : d.phase = .queued target work) {buffers : BufferStore} {stream : Bytes}
    (hstream : work.stream buffers d.profile d.options = .ok stream) {shared : Shared}
    (hplaced : ∀ surface ∈ shared.surfaces, surface.Placed shared.memories.size)
    {bound patience : Nat} (hsettles : Settles stream d.tag bound 0 d.engine)
    (hpatience : bound ≤ patience) (owned : SurfaceRef → Bool) :
    d.run patience buffers owned shared = d.run bound buffers owned shared := by
  refine d.run_of_le_patience hpatience buffers owned shared ?_
  rw [run_eq_submit hphase hstream]
  exact submit_unstuck hreturns hgood hplaced hsettles (Nat.le_refl bound) owned target work

end Decoder

end AvcDriver.Session
