import AvcDriver.Engine.Order
import AvcDriver.Proofs.Driver.Answered
import AvcDriver.Proofs.Driver.Recovery
import AvcDriver.Proofs.Session.Gray

/-!
# Pictures of a gray engine

Between two pictures a session with a gray engine waits for the next one. A picture that is begun,
given its buffers and ended comes out flat on its surface, and the session waits again.

* `Session.Decoder.Awaits`: a session with a gray engine between two pictures.
* `Driver.turn_gray`: one picture, request by request.
-/

namespace AvcDriver

open Engine (Gray)
open Engine.Gray (Fits Resting flat)
open Session (Decoder Work copyInto)

/-- A session between two pictures, with a gray engine for a size. -/
structure Session.Decoder.Awaits (session : Decoder Gray) (width height : UInt32)
    (coded : Header.Profile) : Prop where
  phase : session.phase = .idle
  engine : session.engine.Resting width height
  profile : session.profile = coded
  options : session.options = { width, height }
  capacity : 0 < session.recent.capacity
  inStep : Session.Recent.InStep session.recent.entries session.recent.order

/-- A session that is started with a gray engine waits for its first picture. -/
theorem Session.start_gray {width height : UInt32} (hfits : Fits width height)
    {profile : Config.Profile} {coded : Header.Profile} (hcoded : profile.coded? = some coded)
    {capacity : Nat} (hpos : capacity ≠ 0) (hle : capacity ≤ Session.Recent.maxCapacity)
    (settings : Engine.Settings) (asked : Nat) :
    ∃ session events, Session.start Engine.Factory.gray asked .hardware profile .vld
        { width, height, settings, capacity } = (.ok (.decoder session), events) ∧
      session.Awaits width height coded := by
  let params : Engine.Params := { profile := coded, width, height, settings }
  obtain ⟨g, hmake, hrest, -⟩ := Gray.make_run hfits (show params.width = width from rfl)
    (show params.height = height from rfl)
  have hparams : Session.engineParams? .hardware profile .vld
      { width, height, settings, capacity } = .ok (some params) := by
    simp [Session.engineParams?, hcoded, params]
  have hrecent : (Session.Recent.make capacity : Except Fault (Session.Recent UInt32 SurfaceRef)) =
      .ok { capacity } := by
    rw [Session.Recent.make, if_neg hpos, if_neg (Nat.not_lt.2 hle)]
  let session : Decoder Gray := {
    engine := g
    engineIndex := asked
    profile := coded
    options := { width, height }
    recent := { capacity } }
  refine ⟨session, [{ engine := asked, call := .create params }], ?_,
    rfl, hrest, rfl, rfl, Nat.pos_of_ne_zero hpos, (Session.Recent.remembers_nil capacity).inStep⟩
  have hgray : Engine.Factory.gray asked params = .ok g := hmake
  simp only [Session.start, hparams, hgray, Decoder.make, params, hrecent]
  rfl

namespace Driver

variable {d : Driver Gray} {handle : Nat} {c : Context Gray} {session : Decoder Gray}
  {width height : UInt32} {coded : Header.Profile}

/-- **One picture of a gray engine**: it is flat, and on the surface that it was begun for. -/
theorem turn_gray (hfits : Fits width height) (hfind : d.contexts.find? handle = some c)
    (hsession : c.session = .decoder session) (hawaits : session.Awaits width height coded)
    (hpatience : 3 ≤ d.settings.patience) {surfaceHandle : Nat} {target : SurfaceRef} {s : Surface}
    (htarget : d.surfaces.find? surfaceHandle = some target)
    (hsurface : d.surfaceStore[target.index]? = some s)
    (hplaced : ∀ s ∈ d.surfaceStore, s.Placed d.memories.size) {handles : List Nat}
    {items : List (BufferRef × BufferKind)} (hitems : handles.mapM d.named = .ok items)
    {stream : Bytes} (hstream : (Work.ofBuffers items).stream d.bufferStore coded
      { width, height } = .ok stream) (hsome : stream ≠ []) (hlength : stream.length < 2 ^ 64) :
    ∃ begun rendered contexts events session',
      (beginPicture handle surfaceHandle).run d = (.ok (), begun) ∧
      (renderPicture handle handles).run begun = (.ok (), rendered) ∧
      (endPicture handle).run rendered =
        (.ok [{ tag := session.tag, surface := some s.id, width, height }], { d with
          contexts
          memories := copyInto (some s) d.memories (flat width height session.tag)
          dump := d.dump.append stream
          events }) ∧
      contexts.find? handle = some { c with session := .decoder session' } ∧
      session'.Awaits width height coded := by
  let targeted : Decoder Gray := { session with
    recent := session.recent.put session.tag target
    phase := .targetSet target }
  let queued : Decoder Gray := { targeted with phase := .queued target (.ofBuffers items) }
  let moved (d : Driver Gray) (next : Decoder Gray) : Driver Gray := { d with
    contexts := d.contexts.modify handle fun _ => { c with session := .decoder next } }
  have hmoved {d : Driver Gray} {before : Context Gray}
      (h : d.contexts.find? handle = some before) (next : Decoder Gray) :
      (moved d next).contexts.find? handle = some { c with session := .decoder next } := by
    rw [Handle.Table.find?_modify, h, Option.map_some, if_pos rfl]
  let begun := moved d targeted
  let rendered := moved begun queued
  have hbegin : (beginPicture handle surfaceHandle).run d = (.ok (), begun) := by
    have haccepts : session.state.accepts .setRenderTarget = true := by
      rw [Decoder.state, hawaits.phase]
      rfl
    rw [beginPicture_run hfind htarget, Context.beginPicture_of_accepts hsession haccepts]
  have hfind₁ := hmoved hfind targeted
  have hrender : (renderPicture handle handles).run begun = (.ok (), rendered) :=
    renderPicture_run hfind₁ hitems (Context.renderPicture_of_targetSet rfl rfl items)
  have hfind₂ := hmoved hfind₁ queued
  -- what the session submits belongs to the target that was set last
  have hpeek : queued.recent.peek queued.tag = some target :=
    Session.Recent.peek_put_self hawaits.inStep session.tag target hawaits.capacity
  have hstream' : (Work.ofBuffers items).stream rendered.bufferStore queued.profile
      queued.options = .ok stream := by
    rw [show queued.profile = coded from hawaits.profile,
      show queued.options = { width, height } from hawaits.options]
    exact hstream
  obtain ⟨more, hmore⟩ : ∃ more, d.settings.patience = more + 3 :=
    ⟨d.settings.patience - 3, (Nat.sub_add_cancel hpatience).symm⟩
  have hsurface' : rendered.shared.surfaces[target.index]? = some s := hsurface
  obtain ⟨engine, hrest, hsubmit⟩ := Decoder.submit_gray (d := queued) hfits hawaits.engine hpeek
    hsurface' hplaced hsome hlength (isHeld rendered.surfaces rendered.contexts) (.ofBuffers items)
    more
  rw [← hmore] at hsubmit
  have hrun := (Decoder.run_eq_submit rfl hstream' rendered.settings.patience _ _).trans hsubmit
  have hend := endPicture_run hfind₂ (Context.endPicture_of_queued rfl rfl hrun)
  exact ⟨begun, rendered, _, _, _, hbegin, hrender, hend, hmoved hfind₂ _,
    rfl, hrest, hawaits.profile, hawaits.options, hawaits.capacity,
    hawaits.inStep.put session.tag target⟩

end Driver

end AvcDriver
