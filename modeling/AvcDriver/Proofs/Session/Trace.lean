import AvcDriver.Engine.Script
import AvcDriver.Proofs.Surface.Write
import AvcDriver.Session.Loop
import Mathlib.Algebra.GroupWithZero.Nat

/-!
# What runs do, told by their calls

Everything that a run changes can be told from the engine calls it makes: its events are
these calls, and the memories are changed by the pictures that were shown, each copied into
the surface that its tag belongs to.

`Does` says of a part of a run that it makes such calls, wherever it starts, and how they
and its result belong together. A part may also stop, for a cause that is `Excused` by the
calls made so far or by the surroundings. There is one rule for each thing a run is made of;
the three loops of a run are put together of these rules.

* `Advances`: how calls tell what changed.
* `Engine.Behaves`: which states an engine keeps to, and for which causes its calls stop.
* `Does.bind`: two parts of a run, one after the other.
-/

namespace AvcDriver

namespace Engine

variable {ε α : Type}

/-- A call from states `good` leads to such states, and stops for causes in `stops` only. -/
def Act.Keeps (good : ε → Prop) (stops : Fault → Prop) (act : Act ε α) : Prop :=
  ∀ e, good e → good (act e).2 ∧ ∀ cause, (act e).1 = .error cause → stops cause

/-- All calls on an engine lead from states `good` to such states, and stop for causes in
`stops` only. -/
structure Behaves [Engine ε] (good : ε → Prop) (stops : Fault → Prop) : Prop where
  decode (input : Input) : Act.Keeps good stops (Engine.decode input)
  nextPicture : Act.Keeps good stops Engine.nextPicture
  pictureConsumed (picture : Picture) : Act.Keeps good stops (Engine.pictureConsumed picture)
  bufferInfo : Act.Keeps good stops Engine.bufferInfo
  addBuffer (buffer : OutputBuffer) : Act.Keeps good stops (Engine.addBuffer buffer)
  abort : Act.Keeps good stops Engine.abort

/-- No engine is ruled out if it may be in any state and stop for any cause. -/
theorem behaves_any [Engine ε] : Behaves (fun _ : ε => True) (fun _ => True) where
  decode _ _ _ := ⟨trivial, fun _ _ => trivial⟩
  nextPicture _ _ := ⟨trivial, fun _ _ => trivial⟩
  pictureConsumed _ _ _ := ⟨trivial, fun _ _ => trivial⟩
  bufferInfo _ _ := ⟨trivial, fun _ _ => trivial⟩
  addBuffer _ _ _ := ⟨trivial, fun _ _ => trivial⟩
  abort _ _ := ⟨trivial, fun _ _ => trivial⟩

/-- All calls on a script return if none of its entries stops. -/
theorem Script.behaves :
    Behaves (fun script : Script => ∀ entry ∈ script.entries, entry.status ≠ none)
      (fun _ => False) where
  decode input := by
    rintro ⟨_ | ⟨⟨_ | status, _, _, _⟩, rest⟩, wanted, ready⟩ hgood
    · exact ⟨hgood, by rintro _ ⟨⟩⟩
    · exact absurd rfl (hgood _ List.mem_cons_self)
    · exact ⟨fun entry hmem => hgood entry (List.mem_cons_of_mem _ hmem), by rintro _ ⟨⟩⟩
  nextPicture := by
    rintro ⟨entries, wanted, _ | ⟨picture, rest⟩⟩ hgood
    · exact ⟨hgood, by rintro _ ⟨⟩⟩
    · exact ⟨hgood, by rintro _ ⟨⟩⟩
  pictureConsumed _ script hgood := ⟨hgood, by rintro _ ⟨⟩⟩
  bufferInfo script hgood := ⟨hgood, by rintro _ ⟨⟩⟩
  addBuffer _ script hgood := ⟨hgood, by rintro _ ⟨⟩⟩
  abort script hgood := ⟨hgood, by rintro _ ⟨⟩⟩

/-! ## What calls tell -/

/-- The picture that a call showed. -/
def Call.shown? : Call → Option Picture
  | next picture? => picture?
  | _ => none

/-- How many bytes of its stream a call passed over. -/
def Call.passed : Call → Nat
  | decode _ (.ok output) => output.consumed
  | _ => 0

/-- The output buffers that a call told to be wanted. -/
def Call.wanted? : Call → Option BufferInfo
  | info answer => some answer
  | _ => none

/-- The output buffer that a call supplied. -/
def Call.added? : Call → Option OutputBuffer
  | add buffer => some buffer
  | _ => none

/-- What a call to decode was answered. -/
def Call.answer? : Call → Option (Except Fault Output)
  | decode _ result => some result
  | _ => none

/-- The output buffers that calls supplied. -/
def added (calls : List Call) : List OutputBuffer := calls.filterMap Call.added?

/-- What the calls to decode were answered. -/
def answers (calls : List Call) : List (Except Fault Output) := calls.filterMap Call.answer?

/-- The output buffers that calls told to be wanted. -/
def wanted (calls : List Call) : List BufferInfo := calls.filterMap Call.wanted?

/-- The pictures that calls showed. -/
def shown (calls : List Call) : List Picture := calls.filterMap Call.shown?

/-- How many bytes calls passed over in all. -/
def passed (calls : List Call) : Nat := (calls.map Call.passed).sum

theorem shown_append (calls more : List Call) : shown (calls ++ more) = shown calls ++ shown more :=
  List.filterMap_append

theorem added_append (calls more : List Call) : added (calls ++ more) = added calls ++ added more :=
  List.filterMap_append

theorem answers_append (calls more : List Call) :
    answers (calls ++ more) = answers calls ++ answers more :=
  List.filterMap_append

theorem wanted_append (calls more : List Call) :
    wanted (calls ++ more) = wanted calls ++ wanted more :=
  List.filterMap_append

theorem passed_append (calls more : List Call) :
    passed (calls ++ more) = passed calls + passed more := by
  rw [passed, List.map_append, List.sum_append]
  rfl

end Engine

namespace Session

open Engine (Act Behaves OutputBuffer Picture passed shown shown_append)

variable {ε α β : Type}

/-! ## Where pictures go -/

/-- The surface that pictures with a tag go to. -/
def Flight.surface? (f : Flight) (tag : UInt32) : Option Surface :=
  (f.target? tag).bind fun target => f.surfaces[target.index]?

/-- What is told of a picture, given the surfaces that tags belong to. -/
def ReadyPicture.of (surface? : UInt32 → Option Surface) (picture : Picture) : ReadyPicture :=
  { tag := picture.tag
    surface := (surface? picture.tag).map (·.id)
    width := picture.width
    height := picture.height }

/-- The memories with a picture copied into a surface, unless there is none or it refuses. -/
def copyInto (surface? : Option Surface) (memories : MemoryStore) (picture : Picture) :
    MemoryStore :=
  match surface? with
  | none => memories
  | some surface =>
    match surface.write memories picture with
    | .ok (_, memories) => memories
    | .error _ => memories

/-- The memories with pictures copied, each into the surface that its tag belongs to. -/
def copyAll (surface? : UInt32 → Option Surface) (memories : MemoryStore)
    (pictures : List Picture) : MemoryStore :=
  pictures.foldl (fun memories picture => copyInto (surface? picture.tag) memories picture) memories

theorem size_copyInto (surface? : Option Surface) (memories : MemoryStore) (picture : Picture) :
    (copyInto surface? memories picture).size = memories.size := by
  rcases surface? with _ | surface
  · rfl
  · rcases hwrite : surface.write memories picture with _ | ⟨_, memories'⟩
    · simp only [copyInto, hwrite]
    · simp only [copyInto, hwrite]
      exact Surface.size_write hwrite

/-! ## Parts of a run -/

/-- Calls tell how a part of a run got from `p` to `p'`. -/
structure Advances (f : Flight) (calls : List Engine.Call) (p p' : Progress ε) : Prop where
  events : p'.events = p.events ++ (calls.map (Engine.Event.mk f.engineIndex)).toArray
  memories : p'.memories = copyAll f.surface? p.memories (shown calls)

namespace Advances

variable {f : Flight} {calls more : List Engine.Call} {p p' p'' : Progress ε}

theorem refl (f : Flight) (p : Progress ε) : Advances f [] p p :=
  ⟨(Array.append_empty).symm, rfl⟩

theorem trans (h : Advances f calls p p') (h' : Advances f more p' p'') :
    Advances f (calls ++ more) p p'' := by
  constructor
  · rw [h'.events, h.events, List.map_append, ← List.append_toArray, Array.append_assoc]
  · rw [h'.memories, h.memories, shown_append, copyAll, copyAll, copyAll, List.foldl_append]

end Advances

/-- What a run relies on: the states its engine keeps to, the causes for which something
else may stop it, and how many memories there are. -/
structure Surroundings (ε : Type) where
  good : ε → Prop
  stops : Fault → Prop
  memories : Nat

/-- The engine is in one of its states, and the memories are there. -/
structure Surroundings.Holds (s : Surroundings ε) (p : Progress ε) : Prop where
  good : s.good p.engine
  memories : p.memories.size = s.memories

/-- The surroundings of a flight are as they should be: engine calls keep to them, and so
does writing into surfaces. -/
structure Surroundings.Fit [Engine ε] (s : Surroundings ε) (f : Flight) : Prop where
  engine : Behaves s.good s.stops
  write : ∀ surface ∈ f.surfaces, ∀ memories : MemoryStore, memories.size = s.memories →
    ∀ picture cause, surface.write memories picture = .error (.faulted cause) → s.stops cause

/-- Why a run that made `calls` may have stopped. -/
inductive Excused (stops : Fault → Prop) (calls : List Engine.Call) : Fault → Prop
  | outside {cause : Fault} (h : stops cause) : Excused stops calls cause
  | stuck : Excused stops calls .engineStuck
  | overflow (h : 2 ^ 64 ≤ passed calls) : Excused stops calls .overflow
  | allocation {info : Engine.BufferInfo} (hmem : info ∈ Engine.wanted calls)
      (hcount : 0 < info.count) (hsize : Memory.maxSize < info.size) :
      Excused stops calls .allocationTooLarge

/-- What `m` does after the calls `before`, wherever the surroundings hold: it makes calls
that tell what changes, and they and its result satisfy `Q`, unless it stops with an
excuse. -/
def Does (s : Surroundings ε) (f : Flight) (before : List Engine.Call) (m : RunM ε α)
    (Q : Except DecodeError α → List Engine.Call → Prop) : Prop :=
  ∀ p, s.Holds p → ∃ calls, Advances f calls p (m.run p).2 ∧ s.Holds (m.run p).2 ∧
    ((∃ result, (m.run p).1 = result.mapError .rejected ∧ Q result calls) ∨
      ∃ cause, (m.run p).1 = .error (.faulted cause) ∧ Excused s.stops (before ++ calls) cause)

namespace Does

variable {s : Surroundings ε} {f : Flight} {before : List Engine.Call}
  {Q : Except DecodeError α → List Engine.Call → Prop}

theorem pure {a : α} (h : Q (.ok a) []) : Does s f before (pure a) Q := by
  intro p hp
  exact ⟨[], .refl f p, hp, .inl ⟨.ok a, rfl, h⟩⟩

theorem reject {error : DecodeError} (h : Q (.error error) []) :
    Does s f before (Action.reject error) Q := by
  intro p hp
  exact ⟨[], .refl f p, hp, .inl ⟨.error error, rfl, h⟩⟩

theorem fault {cause : Fault} (h : Excused s.stops before cause) :
    Does s f before (Action.fault cause) Q := by
  intro p hp
  rw [← List.append_nil before] at h
  exact ⟨[], .refl f p, hp, .inr ⟨cause, rfl, h⟩⟩

theorem mono {m : RunM ε α} {R : Except DecodeError α → List Engine.Call → Prop}
    (hm : Does s f before m Q) (himp : ∀ result calls, Q result calls → R result calls) :
    Does s f before m R := by
  intro p hp
  obtain ⟨calls, hadv, hp', hend⟩ := hm p hp
  refine ⟨calls, hadv, hp', hend.imp_left ?_⟩
  rintro ⟨result, hresult, hQ⟩
  exact ⟨result, hresult, himp result calls hQ⟩

/-- Two parts of a run, one after the other. -/
theorem bind {m : RunM ε α} {next : α → RunM ε β}
    {R : Except DecodeError β → List Engine.Call → Prop} (hm : Does s f before m Q)
    (hnext : ∀ a calls, Q (.ok a) calls →
      Does s f (before ++ calls) (next a) fun result more => R result (calls ++ more))
    (herror : ∀ error calls, Q (.error error) calls → R (.error error) calls) :
    Does s f before (m >>= next) R := by
  intro p hp
  obtain ⟨calls, hadv, hp', hend⟩ := hm p hp
  rcases hrun : m.run p with ⟨ran, p'⟩
  rw [hrun] at hadv hp' hend
  rw [Action.run_bind, hrun]
  dsimp only at hadv hp' hend
  rcases hend with ⟨error | a, rfl, hQ⟩ | ⟨cause, rfl, hexc⟩
  · exact ⟨calls, hadv, hp', .inl ⟨.error error, rfl, herror error calls hQ⟩⟩
  · obtain ⟨more, hadv', hp'', hend'⟩ := hnext a calls hQ p' hp'
    refine ⟨calls ++ more, hadv.trans hadv', hp'', ?_⟩
    rwa [List.append_assoc] at hend'
  · exact ⟨calls, hadv, hp', .inr ⟨cause, rfl, hexc⟩⟩

/-- A check inside a run. -/
theorem ofFaulting_bind {result : Except Fault α} {next : α → RunM ε β}
    {R : Except DecodeError β → List Engine.Call → Prop}
    (hok : ∀ a, result = .ok a → Does s f before (next a) R)
    (herror : ∀ cause, result = .error cause → Excused s.stops before cause) :
    Does s f before (Action.ofFaulting result >>= next) R := by
  cases result with
  | ok a => exact hok a rfl
  | error cause => exact fault (herror cause rfl)

/-- A call is noted. -/
theorem tell_bind {call : Engine.Call} {next : Unit → RunM ε β}
    {R : Except DecodeError β → List Engine.Call → Prop} (hplain : call.shown? = none)
    (hnext : Does s f (before ++ [call]) (next ()) fun result more => R result (call :: more)) :
    Does s f before (tell f call >>= next) R := by
  have htell : Does s f before (tell f call) fun result calls =>
      result = .ok () ∧ calls = [call] := by
    intro p hp
    refine ⟨[call], ⟨rfl, ?_⟩, ⟨hp.good, hp.memories⟩, .inl ⟨.ok (), rfl, rfl, rfl⟩⟩
    rw [shown, List.filterMap_cons_none hplain]
    rfl
  refine htell.bind ?_ ?_
  · rintro _ _ ⟨-, rfl⟩
    exact hnext
  · rintro _ _ ⟨⟨⟩, -⟩

theorem callEngine {act : Act ε α} (hact : act.Keeps s.good s.stops) :
    Does s f before (callEngine act) fun result calls => calls = [] ∧
      ∃ answer, result = .ok answer ∧ ∀ cause, answer = .error cause → s.stops cause := by
  intro p hp
  obtain ⟨hgood, hstops⟩ := hact p.engine hp.good
  refine ⟨[], ⟨(Array.append_empty).symm, rfl⟩, ⟨hgood, hp.memories⟩, .inl ?_⟩
  exact ⟨.ok (act p.engine).1, rfl, rfl, _, rfl, hstops⟩

/-- A call that is noted after it has returned. -/
theorem call_bind {act : Act ε α} {next : α → RunM ε β}
    {R : Except DecodeError β → List Engine.Call → Prop} (hact : act.Keeps s.good s.stops)
    (hnext : ∀ a, Does s f before (next a) R) :
    Does s f before (Session.callEngine act >>= fun answer => Action.ofFaulting answer >>= next)
      R := by
  refine (callEngine hact).bind ?_ ?_
  · rintro _ _ ⟨rfl, answer, ⟨⟩, hstops⟩
    rw [List.append_nil]
    exact ofFaulting_bind (fun a _ => hnext a) fun cause h => .outside (hstops cause h)
  · rintro _ _ ⟨-, _, ⟨⟩, -⟩

/-- A decode call is noted even if it stops. -/
theorem decode_bind [Engine ε] {input : Engine.Input} {next : Engine.Output → RunM ε β}
    {R : Except DecodeError β → List Engine.Call → Prop}
    (hact : (Engine.decode input : Act ε Engine.Output).Keeps s.good s.stops)
    (hnext : ∀ output, Does s f (before ++ [.decode input (.ok output)]) (next output)
      fun result more => R result (.decode input (.ok output) :: more)) :
    Does s f before (Session.callEngine (Engine.decode input) >>= fun answer =>
      tell f (.decode input answer) >>= fun _ => Action.ofFaulting answer >>= next) R := by
  refine (callEngine hact).bind ?_ ?_
  · rintro _ _ ⟨rfl, answer, ⟨⟩, hstops⟩
    rw [List.append_nil]
    refine tell_bind rfl (ofFaulting_bind ?_ fun cause h => .outside (hstops cause h))
    rintro output rfl
    exact hnext output
  · rintro _ _ ⟨-, _, ⟨⟩, -⟩

end Does

/-! ## Delivering pictures -/

/-- A picture is copied and told of, unless the copying stops. -/
theorem deliver_run (f : Flight) (picture : Picture) (p : Progress ε) :
    ∃ result, (deliver f picture).run p =
        (result, { p with memories := copyInto (f.surface? picture.tag) p.memories picture }) ∧
      (result = .ok (.of f.surface? picture) ∨ ∃ surface ∈ f.surfaces, ∃ cause,
        surface.write p.memories picture = .error (.faulted cause) ∧
          result = .error (.faulted cause)) := by
  rcases htarget : f.target? picture.tag with _ | target
  · have hnone : f.surface? picture.tag = none := by rw [Flight.surface?, htarget]; rfl
    refine ⟨_, ?_, .inl rfl⟩
    simp only [deliver, htarget, ReadyPicture.of, hnone]
    rfl
  rcases hsurface : f.surfaces[target.index]? with _ | surface
  · have hnone : f.surface? picture.tag = none := by rw [Flight.surface?, htarget]; exact hsurface
    refine ⟨_, ?_, .inl rfl⟩
    simp only [deliver, htarget, hsurface, ReadyPicture.of, hnone]
    rfl
  have hsome : f.surface? picture.tag = some surface := by
    rw [Flight.surface?, htarget]
    exact hsurface
  have hmem : surface ∈ f.surfaces := Array.mem_of_getElem? hsurface
  rcases hwrite : surface.write p.memories picture with (error | cause) | ⟨mapped, memories⟩
  · -- a surface that refuses the access is told of, without the picture
    refine ⟨.ok (.of f.surface? picture), ?_, .inl rfl⟩
    simp only [deliver, htarget, hsurface, Action.run_get_bind, ReadyPicture.of, hsome, copyInto,
      hwrite]
    rfl
  · refine ⟨.error (.faulted cause), ?_, .inr ⟨surface, hmem, cause, hwrite, rfl⟩⟩
    simp only [deliver, htarget, hsurface, Action.run_get_bind, hsome, copyInto, hwrite]
    rfl
  · refine ⟨.ok (.of f.surface? picture), ?_, .inl rfl⟩
    simp only [deliver, htarget, hsurface, Action.run_get_bind, ReadyPicture.of, hsome, copyInto,
      hwrite]
    rfl

/-- A picture that was shown is delivered. Its note and its delivery are one step, as a picture
that is shown and not delivered yet would be told without being there. -/
theorem Does.deliver_bind {s : Surroundings ε} {f : Flight} {before : List Engine.Call} [Engine ε]
    (hfit : s.Fit f) {picture : Picture} {next : ReadyPicture → RunM ε β}
    {R : Except DecodeError β → List Engine.Call → Prop}
    (hnext : Does s f (before ++ [.next (some picture)]) (next (.of f.surface? picture))
      fun result more => R result (.next (some picture) :: more)) :
    Does s f before (tell f (.next (some picture)) >>= fun _ => deliver f picture >>= next) R := by
  have hdeliver : Does s f before (tell f (.next (some picture)) >>= fun _ => deliver f picture)
      fun result calls =>
        result = .ok (.of f.surface? picture) ∧ calls = [.next (some picture)] := by
    intro p hp
    obtain ⟨result, hrun, hresult⟩ := deliver_run f picture
      { p with events := p.events.push ⟨f.engineIndex, .next (some picture)⟩ }
    have hboth : (tell f (.next (some picture)) >>= fun _ => deliver f picture).run p = _ :=
      (Action.run_bind_ok rfl).trans hrun
    rw [hboth]
    refine ⟨[.next (some picture)], ⟨rfl, rfl⟩,
      ⟨hp.good, (size_copyInto _ _ _).trans hp.memories⟩, ?_⟩
    rcases hresult with rfl | ⟨surface, hmem, cause, hwrite, rfl⟩
    · exact .inl ⟨.ok (.of f.surface? picture), rfl, rfl, rfl⟩
    · exact .inr ⟨cause, rfl, .outside (hfit.write surface hmem _ hp.memories _ _ hwrite)⟩
  rw [← bind_assoc]
  refine hdeliver.bind ?_ ?_
  · rintro _ _ ⟨⟨⟩, rfl⟩
    exact hnext
  · rintro _ _ ⟨⟨⟩, -⟩

end Session

end AvcDriver
