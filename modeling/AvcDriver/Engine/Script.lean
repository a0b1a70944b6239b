import AvcDriver.Engine.Basic

/-!
# Scripted engines

An engine that plays back a script, one entry for each decode call, whatever it is
given. It can answer in ways that hardware answers only rarely: late, twice, or not
at all.
-/

namespace AvcDriver.Engine

/-- What a scripted engine does in one decode call. -/
structure ScriptEntry where
  /-- the status answered, or none to stop in the middle of the call -/
  status : Option Status
  consumed : Nat := 0
  /-- what is wanted of output buffers from now on -/
  info : Option BufferInfo := none
  /-- pictures that become ready, with the tag of the submission unless they have
  one of their own -/
  pictures : List (Option UInt32 × Picture) := []

/-- The state of a scripted engine. -/
structure Script where
  entries : List ScriptEntry
  wanted : BufferInfo := {}
  ready : List Picture := []

namespace Script

/-- The pictures of an entry, tagged. -/
def tagged (entry : ScriptEntry) (tag : UInt32) : List Picture :=
  entry.pictures.map fun (own, picture) => { picture with tag := own.getD tag }

/-- Play the next entry. After the last one every stream is processed at once. -/
def decode (input : Input) (s : Script) : Except Fault Output × Script :=
  match s.entries with
  | [] => (.ok { status := .streamProcessed, consumed := input.stream.length }, s)
  | entry :: rest =>
    let s := {
      entries := rest
      wanted := entry.info.getD s.wanted
      ready := s.ready ++ tagged entry input.tag }
    match entry.status with
    | none => (.error (.foreign "engine panic"), s)
    | some status => (.ok { status, consumed := entry.consumed }, s)

instance : Engine Script where
  decode := decode
  nextPicture := fun s =>
    match s.ready with
    | [] => (.ok none, s)
    | picture :: rest => (.ok (some picture), { s with ready := rest })
  pictureConsumed _ := pure ()
  bufferInfo := fun s => (.ok s.wanted, s)
  addBuffer _ := pure ()
  abort := pure ()

end Script

end AvcDriver.Engine
