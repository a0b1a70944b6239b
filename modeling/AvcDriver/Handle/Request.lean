import AvcDriver.Handle.Table

/-!
# Requests to a handle table

A request as a value, so that a history of requests is a list. Making an object is
a tree: while the object is being made, its constructor may send requests of its
own to the same table, among them ones that make further objects. How the
constructor ends is part of the request.

`Table.answer` answers a request, and logs what constructors saw and were answered
on the way.
-/

namespace AvcDriver.Handle

/-- How a constructor ends. -/
inductive Ending (α ε : Type) where
  /-- with an object that carries its handle -/
  | done (object : α)
  /-- with an object that carries the given handle -/
  | named (handle : Nat) (object : α)
  /-- with an error -/
  | failed (error : ε)
  /-- it stops -/
  | stopped (text : String)

/-- A request to a table. -/
inductive Request (α ε : Type) where
  /-- make an object whose constructor sends `inner` requests -/
  | construct (inner : List (Request α ε)) (ending : Ending α ε)
  | remove (handle : Nat)
  | removeIf (handle : Nat) (wanted : α → Bool)
  | destroy (handle : Nat)
  | get (handle : Nat)
  | find (handle : Nat)
  | contains (handle : Nat)

/-- An answer to a request. -/
inductive Answer (α ε : Type) where
  /-- the object that was made, under its handle -/
  | made (result : Except (Failure ε) (Nat × α))
  /-- the object that was removed or found, under its handle -/
  | object (item : Option (Nat × α))
  /-- the object that had to be there -/
  | required (result : Except Fault (Nat × α))
  | live (value : Bool)

/-- What a constructor can tell. -/
inductive LogEntry (α ε : Type) where
  /-- it was entered with this handle; whether the handle was live, and how many
  objects were -/
  | entered (handle : Nat) (live : Bool) (size : Nat)
  /-- a request it sent was answered -/
  | answered (answer : Answer α ε)

namespace Table

variable {α ε : Type}

/-- Put what a constructor ended with under its reserved handle, or give the handle
back. -/
def conclude (t : Table α) (handle : Nat) :
    Ending α ε → Except (Failure ε) (Nat × α) × Table α
  | .done object => (.ok (handle, object), t.commit handle object)
  | .named carried object =>
    if carried = handle then (.ok (carried, object), t.commit carried object)
    else (.error (.faulted .wrongHandle), t.release handle)
  | .failed error => (.error (.rejected error), t.release handle)
  | .stopped text => (.error (.faulted (.foreign text)), t.release handle)

/-- The answer of a removal, and the table after it. -/
def removal (t : Table α) (handle : Nat) (result : Option (α × Table α)) :
    Option (Nat × α) × Table α :=
  match result with
  | some (object, t) => (some (handle, object), t)
  | none => (none, t)

mutual

/-- Answer a request: the answer, the table afterwards, and what constructors told. -/
def answer (t : Table α) : Request α ε → Answer α ε × Table α × List (LogEntry α ε)
  | .construct inner ending =>
    match t.reserve with
    | .error cause => (.made (.error (.faulted cause)), t, [])
    | .ok (handle, t) =>
      let entered := LogEntry.entered handle (t.contains handle) t.size
      let (t, log) := answerAll t inner
      let (result, t) := t.conclude handle ending
      (.made result, t, entered :: log)
  | .remove handle =>
    let (item, t) := t.removal handle (t.remove handle)
    (.object item, t, [])
  | .removeIf handle wanted =>
    let (item, t) := t.removal handle (t.removeIf handle wanted)
    (.object item, t, [])
  | .destroy handle =>
    match t.destroy handle with
    | .ok (object, t) => (.required (.ok (handle, object)), t, [])
    | .error cause => (.required (.error cause), t, [])
  | .get handle => (.required ((t.get handle).map fun object => (handle, object)), t, [])
  | .find handle => (.object ((t.find? handle).map fun object => (handle, object)), t, [])
  | .contains handle => (.live (t.contains handle), t, [])

/-- Answer the requests of a constructor in order. Each answer is told after what the
request's own constructors told. -/
def answerAll (t : Table α) : List (Request α ε) → Table α × List (LogEntry α ε)
  | [] => (t, [])
  | request :: rest =>
    let (answer, t, log) := answer t request
    let (t, further) := answerAll t rest
    (t, log ++ .answered answer :: further)

end

end Table

end AvcDriver.Handle
