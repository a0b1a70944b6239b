import AvcDriver.Nal.UnitType
import AvcDriver.Session.State

/-!
# Faults and failures

An operation can end in two ways other than well. It can *reject* its request,
which is an ordinary answer that carries an error value. Or it can *fault*: a
caller broke the operation's contract, an amount left its word, or an index left
its data. `Fault` lists the causes of the second kind, and `Failure E` joins
both kinds, with `E` the type of the errors.

A fault does not undo what was done before it: operations that change a state
return the state they reached together with the fault.
-/

namespace AvcDriver

/-- The cause for which an operation stopped without an answer. -/
inductive Fault where
  /-- an amount left the range of its word -/
  | overflow
  /-- an index or a range left the data it points into -/
  | outOfBounds
  /-- rows of no bytes at all -/
  | zeroStride
  /-- more than a register of bits in one field -/
  | fieldTooWide (count : Nat)
  /-- a signed code with no representation -/
  | signedCodeOutOfRange
  | unitAlreadyOpen
  | unspecifiedUnit
  | unwritableUnit (kind : Nal.UnitType)
  | refIdcOutOfRange (idc : Nat)
  | noUnitOpen
  /-- bytes asked for while a part of a byte is pending inside a unit -/
  | partialByteInUnit
  | pendingBits
  | missingStopBit
  | nonZeroAlignment
  | dataAfterTrailingBits
  /-- picture order count type 1 has fields that no record carries -/
  | pictureOrderType
  | handlesExhausted
  | wrongHandle
  | noLiveObject (handle : Nat)
  | destroyUnknown (handle : Nat)
  | zeroCapacity
  /-- a table with more room than any memory has -/
  | tableTooLarge
  /-- more bytes in one piece than any memory has -/
  | allocationTooLarge
  | initialDataSize
  | renderTargetIn (state : Session.State)
  | workOutOfTurn
  | runOutOfTurn
  /-- an engine that asked for one more call than its caller was ready to make -/
  | engineStuck
  /-- code outside the library stopped, with its own words -/
  | foreign (text : String)
  deriving DecidableEq, Repr

namespace Fault

/-- The words of a fault. Amounts out of range and indices out of bounds have
none of their own. -/
def message? : Fault → Option String
  | overflow => none
  | outOfBounds => none
  | zeroStride => some "chunk size must be non-zero"
  | fieldTooWide count => some s!"cannot append {count} bits at once"
  | signedCodeOutOfRange => some "se(v) value out of range"
  | unitAlreadyOpen => some "NAL unit already open"
  | unspecifiedUnit => some "unspecified NAL unit type"
  | unwritableUnit kind => some ("NAL unit type " ++ kind.label ++ " cannot be written")
  | refIdcOutOfRange idc => some s!"nal_ref_idc {idc} out of range"
  | noUnitOpen => some "no NAL unit open"
  | partialByteInUnit => some "partial byte flushed inside a NAL unit"
  | pendingBits => some "bit writer has unflushed bits"
  | missingStopBit => some "missing rbsp_stop_one_bit"
  | nonZeroAlignment => some "non-zero alignment bit"
  | dataAfterTrailingBits => some "data after rbsp trailing bits"
  | pictureOrderType => some "pic_order_cnt_type 1 is not supported"
  | handlesExhausted => some "resource ids exhausted"
  | wrongHandle => some "constructor stored the wrong id"
  | noLiveObject handle => some s!"no live object with id {handle}"
  | destroyUnknown handle => some s!"destroying unknown id {handle}"
  | zeroCapacity => some "render target cache capacity must be non-zero"
  | tableTooLarge => some "Hash table capacity overflow"
  | allocationTooLarge => some "capacity overflow"
  | initialDataSize => some "initial data does not match buffer size"
  | renderTargetIn state => some ("set_render_target in state " ++ state.label)
  | workOutOfTurn => some "enqueue_work without a render target or with work pending"
  | runOutOfTurn => some "run without enqueued work"
  | engineStuck => some "engine never settled"
  | foreign text => some text

end Fault

/-- How an operation with errors of type `E` can fail. -/
inductive Failure (E : Type) where
  /-- the request was rejected -/
  | rejected (error : E)
  /-- the operation stopped -/
  | faulted (cause : Fault)
  deriving DecidableEq, Repr

/-- The same failure with its error seen as one of another type. -/
def Failure.map {E F : Type} (f : E → F) : Failure E → Failure F
  | rejected error => rejected (f error)
  | faulted cause => faulted cause

/-- A check that succeeded goes on with its result. -/
@[simp] theorem ok_bind {ε α β : Type} (result : α) (next : α → Except ε β) :
    (Except.ok result >>= next) = next result := rfl

/-- An amount that has to fit below `2 ^ bits`. -/
def checkedWord (bits : Nat) (amount : Nat) : Except Fault Nat :=
  if amount < 1 <<< bits then .ok amount else .error .overflow

/-- A computation over a state `σ` that keeps the state it reached when it fails. -/
abbrev Action (σ : Type) (E : Type) := ExceptT (Failure E) (StateM σ)

/-- A check without effects, run inside an action. -/
def Action.ofExcept {σ E α : Type} (result : Except E α) : Action σ E α :=
  match result with
  | .ok value => pure value
  | .error error => throw (.rejected error)

/-- A computation that may only fault, run inside an action. -/
def Action.ofFaulting {σ E α : Type} (result : Except Fault α) : Action σ E α :=
  match result with
  | .ok value => pure value
  | .error cause => throw (.faulted cause)

/-- Reject the request. -/
def Action.reject {σ E α : Type} (error : E) : Action σ E α := throw (.rejected error)

/-- Stop. -/
def Action.fault {σ E α : Type} (cause : Fault) : Action σ E α := throw (.faulted cause)

end AvcDriver
