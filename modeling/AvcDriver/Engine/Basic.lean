import AvcDriver.Engine.Picture
import AvcDriver.Error
import AvcDriver.Header.Profile
import AvcDriver.Memory.Allocation

/-!
# Engines

An engine is the hardware that decodes. It is given the stream of a submission as
often as it asks for more of it, and each time says how much it has consumed and
what has to happen next: supply output buffers, collect pictures, go on, or stop.
Decoded pictures carry the tag of the submission they belong to, which may be an
earlier one.

`Engine ε` says that the type `ε` is the state of such a machine. An engine call may
fault; the state it reached is kept. A `Factory` makes the engines of a driver.

Calls on engines leave `Event`s, so that what an engine was given can be told
afterwards.
-/

namespace AvcDriver

namespace Engine

/-! ## Settings -/

/-- How reference pictures are laid out. -/
inductive ReferenceLayout where
  | rasterScan
  | tiled
  deriving DecidableEq, Repr

/-- Which pictures are decoded. -/
inductive DecodeMode where
  | normal
  | intraOnly
  deriving DecidableEq, Repr

/-- What is shown for a damaged picture. -/
inductive ErrorHandling where
  | fastFreeze
  | partialFreeze
  | conceal
  deriving DecidableEq, Repr

/-- Settings of an engine. -/
structure Settings where
  referenceLayout : ReferenceLayout := .rasterScan
  decodeMode : DecodeMode := .normal
  errorHandling : ErrorHandling := .fastFreeze
  noOutputReordering : Bool := true
  useAdaptiveBuffers : Bool := true
  /-- buffers on top of what the stream requires -/
  guardSize : UInt32 := 0
  deriving DecidableEq, Repr

/-- What an engine is made for. -/
structure Params where
  profile : Header.Profile
  width : UInt32
  height : UInt32
  settings : Settings
  deriving DecidableEq, Repr

/-! ## Submissions -/

/-- What is left of a submission's stream, and the submission's tag. -/
structure Input where
  stream : Bytes
  tag : UInt32
  skipNonReference : Bool := false
  deriving DecidableEq, Repr

/-- What has to happen next. -/
inductive Status where
  /-- go on with the rest of the stream -/
  | ok
  | headersReady
  /-- collect pictures -/
  | pictureDecoded
  | pendingFlush
  /-- the submission is done -/
  | streamProcessed
  /-- supply output buffers -/
  | waitingForBuffer
  | streamNotSupported
  | error (code : Int32)
  deriving DecidableEq, Repr

/-- What an engine says after a decode call. -/
structure Output where
  status : Status
  /-- bytes of the stream that need not be given again -/
  consumed : Nat
  deriving DecidableEq, Repr

/-- Which output buffers an engine wants. -/
structure BufferInfo where
  size : Nat := 0
  count : Nat := 0
  deriving DecidableEq, Repr

/-- An output buffer. -/
structure OutputBuffer where
  size : Nat
  memory : Memory

/-- A zeroed output buffer. -/
def OutputBuffer.zeroed (size : Nat) : Except Fault OutputBuffer := do
  let memory ← Memory.allocate size 0
  pure { size, memory }

/-- A call on an engine with state `ε`. -/
abbrev Act (ε : Type) := ExceptT Fault (StateM ε)

end Engine

/-- A decoding machine with state `ε`. -/
class Engine (ε : Type) where
  /-- decode from the front of a stream -/
  decode : Engine.Input → Engine.Act ε Engine.Output
  /-- the next picture in output order, if one is ready -/
  nextPicture : Engine.Act ε (Option Engine.Picture)
  /-- a picture has been copied; its buffer is free again -/
  pictureConsumed : Engine.Picture → Engine.Act ε Unit
  /-- which output buffers are wanted -/
  bufferInfo : Engine.Act ε Engine.BufferInfo
  /-- take an output buffer -/
  addBuffer : Engine.OutputBuffer → Engine.Act ε Unit
  /-- drop what is in flight -/
  abort : Engine.Act ε Unit

namespace Engine

/-! ## Events -/

/-- A call on an engine, with what was told about its outcome. -/
inductive Call where
  | create (params : Params)
  | decode (input : Input) (output : Except Fault Output)
  | next (picture : Option Picture)
  | consumed (picture : Picture)
  | info (answer : BufferInfo)
  | add (buffer : OutputBuffer)
  | abort

/-- A call on the engine that was the `engine`-th to be asked for. -/
structure Event where
  engine : Nat
  call : Call

/-! ## Factories -/

/-- How engines are made, given the number of engines that were asked for before. -/
abbrev Factory (ε : Type) := Nat → Params → Except DecodeError ε

/-! ## Either of two engines -/

/-- A call on one component of a state. -/
def Act.onPart {ε σ α : Type} (act : Act ε α) (part : ε) (whole : ε → σ) : Except Fault α × σ :=
  let (result, part) := act part
  (result, whole part)

/-- A call on whichever engine there is. -/
def Act.either {ε φ α : Type} (left : Act ε α) (right : Act φ α) : Act (ε ⊕ φ) α
  | .inl engine => left.onPart engine .inl
  | .inr engine => right.onPart engine .inr

/-- Either of two engines is an engine. -/
instance {ε φ : Type} [Engine ε] [Engine φ] : Engine (ε ⊕ φ) where
  decode input := (Engine.decode input).either (Engine.decode input)
  nextPicture := Act.either Engine.nextPicture Engine.nextPicture
  pictureConsumed picture :=
    (Engine.pictureConsumed picture).either (Engine.pictureConsumed picture)
  bufferInfo := Act.either Engine.bufferInfo Engine.bufferInfo
  addBuffer buffer := (Engine.addBuffer buffer).either (Engine.addBuffer buffer)
  abort := Act.either Engine.abort Engine.abort

end Engine

end AvcDriver
