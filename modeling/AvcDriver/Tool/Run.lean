import AvcDriver.Driver.Configs
import AvcDriver.Driver.Contexts
import AvcDriver.Driver.Images
import AvcDriver.Engine.Gray
import AvcDriver.Engine.Order
import AvcDriver.Tool.Arguments
import AvcDriver.Tool.Files
import AvcDriver.Tool.Source

/-!
# Running pictures through the driver

A run has two parts. `Job.prepare` settles what can be settled before anything is
written: the picture record, and the slice if the user gave a file. `Job.execute`
then makes a driver with the gray engine, decodes the frames into one surface in a
memory file, and downloads it.

Both are pure. What the file system answers comes in as `Files`, and the contents of
the output file, the log lines and the result come out as an `Outcome`. A `Report`
of it says what is printed.
-/

namespace AvcDriver.Tool

open Session (ReadyPicture)

/-! ## Log lines -/

/-- What the tool tells while it runs. -/
inductive LogLine where
  | starting (arguments : Arguments)
  | pictureReady (frame : Nat) (picture : ReadyPicture)
  /-- the luma plane that was downloaded; its mean is told -/
  | downloaded (luma : Block)
  | failed (error : Error)

/-- The text that shows a surface handle that may be missing. -/
def showHandle : Option Nat → String
  | some handle => s!"Some({handle})"
  | none => "None"

/-- The mean of bytes, rounded down. -/
def meanOf (bytes : Block) : Nat :=
  bytes.foldl (fun sum byte => sum + byte.toNat) 0 / max bytes.size 1

/-- The text of a log line. -/
def LogLine.text : LogLine → String
  | starting a =>
    let width := a.width
    let height := a.height
    let frames := a.frames
    "INFO vc8000d-tool starting profile=" ++ a.profile.label ++
      s!" width={width} height={height} frames={frames}"
  | pictureReady frame picture =>
    let tag := picture.tag
    let surface := showHandle picture.surface
    let width := picture.width
    let height := picture.height
    s!"INFO picture ready frame={frame} tag={tag} surface={surface} width={width} height={height}"
  | downloaded luma =>
    let meanLuma := meanOf luma
    s!"INFO downloaded render target mean_luma={meanLuma}"
  | failed error => "ERROR decode run failed e=" ++ error.message

/-! ## Jobs -/

/-- A run that has been checked as far as possible without a driver. -/
structure Job where
  arguments : Arguments
  record : Record.Picture
  /-- the user's slice -/
  slice : Option Bytes
  deriving DecidableEq, Repr

/-- The slice in a file, given what reading the file yields. -/
def sliceFrom (path : String) (contents : Except Memory.SystemError Bytes) :
    Except Error Bytes :=
  match contents with
  | .error error => .error (.file error)
  | .ok [] => .error (.emptySlice path)
  | .ok bytes => .ok bytes

/-- Check the arguments of a run. -/
def Job.prepare (arguments : Arguments) (files : Files) : Except Error Job := do
  let record ← pictureParameters arguments.width arguments.height
  match arguments.slice with
  | none => pure { arguments, record, slice := none }
  | some path =>
    let slice ← sliceFrom path (files.read path)
    pure { arguments, record, slice := some slice }

/-- The slice of a frame. -/
def Job.sliceOf (job : Job) (frame : Nat) : Bytes :=
  job.slice.getD (syntheticSlice (sliceTypeOf frame))

/-! ## Execution -/

/-- What a run changes. -/
structure Progress where
  driver : Driver Engine.Gray
  log : Array LogLine := #[]

/-- A part of a run. -/
abbrev RunM := Action Progress Error

/-- Make a request to the driver. -/
def request {α : Type} (r : DriverM Engine.Gray α) : RunM α := do
  let p ← get
  let (result, driver) := r.run p.driver
  set { p with driver }
  match result with
  | .ok answer => pure answer
  | .error failure => throw (failure.map .driver)

/-- Tell a line. -/
def tell (line : LogLine) : RunM Unit := modify fun p => { p with log := p.log.push line }

/-- A descriptor of a fresh memory file that an NV12 picture just fits into. -/
def targetDescriptor (width height : UInt32) : Except Fault Surface.Descriptor := do
  let described ← Surface.Descriptor.nv12 (.newFile 0) width height
  pure { described with
    objects := described.objects.map fun o => { o with source := .newFile o.size.toNat } }

/-- Make the surface that frames are decoded into. -/
def createTarget (width height : UInt32) : RunM Nat := do
  let described ← Action.ofFaulting (targetDescriptor width height)
  let handles ← request
    (Driver.createSurfaces Config.formatYuv420 width height 1 described.attributes)
  match handles with
  | handle :: _ => pure handle
  | [] => Action.fault .outOfBounds

/-- Make a buffer with the given bytes. -/
def createBuffer (context : Nat) (kind : BufferKind) (bytes : Bytes) : RunM Nat :=
  request (Driver.createBuffer context kind bytes.length 1 (some (Block.ofBytes bytes)))

/-- Submit a picture of one slice, and destroy its buffers whatever comes of it. -/
def decodePicture (context target : Nat) (record : Record.Picture)
    (sliceType : Record.SliceType) (slice : Bytes) : RunM (List ReadyPicture) := do
  let description := Record.Slice.wholePicture sliceType (UInt32.ofNat slice.length)
  let buffers := [
    ← createBuffer context .pictureParameter record.encode,
    ← createBuffer context .sliceParameter description.encode,
    ← createBuffer context .sliceData slice]
  request (Driver.beginPicture context target)
  request (Driver.renderPicture context buffers)
  let destroyBuffers : RunM Unit := buffers.forM fun buffer => request (Driver.destroyBuffer buffer)
  let ready ← tryCatch (request (Driver.endPicture context)) fun failure => do
    match failure with
    | .rejected _ => destroyBuffers
    | .faulted _ => pure ()
    throw failure
  destroyBuffers
  pure ready

/-- Decode `count` frames, the first being number `frame`. -/
def decodeFrames (job : Job) (context target frame : Nat) : Nat → RunM Unit
  | 0 => pure ()
  | count + 1 => do
    let ready ← decodePicture context target job.record (sliceTypeOf frame) (job.sliceOf frame)
    ready.forM fun picture => tell (.pictureReady frame picture)
    decodeFrames job context target (frame + 1) count

/-- The first `count` bytes of a memory. -/
def firstBytes (count : Nat) (memory : Memory) : Except Fault Block :=
  if memory.size < count then .error .outOfBounds else .ok (memory.slice 0 count)

/-- Download the surface into an image, and tell its luma plane. The answer is the
image's handle. -/
def downloadTarget (target : Nat) (width height : UInt32) : RunM Nat := do
  let image ← request (Driver.createImage .nv12 width height)
  request (Driver.syncSurface target)
  request (Driver.getImage target 0 0 width height image.id)
  let count ← Action.ofFaulting (checkedWord 32 (width.toNat * height.toNat))
  let luma ← request (Driver.mapBuffer image.bufferHandle fun memory =>
    (firstBytes count memory, memory))
  tell (.downloaded (← Action.ofFaulting luma))
  pure image.id

/-- Destroy what a run has made. -/
def tidyUp (config target context image : Nat) : RunM Unit := do
  request (Driver.destroyImage image)
  request (Driver.destroyContext context)
  request (Driver.destroySurfaces [target])
  request (Driver.destroyConfig config)

/-- Decode the frames of a job and download what came of them. -/
def decodeJob (job : Job) : RunM Unit := do
  let width := job.arguments.width
  let height := job.arguments.height
  let config ← request (Driver.createConfig job.arguments.profile .vld
    [⟨Config.formatAttribute, Config.formatYuv420⟩])
  let target ← createTarget width height
  let context ← request (Driver.createContext config width height 0 [target])
  decodeFrames job context target 0 job.arguments.frames.toNat
  let image ← downloadTarget target width height
  tidyUp config target context image

/-- What comes of a run. -/
structure Outcome where
  result : Except (Failure Error) Unit
  log : List LogLine
  /-- the contents of the output file, if it is written -/
  stream : Option (Array UInt8)

/-- The driver of a run. -/
def driverOf (dump : Session.Dump) : Driver Engine.Gray := Driver.make { dump } .shared .gray

/-- Do a job, with the streams going where `dump` says. -/
def Job.execute (job : Job) (dump : Session.Dump) : Outcome :=
  let (result, progress) := (decodeJob job).run { driver := driverOf dump }
  { result
    log := progress.log.toList
    stream := progress.driver.dump.contents? }

/-- Make the output file, if the user named one. Streams go behind what it holds then. -/
def Arguments.createOut (arguments : Arguments) (files : Files) : Except Error Session.Dump :=
  match arguments.out with
  | none => .ok .off
  | some path => do
    let readAfter ← (files.create path).mapError .file
    pure (.file ((readAfter path).toOption.map List.toArray))

/-- The outcome of a run that ends before anything is written. -/
def Outcome.refused (error : Error) : Outcome where
  result := .error (.rejected error)
  log := []
  stream := none

/-- Run as arguments say: the job is checked, then the output file is made, then the
job is done. -/
def Arguments.run (arguments : Arguments) (files : Files) : Outcome :=
  match Job.prepare arguments files with
  | .error error => .refused error
  | .ok job =>
    match arguments.createOut files with
    | .error error => .refused error
    | .ok dump => job.execute dump

/-! ## Reports -/

/-- What a command line comes to. -/
structure Report where
  /-- what is printed -/
  lines : List String
  /-- the status the tool exits with -/
  status : UInt32
  /-- the contents of the output file, if it is written -/
  stream : Option (Array UInt8)
  deriving DecidableEq, Repr

/-- The status for a result. -/
def statusOf : Except (Failure Error) Unit → UInt32
  | .ok () => 0
  | .error (.rejected _) => 1
  | .error (.faulted _) => 101

/-- What is told about how a run ended. -/
def lastLine? : Except (Failure Error) Unit → Option LogLine
  | .error (.rejected error) => some (.failed error)
  | _ => none

/-- The report of a run that came to `outcome`. -/
def Outcome.report (arguments : Arguments) (outcome : Outcome) : Report :=
  let lines := .starting arguments :: outcome.log ++ (lastLine? outcome.result).toList
  { lines := lines.map LogLine.text
    status := statusOf outcome.result
    stream := outcome.stream }

/-- The report of a command line. -/
def Invocation.report (files : Files) : Invocation → Report
  | .help => { lines := usage, status := 0, stream := none }
  | .run arguments => (arguments.run files).report arguments

end AvcDriver.Tool
