import AvcDriver.Buffer
import AvcDriver.Error
import AvcDriver.Header.ParameterSet
import AvcDriver.Record.Slice

/-!
# The stream of a submission

Between two runs a session collects buffers: picture parameters, of which the last
count, slice parameters, of which the first say what kind of picture it is, and
slice data. `Work.stream` makes an Annex B stream of them. Parameter sets go in
front of an intra picture only; every slice gets a start code and is copied as it
is.

Buffers are kept by reference, so a stream holds what the buffers hold when it is
made, not what they held when they were collected.
-/

namespace AvcDriver.Session

open Nal (Writer)

/-- The buffers of a submission. -/
structure Work where
  pictureParameters : Option BufferRef := none
  iqMatrix : Option BufferRef := none
  sliceParameters : List BufferRef := []
  sliceData : List BufferRef := []
  deriving DecidableEq, Repr

namespace Work

/-- Add a buffer. Kinds that decoding has no use for are passed over. -/
def add (work : Work) (buffer : BufferRef) (kind : BufferKind) : Work :=
  match kind with
  | .pictureParameter => { work with pictureParameters := some buffer }
  | .iqMatrix => { work with iqMatrix := some buffer }
  | .sliceParameter => { work with sliceParameters := work.sliceParameters ++ [buffer] }
  | .sliceData => { work with sliceData := work.sliceData ++ [buffer] }
  | .image => work
  | .other _ => work

/-- The bytes of a buffer. -/
def bytesOf (buffers : BufferStore) (ref : BufferRef) : Except Fault Bytes :=
  match buffers[ref.index]? with
  | some buffer => .ok buffer.bytes
  | none => .error .outOfBounds

/-- The records that describe a submission: the last picture parameters and the first
slice parameters. Missing buffers are reported before malformed ones. -/
def records (work : Work) (buffers : BufferStore) :
    Except (Failure DecodeError) (Record.Picture × Record.Slice) := do
  match work.pictureParameters, work.sliceParameters with
  | none, _ => throw (.rejected .missingPictureParameters)
  | some _, [] => throw (.rejected .missingSliceParameters)
  | some picture, slice :: _ =>
    let malformed (error : Record.Error) : Failure DecodeError :=
      .rejected (.malformedParameters error)
    let pictureBytes ← (bytesOf buffers picture).mapError .faulted
    let picture ← (Record.Picture.parse pictureBytes).mapError malformed
    let sliceBytes ← (bytesOf buffers slice).mapError .faulted
    let slice ← (Record.Slice.parse sliceBytes).mapError malformed
    pure (picture, slice)

/-- Write the parameter sets of a picture. -/
def writeParameterSets (profile : Header.Profile) (options : Header.Options)
    (picture : Record.Picture) (w : Writer) : Except Fault Writer := do
  let w ← Header.writeSequenceSet w profile picture options
  Header.writePictureSet w picture

/-- Write slices, each behind a start code. -/
def writeSlices (buffers : BufferStore) (w : Writer) : List BufferRef → Except Fault Writer
  | [] => .ok w
  | slice :: rest => do
    let bytes ← bytesOf buffers slice
    let w ← w.appendBytes Nal.startCode
    let w ← w.appendBytes bytes
    writeSlices buffers w rest

/-- Write the parameter sets if the picture needs them, and the slices. -/
def write (work : Work) (buffers : BufferStore) (profile : Header.Profile)
    (options : Header.Options) (picture : Record.Picture) (slice : Record.Slice) :
    Except Fault Bytes := do
  let w := Writer.empty
  let w ← if slice.sliceType.isIntra then writeParameterSets profile options picture w else pure w
  let w ← writeSlices buffers w work.sliceData
  let w ← w.flush
  w.bytes

/-- The stream of a submission. -/
def stream (work : Work) (buffers : BufferStore) (profile : Header.Profile)
    (options : Header.Options) : Except (Failure DecodeError) Bytes := do
  let (picture, slice) ← work.records buffers
  (work.write buffers profile options picture slice).mapError .faulted

end Work

end AvcDriver.Session
