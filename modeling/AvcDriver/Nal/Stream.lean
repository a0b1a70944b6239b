import AvcDriver.Nal.Writer

/-!
# Annex B streams

An Annex B stream is a sequence of NAL units with a four-byte start code in
front of each. `split` takes it apart again: it looks for start codes from the
front, each behind the end of the last, and drops what precedes the first. A
unit reaches from behind its start code to the next one, the last unit to the
end of the stream.
-/

namespace AvcDriver.Nal.Stream

/-- The positions behind the start codes of a stream, of which `position` bytes have
been passed. -/
def starts (position : Nat) : Bytes → List Nat
  | 0 :: 0 :: 0 :: 1 :: rest => (position + 4) :: starts (position + 4) rest
  | _ :: rest => starts (position + 1) rest
  | [] => []

/-- Where the units of a stream begin and end. -/
def ranges (stream : Bytes) : List (Nat × Nat) :=
  let starts := starts 0 stream
  starts.zip (starts.tail.map (· - startCode.length) ++ [stream.length])

/-- The bytes of a stream from the first position of a range to its second. -/
def slice (stream : Bytes) (range : Nat × Nat) : Bytes :=
  (stream.drop range.1).take (range.2 - range.1)

/-- The NAL units of a stream, without their start codes. -/
def split (stream : Bytes) : List Bytes := (ranges stream).map (slice stream)

end AvcDriver.Nal.Stream
