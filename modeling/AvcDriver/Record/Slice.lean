import AvcDriver.Record.Codec
import AvcDriver.Record.Error
import AvcDriver.Record.SliceType

/-!
# Slice parameter records

A client describes a slice by a record of which the first 25 bytes are read: where
the slice's data lies, its type, and its quantisation and deblocking parameters.
Reference lists and prediction weights behind them are skipped.
-/

namespace AvcDriver.Record

/-- Everything read of what a client says about one slice. -/
structure Slice where
  dataSize : UInt32 := 0
  dataOffset : UInt32 := 0
  dataFlag : UInt32 := 0
  dataBitOffset : UInt16 := 0
  firstMb : UInt16 := 0
  sliceType : SliceType
  directSpatialMvPred : Bool := false
  numRefIdxL0ActiveMinus1 : UInt8 := 0
  numRefIdxL1ActiveMinus1 : UInt8 := 0
  cabacInitIdc : UInt8 := 0
  qpDelta : Int8 := 0
  disableDeblockingFilterIdc : UInt8 := 0
  alphaC0OffsetDiv2 : Int8 := 0
  betaOffsetDiv2 : Int8 := 0
  deriving DecidableEq, Repr

namespace Slice

/-- The layout of a record. A slice type that has no meaning is read as `p`; `parse`
refuses it beforehand. -/
def codec : Codec Slice :=
  (Codec.pair .word32 <| .pair .word32 <| .pair .word32 <| .pair .word16 <| .pair .word16 <|
      .pair (Codec.byte.via (fun raw => (SliceType.ofCode? raw).getD .p) SliceType.code) <|
      .pair .flag <| .pair .byte <| .pair .byte <| .pair .byte <| .pair .int8 <| .pair .byte <|
      .pair .int8 .int8).via
    (fun (dataSize, dataOffset, dataFlag, dataBitOffset, firstMb, sliceType, directSpatialMvPred,
        numRefIdxL0ActiveMinus1, numRefIdxL1ActiveMinus1, cabacInitIdc, qpDelta,
        disableDeblockingFilterIdc, alphaC0OffsetDiv2, betaOffsetDiv2) =>
      { dataSize, dataOffset, dataFlag, dataBitOffset, firstMb, sliceType, directSpatialMvPred,
        numRefIdxL0ActiveMinus1, numRefIdxL1ActiveMinus1, cabacInitIdc, qpDelta,
        disableDeblockingFilterIdc, alphaC0OffsetDiv2, betaOffsetDiv2 })
    (fun r =>
      (r.dataSize, r.dataOffset, r.dataFlag, r.dataBitOffset, r.firstMb, r.sliceType,
        r.directSpatialMvPred, r.numRefIdxL0ActiveMinus1, r.numRefIdxL1ActiveMinus1,
        r.cabacInitIdc, r.qpDelta, r.disableDeblockingFilterIdc, r.alphaC0OffsetDiv2,
        r.betaOffsetDiv2))

/-- The length of what is read of a record. -/
def size : Nat := 25

@[simp] theorem codec_width : codec.width = size := rfl

/-- Where the slice type lies in a record. -/
def typeOffset : Nat := 16

/-- The record at the front of a byte string. -/
def parse (bytes : Bytes) : Except Error Slice :=
  if bytes.length < size then .error (.truncated .slice size bytes.length)
  else
    let raw := bytes.getD typeOffset 0
    match SliceType.ofCode? raw with
    | none => .error (.invalidSliceType raw)
    | some _ => .ok (codec.decode bytes)

/-- The bytes of a record. -/
def encode (record : Slice) : Bytes := codec.encode record

/-- A record for the one slice of a picture. -/
def wholePicture (sliceType : SliceType) (dataSize : UInt32) : Slice where
  dataSize := dataSize
  sliceType := sliceType

end Slice

end AvcDriver.Record
