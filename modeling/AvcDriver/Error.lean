import AvcDriver.Config.Profile
import AvcDriver.Memory.Error
import AvcDriver.Record.Error
import AvcDriver.Session.State
import AvcDriver.Text.Hex

/-!
# Rejections

Why a decode submission failed (`DecodeError`) and why a request to the driver was
rejected (`DriverError`), with their words and the status codes they are reported
under.
-/

namespace AvcDriver

/-- The status codes of an answer. -/
inductive Status where
  | success
  | operationFailed
  | allocationFailed
  | invalidConfig
  | invalidContext
  | invalidSurface
  | invalidBuffer
  | invalidImage
  | attributeNotSupported
  | maxNumExceeded
  | unsupportedProfile
  | unsupportedEntrypoint
  | unsupportedFormat
  | invalidParameter
  | unimplemented
  | invalidImageFormat
  | decodingError
  deriving DecidableEq, Repr

/-- The number of a status. -/
def Status.code : Status → Nat
  | success => 0x00
  | operationFailed => 0x01
  | allocationFailed => 0x02
  | invalidConfig => 0x04
  | invalidContext => 0x05
  | invalidSurface => 0x06
  | invalidBuffer => 0x07
  | invalidImage => 0x08
  | attributeNotSupported => 0x0a
  | maxNumExceeded => 0x0b
  | unsupportedProfile => 0x0c
  | unsupportedEntrypoint => 0x0d
  | unsupportedFormat => 0x0e
  | invalidParameter => 0x12
  | unimplemented => 0x14
  | invalidImageFormat => 0x16
  | decodingError => 0x17

/-! ## Submissions -/

/-- Why a decode submission failed. -/
inductive DecodeError where
  | missingPictureParameters
  | missingSliceParameters
  | malformedParameters (error : Record.Error)
  | streamNotSupported
  | hardware (code : Int32)
  | engineInit (code : Int32)
  deriving DecidableEq, Repr

namespace DecodeError

/-- The words of an error. -/
def message : DecodeError → String
  | missingPictureParameters => "no picture parameter buffer was enqueued"
  | missingSliceParameters => "no slice parameter buffer was enqueued"
  | malformedParameters error => "malformed parameter buffer: " ++ error.message
  | streamNotSupported => "hardware decoder does not support the stream"
  | hardware code => s!"hardware decoder failed with code {code}"
  | engineInit code => s!"hardware decoder could not be initialized (code {code})"

/-- The status an error is reported under. -/
def status : DecodeError → Status
  | missingPictureParameters => .invalidBuffer
  | missingSliceParameters => .invalidBuffer
  | malformedParameters _ => .invalidBuffer
  | streamNotSupported => .decodingError
  | hardware _ => .decodingError
  | engineInit _ => .operationFailed

end DecodeError

/-! ## Parameters of a request -/

/-- What is wrong with a parameter of a request. -/
inductive BadParameter where
  /-- a surface attribute occurs twice -/
  | repeatedAttribute (kind : Nat)
  | unsupportedMemoryType (kind : UInt32)
  | memoryTypeMissing
  | descriptorMissing
  | emptySurface
  | descriptorSize (descriptorWidth descriptorHeight width height : UInt32)
  | objectCount (count : Nat)
  | mixedModifiers
  | layerCount (count : Nat)
  | layerFormat (layer fourcc : UInt32)
  | planeCount (count : Nat)
  | planeObject (object : UInt32)
  | imageFormat (byteOrder bitsPerPixel : UInt32)
  | imageSize (width height : UInt32)
  | imageSizeOverflow (width height : UInt32)
  | surfaceTooLarge (width height : UInt32)
  | bufferSizeOverflow
  | bufferDataLength (actual expected : Nat)
  | imageOrigin (x y : UInt32)
  | areaBeyondSurface (width height surfaceWidth surfaceHeight : UInt32)
  | areaBeyondImage (width height imageWidth imageHeight : UInt32)
  deriving DecidableEq, Repr

/-- The largest width and height of a surface. -/
def maxSurfaceSide : UInt32 := 4096

/-- Planes of an NV12 or P010 picture. -/
def planesOfPicture : Nat := 2

/-- The words for a bad parameter. -/
def BadParameter.message : BadParameter → String
  | repeatedAttribute kind => s!"surface attribute {kind} given twice"
  | unsupportedMemoryType kind => "unsupported memory type " ++ hex kind.toNat
  | memoryTypeMissing => "memory type missing"
  | descriptorMissing => "buffer descriptor missing"
  | emptySurface => "zero-sized surface"
  | descriptorSize dw dh w h => s!"descriptor is {dw}x{dh}, surface is {w}x{h}"
  | objectCount count => s!"{count} buffer objects"
  | mixedModifiers => "mixed format modifiers"
  | layerCount count => s!"{count} layers, expected 1"
  | layerFormat layer fourcc =>
    "layer format " ++ hexWord layer.toNat ++ " does not match " ++ hexWord fourcc.toNat
  | planeCount count => s!"{count} planes, expected {planesOfPicture}"
  | planeObject object => s!"plane refers to object {object}"
  | imageFormat order bpp => s!"NV12 image with byte order {order} and {bpp} bpp"
  | imageSize w h => s!"image size {w}x{h}"
  | imageSizeOverflow w h => s!"image size {w}x{h} overflows"
  | surfaceTooLarge w h => s!"surface size {w}x{h} exceeds {maxSurfaceSide}x{maxSurfaceSide}"
  | bufferSizeOverflow => "buffer size overflows"
  | bufferDataLength actual expected => s!"buffer data is {actual} bytes, expected {expected}"
  | imageOrigin x y => s!"image origin ({x}, {y}) is not (0, 0)"
  | areaBeyondSurface w h sw sh => s!"{w}x{h} area exceeds the {sw}x{sh} surface"
  | areaBeyondImage w h iw ih => s!"{w}x{h} area exceeds the {iw}x{ih} image"

/-! ## Requests -/

/-- Why the driver rejected a request. -/
inductive DriverError where
  | invalidConfig (handle : Nat)
  | invalidContext (handle : Nat)
  | invalidSurface (handle : Nat)
  | invalidBuffer (handle : Nat)
  | invalidImage (handle : Nat)
  | unsupportedProfile (profile : Config.Profile)
  | unsupportedEntrypoint (profile : Config.Profile) (entrypoint : Config.Entrypoint)
  | attributeNotSupported (kind value : UInt32)
  | unsupportedFormat (format : UInt32)
  | invalidImageFormat (fourcc : UInt32)
  | invalidParameter (cause : BadParameter)
  | outOfOrder (call : Session.Call) (state : Session.State)
  | mapping (error : Memory.Error)
  | decode (error : DecodeError)
  deriving DecidableEq, Repr

namespace DriverError

/-- The words of a rejection. -/
def message : DriverError → String
  | invalidConfig handle => s!"invalid config id {handle}"
  | invalidContext handle => s!"invalid context id {handle}"
  | invalidSurface handle => s!"invalid surface id {handle}"
  | invalidBuffer handle => s!"invalid buffer id {handle}"
  | invalidImage handle => s!"invalid image id {handle}"
  | unsupportedProfile profile => "unsupported profile " ++ profile.label
  | unsupportedEntrypoint profile entrypoint =>
    "unsupported entrypoint " ++ entrypoint.label ++ " for " ++ profile.label
  | attributeNotSupported kind value =>
    s!"config attribute {kind} does not support value " ++ hex value.toNat
  | unsupportedFormat format => "unsupported render target format " ++ hex format.toNat
  | invalidImageFormat fourcc => "unsupported image format " ++ hexWord fourcc.toNat
  | invalidParameter cause => "invalid parameter: " ++ cause.message
  | outOfOrder call state => call.label ++ " is out of order in session state " ++ state.label
  | mapping error => "buffer object mapping failed: " ++ error.message
  | decode error => error.message

/-- The status a rejection is reported under. -/
def status : DriverError → Status
  | invalidConfig _ => .invalidConfig
  | invalidContext _ => .invalidContext
  | invalidSurface _ => .invalidSurface
  | invalidBuffer _ => .invalidBuffer
  | invalidImage _ => .invalidImage
  | unsupportedProfile _ => .unsupportedProfile
  | unsupportedEntrypoint _ _ => .unsupportedEntrypoint
  | attributeNotSupported _ _ => .attributeNotSupported
  | unsupportedFormat _ => .unsupportedFormat
  | invalidImageFormat _ => .invalidImageFormat
  | invalidParameter _ => .invalidParameter
  | outOfOrder _ _ => .operationFailed
  | mapping _ => .allocationFailed
  | decode error => error.status

end DriverError

end AvcDriver
