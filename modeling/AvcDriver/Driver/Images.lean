import AvcDriver.Driver.Buffers

/-!
# Requests about images

An image has a buffer of its own, which is made and destroyed with it.
-/

namespace AvcDriver.Driver

variable {ε : Type}

/-- Make an image and its buffer. -/
def createImage (format : Image.Format) (width height : UInt32) : DriverM ε Image := do
  let layout ← settle (Image.Layout.ofFormat format width height)
  let (bufferHandle, buffer) ← addBuffer none .image layout.dataSize none
  let (id, images) ← Action.ofFaulting (← get).images.reserve
  let image : Image := { id, format, width, height, layout, bufferHandle, buffer }
  modify fun d => { d with images := images.commit id image }
  pure image

/-- Destroy an image, and its buffer unless another object has the buffer's handle. -/
def destroyImage (handle : Nat) : DriverM ε Unit := do
  let d ← get
  let (image, images) ← require (d.images.remove handle) (.invalidImage handle)
  let buffers := match d.buffers.removeIf image.bufferHandle (· = image.buffer) with
    | some (_, buffers) => buffers
    | none => d.buffers
  set { d with images, buffers }

/-- Check that the top left of a surface can be copied into an image. -/
def checkArea (s : Surface) (i : Image) (x y width height : UInt32) : Except DriverError Unit :=
  if x ≠ 0 ∨ y ≠ 0 then .error (.invalidParameter (.imageOrigin x y))
  else if s.width < width ∨ s.height < height then
    .error (.invalidParameter (.areaBeyondSurface width height s.width s.height))
  else if i.width < width ∨ i.height < height then
    .error (.invalidParameter (.areaBeyondImage width height i.width i.height))
  else if s.fourcc ≠ fourccNv12 then .error (.invalidImageFormat s.fourcc)
  else if i.format.fourcc ≠ fourccNv12 then .error (.invalidImageFormat i.format.fourcc)
  else .ok ()

/-- Copy the top left of a surface into an image. A surface without memory leaves the
image as it is. -/
def getImage (surfaceHandle : Nat) (x y width height : UInt32) (imageHandle : Nat) :
    DriverM ε Unit := do
  let s ← surfaceAt (← surface surfaceHandle)
  let i ← image imageHandle
  if s.isMapped then
    Action.ofExcept (checkArea s i x y width height)
    let (result, memory) := s.download (← get).memories width height i.layout
      (← bufferAt i.buffer).memory
    setMemory i.buffer memory
    let _ ← settle (result.mapError (Failure.map .mapping))

end AvcDriver.Driver
