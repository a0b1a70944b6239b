/-!
# Errors of memory mappings

Why a buffer object could not be mapped, or a mapping could not be accessed. Some
causes are the system's, and keep its error number.
-/

namespace AvcDriver.Memory

/-- An error the system reported. -/
inductive SystemError where
  | noSuchFile
  | badDescriptor
  | outOfMemory
  | permissionDenied
  | notDirectory
  | isDirectory
  | invalidArgument
  | nameTooLong
  deriving DecidableEq, Repr

namespace SystemError

/-- The number the system gives an error. -/
def code : SystemError → Nat
  | noSuchFile => 2
  | badDescriptor => 9
  | outOfMemory => 12
  | permissionDenied => 13
  | notDirectory => 20
  | isDirectory => 21
  | invalidArgument => 22
  | nameTooLong => 36

/-- The system's words for an error, without the number. -/
def description : SystemError → String
  | noSuchFile => "No such file or directory"
  | badDescriptor => "Bad file descriptor"
  | outOfMemory => "Cannot allocate memory"
  | permissionDenied => "Permission denied"
  | notDirectory => "Not a directory"
  | isDirectory => "Is a directory"
  | invalidArgument => "Invalid argument"
  | nameTooLong => "File name too long"

/-- The words of an error with its number. -/
def message (error : SystemError) : String :=
  let code := error.code
  error.description ++ s!" (os error {code})"

end SystemError

/-- Why a mapping or an access to one failed. -/
inductive Error where
  /-- a plane lies in an object that is not there -/
  | missingObject (plane object : Nat)
  /-- a plane reaches past the end of its object -/
  | planePastEnd (plane stop size : Nat)
  /-- an object is too small for its planes -/
  | objectTooSmall (size needed : Nat)
  /-- the system refused -/
  | system (error : SystemError)
  /-- a mapper refused an import -/
  | importRefused
  /-- memory refused the start of an access -/
  | beginRefused
  /-- memory refused the end of an access -/
  | endRefused
  deriving DecidableEq, Repr

/-- The words of an error. -/
def Error.message : Error → String
  | missingObject plane object => s!"plane {plane} refers to missing object {object}"
  | planePastEnd plane stop size => s!"plane {plane} ends at {stop} past object size {size}"
  | objectTooSmall size needed => s!"buffer object is {size} bytes, {needed} needed"
  | system error => error.message
  | importRefused => "import failed"
  | beginRefused => "begin failed"
  | endRefused => "end failed"

end AvcDriver.Memory
