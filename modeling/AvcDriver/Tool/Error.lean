import AvcDriver.Error

/-!
# Errors of the command line tool
-/

namespace AvcDriver.Tool

/-- A side of a picture. -/
inductive Side where
  | width
  | height
  deriving DecidableEq, Repr

/-- The name of a side. -/
def Side.label : Side → String
  | width => "width"
  | height => "height"

/-- Why the tool cannot do what it is asked. -/
inductive Error where
  /-- no record can say how many macroblocks a side has -/
  | tooLarge (side : Side) (pixels : UInt32)
  /-- a file cannot be read or written -/
  | file (error : Memory.SystemError)
  | emptySlice (path : String)
  /-- the driver rejected a request -/
  | driver (error : DriverError)
  deriving DecidableEq, Repr

/-- The words of an error. -/
def Error.message : Error → String
  | tooLarge side pixels => side.label ++ s!" {pixels} is too large for a picture"
  | file error => error.message
  | emptySlice path => path ++ " is empty"
  | driver error => error.message

end AvcDriver.Tool
