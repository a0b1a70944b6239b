import AvcDriver.Driver.Basic

/-!
# Requests about capabilities and configurations
-/

namespace AvcDriver.Driver

variable {ε : Type}

/-! ## What the driver can do -/

/-- The name the driver gives itself. -/
def vendor : String := "Verisilicon libva driver"

/-- A summary of what the driver can do. -/
structure Capabilities where
  vendor : String
  profiles : List Config.Profile
  imageFormats : List Image.Format
  maxWidth : UInt32
  maxHeight : UInt32
  /-- whether parameter sets carry defaults for what no record describes -/
  headersApproximate : Bool
  deriving DecidableEq, Repr

/-- What every driver can do. -/
def capabilities : Capabilities where
  vendor := vendor
  profiles := Config.supportedProfiles
  imageFormats := Image.supportedFormats
  maxWidth := maxSurfaceSide
  maxHeight := maxSurfaceSide
  headersApproximate := Header.approximate

/-- The entry points of a profile. A profile without any is not supported. -/
def entrypoints (profile : Config.Profile) : Except DriverError (List Config.Entrypoint) :=
  match Config.supportedEntrypoints profile with
  | [] => .error (.unsupportedProfile profile)
  | supported => .ok supported

/-! ## Configurations -/

/-- Make a configuration. -/
def createConfig (profile : Config.Profile) (entrypoint : Config.Entrypoint)
    (attributes : List Config.Attribute) : DriverM ε Nat := do
  let (handle, configs) ← Action.ofFaulting (← get).configs.reserve
  let config ← Action.ofExcept (Config.make handle profile entrypoint attributes)
  modify fun d => { d with configs := configs.commit handle config }
  pure handle

/-- Destroy a configuration. Contexts made with it keep it. -/
def destroyConfig (handle : Nat) : DriverM ε Unit := do
  let (_, configs) ← require ((← get).configs.remove handle) (.invalidConfig handle)
  modify fun d => { d with configs }

end AvcDriver.Driver
