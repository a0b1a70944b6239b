import AvcDriver.Error

/-!
# Capabilities and configurations

The driver decodes three H.264 profiles from the slice data on, into 8-bit 4:2:0
surfaces. A configuration is a pair of profile and entry point with attribute
values, each of which the capability of the pair has to accept.
-/

namespace AvcDriver.Config

/-- An attribute of a configuration with its value. -/
structure Attribute where
  kind : UInt32
  value : UInt32
  deriving DecidableEq, Repr

/-- The attribute that says which surface formats can be decoded into. -/
def formatAttribute : UInt32 := 0

/-- The value of an attribute that does not apply. -/
def notSupported : UInt32 := 0x80000000

/-- The format of 8-bit 4:2:0 surfaces. -/
def formatYuv420 : UInt32 := 0x00000001

/-- The format of 10-bit 4:2:0 surfaces. -/
def formatYuv420Ten : UInt32 := 0x00000100

/-- An attribute whose value is still to be filled in. -/
def Attribute.query (kind : UInt32) : Attribute := ⟨kind, notSupported⟩

/-! ## Capabilities -/

/-- A pair of profile and entry point that can be decoded, and what its attributes
accept. -/
structure Capability where
  profile : Profile
  entrypoint : Entrypoint
  attributes : List Attribute
  deriving DecidableEq, Repr

/-- Everything that can be decoded. -/
def capabilities : List Capability :=
  [.h264ConstrainedBaseline, .h264Main, .h264High].map fun profile =>
    ⟨profile, .vld, [⟨formatAttribute, formatYuv420⟩]⟩

/-- The profiles that can be decoded, by number. -/
def supportedProfiles : List Profile :=
  ((capabilities.map (·.profile)).mergeSort fun a b => a.raw ≤ b.raw).eraseDups

/-- The entry points of a profile. -/
def supportedEntrypoints (profile : Profile) : List Entrypoint :=
  (capabilities.filter (·.profile = profile)).map (·.entrypoint)

/-- The capability of a pair. A refusal blames the entry point only if the profile
is known. -/
def findCapability (profile : Profile) (entrypoint : Entrypoint) :
    Except DriverError Capability :=
  match capabilities.find? fun c => c.profile = profile ∧ c.entrypoint = entrypoint with
  | some capability => .ok capability
  | none =>
    if capabilities.any (·.profile = profile) then
      .error (.unsupportedEntrypoint profile entrypoint)
    else .error (.unsupportedProfile profile)

namespace Capability

/-- The value of an attribute, or that it does not apply. -/
def valueOf (c : Capability) (kind : UInt32) : UInt32 :=
  match c.attributes.find? (·.kind = kind) with
  | some own => own.value
  | none => notSupported

/-- Whether a requested attribute value will do: it shares a bit with the supported
one, or equals it. -/
def accepts (c : Capability) (wanted : Attribute) : Bool :=
  c.attributes.any fun own =>
    own.kind = wanted.kind ∧ (own.value &&& wanted.value ≠ 0 ∨ own.value = wanted.value)

end Capability

/-- The supported value of every queried attribute. -/
def fillAttributes (profile : Profile) (entrypoint : Entrypoint) (queried : List Attribute) :
    Except DriverError (List Attribute) := do
  let capability ← findCapability profile entrypoint
  pure (queried.map fun slot => { slot with value := capability.valueOf slot.kind })

end AvcDriver.Config

namespace AvcDriver

/-- A configuration. -/
structure Config where
  id : Nat
  profile : Config.Profile
  entrypoint : Config.Entrypoint
  attributes : List Config.Attribute
  deriving DecidableEq, Repr

namespace Config

/-- A configuration with the requested attributes, which all have to be accepted,
and behind them the supported ones that were not requested. -/
def make (id : Nat) (profile : Profile) (entrypoint : Entrypoint) (requested : List Attribute) :
    Except DriverError Config := do
  let capability ← findCapability profile entrypoint
  match requested.find? fun wanted => !capability.accepts wanted with
  | some wanted => .error (.attributeNotSupported wanted.kind wanted.value)
  | none =>
    let missing := capability.attributes.filter fun own =>
      !requested.any fun wanted => wanted.kind = own.kind
    pure { id, profile, entrypoint, attributes := requested ++ missing }

end Config

end AvcDriver
