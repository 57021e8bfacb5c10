/-!
Who is connected: the two kinds of peers, the records of tenants and devices, and the key under
which a peer is known.
-/

namespace StationHub

/-- What kind of peer a connection serves. -/
inductive Variant where
  /-- A charging station or another unit in the field. -/
  | device
  /-- A client that manages stations. -/
  | management
  deriving DecidableEq, Repr

/-- The lower-case word for the variant. -/
def Variant.name : Variant → String
  | .device => "device"
  | .management => "management"

/-- The variant that `name` is the word for. -/
def Variant.ofName? (name : String) : Option Variant :=
  if name = "device" then some .device
  else if name = "management" then some .management
  else none

/-- A device within its tenant. Two keys are equal only if both parts are. -/
structure Key where
  tenant : String
  device : String
  deriving DecidableEq, Repr

/-- The key as messages show it. Different keys may share this text. -/
def Key.text (key : Key) : String := key.tenant ++ "/" ++ key.device

/-- A tenant as the directory knows it. -/
structure Tenant where
  id : String
  name : String
  deriving DecidableEq, Repr

/-- A device as the directory knows it, with hints about where it stands. -/
structure Device where
  id : String
  siteId : Option String
  siteAreaId : Option String
  companyId : Option String
  deriving DecidableEq, Repr

/-- What a directory answers about a peer. -/
structure Identity where
  tenant : Tenant
  device : Device
  deriving DecidableEq, Repr

/-- The key under which the peer is known. -/
def Identity.key (identity : Identity) : Key := ⟨identity.tenant.id, identity.device.id⟩

theorem Variant.ofName?_name (variant : Variant) : ofName? variant.name = some variant := by
  cases variant <;> decide

end StationHub
