import StationHub.Failure
import StationHub.Table

/-!
A directory of tenants and devices that is kept in memory. A device is added under a tenant whether
or not the tenant is known yet; both must be known, and the token right, for a peer to be
identified.
-/

namespace StationHub

/-- A directory kept in memory. -/
structure Directory where
  tenants : Table String Tenant := []
  /-- Devices with their tokens. -/
  devices : Table Key (String × Device) := []
  deriving Repr

namespace Directory

/-- The directory with a tenant added or replaced. -/
def addTenant (d : Directory) (tenant : Tenant) : Directory :=
  { d with tenants := d.tenants.put tenant.id tenant }

/-- The directory with a device added or replaced. -/
def addDevice (d : Directory) (tenant token : String) (device : Device) : Directory :=
  { d with devices := d.devices.put ⟨tenant, device.id⟩ (token, device) }

/-- The directory without a device, and whether it was there. -/
def removeDevice (d : Directory) (key : Key) : Directory × Bool :=
  ({ d with devices := d.devices.erase key }, d.devices.has key)

/-- Who the peer is that gives these names and this token. -/
def resolve (d : Directory) (tenant token device : String) : Except Failure Identity :=
  match d.tenants.get? tenant with
  | none => .error (.unknownTenant tenant)
  | some found =>
      match d.devices.get? ⟨tenant, device⟩ with
      | none => .error (.unknownDevice tenant device)
      | some (expected, record) =>
          if expected = token then .ok ⟨found, record⟩ else .error (.invalidToken tenant device)

/-- Whatever a directory answers instead of an identity is a failure to identify. -/
theorem isResolution_of_resolve {d : Directory} {tenant token device : String} {failure : Failure}
    (h : d.resolve tenant token device = .error failure) : failure.isResolution = true := by
  unfold resolve at h
  split at h
  · cases h; rfl
  · split at h
    · cases h; rfl
    · split at h <;> cases h
      rfl

end Directory

end StationHub
