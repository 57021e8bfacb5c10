import StationHub.Identity
import StationHub.Json.Printer

/-!
The JSON forms of variants, keys and identities.
-/

namespace StationHub

/-- A variant is written as its word. -/
def Variant.toJson (variant : Variant) : Json := .str variant.name

/-- The variant that a JSON value names: its word, or an object with the word as its one field and
nothing in it. -/
def Variant.ofJson? : Json → Option Variant
  | .str name => ofName? name
  | .obj [(name, .null)] => ofName? name
  | _ => none

/-- The JSON text of a key, the tenant first. -/
def Key.jsonText (key : Key) : String :=
  (Json.obj [("tenant", .str key.tenant), ("device_id", .str key.device)]).toText

/-- A text or `null`. -/
def optionalText (text : Option String) : Json := (text.map Json.str).getD .null

/-- All that is known about a peer. -/
def Identity.toJson (identity : Identity) : Json :=
  .ofFields [
    ("tenant", .ofFields [
      ("id", .str identity.tenant.id), ("name", .str identity.tenant.name)]),
    ("device", .ofFields [
      ("id", .str identity.device.id), ("site_id", optionalText identity.device.siteId),
      ("site_area_id", optionalText identity.device.siteAreaId),
      ("company_id", optionalText identity.device.companyId)])]

theorem Variant.ofJson?_toJson (variant : Variant) : ofJson? variant.toJson = some variant := by
  cases variant <;> decide

end StationHub
