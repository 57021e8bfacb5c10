import StationHub.Settings
import StationHub.Text.Blank

/-!
Upgrade requests. A path `/prefix/tenant/token/device`, percent-encoded and possibly followed by a
query, says which variant a peer is of and who it claims to be; the offered sub-protocols must name
that of the variant. Nothing is looked up here.
-/

namespace StationHub

/-- An accepted upgrade: whom the peer claims to be. -/
structure Target where
  variant : Variant
  /-- The path without its query, which stands for the peer until it is identified. -/
  path : String
  tenant : String
  token : String
  device : String
  /-- The sub-protocol to confirm. -/
  protocol : String
  deriving DecidableEq, Repr

namespace Upgrade

/-- Why an upgrade is refused. -/
inductive Refusal where
  /-- The path has the prefix of no variant. -/
  | unknownPath (path : String)
  /-- The prefix is not followed by three segments. -/
  | segmentCount (count : Nat)
  /-- A segment is empty. -/
  | emptySegment (name : String)
  /-- A segment does not stand for UTF-8 text. -/
  | notText (name : String)
  /-- The sub-protocol of the variant was not offered. -/
  | protocolMismatch (expected offered : String)
  deriving DecidableEq, Repr

/-- The HTTP status that a refusal is answered with. -/
def Refusal.status : Refusal → Nat
  | unknownPath _ => 404
  | _ => 400

/-- The words for a refusal. -/
def Refusal.message : Refusal → String
  | unknownPath path => "Unknown path " ++ Text.quoted path
  | segmentCount count =>
      "Expected \x7btenant\x7d/\x7btoken\x7d/\x7bdevice\x7d after prefix, got " ++
        toString count ++ " segment(s)"
  | emptySegment name => "Empty " ++ name ++ " segment"
  | notText name => name ++ " segment is not valid UTF-8 after decoding"
  | protocolMismatch expected offered =>
      "Expected sub-protocol " ++ Text.quoted expected ++ ", client offered " ++
        Text.quoted offered

/-- The failure that a refusal is reported as. -/
def Refusal.failure (refusal : Refusal) : Failure := .handshake refusal.message

/-- The part of a path before its query. -/
def withoutQuery (path : String) : String := String.ofList (path.toList.takeWhile (· != '?'))

/-- What follows `start` in `path`, if it is nothing or starts with a slash. -/
def remainder? (start path : String) : Option (List Char) :=
  match Text.dropStart? start.toList path.toList with
  | some [] => some []
  | some ('/' :: rest) => some ('/' :: rest)
  | _ => none

/-- The variant whose prefix `path` has, and what follows the prefix. Devices come first. -/
def variant? (settings : Settings) (path : String) : Option (Variant × List Char) :=
  match remainder? settings.devicePrefix path with
  | some rest => some (.device, rest)
  | none => (remainder? settings.managementPrefix path).map fun rest => (.management, rest)

/-- The segments of what follows a prefix; the slash at its start belongs to the prefix. -/
def segments : List Char → List (List Char)
  | '/' :: rest => Text.split '/' rest
  | rest => Text.split '/' rest

/-- The text that a segment stands for, which must not be empty. -/
def decodeSegment (name : String) (segment : List Char) : Except Refusal String :=
  if segment.isEmpty then .error (.emptySegment name)
  else
    match Text.percentDecode? (String.ofList segment) with
    | none => .error (.notText name)
    | some text => if text = "" then .error (.emptySegment name) else .ok text

/-- One of the offered sub-protocols, separated by commas, is the expected one. -/
def offers (offered expected : String) : Bool :=
  (Text.split ',' offered.toList).any fun protocol => Text.trimmed protocol == expected.toList

/-- The target of an upgrade request with the given path and offered sub-protocols. -/
def target (settings : Settings) (path : String) (offered : Option String) :
    Except Refusal Target := do
  let raw := withoutQuery path
  match variant? settings raw with
  | none => .error (.unknownPath raw)
  | some (variant, rest) =>
      match segments rest with
      | [tenant, token, device] => do
          let tenant ← decodeSegment "tenant" tenant
          let token ← decodeSegment "token" token
          let device ← decodeSegment "device" device
          let expected := settings.protocolOf variant
          let offered := offered.getD ""
          if offers offered expected then
            .ok { variant, path := raw, tenant, token, device, protocol := expected }
          else .error (.protocolMismatch expected offered)
      | parts => .error (.segmentCount parts.length)

end Upgrade

end StationHub
