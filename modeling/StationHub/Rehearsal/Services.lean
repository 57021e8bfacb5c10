import StationHub.Directory
import StationHub.Executor
import StationHub.Identity.Form
import StationHub.Session
import StationHub.Upgrade

/-!
What a hub relies on, as rehearsals have it: a directory that takes its time and can be unavailable
for some tenants, and an executor that knows a few commands.
-/

namespace StationHub.Rehearsal

/-- A directory that takes its time. -/
structure Resolver where
  directory : Directory := {}
  /-- The tenants for which the directory is unavailable, with what it says then. -/
  offline : Table String String := []
  /-- How long an answer takes. -/
  delay : Nat := 0

/-- Who the peer is that an upgrade names. -/
def Resolver.resolve (resolver : Resolver) (target : Target) : Except Failure Identity :=
  match resolver.offline.get? target.tenant with
  | some text => .error (.resolution text)
  | none => resolver.directory.resolve target.tenant target.token target.device

/-- What the executor does with a call. -/
inductive Command where
  /-- It answers at once. -/
  | reply (reply : Reply)
  /-- It answers after a while. -/
  | slow (ms : Nat)
  /-- It tells whether a path is in use. -/
  | held (path : String)
  /-- It calls another peer and answers what that call comes to. -/
  | relay (variant : Variant) (key : Key) (command : String) (payload : Json)

namespace Command

/-- A text field of a payload; the empty text if there is none. -/
def text (payload : Json) (name : String) : String :=
  ((payload.field? name).bind Json.string?).getD ""

/-- A field of a payload; `null` if there is none. -/
def field (payload : Json) (name : String) : Json := (payload.field? name).getD .null

/-- What is told about a call and its caller. -/
def ofContext (context : CallContext) : Json :=
  .ofFields [
    ("variant", context.variant.toJson), ("key", .str context.key.text),
    ("id", .str context.messageId), ("identity", context.identity.toJson)]

/-- The rejection that a payload describes. -/
def rejection (payload : Json) : Rejection :=
  let bare : Rejection :=
    { fault := .ofName (text payload "code"), description := text payload "description" }
  match field payload "details" with
  | .null => bare
  | details => { bare with details }

/-- What the executor does with a call. -/
def ofCall (context : CallContext) (command : String) (payload : Json) : Command :=
  match command with
  | "Echo" => .reply (.ok payload)
  | "Heartbeat" => .reply (.ok (.ofFields [("currentTime", .str "2024-01-01T00:00:00Z")]))
  | "Slow" => .slow ((field payload "ms").natural?.getD 0)
  | "Fail" => .reply (.error (rejection payload))
  | "Context" => .reply (.ok (ofContext context))
  | "Held" => .held (text payload "path")
  | "Relay" =>
      .relay ((Variant.ofName? (text payload "variant")).getD .device)
        ⟨text payload "tenant", text payload "device"⟩ (text payload "command")
        (field payload "payload")
  | other => .reply (.error (.notImplemented other))

/-- The answer after a while. -/
def slept (ms : Nat) : Reply := .ok (.ofFields [("slept", .int ms)])

/-- The answer for a call that was passed on. -/
def relayed : CallOutcome → Reply
  | .ok payload => .ok payload
  | .error failure =>
      .error { fault := .internal, description := failure.message.getD "" }

end Command

end StationHub.Rehearsal
