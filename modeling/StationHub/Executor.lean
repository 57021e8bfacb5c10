import StationHub.Identity
import StationHub.Message

/-!
What executors answer. An executor runs the commands that peers call; it answers with a payload or
rejects the command.
-/

namespace StationHub

/-- Why an executor did not run a command. -/
structure Rejection where
  fault : Fault
  description : String
  details : Json := .emptyObject
  deriving Repr

namespace Rejection

/-- The words for a rejection. -/
def text (rejection : Rejection) : String := rejection.fault.name ++ ": " ++ rejection.description

/-- The rejection of a command that the executor does not know. -/
def notImplemented (command : String) : Rejection :=
  { fault := .notImplemented
    description := "Command \x27" ++ command ++ "\x27 is not implemented" }

end Rejection

/-- What an executor answers. -/
abbrev Reply := Except Rejection Json

/-- The message that answers the call `id`. -/
def Reply.message (id : String) : Reply → Message
  | .ok payload => .result id payload
  | .error rejection => .error id rejection.fault rejection.description rejection.details

/-- A call of a peer that the executor is to answer. -/
structure Request where
  id : String
  command : String
  payload : Json

/-- What an executor is told of a call besides the command and its payload. -/
structure CallContext where
  /-- What kind of peer calls. -/
  variant : Variant
  key : Key
  /-- The identifier that the answer will carry. -/
  messageId : String
  /-- What the directory knows of the caller. -/
  identity : Identity
  deriving DecidableEq, Repr

end StationHub
