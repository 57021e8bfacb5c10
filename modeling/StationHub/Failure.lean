import StationHub.Identity
import StationHub.Message

/-!
What can go wrong, by cause, and the words in which it is reported.
-/

namespace StationHub

/-- Why an operation failed. -/
inductive Failure where
  /-- The settings are invalid or incomplete. -/
  | settings (message : String)
  /-- An upgrade was refused. -/
  | handshake (message : String)
  /-- The directory does not know the tenant. -/
  | unknownTenant (tenant : String)
  /-- The directory does not know the device. -/
  | unknownDevice (tenant device : String)
  /-- The token does not admit the device. -/
  | invalidToken (tenant device : String)
  /-- The directory failed in another way. -/
  | resolution (message : String)
  /-- The transport failed. -/
  | transport (message : String)
  /-- The connection is closed. -/
  | closed
  /-- The outbound queue took no more. -/
  | dropped
  /-- Nobody is registered under the key. -/
  | noSession (key : Key)
  /-- A message was malformed. -/
  | malformed (message : String)
  /-- A message starts with the number of no kind. -/
  | unknownKind (number : Nat)
  /-- An answer names no pending call. -/
  | unknownId (id : String)
  /-- The peer answered a call with an error. -/
  | refused (fault : Fault) (description : String) (details : Json)
  /-- The peer did not answer a call in time. -/
  | timedOut (id command : String) (ms : Nat)
  /-- As many calls are pending as may be. -/
  | tooMany (pending most : Nat)
  /-- A file or socket failed. -/
  | io
  /-- A text is not JSON, or not of the expected form. -/
  | json
  /-- The web socket failed. -/
  | webSocket
  /-- A text is not TOML, or not of the expected form. -/
  | toml
  deriving Repr

namespace Failure

/-- The words for a failure. Those that report what a format or the system found have no wording
of their own. -/
def message : Failure → Option String
  | settings message => some ("Configuration error: " ++ message)
  | handshake message => some ("Handshake rejected: " ++ message)
  | unknownTenant tenant => some ("Unknown tenant: " ++ tenant)
  | unknownDevice tenant device =>
      some ("Unknown device: tenant=" ++ tenant ++ ", device=" ++ device)
  | invalidToken tenant device => some ("Invalid token: tenant=" ++ tenant ++ ", device=" ++ device)
  | resolution message => some ("Resolution failed: " ++ message)
  | transport message => some ("Connection failed: " ++ message)
  | closed => some "Connection closed"
  | dropped => some "Frame dropped: outbound queue full"
  | noSession key => some ("Session not found: " ++ key.text)
  | malformed message => some ("Protocol error: " ++ message)
  | unknownKind number => some ("Unknown message type: " ++ toString number)
  | unknownId id => some ("Unknown message id: " ++ id)
  | refused fault description _ => some ("Call error " ++ fault.name ++ ": " ++ description)
  | timedOut id command ms =>
      some ("Request " ++ id ++ " (" ++ command ++ ") timed out after " ++ toString ms ++ "ms")
  | tooMany pending most =>
      some ("Too many pending requests: " ++ toString pending ++ "/" ++ toString most)
  | io | json | webSocket | toml => none

/-! ### Families of failures -/

/-- A call was not answered in time. -/
def isTimeout : Failure → Bool
  | timedOut .. => true
  | _ => false

/-- The connection failed or refused to send. -/
def isConnection : Failure → Bool
  | transport _ | closed | dropped | webSocket => true
  | _ => false

/-- The directory did not identify the peer. -/
def isResolution : Failure → Bool
  | unknownTenant _ | unknownDevice .. | invalidToken .. | resolution _ => true
  | _ => false

/-- The peer broke the protocol; its message is dropped and the connection kept. -/
def isProtocol : Failure → Bool
  | malformed _ | unknownKind _ | unknownId _ | json => true
  | _ => false

end Failure

/-- The words for a malformed message, except where the text is not JSON or the kind unknown. -/
def Message.Malformation.failure : Message.Malformation → Failure
  | notText => .malformed "binary frame is not UTF-8"
  | notJson => .json
  | notArray => .malformed "frame is not a JSON array"
  | noKind => .malformed "missing or non-numeric message type"
  | unknownKind number => .unknownKind number
  | noId => .malformed "missing or non-string message id"
  | noCommand id => .malformed ("CALL " ++ id ++ ": missing command")
  | noFault id => .malformed ("CALL_ERROR " ++ id ++ ": missing error code")

/-- Whatever is wrong with a message, the peer broke the protocol. -/
theorem Message.Malformation.isProtocol_failure (m : Message.Malformation) :
    m.failure.isProtocol = true := by
  cases m <;> rfl

end StationHub
