import StationHub.Json.Printer
import StationHub.Message.Fault

/-!
The messages that peers exchange: calls, and the results or errors that answer them. A message is
written as a JSON array that starts with the number of its kind and the identifier that ties an
answer to its call.
-/

namespace StationHub

/-- The kind of a message. -/
inductive Message.Kind where
  | call
  | result
  | error
  deriving DecidableEq, Repr

/-- The number at the start of a message of this kind. -/
def Message.Kind.number : Message.Kind → Nat
  | call => 2
  | result => 3
  | error => 4

/-- The kind that `number` stands for. -/
def Message.Kind.ofNumber? : Nat → Option Message.Kind
  | 2 => some call
  | 3 => some result
  | 4 => some error
  | _ => none

/-- A message. -/
inductive Message where
  /-- A request to run `command`. -/
  | call (id command : String) (payload : Json)
  /-- The answer of a call that succeeded. -/
  | result (id : String) (payload : Json)
  /-- The answer of a call that failed. -/
  | error (id : String) (fault : Fault) (description : String) (details : Json)
  deriving Repr

namespace Message

/-- The kind of the message. -/
def kind : Message → Kind
  | call .. => .call
  | result .. => .result
  | error .. => .error

/-- The identifier of the call that the message makes or answers. -/
def id : Message → String
  | call id .. => id
  | result id .. => id
  | error id .. => id

/-- Equality, with payloads compared as JSON values. -/
def beq : Message → Message → Bool
  | call i c p, call j d q => i == j && c == d && p == q
  | result i p, result j q => i == j && p == q
  | error i f s p, error j g t q => i == j && f == g && s == t && p == q
  | _, _ => false

instance : BEq Message := ⟨beq⟩

/-! ### Writing -/

/-- The JSON array of a message. -/
def toJson (message : Message) : Json :=
  let head : List Json := [.int message.kind.number, .str message.id]
  .arr (head ++
    match message with
    | call _ command payload => [.str command, payload]
    | result _ payload => [payload]
    | error _ fault description details => [.str fault.name, .str description, details])

/-- The text of a message. -/
def encode (message : Message) : String := message.toJson.toText

/-! ### Reading -/

/-- Why something that was received is not a message. -/
inductive Malformation where
  /-- The bytes are not UTF-8. -/
  | notText
  /-- The text is not JSON. -/
  | notJson
  /-- The value is not an array. -/
  | notArray
  /-- The array does not start with a number of a kind. -/
  | noKind
  /-- The number at the start is that of no kind. -/
  | unknownKind (number : Nat)
  /-- The second item is not an identifier. -/
  | noId
  /-- The third item of a call is not a command. -/
  | noCommand (id : String)
  /-- The third item of an error is not the name of a fault. -/
  | noFault (id : String)
  deriving DecidableEq, Repr

/-- The description of an error message: a string as it is, nothing or `null` as the empty text,
any other value as its JSON text. -/
def descriptionOf : Option Json → String
  | none => ""
  | some .null => ""
  | some (.str description) => description
  | some other => other.toText

/-- The message of the given kind and identifier whose fields are `fields`. Missing payloads and
details are filled in, and surplus fields ignored. -/
def ofFields? (kind : Kind) (id : String) (fields : List Json) : Except Malformation Message :=
  match kind, fields with
  | .call, .str command :: rest => .ok (.call id command (rest.head?.getD .emptyObject))
  | .call, _ => .error (.noCommand id)
  | .result, fields => .ok (.result id (fields.head?.getD .null))
  | .error, .str name :: rest =>
      .ok (.error id (Fault.ofName name) (descriptionOf rest.head?)
        (rest.tail.head?.getD .emptyObject))
  | .error, _ => .error (.noFault id)

/-- The message that a JSON value stands for. -/
def ofJson? : Json → Except Malformation Message
  | .arr items =>
      match items.head?.bind Json.natural? with
      | none => .error .noKind
      | some number =>
          match Kind.ofNumber? number with
          | none => .error (.unknownKind number)
          | some kind =>
              match items.tail with
              | .str id :: fields => ofFields? kind id fields
              | _ => .error .noId
  | _ => .error .notArray

/-- The message that `text` is the form of. -/
def decode (text : String) : Except Malformation Message :=
  match Json.ofText? text with
  | none => .error .notJson
  | some value => ofJson? value

/-- The message that `bytes` are the UTF-8 form of. -/
def decodeBytes (bytes : List UInt8) : Except Malformation Message :=
  match Text.ofUtf8? bytes with
  | none => .error .notText
  | some text => decode text

theorem Kind.ofNumber?_number (kind : Kind) : ofNumber? kind.number = some kind := by
  cases kind <;> rfl

theorem Kind.ofNumber?_eq_some_iff {number : Nat} {kind : Kind} :
    ofNumber? number = some kind ↔ number = kind.number := by
  refine ⟨fun h => ?_, fun h => h ▸ ofNumber?_number kind⟩
  unfold ofNumber? at h
  split at h <;> cases h <;> rfl

end Message

end StationHub
