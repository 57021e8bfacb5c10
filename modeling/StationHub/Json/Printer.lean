import StationHub.Json.Reader
import StationHub.Binary64.Shortest
import StationHub.Text.Quoted

/-!
The compact JSON text of a value: no spaces, fields in the order of the object, and only quotes,
backslashes and control characters escaped.
-/

namespace StationHub.Json

/-- The form of one character inside a string. -/
def escapedChar (c : Char) : List Char :=
  match c with
  | '"' => ['\\', '"']
  | '\\' => ['\\', '\\']
  | '\x08' => ['\\', 'b']
  | '\x0c' => ['\\', 'f']
  | '\n' => ['\\', 'n']
  | '\r' => ['\\', 'r']
  | '\t' => ['\\', 't']
  | _ =>
      if c.toNat < 0x20 then
        ['\\', 'u', '0', '0', Text.hexDigit (c.toNat / 16), Text.hexDigit c.toNat]
      else [c]

/-- A string between quotes. -/
def renderString (value : String) : List Char :=
  ['"'] ++ value.toList.flatMap escapedChar ++ ['"']

/-- The decimal text of a whole number. -/
def renderInt (n : Int) : List Char :=
  if n < 0 then '-' :: Nat.toDigits 10 n.natAbs else Nat.toDigits 10 n.natAbs

mutual

/-- The compact text of a value. -/
def render : Json → List Char
  | null => "null".toList
  | bool true => "true".toList
  | bool false => "false".toList
  | int n => renderInt n
  | real x => x.render
  | str value => renderString value
  | arr items => ['['] ++ renderItems items ++ [']']
  | obj fields => ['\x7b'] ++ renderFields fields ++ ['\x7d']

/-- The items of an array with commas between them. -/
def renderItems : List Json → List Char
  | [] => []
  | [item] => render item
  | item :: next :: rest => render item ++ [','] ++ renderItems (next :: rest)

/-- The fields of an object with commas between them. -/
def renderFields : List (String × Json) → List Char
  | [] => []
  | [(name, value)] => renderString name ++ [':'] ++ render value
  | (name, value) :: next :: rest =>
      renderString name ++ [':'] ++ render value ++ [','] ++ renderFields (next :: rest)

end

/-- The compact text of a value. -/
def toText (value : Json) : String := String.ofList value.render

end StationHub.Json
