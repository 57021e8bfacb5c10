import StationHub.Text.Printable
import StationHub.Text.Combining

/-!
Texts as they are quoted inside messages: between double quotes, with every character that a
reader could not see or could not tell from its neighbour written as an escape.
-/

namespace StationHub.Text

/-- The digits of `n` in base sixteen, in lower case and without leading zeros. -/
def hexDigits (n : Nat) : List Char := Nat.toDigits 16 n

/-- The form of one character inside double quotes. Apostrophes stand for themselves. -/
def quotedChar (c : Char) : List Char :=
  match c with
  | '"' => ['\\', '"']
  | '\\' => ['\\', '\\']
  | '\n' => ['\\', 'n']
  | '\r' => ['\\', 'r']
  | '\t' => ['\\', 't']
  | '\x00' => ['\\', '0']
  | _ =>
      if isPrintable c && !isCombining c then [c]
      else ['\\', 'u', '\x7b'] ++ hexDigits c.toNat ++ ['\x7d']

/-- `text` between double quotes, ready to stand inside a message. -/
def quoted (text : String) : String :=
  String.ofList (['"'] ++ text.toList.flatMap quotedChar ++ ['"'])

/-! ### Samples -/

example : quotedChar 'a' = ['a'] := by decide +kernel
example : quotedChar '\x01' = ['\\', 'u', '\x7b', '1', '\x7d'] := by decide +kernel

end StationHub.Text
