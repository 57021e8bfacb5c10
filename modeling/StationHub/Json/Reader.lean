import StationHub.Json.Number
import StationHub.Text.Percent

/-!
Reading JSON texts. The grammar is that of RFC 8259 without extensions: no byte order mark, no
trailing comma, no control characters in strings, surrogates only in pairs. At most
`greatestDepth` arrays and objects may be open at once.
-/

namespace StationHub.Json

open Text (hexValue?)

/-- How many arrays and objects a text may open at once. -/
def greatestDepth : Nat := 127

/-- Space, tab, line feed and carriage return, which may stand between tokens. -/
def isSpace (c : Char) : Bool := c == ' ' || c == '\t' || c == '\n' || c == '\r'

/-- `chars` from the first character that is not a space on. -/
def skipSpace (chars : List Char) : List Char := chars.dropWhile isSpace

/-! ### Strings -/

/-- The character that a backslash before `c` stands for, except for `u`. -/
def simpleEscape? (c : Char) : Option Char :=
  match c with
  | '"' => some '"'
  | '\\' => some '\\'
  | '/' => some '/'
  | 'b' => some '\x08'
  | 'f' => some '\x0c'
  | 'n' => some '\n'
  | 'r' => some '\r'
  | 't' => some '\t'
  | _ => none

/-- The number written by four hexadecimal digits. -/
def quad? (a b c d : Char) : Option Nat := do
  return 4096 * (← hexValue? a) + 256 * (← hexValue? b) + 16 * (← hexValue? c) + (← hexValue? d)

/-- The first half of a pair that stands for one character. -/
def isHighSurrogate (n : Nat) : Bool := 0xd800 ≤ n && n < 0xdc00

/-- The second half of such a pair. -/
def isLowSurrogate (n : Nat) : Bool := 0xdc00 ≤ n && n < 0xe000

/-- The character of a pair of surrogates. -/
def ofSurrogates (high low : Nat) : Char :=
  Char.ofNat (0x10000 + 1024 * (high - 0xd800) + (low - 0xdc00))

/-- The characters of a string and what follows it; `chars` starts after the opening quote. -/
def readString : List Char → Option (List Char × List Char)
  | [] => none
  | '"' :: rest => some ([], rest)
  | '\\' :: 'u' :: a :: b :: c :: d :: rest =>
      match quad? a b c d with
      | none => none
      | some high =>
          if isHighSurrogate high then
            match rest with
            | '\\' :: 'u' :: e :: f :: g :: h :: rest =>
                match quad? e f g h with
                | none => none
                | some low =>
                    if isLowSurrogate low then
                      (readString rest).map fun (chars, rest) =>
                        (ofSurrogates high low :: chars, rest)
                    else none
            | _ => none
          else if isLowSurrogate high then none
          else (readString rest).map fun (chars, rest) => (Char.ofNat high :: chars, rest)
  | '\\' :: e :: rest =>
      match simpleEscape? e with
      | none => none
      | some c => (readString rest).map fun (chars, rest) => (c :: chars, rest)
  | c :: rest =>
      if c == '\\' || c.toNat < 0x20 then none
      else (readString rest).map fun (chars, rest) => (c :: chars, rest)

/-! ### Numbers -/

/-- The values of the decimal digits at the front, and the rest. -/
def readDigits (chars : List Char) : List Nat × List Char :=
  ((chars.takeWhile Char.isDigit).map fun c => c.toNat - '0'.toNat, chars.dropWhile Char.isDigit)

/-- As `readDigits`, but there must be a digit. -/
def readSomeDigits? (chars : List Char) : Option (List Nat × List Char) :=
  match readDigits chars with
  | ([], _) => none
  | read => some read

/-- A fraction, if a point follows; the point must be followed by a digit. -/
def readFraction? : List Char → Option (Option (List Nat) × List Char)
  | '.' :: rest => (readSomeDigits? rest).map fun (digits, rest) => (some digits, rest)
  | chars => some (none, chars)

/-- An exponent, if an `e` follows; it must hold a digit. -/
def readExponent? : List Char → Option (Option (Bool × List Nat) × List Char)
  | c :: rest =>
      if c == 'e' || c == 'E' then
        let (negative, rest) :=
          match rest with
          | '+' :: rest => (false, rest)
          | '-' :: rest => (true, rest)
          | rest => (false, rest)
        (readSomeDigits? rest).map fun (digits, rest) => (some (negative, digits), rest)
      else some (none, c :: rest)
  | [] => some (none, [])

/-- A number literal; a zero stands alone before the point. -/
def readNumber? (chars : List Char) : Option (NumberLiteral × List Char) := do
  let (negative, chars) :=
    match chars with
    | '-' :: rest => (true, rest)
    | chars => (false, chars)
  let (whole, chars) ←
    match chars with
    | '0' :: rest => some ([0], rest)
    | chars => readSomeDigits? chars
  let (fraction, chars) ← readFraction? chars
  let (exponent, chars) ← readExponent? chars
  return (⟨negative, whole, fraction, exponent⟩, chars)

/-! ### Values

`fuel` bounds the number of values and separators still to be read; `depth` is how many more
arrays and objects may be opened. -/

mutual

/-- A value and what follows it; `chars` may start with space. -/
def readValue (fuel depth : Nat) (chars : List Char) : Option (Json × List Char) :=
  match fuel with
  | 0 => none
  | fuel + 1 =>
      match skipSpace chars with
      | 'n' :: 'u' :: 'l' :: 'l' :: rest => some (null, rest)
      | 't' :: 'r' :: 'u' :: 'e' :: rest => some (bool true, rest)
      | 'f' :: 'a' :: 'l' :: 's' :: 'e' :: rest => some (bool false, rest)
      | '"' :: rest => (readString rest).map fun (chars, rest) => (str (String.ofList chars), rest)
      | '[' :: rest =>
          match depth with
          | 0 => none
          | depth + 1 =>
              match skipSpace rest with
              | ']' :: rest => some (arr [], rest)
              | rest => (readItems fuel depth rest).map fun (items, rest) => (arr items, rest)
      | '\x7b' :: rest =>
          match depth with
          | 0 => none
          | depth + 1 =>
              match skipSpace rest with
              | '\x7d' :: rest => some (obj [], rest)
              | rest =>
                  (readFields fuel depth rest).map fun (fields, rest) => (ofFields fields, rest)
      | chars =>
          match readNumber? chars with
          | none => none
          | some (literal, rest) => literal.value?.map fun value => (value, rest)

/-- The items of an array that has at least one, and what follows its closing bracket. -/
def readItems (fuel depth : Nat) (chars : List Char) : Option (List Json × List Char) :=
  match fuel with
  | 0 => none
  | fuel + 1 =>
      match readValue fuel depth chars with
      | none => none
      | some (item, rest) =>
          match skipSpace rest with
          | ',' :: rest =>
              (readItems fuel depth rest).map fun (items, rest) => (item :: items, rest)
          | ']' :: rest => some ([item], rest)
          | _ => none

/-- The fields of an object that has at least one, as written, and what follows its closing
brace. -/
def readFields (fuel depth : Nat) (chars : List Char) :
    Option (List (String × Json) × List Char) :=
  match fuel with
  | 0 => none
  | fuel + 1 =>
      match skipSpace chars with
      | '"' :: rest =>
          match readString rest with
          | none => none
          | some (name, rest) =>
              match skipSpace rest with
              | ':' :: rest =>
                  match readValue fuel depth rest with
                  | none => none
                  | some (value, rest) =>
                      let field := (String.ofList name, value)
                      match skipSpace rest with
                      | ',' :: rest =>
                          (readFields fuel depth rest).map fun (fields, rest) =>
                            (field :: fields, rest)
                      | '\x7d' :: rest => some ([field], rest)
                      | _ => none
              | _ => none
      | _ => none

end

/-- The value that `text` is the JSON form of, with space around it allowed. Every value and every
separator takes a character, so twice the length is enough fuel. -/
def ofText? (text : String) : Option Json :=
  let chars := text.toList
  match readValue (2 * chars.length + 2) greatestDepth chars with
  | some (value, rest) => if (skipSpace rest).isEmpty then some value else none
  | none => none

end StationHub.Json
