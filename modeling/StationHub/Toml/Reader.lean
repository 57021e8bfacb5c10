import StationHub.Toml.Scalar

/-!
Reading TOML documents, line by line. A header opens a table for the keys that follow; what each
key and header may add to the tree is decided by `StationHub.Toml`.
-/

namespace StationHub.Toml

/-- How deep arrays and inline tables may be nested, and how many parts a key may have. -/
def greatestDepth : Nat := 80

/-! ### Blanks, comments and line ends -/

/-- `chars` from the first character that is not a blank on. -/
def skipBlanks (chars : List Char) : List Char := chars.dropWhile isBlank

/-- What follows a comment, which ends before the line does. -/
def skipComment? : List Char → Option (List Char)
  | '#' :: rest =>
      let after := rest.dropWhile fun c => !isControl c
      match after with
      | [] => some []
      | '\n' :: _ => some after
      | '\r' :: '\n' :: _ => some after
      | _ => none
  | chars => some chars

/-- What follows the end of a line, before which a comment may stand. -/
def skipLineEnd? (chars : List Char) : Option (List Char) :=
  match skipComment? (skipBlanks chars) with
  | some [] => some []
  | some ('\n' :: rest) => some rest
  | some ('\r' :: '\n' :: rest) => some rest
  | _ => none

/-- What follows blanks, comments and line ends, which may stand between the items of an array;
`fuel` bounds the number of lines. -/
def skipLines? : (fuel : Nat) → List Char → Option (List Char)
  | 0, _ => none
  | fuel + 1, chars =>
      match skipBlanks chars with
      | '\n' :: rest => skipLines? fuel rest
      | '\r' :: '\n' :: rest => skipLines? fuel rest
      | '#' :: rest => (skipComment? ('#' :: rest)).bind (skipLines? fuel)
      | rest => some rest

/-! ### Keys -/

/-- A character of a key without quotes. -/
def isKeyChar (c : Char) : Bool := c.isAlphanum || c == '_' || c == '-'

/-- One part of a key. -/
def readKeyPart? (chars : List Char) : Option (String × List Char) :=
  match chars with
  | '"' :: _ => readLineString? chars
  | '\'' :: _ => readLineString? chars
  | _ =>
      let part := chars.takeWhile isKeyChar
      if part.isEmpty then none else some (String.ofList part, chars.dropWhile isKeyChar)

/-- The parts of a key of at most `limit` parts, with points and blanks between them. -/
def readParts? : (limit : Nat) → List Char → Option (List String × List Char)
  | 0, _ => none
  | limit + 1, chars => do
      let (part, rest) ← readKeyPart? (skipBlanks chars)
      match skipBlanks rest with
      | '.' :: rest => do
          let (parts, rest) ← readParts? limit rest
          return (part :: parts, rest)
      | rest => return ([part], rest)

/-- The parts of the key at the front. -/
def readKey? (chars : List Char) : Option (List String × List Char) :=
  readParts? greatestDepth chars

/-- The parts of a key but the last, and the last. -/
def splitKey? (parts : List String) : Option (List String × String) :=
  parts.getLast?.map fun last => (parts.dropLast, last)

/-- The key at the front of an entry of an inline table, and what follows its equals sign. Lines may
end on either side of the sign. -/
def readInlineKey? (chars : List Char) : Option (List String × List Char) := do
  let (parts, rest) ← readKey? chars
  match ← skipLines? (rest.length + 1) rest with
  | '=' :: rest =>
      let rest ← skipLines? (rest.length + 1) rest
      return (parts, rest)
  | _ => none

/-! ### Values

`fuel` bounds the number of values and separators still to be read, `depth` the arrays and inline
tables still to be opened. -/

mutual

/-- The value at the front. -/
def readValue? (fuel depth : Nat) (chars : List Char) : Option (Toml × List Char) :=
  match fuel with
  | 0 => none
  | fuel + 1 =>
      match chars with
      | '"' :: _ => (readString? chars).map fun (value, rest) => (text value, rest)
      | '\'' :: _ => (readString? chars).map fun (value, rest) => (text value, rest)
      | '[' :: rest =>
          match depth with
          | 0 => none
          | depth + 1 =>
              (readItems? fuel depth rest).map fun (items, rest) => (array false items, rest)
      | '\x7b' :: rest =>
          match depth with
          | 0 => none
          | depth + 1 =>
              (readEntries? fuel depth [] rest).map fun (entries, rest) =>
                (table .inline entries, rest)
      | _ =>
          let (word, rest) := readWord chars
          (ofWord? word).map fun value => (value, rest)

/-- The items of an array up to its closing bracket. -/
def readItems? (fuel depth : Nat) (chars : List Char) : Option (List Toml × List Char) :=
  match fuel with
  | 0 => none
  | fuel + 1 =>
      match skipLines? (chars.length + 1) chars with
      | none => none
      | some (']' :: rest) => some ([], rest)
      | some rest =>
          match readValue? fuel depth rest with
          | none => none
          | some (item, rest) =>
              match skipLines? (rest.length + 1) rest with
              | some (',' :: rest) =>
                  (readItems? fuel depth rest).map fun (items, rest) => (item :: items, rest)
              | some (']' :: rest) => some ([item], rest)
              | _ => none

/-- The entries of an inline table up to its closing brace, added to `entries`. -/
def readEntries? (fuel depth : Nat) (entries : Entries) (chars : List Char) :
    Option (Entries × List Char) :=
  match fuel with
  | 0 => none
  | fuel + 1 =>
      match skipLines? (chars.length + 1) chars with
      | none => none
      | some ('\x7d' :: rest) => some (entries, rest)
      | some rest =>
          match readInlineKey? rest with
          | some (parts, rest) =>
              match readValue? fuel depth rest, splitKey? parts with
              | some (value, rest), some (path, key) =>
                  match addDotted .header path key value entries with
                  | none => none
                  | some entries =>
                      match skipLines? (rest.length + 1) rest with
                      | some (',' :: rest) => readEntries? fuel depth entries rest
                      | some ('\x7d' :: rest) => some (entries, rest)
                      | _ => none
              | _, _ => none
          | _ => none

end

/-! ### Documents -/

/-- A document that is read up to some line: its entries, and the table that keys go to. -/
structure Partial where
  entries : Entries
  opened : List String

/-- The header at the front, after its first bracket. -/
def readHeader? (document : Partial) (chars : List Char) : Option (Partial × List Char) := do
  let (ofItems, chars) :=
    match chars with
    | '[' :: rest => (true, rest)
    | chars => (false, chars)
  let (parts, chars) ← readKey? chars
  let (path, key) ← splitKey? parts
  let chars ← readMark? ']' chars
  let chars ← if ofItems then readMark? ']' chars else some chars
  let entries ←
    if ofItems then openItem path key document.entries else openTable path key document.entries
  return (⟨entries, parts⟩, chars)

/-- The key and value at the front. -/
def readPair? (document : Partial) (chars : List Char) : Option (Partial × List Char) := do
  let (parts, chars) ← readKey? chars
  let (path, key) ← splitKey? parts
  let chars ← readMark? '=' chars
  let (value, chars) ← readValue? (2 * chars.length + 2) greatestDepth (skipBlanks chars)
  let entries ←
    changeOpened (addDotted .header path key value) document.opened document.entries
  return ({ document with entries }, chars)

/-- The document that the lines add up to; `fuel` bounds their number. -/
def readDocument? : (fuel : Nat) → Partial → List Char → Option Partial
  | 0, _, _ => none
  | fuel + 1, document, chars =>
      match skipBlanks chars with
      | [] => some document
      | '\n' :: rest => readDocument? fuel document rest
      | '\r' :: '\n' :: rest => readDocument? fuel document rest
      | '#' :: rest =>
          match skipComment? ('#' :: rest) with
          | none => none
          | some rest => readDocument? fuel document rest
      | '[' :: rest =>
          match readHeader? document rest with
          | none => none
          | some (document, rest) =>
              match skipLineEnd? rest with
              | none => none
              | some rest => readDocument? fuel document rest
      | chars =>
          match readPair? document chars with
          | none => none
          | some (document, rest) =>
              match skipLineEnd? rest with
              | none => none
              | some rest => readDocument? fuel document rest

/-- The entries of the document that `text` is. A byte order mark may come first. -/
def ofText? (text : String) : Option Entries :=
  let chars :=
    match text.toList with
    | '\ufeff' :: rest => rest
    | chars => chars
  (readDocument? (chars.length + 2) ⟨[], []⟩ chars).map (·.entries)

end StationHub.Toml
