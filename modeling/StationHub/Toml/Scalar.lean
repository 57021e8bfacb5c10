import StationHub.Toml
import StationHub.Binary64
import StationHub.Text.Percent

/-!
TOML values without parts: strings in their four forms, whole numbers in four bases, numbers with a
fraction, and dates and times.
-/

namespace StationHub.Toml

/-! ### Strings -/

/-- A character that may not stand in a text: any control character but the tab. -/
def isControl (c : Char) : Bool := (c.toNat < 0x20 && c != '\t') || c.toNat == 0x7f

/-- The character with the code point written by hexadecimal digits. -/
def ofHex? (digits : List Char) : Option Char := do
  let values ← digits.mapM Text.hexValue?
  let n := values.foldl (fun n d => 16 * n + d) 0
  if n < 0xd800 ∨ (0xdfff < n ∧ n < 0x110000) then return Char.ofNat n else none

/-- The character that an escape stands for, read after its backslash. -/
def readEscape? : List Char → Option (Char × List Char)
  | 'b' :: rest => some ('\x08', rest)
  | 't' :: rest => some ('\t', rest)
  | 'n' :: rest => some ('\n', rest)
  | 'f' :: rest => some ('\x0c', rest)
  | 'r' :: rest => some ('\r', rest)
  | 'e' :: rest => some ('\x1b', rest)
  | '"' :: rest => some ('"', rest)
  | '\\' :: rest => some ('\\', rest)
  | 'x' :: a :: b :: rest => (ofHex? [a, b]).map fun c => (c, rest)
  | 'u' :: a :: b :: c :: d :: rest => (ofHex? [a, b, c, d]).map fun c => (c, rest)
  | 'U' :: a :: b :: c :: d :: e :: f :: g :: h :: rest =>
      (ofHex? [a, b, c, d, e, f, g, h]).map fun c => (c, rest)
  | _ => none

/-- A blank within a line. -/
def isBlank (c : Char) : Bool := c == ' ' || c == '\t'

/-- The rest of a string between single quotes. -/
def readLiteral? : List Char → Option (List Char × List Char)
  | [] => none
  | '\'' :: rest => some ([], rest)
  | c :: rest =>
      if isControl c then none else (readLiteral? rest).map fun (cs, rest) => (c :: cs, rest)

/-- The rest of a string between double quotes; `fuel` bounds its length. -/
def readBasic? : (fuel : Nat) → List Char → Option (List Char × List Char)
  | 0, _ => none
  | _ + 1, '"' :: rest => some ([], rest)
  | fuel + 1, '\\' :: rest => do
      let (c, rest) ← readEscape? rest
      let (cs, rest) ← readBasic? fuel rest
      return (c :: cs, rest)
  | fuel + 1, c :: rest =>
      if isControl c then none else (readBasic? fuel rest).map fun (cs, rest) => (c :: cs, rest)
  | _ + 1, [] => none

/-- The end of a string of several lines: three quotes, before which up to two more belong to the
string. -/
def readClosing? (quote : Char) (chars : List Char) : Option (List Char × List Char) :=
  let quotes := chars.takeWhile (· == quote)
  if quotes.length < 3 then none
  else
    let extra := min (quotes.length - 3) 2
    some (List.replicate extra quote, chars.drop (extra + 3))

/-- The rest of a string of several lines between single quotes. Its line ends stay as they are
written. -/
def readLiteralLines? : (fuel : Nat) → List Char → Option (List Char × List Char)
  | 0, _ => none
  | _ + 1, [] => none
  | fuel + 1, c :: rest =>
      match readClosing? '\'' (c :: rest), c, rest with
      | some closing, _, _ => some closing
      | none, '\r', '\n' :: rest =>
          (readLiteralLines? fuel rest).map fun (cs, rest) => ('\r' :: '\n' :: cs, rest)
      | none, c, rest =>
          if isControl c && c != '\n' then none
          else (readLiteralLines? fuel rest).map fun (cs, rest) => (c :: cs, rest)

/-- `chars` from the first character on that is neither a blank nor part of a line end. -/
def skipEmptyLines : List Char → List Char
  | ' ' :: rest => skipEmptyLines rest
  | '\t' :: rest => skipEmptyLines rest
  | '\n' :: rest => skipEmptyLines rest
  | '\r' :: '\n' :: rest => skipEmptyLines rest
  | chars => chars

/-- What follows a backslash at the end of a line: the blanks and line ends after it are left
out. -/
def skipFold? (chars : List Char) : Option (List Char) :=
  match chars.dropWhile isBlank with
  | '\n' :: rest => some (skipEmptyLines rest)
  | '\r' :: '\n' :: rest => some (skipEmptyLines rest)
  | _ => none

/-- The rest of a string of several lines between double quotes. Line ends that no backslash folds
stay as they are written. -/
def readBasicLines? : (fuel : Nat) → List Char → Option (List Char × List Char)
  | 0, _ => none
  | _ + 1, [] => none
  | fuel + 1, c :: rest =>
      match readClosing? '"' (c :: rest), c, rest with
      | some closing, _, _ => some closing
      | none, '\\', rest =>
          match skipFold? rest with
          | some rest => readBasicLines? fuel rest
          | none => do
              let (c, rest) ← readEscape? rest
              let (cs, rest) ← readBasicLines? fuel rest
              return (c :: cs, rest)
      | none, '\r', '\n' :: rest =>
          (readBasicLines? fuel rest).map fun (cs, rest) => ('\r' :: '\n' :: cs, rest)
      | none, c, rest =>
          if isControl c && c != '\n' then none
          else (readBasicLines? fuel rest).map fun (cs, rest) => (c :: cs, rest)

/-- A line end directly after the opening quotes is left out. -/
def skipFirstLineEnd : List Char → List Char
  | '\n' :: rest => rest
  | '\r' :: '\n' :: rest => rest
  | rest => rest

/-- The string on one line at the front, of either form. -/
def readLineString? : List Char → Option (String × List Char)
  | '"' :: rest =>
      (readBasic? (rest.length + 1) rest).map fun (cs, rest) => (String.ofList cs, rest)
  | '\'' :: rest => (readLiteral? rest).map fun (cs, rest) => (String.ofList cs, rest)
  | _ => none

/-- The string at the front, of any form. -/
def readString? : List Char → Option (String × List Char)
  | '"' :: '"' :: '"' :: rest =>
      (readBasicLines? (rest.length + 1) (skipFirstLineEnd rest)).map fun (cs, rest) =>
        (String.ofList cs, rest)
  | '\'' :: '\'' :: '\'' :: rest =>
      (readLiteralLines? (rest.length + 1) (skipFirstLineEnd rest)).map fun (cs, rest) =>
        (String.ofList cs, rest)
  | chars => readLineString? chars

/-! ### Numbers -/

/-- The digits of a numeral in which single underscores may stand between digits. -/
def digits? (isDigit : Char → Bool) : List Char → Option (List Char)
  | [] => none
  | [c] => if isDigit c then some [c] else none
  | c :: '_' :: rest => if isDigit c then (digits? isDigit rest).map (c :: ·) else none
  | c :: rest => if isDigit c then (digits? isDigit rest).map (c :: ·) else none

/-- The number that digits of base `radix` stand for. -/
def valueOf (radix : Nat) (digits : List Char) : Nat :=
  digits.foldl (fun n c => radix * n + (Text.hexValue? c).getD 0) 0

/-- A digit of base `radix`. -/
def isDigitOf (radix : Nat) (c : Char) : Bool := (Text.hexValue? c).any (· < radix)

/-- A decimal numeral without needless zeros at its start. -/
def decimal? (chars : List Char) : Option Nat :=
  match digits? (isDigitOf 10) chars with
  | some ('0' :: _ :: _) => none
  | some digits => some (valueOf 10 digits)
  | none => none

/-- The sign at the front, `true` for minus, and the rest. -/
def readSign : List Char → Bool × List Char
  | '+' :: rest => (false, rest)
  | '-' :: rest => (true, rest)
  | rest => (false, rest)

/-- The whole number that a word is. Only decimal numerals may have a sign. -/
def whole? : List Char → Option Int
  | '0' :: 'x' :: rest => (digits? (isDigitOf 16) rest).map fun digits => (valueOf 16 digits : Int)
  | '0' :: 'o' :: rest => (digits? (isDigitOf 8) rest).map fun digits => (valueOf 8 digits : Int)
  | '0' :: 'b' :: rest => (digits? (isDigitOf 2) rest).map fun digits => (valueOf 2 digits : Int)
  | chars =>
      let (negative, rest) := readSign chars
      (decimal? rest).map fun n => if negative then -(n : Int) else n

/-- The least and the greatest whole number that a document may hold are the bounds of 128 bits,
with and without a sign. -/
def fitsWhole (n : Int) : Bool := decide (-(Nat.pow 2 127 : Int) ≤ n ∧ n < Nat.pow 2 128)

/-- `n · 10 ^ exponent` is not too large for binary64, where `n` has at most `digits` digits. -/
def fitsBinary64 (n digits : Nat) (exponent : Int) : Bool :=
  if n = 0 ∨ exponent + digits ≤ 308 then true
  else if 309 < exponent + (Nat.toDigits 10 n).length then false
  else if 0 ≤ exponent then (Binary64.ofNat? false (n * Nat.pow 10 exponent.toNat)).isSome
  else (Binary64.nearest false n (Nat.pow 10 exponent.natAbs)).isSome

/-- The digits of a fraction with the point before them, or none at all. -/
def fractionDigits? : List Char → Option (List Char)
  | [] => some []
  | _ :: digits => digits? (isDigitOf 10) digits

/-- The exponent with the letter before it, or none at all. -/
def exponent? : List Char → Option Int
  | [] => some 0
  | _ :: chars =>
      let (negative, rest) := readSign chars
      (digits? (isDigitOf 10) rest).map fun digits =>
        if negative then -(valueOf 10 digits : Int) else valueOf 10 digits

/-- The word is a number with a fraction or an exponent that is not too large, an infinity or not a
number. -/
def isFraction (word : List Char) : Bool :=
  let (_, rest) := readSign word
  if rest == "inf".toList || rest == "nan".toList then true
  else
    let isExponent (c : Char) : Bool := c == 'e' || c == 'E'
    let mantissa := rest.takeWhile fun c => !isExponent c
    let exponentPart := rest.dropWhile fun c => !isExponent c
    let wholePart := mantissa.takeWhile (· != '.')
    let fractionPart := mantissa.dropWhile (· != '.')
    match decimal? wholePart, fractionDigits? fractionPart, exponent? exponentPart with
    | some n, some digits, some exponent =>
        !(fractionPart.isEmpty && exponentPart.isEmpty) &&
          fitsBinary64 (n * Nat.pow 10 digits.length + valueOf 10 digits)
            (wholePart.length + digits.length) (exponent - digits.length)
    | _, _, _ => false

/-! ### Dates and times -/

/-- A number of exactly `count` decimal digits at the front. -/
def readFixed? (count : Nat) (chars : List Char) : Option (Nat × List Char) :=
  let digits := chars.take count
  if digits.length == count && digits.all (isDigitOf 10) then
    some (valueOf 10 digits, chars.drop count)
  else none

/-- The rest of the text after `c`. -/
def readMark? (c : Char) : List Char → Option (List Char)
  | d :: rest => if d = c then some rest else none
  | [] => none

/-- The number of days of a month. -/
def daysOf (year month : Nat) : Nat :=
  if month = 2 then
    if year % 4 = 0 ∧ (year % 100 ≠ 0 ∨ year % 400 = 0) then 29 else 28
  else if month = 4 ∨ month = 6 ∨ month = 9 ∨ month = 11 then 30
  else 31

/-- What follows a date. -/
def skipDate? (chars : List Char) : Option (List Char) := do
  let (year, chars) ← readFixed? 4 chars
  let (month, chars) ← readFixed? 2 (← readMark? '-' chars)
  let (day, chars) ← readFixed? 2 (← readMark? '-' chars)
  if 1 ≤ month ∧ month ≤ 12 ∧ 1 ≤ day ∧ day ≤ daysOf year month then return chars else none

/-- What follows the seconds and their fraction, both of which may be missing. -/
def skipSeconds? : List Char → Option (List Char)
  | ':' :: chars => do
      let (second, chars) ← readFixed? 2 chars
      if 60 < second then none
      match chars with
      | '.' :: rest =>
          if (rest.takeWhile (isDigitOf 10)).isEmpty then none
          else return rest.dropWhile (isDigitOf 10)
      | chars => return chars
  | chars => some chars

/-- What follows a time of day. -/
def skipTime? (chars : List Char) : Option (List Char) := do
  let (hour, chars) ← readFixed? 2 chars
  let (minute, chars) ← readFixed? 2 (← readMark? ':' chars)
  if 23 < hour ∨ 59 < minute then none
  skipSeconds? chars

/-- What follows an offset from universal time, which may be missing. -/
def skipOffset? : List Char → Option (List Char)
  | 'Z' :: rest => some rest
  | 'z' :: rest => some rest
  | c :: rest =>
      if c == '+' || c == '-' then do
        let (hour, rest) ← readFixed? 2 rest
        let (minute, rest) ← readFixed? 2 (← readMark? ':' rest)
        if 23 < hour ∨ 59 < minute then none else return rest
      else some (c :: rest)
  | [] => some []

/-- The word is a date. -/
def isDate (word : List Char) : Bool := skipDate? word == some []

/-- The word is a date, a time of day, or both with or without an offset. -/
def isTime (word : List Char) : Bool :=
  match skipDate? word with
  | some [] => true
  | some (c :: rest) =>
      (c == 'T' || c == 't' || c == ' ') &&
        ((skipTime? rest).bind skipOffset?) == some []
  | none => skipTime? word == some []

/-- A character of a word that stands for a number, a truth value or a time. -/
def isWordChar (c : Char) : Bool :=
  c.isAlphanum || c == '_' || c == '+' || c == '-' || c == '.' || c == ':'

/-- The value that a word stands for. -/
def ofWord? (word : List Char) : Option Toml :=
  if word == "true".toList then some (flag true)
  else if word == "false".toList then some (flag false)
  else
    match whole? word with
    | some n => if fitsWhole n then some (whole n) else none
    | none =>
        if isFraction word then some fraction
        else if isTime word then some time
        else none

/-- The word at the front and the rest. A date may be followed by a blank and a time. -/
def readWord (chars : List Char) : List Char × List Char :=
  let word := chars.takeWhile isWordChar
  let rest := chars.dropWhile isWordChar
  match rest with
  | ' ' :: d :: more =>
      if isDate word && d.isDigit then
        (word ++ ' ' :: (d :: more).takeWhile isWordChar, (d :: more).dropWhile isWordChar)
      else (word, rest)
  | _ => (word, rest)

/-! ### Samples -/

example : isFraction "1.7976931348623157e308".toList = true := by decide +kernel
example : isFraction "1.7976931348623159e308".toList = false := by decide +kernel
example : isFraction "-1e400".toList = false := by decide +kernel
example : isFraction "0e999999999999".toList = true := by decide +kernel

end StationHub.Toml
