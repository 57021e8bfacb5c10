import StationHub.Text.Percent

/-!
Socket addresses: an IPv4 address such as `127.0.0.1:80`, or an IPv6 address in brackets such as
`[fe80::1%3]:80`. Reading accepts every usual form; writing gives the canonical one, in which the
first of the longest runs of zero groups is shortened.
-/

namespace StationHub

/-- The address and port of a socket. -/
inductive Address where
  /-- Four octets and a port. -/
  | v4 (octets : List Nat) (port : Nat)
  /-- Eight groups of 16 bits, a scope (`0` for none) and a port. -/
  | v6 (groups : List Nat) (scope port : Nat)
  deriving DecidableEq, Repr

namespace Address

/-! ### Reading

Each reader takes what it reads off the front of the text. -/

/-- The value of a digit in base `radix`. -/
def digit? (radix : Nat) (c : Char) : Option Nat :=
  match Text.hexValue? c with
  | some value => if value < radix then some value else none
  | none => none

/-- The digits at the front, by value, and the rest. -/
def readDigits (radix : Nat) : List Char → List Nat × List Char
  | [] => ([], [])
  | c :: rest =>
      match digit? radix c with
      | some value => (value :: (readDigits radix rest).1, (readDigits radix rest).2)
      | none => ([], c :: rest)

/-- A number of at most `bound`, written with at most `most` digits if that is given. Unless
`zeros`, a leading zero must stand alone. -/
def readNumber? (radix : Nat) (most : Option Nat) (zeros : Bool) (bound : Nat)
    (chars : List Char) : Option (Nat × List Char) :=
  let (digits, rest) := readDigits radix chars
  let value := digits.foldl (fun n d => radix * n + d) 0
  if digits.isEmpty || most.any (· < digits.length) || bound < value ||
      (!zeros && digits.head? == some 0 && 1 < digits.length) then none
  else some (value, rest)

/-- The rest of the text after `c`. -/
def readChar? (c : Char) : List Char → Option (List Char)
  | d :: rest => if d = c then some rest else none
  | [] => none

/-- `count` octets with points between them; a point comes first unless `first`. -/
def readOctets? (first : Bool) : Nat → List Char → Option (List Nat × List Char)
  | 0, chars => some ([], chars)
  | count + 1, chars => do
      let chars ← if first then some chars else readChar? '.' chars
      let (octet, chars) ← readNumber? 10 (some 3) false 255 chars
      let (octets, chars) ← readOctets? false count chars
      return (octet :: octets, chars)

/-- At most `limit` groups with colons between them; a colon comes first unless `first`. The last
two groups may be written as an IPv4 address, which the flag tells. -/
def readGroups (first : Bool) : Nat → List Char → (List Nat × Bool) × List Char
  | 0, chars => (([], false), chars)
  | limit + 1, chars =>
      let start := if first then some chars else readChar? ':' chars
      let embedded :=
        if limit = 0 then none else start.bind (readOctets? true 4)
      match embedded with
      | some ([a, b, c, d], rest) => (([256 * a + b, 256 * c + d], true), rest)
      | _ =>
          match start.bind (readNumber? 16 (some 4) true 0xffff) with
          | none => (([], false), chars)
          | some (group, rest) =>
              let ((groups, mapped), rest) := readGroups false limit rest
              ((group :: groups, mapped), rest)

/-- The eight groups of an IPv6 address, of which `::` may leave out a run of zeros. -/
def readV6? (chars : List Char) : Option (List Nat × List Char) := do
  let ((head, mapped), chars) := readGroups true 8 chars
  if head.length = 8 then return (head, chars)
  if mapped then none
  let chars ← readChar? ':' chars
  let chars ← readChar? ':' chars
  let ((tail, _), chars) := readGroups true (7 - head.length) chars
  return (head ++ List.replicate (8 - head.length - tail.length) 0 ++ tail, chars)

/-- A colon and a port. -/
def readPort? (chars : List Char) : Option (Nat × List Char) := do
  readNumber? 10 none true 0xffff (← readChar? ':' chars)

/-- A percent sign and a scope, or no scope. -/
def readScope (chars : List Char) : Nat × List Char :=
  ((readChar? '%' chars).bind (readNumber? 10 none true 0xffffffff)).getD (0, chars)

/-- The IPv4 address and port at the front. -/
def readV4Socket? (chars : List Char) : Option (Address × List Char) := do
  let (octets, chars) ← readOctets? true 4 chars
  let (port, chars) ← readPort? chars
  return (v4 octets port, chars)

/-- The bracketed IPv6 address and port at the front. -/
def readV6Socket? (chars : List Char) : Option (Address × List Char) := do
  let chars ← readChar? '[' chars
  let (groups, chars) ← readV6? chars
  let (scope, chars) := readScope chars
  let chars ← readChar? ']' chars
  let (port, chars) ← readPort? chars
  return (v6 groups scope port, chars)

/-- The address that `text` is a form of. -/
def ofText? (text : String) : Option Address :=
  match (readV4Socket? text.toList).orElse fun _ => readV6Socket? text.toList with
  | some (address, []) => some address
  | _ => none

/-! ### Writing -/

/-- The texts with `separator` between them. -/
def joined (separator : String) (texts : List String) : String :=
  String.intercalate separator texts

/-- Hexadecimal groups with colons between them. -/
def groupsText (groups : List Nat) : String :=
  joined ":" (groups.map fun group => String.ofList (Nat.toDigits 16 group))

/-- The number of zeros at the front. -/
def leadingZeros (groups : List Nat) : Nat := (groups.takeWhile (· == 0)).length

/-- The place and length of the first of the longest runs of zeros. -/
def longestZeros (groups : List Nat) : Nat × Nat :=
  (List.range groups.length).foldl (fun best start =>
    let length := leadingZeros (groups.drop start)
    if best.2 < length then (start, length) else best) (0, 0)

/-- The canonical text of the IP address. -/
def hostText : Address → String
  | v4 octets _ => joined "." (octets.map toString)
  | v6 groups _ _ =>
      match groups with
      | [0, 0, 0, 0, 0, 0xffff, a, b] =>
          "::ffff:" ++ joined "." ([a / 256, a % 256, b / 256, b % 256].map toString)
      | _ =>
          let (start, length) := longestZeros groups
          if 1 < length then
            groupsText (groups.take start) ++ "::" ++ groupsText (groups.drop (start + length))
          else groupsText groups

/-- The canonical text of the address. -/
def text (address : Address) : String :=
  match address with
  | v4 _ port => address.hostText ++ ":" ++ toString port
  | v6 _ scope port =>
      let scopeText := if scope = 0 then "" else "%" ++ toString scope
      "[" ++ address.hostText ++ scopeText ++ "]:" ++ toString port

/-- The port. -/
def port : Address → Nat
  | v4 _ port => port
  | v6 _ _ port => port

/-- The address with another port. -/
def withPort (port : Nat) : Address → Address
  | v4 octets _ => v4 octets port
  | v6 groups scope _ => v6 groups scope port

/-- Every interface: all octets or groups are zero. -/
def isUnspecified : Address → Bool
  | v4 octets _ => octets.all (· == 0)
  | v6 groups _ _ => groups.all (· == 0)

/-! ### Samples -/

example : (ofText? "1.2.3.4:080").map text = some "1.2.3.4:80" := by cbv
example : (ofText? "[2001:DB8:0:0:1:0:0:1]:1").map text = some "[2001:db8::1:0:0:1]:1" := by cbv
example : (ofText? "01.2.3.4:80") = none := by cbv

end Address

end StationHub
