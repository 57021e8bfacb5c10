/-!
White space at the ends of a text: the Unicode property `White_Space`, which also holds the
no-break and ideographic spaces.
-/

namespace StationHub.Text

/-- `c` is white space in the sense of Unicode. -/
def isBlank (c : Char) : Bool :=
  let n := c.toNat
  (0x09 ≤ n && n ≤ 0x0d) || n == 0x20 || n == 0x85 || n == 0xa0 || n == 0x1680 ||
    (0x2000 ≤ n && n ≤ 0x200a) || n == 0x2028 || n == 0x2029 || n == 0x202f || n == 0x205f ||
    n == 0x3000

/-- `chars` without the white space at either end. -/
def trimmed (chars : List Char) : List Char :=
  ((chars.dropWhile isBlank).reverse.dropWhile isBlank).reverse

/-- The parts of `chars` between the occurrences of `separator`; there is always one more part
than there are separators. -/
def split (separator : Char) : List Char → List (List Char)
  | [] => [[]]
  | c :: rest =>
      match c == separator, split separator rest with
      | true, parts => [] :: parts
      | false, part :: parts => (c :: part) :: parts
      | false, [] => [[c]]

/-- `chars` without `start`, if `chars` begins with it. -/
def dropStart? : List Char → List Char → Option (List Char)
  | [], chars => some chars
  | _ :: _, [] => none
  | s :: start, c :: chars => if s = c then dropStart? start chars else none

theorem isBlank_of_isWhitespace (c : Char) (h : c.isWhitespace = true) : isBlank c = true := by
  simp only [Char.isWhitespace, Bool.or_eq_true, decide_eq_true_eq] at h
  rcases h with ((h | h) | h) | h <;> subst h <;> decide

theorem split_ne_nil (separator : Char) (chars : List Char) : split separator chars ≠ [] := by
  cases chars with
  | nil => simp [split]
  | cons c rest =>
    rw [split]
    split <;> simp

theorem dropStart?_append (start chars : List Char) :
    dropStart? start (start ++ chars) = some chars := by
  induction start with
  | nil => rfl
  | cons s start ih => simp [dropStart?, ih]

theorem dropStart?_eq_some_iff {start chars rest : List Char} :
    dropStart? start chars = some rest ↔ chars = start ++ rest := by
  induction start generalizing chars with
  | nil => simp [dropStart?, eq_comm]
  | cons s start ih =>
    cases chars with
    | nil => simp [dropStart?]
    | cons c chars =>
      by_cases h : s = c
      · simp [dropStart?, h, ih]
      · simp [dropStart?, h, eq_comm]

end StationHub.Text
