import Mathlib.Data.List.TakeWhile
import StationHub.Json.Reader

/-!
The grammar of JSON texts, and the tokens of it that are read.

* `Tree`: what a text says, its numbers still literals and its fields in the order written.
* `Spells`, `IsText`: the grammar of RFC 8259, without reference to a reader.
* `readString_of_spells`, `readNumber?_of_spells`: what the grammar allows for a string or a number
  is read; `spells_of_readString`, `spells_of_readNumber?`: nothing else is.
-/

namespace StationHub.Json

/-! ### Trees -/

/-- What a text says, before its numbers are valued and its fields sorted. -/
inductive Tree where
  | null
  | bool (value : Bool)
  | number (literal : NumberLiteral)
  | str (value : String)
  | arr (items : List Tree)
  | obj (fields : List (String × Tree))

namespace Tree

mutual

/-- The value of a tree, if each of its numbers has one. -/
def value? : Tree → Option Json
  | null => some .null
  | bool value => some (.bool value)
  | number literal => literal.value?
  | str value => some (.str value)
  | arr items => (values? items).map .arr
  | obj fields => (fieldValues? fields).map ofFields

def values? : List Tree → Option (List Json)
  | [] => some []
  | item :: rest => (value? item).bind fun value => (values? rest).map (value :: ·)

def fieldValues? : List (String × Tree) → Option (List (String × Json))
  | [] => some []
  | (name, item) :: rest =>
      (value? item).bind fun value => (fieldValues? rest).map ((name, value) :: ·)

end

mutual

/-- How many arrays and objects are open at the deepest point of the text. -/
def depth : Tree → Nat
  | arr items => depthList items + 1
  | obj fields => depthFields fields + 1
  | _ => 0

def depthList : List Tree → Nat
  | [] => 0
  | item :: rest => max (depth item) (depthList rest)

def depthFields : List (String × Tree) → Nat
  | [] => 0
  | (_, item) :: rest => max (depth item) (depthFields rest)

end

mutual

/-- The numbers of a tree. -/
def literals : Tree → List NumberLiteral
  | number literal => [literal]
  | arr items => literalsList items
  | obj fields => literalsFields fields
  | _ => []

def literalsList : List Tree → List NumberLiteral
  | [] => []
  | item :: rest => literals item ++ literalsList rest

def literalsFields : List (String × Tree) → List NumberLiteral
  | [] => []
  | (_, item) :: rest => literals item ++ literalsFields rest

end

mutual

/-- A tree has no value exactly if one of its numbers has none. -/
theorem value?_eq_none_iff : ∀ tree : Tree,
    tree.value? = none ↔ ∃ literal ∈ tree.literals, literal.value? = none
  | null | bool _ | str _ => by simp [value?, literals]
  | number literal => by simp [value?, literals]
  | arr items => by simp [value?, literals, values?_eq_none_iff items]
  | obj fields => by simp [value?, literals, fieldValues?_eq_none_iff fields]

theorem values?_eq_none_iff : ∀ items : List Tree,
    values? items = none ↔ ∃ literal ∈ literalsList items, literal.value? = none
  | [] => by simp [values?, literalsList]
  | item :: rest => by
      have first := value?_eq_none_iff item
      have others := values?_eq_none_iff rest
      cases found : item.value? with
      | none => simp_all [values?, literalsList, or_and_right, exists_or]
      | some value => simp_all [values?, literalsList, or_and_right, exists_or]

theorem fieldValues?_eq_none_iff : ∀ fields : List (String × Tree),
    fieldValues? fields = none ↔ ∃ literal ∈ literalsFields fields, literal.value? = none
  | [] => by simp [fieldValues?, literalsFields]
  | (name, item) :: rest => by
      have first := value?_eq_none_iff item
      have others := fieldValues?_eq_none_iff rest
      cases found : item.value? with
      | none => simp_all [fieldValues?, literalsFields, or_and_right, exists_or]
      | some value => simp_all [fieldValues?, literalsFields, or_and_right, exists_or]

end

end Tree

/-! ### The grammar -/

/-- All of `gap` is space that may stand between tokens. -/
def IsGap (gap : List Char) : Prop := ∀ c ∈ gap, isSpace c = true

/-- `chars` are the decimal digits `digits`, of which there is at least one. -/
structure SpellsDigits (chars : List Char) (digits : List Nat) : Prop where
  some : chars ≠ []
  all : ∀ c ∈ chars, c.isDigit = true
  values : digits = chars.map fun c => c.toNat - '0'.toNat

/-- The digits before the point: only zero starts with a zero. -/
inductive SpellsWhole : List Char → List Nat → Prop
  | zero : SpellsWhole ['0'] [0]
  | other {chars digits} : SpellsDigits chars digits → chars.head? ≠ some '0' →
      SpellsWhole chars digits

inductive SpellsFraction : List Char → Option (List Nat) → Prop
  | none : SpellsFraction [] none
  | some {chars digits} : SpellsDigits chars digits → SpellsFraction ('.' :: chars) (some digits)

/-- How the sign of an exponent may be written; `true` for a negative one. -/
inductive SpellsSign : List Char → Bool → Prop
  | none : SpellsSign [] false
  | plus : SpellsSign ['+'] false
  | minus : SpellsSign ['-'] true

inductive SpellsExponent : List Char → Option (Bool × List Nat) → Prop
  | none : SpellsExponent [] none
  | some {mark sign chars negative digits} : mark = 'e' ∨ mark = 'E' → SpellsSign sign negative →
      SpellsDigits chars digits → SpellsExponent (mark :: (sign ++ chars)) (some (negative, digits))

inductive SpellsNumber : List Char → NumberLiteral → Prop
  | mk {whole fraction exponent negative digits decimals power} : SpellsWhole whole digits →
      SpellsFraction fraction decimals → SpellsExponent exponent power →
      SpellsNumber ((if negative then ['-'] else []) ++ (whole ++ (fraction ++ exponent)))
        ⟨negative, digits, decimals, power⟩

/-- `written` stands for the characters `chars` between the quotes of a string. -/
inductive SpellsChars : List Char → List Char → Prop
  | nil : SpellsChars [] []
  /-- A character stands for itself. -/
  | plain {c written chars} : c ≠ '"' → c ≠ '\\' → 0x20 ≤ c.toNat → SpellsChars written chars →
      SpellsChars (c :: written) (c :: chars)
  | escape {e c written chars} : simpleEscape? e = some c → SpellsChars written chars →
      SpellsChars ('\\' :: e :: written) (c :: chars)
  | unit {a b c d n written chars} : quad? a b c d = some n → isHighSurrogate n = false →
      isLowSurrogate n = false → SpellsChars written chars →
      SpellsChars ('\\' :: 'u' :: a :: b :: c :: d :: written) (Char.ofNat n :: chars)
  /-- A character beyond the first plane is written as two units. -/
  | pair {a b c d e f g h high low written chars} : quad? a b c d = some high →
      isHighSurrogate high = true → quad? e f g h = some low → isLowSurrogate low = true →
      SpellsChars written chars →
      SpellsChars ('\\' :: 'u' :: a :: b :: c :: d :: '\\' :: 'u' :: e :: f :: g :: h :: written)
        (ofSurrogates high low :: chars)

mutual

/-- `chars` spells the tree, with no space around it. -/
inductive Spells : List Char → Tree → Prop
  | null : Spells ['n', 'u', 'l', 'l'] .null
  | yes : Spells ['t', 'r', 'u', 'e'] (.bool true)
  | no : Spells ['f', 'a', 'l', 's', 'e'] (.bool false)
  | number {chars literal} : SpellsNumber chars literal → Spells chars (.number literal)
  | str {written chars} : SpellsChars written chars →
      Spells ('"' :: (written ++ ['"'])) (.str (String.ofList chars))
  | emptyArr {gap} : IsGap gap → Spells ('[' :: (gap ++ [']'])) (.arr [])
  | arr {chars items} : SpellsItems chars items → Spells ('[' :: (chars ++ [']'])) (.arr items)
  | emptyObj {gap} : IsGap gap → Spells ('\x7b' :: (gap ++ ['\x7d'])) (.obj [])
  | obj {chars fields} : SpellsFields chars fields →
      Spells ('\x7b' :: (chars ++ ['\x7d'])) (.obj fields)

/-- The items of an array that has at least one. -/
inductive SpellsItems : List Char → List Tree → Prop
  | last {before chars after item} : IsGap before → Spells chars item → IsGap after →
      SpellsItems (before ++ (chars ++ after)) [item]
  | more {before chars after item rest items} : IsGap before → Spells chars item → IsGap after →
      SpellsItems rest items →
      SpellsItems (before ++ (chars ++ (after ++ ',' :: rest))) (item :: items)

/-- A field of an object, with the space around it. -/
inductive SpellsField : List Char → String × Tree → Prop
  | mk {first written second third chars fourth name item} : IsGap first →
      SpellsChars written name → IsGap second → IsGap third → Spells chars item → IsGap fourth →
      SpellsField
        (first ++ '"' :: (written ++ '"' :: (second ++ ':' :: (third ++ (chars ++ fourth)))))
        (String.ofList name, item)

/-- The fields of an object that has at least one. -/
inductive SpellsFields : List Char → List (String × Tree) → Prop
  | last {chars field} : SpellsField chars field → SpellsFields chars [field]
  | more {chars field rest fields} : SpellsField chars field → SpellsFields rest fields →
      SpellsFields (chars ++ ',' :: rest) (field :: fields)

end

/-- `text` is JSON and says `tree`. -/
def IsText (text : String) (tree : Tree) : Prop :=
  ∃ before chars after, text.toList = before ++ (chars ++ after) ∧ IsGap before ∧ IsGap after ∧
    Spells chars tree

/-! ### Strings -/

/-- What is written for characters is read as them, up to the closing quote. -/
theorem readString_of_spells {written chars : List Char} (spells : SpellsChars written chars)
    (rest : List Char) : readString (written ++ '"' :: rest) = some (chars, rest) := by
  induction spells with
  | nil => rfl
  | plain quote backslash visible _ ih =>
      rw [List.cons_append, readString]
      · simp [ih, backslash]
        omega
      · exact quote
      · intros; simp_all
      · intros; simp_all
  | @escape e c written chars found _ ih =>
      have other : e ≠ 'u' := by
        rintro rfl
        cases found
      rw [List.cons_append, List.cons_append, readString]
      · simp [found, ih]
      · intros; simp_all
  | unit found notHigh notLow _ ih =>
      simp only [List.cons_append]
      rw [readString]
      simp [found, notHigh, notLow, ih]
  | pair foundHigh isHigh foundLow isLow _ ih =>
      simp only [List.cons_append]
      rw [readString]
      simp [foundHigh, isHigh, foundLow, isLow, ih]

/-- Whatever is read as the rest of a string is written by the rules. -/
theorem spells_of_readString {text chars rest : List Char}
    (read : readString text = some (chars, rest)) :
    ∃ written, text = written ++ '"' :: rest ∧ SpellsChars written chars := by
  fun_induction readString text generalizing chars rest with
  | case1 | case3 | case4 | case6 | case7 | case8 | case10 | case12 => cases read
  | case2 =>
      cases read
      exact ⟨[], rfl, .nil⟩
  | case5 a b c d high foundHigh isHigh e f g h rest low foundLow isLow ih =>
      obtain ⟨_, within, same⟩ := Option.map_eq_some_iff.mp read
      cases same
      obtain ⟨written, rfl, spells⟩ := ih within
      exact ⟨_ :: _ :: _ :: _ :: _ :: _ :: _ :: _ :: _ :: _ :: _ :: _ :: written, rfl,
        .pair foundHigh isHigh foundLow isLow spells⟩
  | case9 a b c d rest n found notHigh notLow ih =>
      obtain ⟨_, within, same⟩ := Option.map_eq_some_iff.mp read
      cases same
      obtain ⟨written, rfl, spells⟩ := ih within
      exact ⟨_ :: _ :: _ :: _ :: _ :: _ :: written, rfl,
        .unit found (Bool.eq_false_iff.mpr notHigh) (Bool.eq_false_iff.mpr notLow) spells⟩
  | case11 e rest _ c found ih =>
      obtain ⟨_, within, same⟩ := Option.map_eq_some_iff.mp read
      cases same
      obtain ⟨written, rfl, spells⟩ := ih within
      exact ⟨_ :: _ :: written, rfl, .escape found spells⟩
  | case13 c rest quote _ _ plain ih =>
      obtain ⟨_, within, same⟩ := Option.map_eq_some_iff.mp read
      cases same
      obtain ⟨written, rfl, spells⟩ := ih within
      simp only [Bool.or_eq_true, beq_iff_eq, decide_eq_true_eq, not_or, Nat.not_lt] at plain
      exact ⟨_ :: written, rfl, .plain quote plain.1 plain.2 spells⟩

/-! ### Numbers -/

/-- What follows a number cannot be taken for a part of it. -/
def EndsNumber (rest : List Char) : Prop :=
  ∀ c ∈ rest.head?, c.isDigit = false ∧ c ≠ '.' ∧ c ≠ 'e' ∧ c ≠ 'E'

/-- Digits are read as far as they go. -/
theorem readDigits_append {digits rest : List Char} (all : ∀ c ∈ digits, c.isDigit = true)
    (ends : ∀ c ∈ rest.head?, c.isDigit = false) :
    readDigits (digits ++ rest) = (digits.map fun c => c.toNat - '0'.toNat, rest) := by
  have stops : rest.takeWhile Char.isDigit = [] ∧ rest.dropWhile Char.isDigit = rest := by
    cases rest with
    | nil => exact ⟨rfl, rfl⟩
    | cons c rest => simp [ends c rfl]
  rw [readDigits, List.takeWhile_append_of_pos all, List.dropWhile_append_of_pos all, stops.1,
    stops.2, List.append_nil]

/-- Digits are read if nothing that follows could be one of them. -/
theorem readSomeDigits?_of_spells {chars rest : List Char} {digits : List Nat}
    (spells : SpellsDigits chars digits) (ends : ∀ c ∈ rest.head?, c.isDigit = false) :
    readSomeDigits? (chars ++ rest) = some (digits, rest) := by
  obtain ⟨first, others, rfl⟩ := List.exists_cons_of_ne_nil spells.some
  rw [readSomeDigits?, readDigits_append spells.all ends, spells.values]
  rfl

theorem spells_of_readSomeDigits? {text rest : List Char} {digits : List Nat}
    (read : readSomeDigits? text = some (digits, rest)) :
    ∃ chars, text = chars ++ rest ∧ SpellsDigits chars digits := by
  unfold readSomeDigits? at read
  split at read
  · cases read
  · rename_i some
    rw [readDigits] at some read
    cases read
    refine ⟨text.takeWhile Char.isDigit, (List.takeWhile_append_dropWhile).symm, ?_, ?_, rfl⟩
    · intro none
      simp [none] at some
    · exact fun c member => List.mem_takeWhile_imp member

theorem readFraction?_of_spells {chars rest : List Char} {decimals : Option (List Nat)}
    (spells : SpellsFraction chars decimals)
    (ends : ∀ c ∈ rest.head?, c.isDigit = false ∧ c ≠ '.') :
    readFraction? (chars ++ rest) = some (decimals, rest) := by
  cases spells with
  | none =>
      rw [List.nil_append]
      unfold readFraction?
      split
      · exact absurd rfl (ends _ rfl).2
      · rfl
  | some digits =>
      rw [List.cons_append, readFraction?,
        readSomeDigits?_of_spells digits fun c first => (ends c first).1]
      rfl

theorem spells_of_readFraction? {text rest : List Char} {decimals : Option (List Nat)}
    (read : readFraction? text = some (decimals, rest)) :
    ∃ chars, text = chars ++ rest ∧ SpellsFraction chars decimals := by
  unfold readFraction? at read
  split at read
  · obtain ⟨_, within, same⟩ := Option.map_eq_some_iff.mp read
    cases same
    obtain ⟨chars, rfl, digits⟩ := spells_of_readSomeDigits? within
    exact ⟨'.' :: chars, rfl, .some digits⟩
  · cases read
    exact ⟨[], rfl, .none⟩

theorem readExponent?_of_spells {chars rest : List Char} {power : Option (Bool × List Nat)}
    (spells : SpellsExponent chars power) (ends : EndsNumber rest) :
    readExponent? (chars ++ rest) = some (power, rest) := by
  cases spells with
  | none =>
      cases rest with
      | nil => rfl
      | cons c rest =>
          obtain ⟨-, -, small, capital⟩ := ends c rfl
          simp [readExponent?, small, capital]
  | @some mark sign chars negative digits isMark isSign isDigits =>
      have marked : (mark == 'e' || mark == 'E') = true := by
        rcases isMark with rfl | rfl <;> rfl
      have read := readSomeDigits?_of_spells isDigits fun c first => (ends c first).1
      obtain ⟨first, others, rfl⟩ := List.exists_cons_of_ne_nil isDigits.some
      have digit := isDigits.all first List.mem_cons_self
      have plus : first ≠ '+' := by
        rintro rfl
        cases digit
      have minus : first ≠ '-' := by
        rintro rfl
        cases digit
      rw [List.cons_append] at read
      cases isSign <;> simp [readExponent?, marked, read, plus, minus]

theorem spells_of_readExponent? {text rest : List Char} {power : Option (Bool × List Nat)}
    (read : readExponent? text = some (power, rest)) :
    ∃ chars, text = chars ++ rest ∧ SpellsExponent chars power := by
  unfold readExponent? at read
  split at read
  · rename_i mark text
    split at read
    · rename_i marked
      simp only [Bool.or_eq_true, beq_iff_eq] at marked
      obtain ⟨_, within, same⟩ := Option.map_eq_some_iff.mp read
      cases same
      obtain ⟨chars, left, digits⟩ := spells_of_readSomeDigits? within
      split at left
      · cases left
        exact ⟨mark :: '+' :: chars, rfl, .some marked .plus digits⟩
      · cases left
        exact ⟨mark :: '-' :: chars, rfl, .some marked .minus digits⟩
      · cases left
        exact ⟨mark :: chars, rfl, .some marked .none digits⟩
    · cases read
      exact ⟨[], rfl, .none⟩
  · cases read
    exact ⟨[], rfl, .none⟩

/-- A number starts with a sign or a digit. -/
theorem SpellsNumber.starts {chars : List Char} {literal : NumberLiteral}
    (spells : SpellsNumber chars literal) :
    ∃ c rest, chars = c :: rest ∧ (c = '-' ∨ c.isDigit = true) := by
  obtain ⟨whole, -, -⟩ := spells
  rename_i negative _ _ _
  cases negative with
  | true => exact ⟨'-', _, rfl, .inl rfl⟩
  | false =>
      cases whole with
      | zero => exact ⟨'0', _, rfl, .inr rfl⟩
      | other digits _ =>
          obtain ⟨first, others, rfl⟩ := List.exists_cons_of_ne_nil digits.some
          exact ⟨first, _, rfl, .inr (digits.all first List.mem_cons_self)⟩

theorem readNumber?_of_spells {chars rest : List Char} {literal : NumberLiteral}
    (spells : SpellsNumber chars literal) (ends : EndsNumber rest) :
    readNumber? (chars ++ rest) = some (literal, rest) := by
  obtain ⟨isWhole, isFraction, isExponent⟩ := spells
  rename_i whole fraction exponent negative digits decimals power
  have third := readExponent?_of_spells isExponent ends
  -- An exponent is told apart by its mark, a fraction by its point.
  have marked : ∀ c ∈ (exponent ++ rest).head?, c.isDigit = false ∧ c ≠ '.' := by
    cases isExponent with
    | none => exact fun c first => ⟨(ends c first).1, (ends c first).2.1⟩
    | some isMark _ _ =>
        rintro c ⟨⟩
        rcases isMark with rfl | rfl <;> decide
  have second := readFraction?_of_spells isFraction marked
  have pointed : ∀ c ∈ (fraction ++ (exponent ++ rest)).head?, c.isDigit = false := by
    cases isFraction with
    | none => exact fun c first => (marked c first).1
    | some _ =>
        rintro c ⟨⟩
        rfl
  cases isWhole with
  | zero => cases negative <;> simp [readNumber?, second, third]
  | other isDigits noZero =>
      have first := readSomeDigits?_of_spells isDigits pointed
      obtain ⟨c, others, rfl⟩ := List.exists_cons_of_ne_nil isDigits.some
      have zero : c ≠ '0' := fun same => noZero (congrArg some same)
      have minus : c ≠ '-' := by
        rintro rfl
        exact absurd (isDigits.all _ List.mem_cons_self) (by decide)
      rw [List.cons_append] at first
      cases negative <;> simp [readNumber?, zero, minus, first, second, third]

/-- What is read after the digits before the point. -/
theorem spells_of_readFurther {whole text rest : List Char} {negative : Bool} {digits : List Nat}
    {literal : NumberLiteral} (isWhole : SpellsWhole whole digits)
    (read : (do
      let (fraction, chars) ← readFraction? text
      let (exponent, chars) ← readExponent? chars
      return ((⟨negative, digits, fraction, exponent⟩ : NumberLiteral), chars)) =
        some (literal, rest)) :
    ∃ chars, text = chars ++ rest ∧
      SpellsNumber ((if negative then ['-'] else []) ++ (whole ++ chars)) literal := by
  obtain ⟨⟨decimals, left⟩, second, read⟩ := Option.bind_eq_some_iff.mp read
  obtain ⟨⟨power, last⟩, third, same⟩ := Option.bind_eq_some_iff.mp read
  cases same
  obtain ⟨fraction, rfl, isFraction⟩ := spells_of_readFraction? second
  obtain ⟨exponent, rfl, isExponent⟩ := spells_of_readExponent? third
  exact ⟨fraction ++ exponent, (List.append_assoc ..).symm, .mk isWhole isFraction isExponent⟩

theorem spells_of_readNumber? {text rest : List Char} {literal : NumberLiteral}
    (read : readNumber? text = some (literal, rest)) :
    ∃ chars, text = chars ++ rest ∧ SpellsNumber chars literal := by
  unfold readNumber? at read
  split at read
  rename_i negative unsigned signed
  have sign : text = (if negative then ['-'] else []) ++ unsigned := by
    split at signed <;> cases signed <;> rfl
  subst sign
  split at read
  · obtain ⟨chars, rfl, spells⟩ := spells_of_readFurther .zero read
    exact ⟨_, by simp, spells⟩
  · rename_i noZero
    obtain ⟨⟨digits, left⟩, first, further⟩ := Option.bind_eq_some_iff.mp read
    obtain ⟨whole, rfl, isDigits⟩ := spells_of_readSomeDigits? first
    have notZero : whole.head? ≠ some '0' := by
      intro zero
      obtain ⟨others, rfl⟩ := List.head?_eq_some_iff.mp zero
      exact noZero _ rfl
    obtain ⟨chars, rfl, spells⟩ := spells_of_readFurther (.other isDigits notZero) further
    exact ⟨_, by simp, spells⟩

/-! ### Space -/

theorem skipSpace_cons {c : Char} (noSpace : isSpace c = false) (rest : List Char) :
    skipSpace (c :: rest) = c :: rest := by
  simp [skipSpace, noSpace]

theorem skipSpace_gap {gap : List Char} (isGap : IsGap gap) (chars : List Char) :
    skipSpace (gap ++ chars) = skipSpace chars := by
  rw [skipSpace, List.dropWhile_append_of_pos isGap, skipSpace]

theorem skipSpace_append {gap : List Char} (isGap : IsGap gap) {c : Char}
    (noSpace : isSpace c = false) (rest : List Char) :
    skipSpace (gap ++ c :: rest) = c :: rest := by
  rw [skipSpace_gap isGap, skipSpace_cons noSpace]

/-- What is skipped is space. -/
theorem exists_gap (chars : List Char) : ∃ gap, IsGap gap ∧ chars = gap ++ skipSpace chars :=
  ⟨chars.takeWhile isSpace, fun _ member => List.mem_takeWhile_imp member,
    (List.takeWhile_append_dropWhile).symm⟩

theorem skipSpace_skipSpace (chars : List Char) :
    skipSpace (skipSpace chars) = skipSpace chars := by
  obtain ⟨gap, isGap, same⟩ := exists_gap chars
  exact (skipSpace_gap isGap _).symm.trans (congrArg skipSpace same.symm)

theorem IsGap.append {gap other : List Char} (isGap : IsGap gap) (others : IsGap other) :
    IsGap (gap ++ other) :=
  List.forall_mem_append.mpr ⟨isGap, others⟩

theorem isGap_nil : IsGap [] := fun _ member => by cases member

theorem SpellsItems.pad {gap chars : List Char} {items : List Tree} (isGap : IsGap gap)
    (spells : SpellsItems chars items) : SpellsItems (gap ++ chars) items := by
  cases spells with
  | last before item after =>
      rw [← List.append_assoc]
      exact .last (isGap.append before) item after
  | more before item after rest =>
      rw [← List.append_assoc]
      exact .more (isGap.append before) item after rest

theorem SpellsField.pad {gap chars : List Char} {field : String × Tree} (isGap : IsGap gap)
    (spells : SpellsField chars field) : SpellsField (gap ++ chars) field := by
  cases spells with
  | mk first name second third item fourth =>
      rw [← List.append_assoc]
      exact .mk (isGap.append first) name second third item fourth

theorem SpellsFields.pad {gap chars : List Char} {fields : List (String × Tree)}
    (isGap : IsGap gap) (spells : SpellsFields chars fields) :
    SpellsFields (gap ++ chars) fields := by
  cases spells with
  | last field => exact .last (field.pad isGap)
  | more field rest =>
      rw [← List.append_assoc]
      exact .more (field.pad isGap) rest

section

variable (fuel bound : Nat) (chars : List Char)

@[simp] theorem readValue_skipSpace :
    readValue fuel bound (skipSpace chars) = readValue fuel bound chars := by
  cases fuel with
  | zero => rw [readValue, readValue]
  | succ fuel => rw [readValue.eq_def, readValue.eq_def]; simp only [skipSpace_skipSpace]

@[simp] theorem readItems_skipSpace :
    readItems fuel bound (skipSpace chars) = readItems fuel bound chars := by
  cases fuel with
  | zero => rw [readItems, readItems]
  | succ fuel => rw [readItems.eq_def, readItems.eq_def]; simp only [readValue_skipSpace]

@[simp] theorem readFields_skipSpace :
    readFields fuel bound (skipSpace chars) = readFields fuel bound chars := by
  cases fuel with
  | zero => rw [readFields, readFields]
  | succ fuel => rw [readFields.eq_def, readFields.eq_def]; simp only [skipSpace_skipSpace]

end

end StationHub.Json
