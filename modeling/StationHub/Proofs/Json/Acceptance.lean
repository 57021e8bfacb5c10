import StationHub.Proofs.Json.Grammar
import StationHub.Proofs.Json.Values

/-!
Exactly the texts of the grammar are read, as far as they keep to the bounds of the reader.

* `accepts`: with enough fuel, whatever is spelled within the bounds is read.
* `spells_of_reads`: whatever is read is spelled, within the bounds.
* `ofText?_eq_some_iff`: a text stands for a value exactly if it says a tree of that value that
  opens no more arrays and objects than a text may.
* `ofText?_eq_none_iff`: a text stands for nothing exactly if it is no JSON, opens too many arrays
  and objects, or has a number that is too large.
* `proper_of_ofText?`: whatever is read is proper and no deeper than a text may be.
-/

namespace StationHub.Json

/-! ### Around a value -/

/-- Neither a sign nor a digit is a space. -/
theorem isSpace_of_starts {c : Char} (starts : c = '-' ∨ c.isDigit = true) : isSpace c = false := by
  rcases starts with rfl | digit
  · decide
  · refine Bool.eq_false_iff.mpr fun space => ?_
    simp only [isSpace, Bool.or_eq_true, beq_iff_eq] at space
    rcases space with ((rfl | rfl) | rfl) | rfl <;> revert digit <;> decide

theorem endsNumber_cons {c : Char} (rest : List Char)
    (other : c.isDigit = false ∧ c ≠ '.' ∧ c ≠ 'e' ∧ c ≠ 'E') : EndsNumber (c :: rest) := by
  rintro d ⟨⟩
  exact other

/-- What a value may be followed by does not go on with a number. -/
theorem endsNumber_gap {gap : List Char} (isGap : IsGap gap) {rest : List Char}
    (ends : EndsNumber rest) : EndsNumber (gap ++ rest) := by
  cases gap with
  | nil => exact ends
  | cons c gap =>
      rintro d ⟨⟩
      have space := isGap c List.mem_cons_self
      simp only [isSpace, Bool.or_eq_true, beq_iff_eq] at space
      rcases space with ((rfl | rfl) | rfl) | rfl <;> decide

/-- What spells a value starts neither with space nor with a closing bracket. -/
theorem Spells.starts {chars : List Char} {tree : Tree} (spells : Spells chars tree) :
    ∃ c rest, chars = c :: rest ∧ isSpace c = false ∧ c ≠ ']' := by
  cases spells with
  | number number =>
      obtain ⟨c, rest, rfl, starts⟩ := number.starts
      refine ⟨c, rest, rfl, isSpace_of_starts starts, ?_⟩
      rintro rfl
      revert starts
      decide
  | null | yes | no | str _ | emptyArr _ | arr _ | emptyObj _ | obj _ =>
      exact ⟨_, _, rfl, by decide, by decide⟩

theorem Spells.length_pos {chars : List Char} {tree : Tree} (spells : Spells chars tree) :
    0 < chars.length := by
  obtain ⟨c, rest, rfl, -⟩ := spells.starts
  exact Nat.succ_pos _

theorem SpellsItems.starts {chars : List Char} {items : List Tree}
    (spells : SpellsItems chars items) (rest : List Char) :
    ∃ c more, skipSpace (chars ++ rest) = c :: more ∧ c ≠ ']' := by
  cases spells with
  | last before item after | more before item after others =>
      obtain ⟨c, further, rfl, noSpace, other⟩ := item.starts
      simp only [List.append_assoc, List.cons_append, skipSpace_append before noSpace]
      exact ⟨c, _, rfl, other⟩

theorem SpellsField.starts {chars : List Char} {field : String × Tree}
    (spells : SpellsField chars field) (rest : List Char) :
    ∃ more, skipSpace (chars ++ rest) = '"' :: more := by
  obtain ⟨first, -, -, -, -, -⟩ := spells
  exact ⟨_, by rw [List.append_assoc, List.cons_append, skipSpace_append first (by decide)]⟩

theorem SpellsFields.starts {chars : List Char} {fields : List (String × Tree)}
    (spells : SpellsFields chars fields) (rest : List Char) :
    ∃ more, skipSpace (chars ++ rest) = '"' :: more := by
  cases spells with
  | last field => exact field.starts rest
  | more field others =>
      rw [List.append_assoc]
      exact field.starts _

/-! ### Steps of the reader -/

section Steps

variable {fuel bound : Nat} {gap chars rest more left : List Char}

theorem readValue_gap (isGap : IsGap gap) (chars : List Char) :
    readValue fuel bound (gap ++ chars) = readValue fuel bound chars := by
  rw [← readValue_skipSpace, skipSpace_gap isGap, readValue_skipSpace]

/-- What starts with a sign or a digit is read as a number. -/
theorem readValue_number {c : Char} (starts : c = '-' ∨ c.isDigit = true) (fuel bound : Nat)
    (rest : List Char) :
    readValue (fuel + 1) bound (c :: rest) =
      match readNumber? (c :: rest) with
      | none => none
      | some (literal, rest) => literal.value?.map fun value => (value, rest) := by
  have other : ∀ {d : Char}, d ≠ '-' → d.isDigit = false → ∀ {chars}, c :: rest ≠ d :: chars := by
    intro d sign digit chars same
    cases same
    rcases starts with rfl | isDigit
    · exact sign rfl
    · rw [digit] at isDigit
      cases isDigit
  rw [readValue.eq_def]
  dsimp only
  rw [skipSpace_cons (isSpace_of_starts starts)]
  split
  · rename_i same
    exact absurd same (other (by decide) (by decide))
  · rename_i same
    exact absurd same (other (by decide) (by decide))
  · rename_i same
    exact absurd same (other (by decide) (by decide))
  · rename_i same
    exact absurd same (other (by decide) (by decide))
  · rename_i same
    exact absurd same (other (by decide) (by decide))
  · rename_i same
    exact absurd same (other (by decide) (by decide))
  · rfl

theorem readValue_quote :
    readValue (fuel + 1) bound ('"' :: chars) =
      (readString chars).map fun (chars, rest) => (str (String.ofList chars), rest) := by
  rw [readValue.eq_def]
  simp only [skipSpace_cons (c := '"') (by decide)]

theorem readValue_emptyArr (closes : skipSpace chars = ']' :: rest) :
    readValue (fuel + 1) (bound + 1) ('[' :: chars) = some (arr [], rest) := by
  rw [readValue.eq_def]
  simp only [skipSpace_cons (c := '[') (by decide), closes]

theorem readValue_arr {c : Char} (starts : skipSpace chars = c :: more) (other : c ≠ ']') :
    readValue (fuel + 1) (bound + 1) ('[' :: chars) =
      (readItems fuel bound chars).map fun (items, rest) => (arr items, rest) := by
  rw [readValue.eq_def]
  simp only [skipSpace_cons (c := '[') (by decide)]
  split
  · rename_i same
    rw [starts] at same
    cases same
    exact absurd rfl other
  · rw [readItems_skipSpace]

theorem readValue_emptyObj (closes : skipSpace chars = '\x7d' :: rest) :
    readValue (fuel + 1) (bound + 1) ('\x7b' :: chars) = some (obj [], rest) := by
  rw [readValue.eq_def]
  simp only [skipSpace_cons (c := '\x7b') (by decide), closes]

theorem readValue_obj (starts : skipSpace chars = '"' :: more) :
    readValue (fuel + 1) (bound + 1) ('\x7b' :: chars) =
      (readFields fuel bound chars).map fun (fields, rest) => (ofFields fields, rest) := by
  rw [readValue.eq_def]
  simp only [skipSpace_cons (c := '\x7b') (by decide)]
  split
  · rename_i same
    rw [starts] at same
    cases same
  · rw [readFields_skipSpace]

theorem readItems_last {item : Json} (read : readValue fuel bound chars = some (item, left))
    (closes : skipSpace left = ']' :: rest) :
    readItems (fuel + 1) bound chars = some ([item], rest) := by
  rw [readItems.eq_def]
  simp only [read, closes]

theorem readItems_more {item : Json} (read : readValue fuel bound chars = some (item, left))
    (goesOn : skipSpace left = ',' :: rest) :
    readItems (fuel + 1) bound chars =
      (readItems fuel bound rest).map fun (items, rest) => (item :: items, rest) := by
  rw [readItems.eq_def]
  simp only [read, goesOn]

/-- A field is read from `chars`, and `left` follows it. -/
inductive ReadsField (fuel bound : Nat) (chars left : List Char) : String × Json → Prop
  | mk {named name after valued item} : skipSpace chars = '"' :: named →
      readString named = some (name, after) → skipSpace after = ':' :: valued →
      readValue fuel bound valued = some (item, left) →
      ReadsField fuel bound chars left (String.ofList name, item)

theorem readFields_last {field : String × Json} (reads : ReadsField fuel bound chars left field)
    (closes : skipSpace left = '\x7d' :: rest) :
    readFields (fuel + 1) bound chars = some ([field], rest) := by
  obtain ⟨quote, name, colon, item⟩ := reads
  rw [readFields.eq_def]
  simp only [quote, name, colon, item, closes]

theorem readFields_more {field : String × Json} (reads : ReadsField fuel bound chars left field)
    (goesOn : skipSpace left = ',' :: rest) :
    readFields (fuel + 1) bound chars =
      (readFields fuel bound rest).map fun (fields, rest) => (field :: fields, rest) := by
  obtain ⟨quote, name, colon, item⟩ := reads
  rw [readFields.eq_def]
  simp only [quote, name, colon, item, goesOn]

end Steps

/-! ### What is spelled is read -/

/-- With `fuel`, whatever is spelled in few enough characters is read. Every value and every
separator takes a character, so that twice the length is enough. -/
structure Accepts (fuel : Nat) : Prop where
  value : ∀ {bound : Nat} {chars rest : List Char} {tree : Tree} {value : Json},
    Spells chars tree → tree.depth ≤ bound → tree.value? = some value →
    2 * chars.length ≤ fuel → EndsNumber rest →
    readValue fuel bound (chars ++ rest) = some (value, rest)
  items : ∀ {bound : Nat} {chars rest : List Char} {items : List Tree} {values : List Json},
    SpellsItems chars items → Tree.depthList items ≤ bound → Tree.values? items = some values →
    2 * chars.length < fuel → readItems fuel bound (chars ++ ']' :: rest) = some (values, rest)
  fields : ∀ {bound : Nat} {chars rest : List Char} {fields : List (String × Tree)}
      {values : List (String × Json)},
    SpellsFields chars fields → Tree.depthFields fields ≤ bound →
    Tree.fieldValues? fields = some values → 2 * chars.length < fuel →
    readFields fuel bound (chars ++ '\x7d' :: rest) = some (values, rest)

section Accepts

variable {fuel bound : Nat} {chars rest : List Char}

theorem readValue_of_spells (accepts : Accepts fuel) {tree : Tree} {value : Json}
    (spells : Spells chars tree) (shallow : tree.depth ≤ bound) (valued : tree.value? = some value)
    (enough : 2 * chars.length ≤ fuel + 1) (ends : EndsNumber rest) :
    readValue (fuel + 1) bound (chars ++ rest) = some (value, rest) := by
  cases spells with
  | null | yes | no =>
      cases valued
      rw [readValue.eq_def]
      rfl
  | number number =>
      obtain ⟨c, others, rfl, starts⟩ := number.starts
      rw [Tree.value?] at valued
      have read := readNumber?_of_spells number ends
      rw [List.cons_append] at read ⊢
      rw [readValue_number starts, read]
      simp only [valued, Option.map_some]
  | str written =>
      cases valued
      simp only [List.cons_append, List.append_assoc, List.nil_append]
      rw [readValue_quote, readString_of_spells written]
      rfl
  | emptyArr gap =>
      cases valued
      obtain ⟨bound, rfl⟩ := Nat.exists_eq_add_of_le' shallow
      simp only [List.cons_append, List.append_assoc, List.nil_append]
      exact readValue_emptyArr (skipSpace_append gap (by decide) rest)
  | @arr inner items spelled =>
      obtain ⟨values, inside, rfl⟩ := Option.map_eq_some_iff.mp valued
      obtain ⟨bound, rfl⟩ := Nat.exists_eq_add_of_le' (Nat.le_of_add_left_le shallow)
      obtain ⟨c, more, starts, other⟩ := spelled.starts (']' :: rest)
      simp only [List.length_cons, List.length_append, List.length_nil] at enough
      simp only [List.cons_append, List.append_assoc, List.nil_append]
      rw [readValue_arr starts other, accepts.items spelled (Nat.le_of_succ_le_succ shallow) inside
        (by omega)]
      rfl
  | emptyObj gap =>
      cases valued
      obtain ⟨bound, rfl⟩ := Nat.exists_eq_add_of_le' shallow
      simp only [List.cons_append, List.append_assoc, List.nil_append]
      exact readValue_emptyObj (skipSpace_append gap (by decide) rest)
  | obj spelled =>
      obtain ⟨values, inside, rfl⟩ := Option.map_eq_some_iff.mp valued
      obtain ⟨bound, rfl⟩ := Nat.exists_eq_add_of_le' (Nat.le_of_add_left_le shallow)
      obtain ⟨more, starts⟩ := spelled.starts ('\x7d' :: rest)
      simp only [List.length_cons, List.length_append, List.length_nil] at enough
      simp only [List.cons_append, List.append_assoc, List.nil_append]
      rw [readValue_obj starts, accepts.fields spelled (Nat.le_of_succ_le_succ shallow) inside
        (by omega)]
      rfl

theorem readItems_of_spells (accepts : Accepts fuel) {items : List Tree} {values : List Json}
    (spells : SpellsItems chars items) (shallow : Tree.depthList items ≤ bound)
    (valued : Tree.values? items = some values) (enough : 2 * chars.length < fuel + 1) :
    readItems (fuel + 1) bound (chars ++ ']' :: rest) = some (values, rest) := by
  cases spells with
  | last before item after =>
      obtain ⟨value, first, valued⟩ := Option.bind_eq_some_iff.mp valued
      cases valued
      simp only [List.length_append] at enough
      simp only [List.append_assoc]
      have read := accepts.value item (Nat.le_trans (Nat.le_max_left _ _) shallow) first (by omega)
        (endsNumber_gap after (endsNumber_cons rest (c := ']') (by decide)))
      exact readItems_last ((readValue_gap before _).trans read)
        (skipSpace_append after (by decide) _)
  | @more _ _ _ _ further _ before item after others =>
      obtain ⟨here, later⟩ := Nat.max_le.mp shallow
      obtain ⟨value, first, valued⟩ := Option.bind_eq_some_iff.mp valued
      obtain ⟨values, remaining, rfl⟩ := Option.map_eq_some_iff.mp valued
      simp only [List.length_append, List.length_cons] at enough
      simp only [List.append_assoc, List.cons_append]
      have ends := endsNumber_gap after
        (endsNumber_cons (further ++ ']' :: rest) (c := ',') (by decide))
      have read := accepts.value item here first (by omega) ends
      rw [readItems_more ((readValue_gap before _).trans read)
          (skipSpace_append after (by decide) _),
        accepts.items others later remaining (by omega)]
      rfl

/-- A field is read, whatever token follows it. -/
theorem readsField_of_spells (accepts : Accepts fuel) {name : String} {tree : Tree} {value : Json}
    (spells : SpellsField chars (name, tree)) (shallow : tree.depth ≤ bound)
    (valued : tree.value? = some value) (enough : 2 * chars.length < fuel + 1) {c : Char}
    (token : c.isDigit = false ∧ c ≠ '.' ∧ c ≠ 'e' ∧ c ≠ 'E') (noSpace : isSpace c = false)
    (rest : List Char) :
    ∃ left, ReadsField fuel bound (chars ++ c :: rest) left (name, value) ∧
      skipSpace left = c :: rest := by
  cases spells with
  | @mk first written second third inner fourth name _ isFirst isName isSecond isThird item
      isFourth =>
      simp only [List.length_append, List.length_cons] at enough
      refine ⟨fourth ++ c :: rest, ?_, skipSpace_append isFourth noSpace rest⟩
      simp only [List.append_assoc, List.cons_append]
      refine .mk (skipSpace_append isFirst (by decide) _) (readString_of_spells isName _)
        (skipSpace_append isSecond (by decide) _) ?_
      rw [readValue_gap isThird]
      exact accepts.value item shallow valued (by omega)
        (endsNumber_gap isFourth (endsNumber_cons rest token))

theorem readFields_of_spells (accepts : Accepts fuel) {fields : List (String × Tree)}
    {values : List (String × Json)} (spells : SpellsFields chars fields)
    (shallow : Tree.depthFields fields ≤ bound) (valued : Tree.fieldValues? fields = some values)
    (enough : 2 * chars.length < fuel + 1) :
    readFields (fuel + 1) bound (chars ++ '\x7d' :: rest) = some (values, rest) := by
  cases spells with
  | @last _ field spelled =>
      obtain ⟨name, item⟩ := field
      obtain ⟨value, first, valued⟩ := Option.bind_eq_some_iff.mp valued
      cases valued
      obtain ⟨left, reads, closes⟩ := readsField_of_spells accepts spelled
        (Nat.le_trans (Nat.le_max_left _ _) shallow) first enough (c := '\x7d') (by decide)
        (by decide) rest
      exact readFields_last reads closes
  | @more chars field others fields spelled isOthers =>
      obtain ⟨name, item⟩ := field
      obtain ⟨here, later⟩ := Nat.max_le.mp shallow
      obtain ⟨value, first, valued⟩ := Option.bind_eq_some_iff.mp valued
      obtain ⟨values, further, rfl⟩ := Option.map_eq_some_iff.mp valued
      simp only [List.length_append, List.length_cons] at enough
      obtain ⟨left, reads, goesOn⟩ := readsField_of_spells accepts spelled here first (by omega)
        (c := ',') (by decide) (by decide) (others ++ '\x7d' :: rest)
      rw [List.append_assoc, List.cons_append, readFields_more reads goesOn,
        accepts.fields isOthers later further (by omega)]
      rfl

end Accepts

theorem accepts (fuel : Nat) : Accepts fuel := by
  induction fuel with
  | zero =>
      refine ⟨fun spells _ _ enough _ => ?_, fun _ _ _ enough => ?_, fun _ _ _ enough => ?_⟩
      · have := spells.length_pos
        omega
      · omega
      · omega
  | succ fuel ih =>
      exact ⟨readValue_of_spells ih, readItems_of_spells ih, readFields_of_spells ih⟩

/-! ### What is read is spelled -/

/-- `chars` spells a tree of `value` that opens at most `bound` arrays and objects. -/
def Says (chars : List Char) (bound : Nat) (value : Json) : Prop :=
  ∃ tree, Spells chars tree ∧ tree.depth ≤ bound ∧ tree.value? = some value

/-- With `fuel`, whatever is read is spelled. -/
structure Keeps (fuel : Nat) : Prop where
  value : ∀ {bound : Nat} {text rest : List Char} {value : Json},
    readValue fuel bound text = some (value, rest) →
    ∃ gap chars, text = gap ++ (chars ++ rest) ∧ IsGap gap ∧ Says chars bound value
  items : ∀ {bound : Nat} {text rest : List Char} {values : List Json},
    readItems fuel bound text = some (values, rest) →
    ∃ chars items, text = chars ++ ']' :: rest ∧ SpellsItems chars items ∧
      Tree.depthList items ≤ bound ∧ Tree.values? items = some values
  fields : ∀ {bound : Nat} {text rest : List Char} {values : List (String × Json)},
    readFields fuel bound text = some (values, rest) →
    ∃ chars fields, text = chars ++ '\x7d' :: rest ∧ SpellsFields chars fields ∧
      Tree.depthFields fields ≤ bound ∧ Tree.fieldValues? fields = some values

section Keeps

variable {fuel bound : Nat} {text rest : List Char}

/-- What comes first after space, told apart from the space. -/
theorem gap_of_skipSpace {text rest : List Char} (skipped : skipSpace text = rest) :
    ∃ gap, IsGap gap ∧ text = gap ++ rest :=
  skipped ▸ exists_gap text

/-- What is read after a bracket. -/
theorem says_of_bracket (keeps : Keeps fuel) {value : Json}
    (read : (match skipSpace text with
      | ']' :: rest => some (arr [], rest)
      | chars => (readItems fuel bound chars).map fun (items, rest) => (arr items, rest)) =
        some (value, rest)) :
    ∃ chars, '[' :: text = chars ++ rest ∧ Says chars (bound + 1) value := by
  obtain ⟨gap, isGap, whole⟩ := exists_gap text
  split at read
  · rename_i closes
    cases read
    rw [closes] at whole
    exact ⟨'[' :: (gap ++ [']']), by simp [whole], .arr [], .emptyArr isGap,
      Nat.succ_le_succ (Nat.zero_le _), rfl⟩
  · obtain ⟨_, within, same⟩ := Option.map_eq_some_iff.mp read
    cases same
    obtain ⟨chars, items, inner, spells, shallow, valued⟩ := keeps.items within
    rw [inner] at whole
    refine ⟨'[' :: (gap ++ chars ++ [']']), by simp [whole], .arr items, .arr (spells.pad isGap),
      Nat.succ_le_succ shallow, ?_⟩
    rw [Tree.value?, valued]
    rfl

/-- What is read after a brace. -/
theorem says_of_brace (keeps : Keeps fuel) {value : Json}
    (read : (match skipSpace text with
      | '\x7d' :: rest => some (obj [], rest)
      | chars =>
          (readFields fuel bound chars).map fun (fields, rest) => (ofFields fields, rest)) =
        some (value, rest)) :
    ∃ chars, '\x7b' :: text = chars ++ rest ∧ Says chars (bound + 1) value := by
  obtain ⟨gap, isGap, whole⟩ := exists_gap text
  split at read
  · rename_i closes
    cases read
    rw [closes] at whole
    exact ⟨'\x7b' :: (gap ++ ['\x7d']), by simp [whole], .obj [], .emptyObj isGap,
      Nat.succ_le_succ (Nat.zero_le _), rfl⟩
  · obtain ⟨_, within, same⟩ := Option.map_eq_some_iff.mp read
    cases same
    obtain ⟨chars, fields, inner, spells, shallow, valued⟩ := keeps.fields within
    rw [inner] at whole
    refine ⟨'\x7b' :: (gap ++ chars ++ ['\x7d']), by simp [whole], .obj fields,
      .obj (spells.pad isGap), Nat.succ_le_succ shallow, ?_⟩
    rw [Tree.value?, valued]
    rfl

theorem says_of_readValue (keeps : Keeps fuel) {value : Json}
    (read : readValue (fuel + 1) bound text = some (value, rest)) :
    ∃ gap chars, text = gap ++ (chars ++ rest) ∧ IsGap gap ∧ Says chars bound value := by
  obtain ⟨gap, isGap, same⟩ := exists_gap text
  suffices ∃ chars, skipSpace text = chars ++ rest ∧ Says chars bound value by
    obtain ⟨chars, whole, said⟩ := this
    exact ⟨gap, chars, whole ▸ same, isGap, said⟩
  rw [readValue.eq_def] at read
  dsimp only at read
  split at read
  · cases read
    exact ⟨['n', 'u', 'l', 'l'], by assumption, .null, .null, Nat.zero_le _, rfl⟩
  · cases read
    exact ⟨['t', 'r', 'u', 'e'], by assumption, .bool true, .yes, Nat.zero_le _, rfl⟩
  · cases read
    exact ⟨['f', 'a', 'l', 's', 'e'], by assumption, .bool false, .no, Nat.zero_le _, rfl⟩
  · rename_i starts
    obtain ⟨_, within, same⟩ := Option.map_eq_some_iff.mp read
    cases same
    obtain ⟨written, rfl, spells⟩ := spells_of_readString within
    exact ⟨'"' :: (written ++ ['"']), by simp [starts], .str _, .str spells, Nat.zero_le _, rfl⟩
  · rename_i starts
    rw [starts]
    cases bound with
    | zero => cases read
    | succ bound => exact says_of_bracket keeps read
  · rename_i starts
    rw [starts]
    cases bound with
    | zero => cases read
    | succ bound => exact says_of_brace keeps read
  · split at read
    · cases read
    · rename_i number
      obtain ⟨_, valued, same⟩ := Option.map_eq_some_iff.mp read
      cases same
      obtain ⟨chars, whole, spells⟩ := spells_of_readNumber? number
      exact ⟨chars, whole, .number _, .number spells, Nat.zero_le _, valued⟩

theorem spells_of_readItems (keeps : Keeps fuel) {values : List Json}
    (read : readItems (fuel + 1) bound text = some (values, rest)) :
    ∃ chars items, text = chars ++ ']' :: rest ∧ SpellsItems chars items ∧
      Tree.depthList items ≤ bound ∧ Tree.values? items = some values := by
  rw [readItems.eq_def] at read
  dsimp only at read
  split at read
  · cases read
  · rename_i first
    obtain ⟨before, chars, rfl, isBefore, item, spells, shallow, valued⟩ := keeps.value first
    split at read
    · rename_i goesOn
      obtain ⟨after, isAfter, rfl⟩ := gap_of_skipSpace goesOn
      obtain ⟨_, within, same⟩ := Option.map_eq_some_iff.mp read
      cases same
      obtain ⟨further, items, rfl, others, shallow', valued'⟩ := keeps.items within
      refine ⟨_, item :: items, ?_, .more isBefore spells isAfter others,
        Nat.max_le.mpr ⟨shallow, shallow'⟩, ?_⟩
      · simp
      · rw [Tree.values?, valued, valued']
        rfl
    · rename_i closes
      cases read
      obtain ⟨after, isAfter, rfl⟩ := gap_of_skipSpace closes
      refine ⟨_, [item], ?_, .last isBefore spells isAfter,
        Nat.max_le.mpr ⟨shallow, Nat.zero_le _⟩, ?_⟩
      · simp
      · rw [Tree.values?, valued]
        rfl
    · cases read

theorem spells_of_readFields (keeps : Keeps fuel) {values : List (String × Json)}
    (read : readFields (fuel + 1) bound text = some (values, rest)) :
    ∃ chars fields, text = chars ++ '\x7d' :: rest ∧ SpellsFields chars fields ∧
      Tree.depthFields fields ≤ bound ∧ Tree.fieldValues? fields = some values := by
  rw [readFields.eq_def] at read
  dsimp only at read
  split at read
  · rename_i quote
    obtain ⟨first, isFirst, rfl⟩ := gap_of_skipSpace quote
    split at read
    · cases read
    · rename_i named
      obtain ⟨written, rfl, isName⟩ := spells_of_readString named
      split at read
      · rename_i colon
        obtain ⟨second, isSecond, rfl⟩ := gap_of_skipSpace colon
        split at read
        · cases read
        · rename_i found
          obtain ⟨third, chars, rfl, isThird, item, spells, shallow, valued⟩ := keeps.value found
          split at read
          · rename_i goesOn
            obtain ⟨fourth, isFourth, rfl⟩ := gap_of_skipSpace goesOn
            obtain ⟨_, within, same⟩ := Option.map_eq_some_iff.mp read
            cases same
            obtain ⟨further, fields, rfl, others, shallow', valued'⟩ := keeps.fields within
            refine ⟨_, _ :: fields, ?_,
              .more (.mk isFirst isName isSecond isThird spells isFourth) others,
              Nat.max_le.mpr ⟨shallow, shallow'⟩, ?_⟩
            · simp
            · rw [Tree.fieldValues?, valued, valued']
              rfl
          · rename_i closes
            cases read
            obtain ⟨fourth, isFourth, rfl⟩ := gap_of_skipSpace closes
            refine ⟨_, [_], ?_, .last (.mk isFirst isName isSecond isThird spells isFourth),
              Nat.max_le.mpr ⟨shallow, Nat.zero_le _⟩, ?_⟩
            · simp
            · rw [Tree.fieldValues?, valued]
              rfl
          · cases read
      · cases read
  · cases read

end Keeps

theorem keeps (fuel : Nat) : Keeps fuel := by
  induction fuel with
  | zero =>
      refine ⟨fun read => ?_, fun read => ?_, fun read => ?_⟩
      · rw [readValue] at read
        cases read
      · rw [readItems] at read
        cases read
      · rw [readFields] at read
        cases read
  | succ fuel ih =>
      exact ⟨says_of_readValue ih, spells_of_readItems ih, spells_of_readFields ih⟩

/-! ### Texts -/

/-- **Exactly the JSON texts are read** that open no more arrays and objects than a text may and
whose numbers all have a value. -/
theorem ofText?_eq_some_iff {text : String} {value : Json} :
    ofText? text = some value ↔
      ∃ tree, IsText text tree ∧ tree.depth ≤ greatestDepth ∧ tree.value? = some value := by
  unfold ofText?
  dsimp only
  constructor
  · intro read
    split at read
    · rename_i found
      split at read
      · rename_i last
        cases read
        obtain ⟨before, chars, whole, isBefore, tree, spells, shallow, valued⟩ :=
          (keeps _).value found
        obtain ⟨after, isAfter, rfl⟩ := gap_of_skipSpace (List.isEmpty_iff.mp last)
        exact ⟨tree, ⟨before, chars, after, by simpa using whole, isBefore, isAfter, spells⟩,
          shallow, valued⟩
      · cases read
    · cases read
  · rintro ⟨tree, ⟨before, chars, after, whole, isBefore, isAfter, spells⟩, shallow, valued⟩
    have nothing : EndsNumber [] := fun c first => by cases first
    have ends : EndsNumber after := by simpa using endsNumber_gap isAfter nothing
    have read := (accepts (2 * text.toList.length + 2)).value spells shallow valued
      (by simp only [whole, List.length_append]; omega) ends
    have skipped : skipSpace after = [] := by
      simpa [skipSpace] using skipSpace_gap isAfter []
    rw [← readValue_gap isBefore, ← whole] at read
    rw [read]
    simp [skipped]

namespace Tree

mutual

/-- The value of a tree is proper and no deeper than the tree. -/
theorem proper_of_value? : ∀ {tree : Tree} {value : Json}, tree.value? = some value →
    value.Proper ∧ value.depth ≤ tree.depth
  | .null, _, valued | .bool _, _, valued | .str _, _, valued => by
      cases valued
      exact ⟨trivial, Nat.le_refl _⟩
  | .number literal, value, valued => by
      rw [value?] at valued
      exact ⟨Json.proper_of_value? valued, Nat.le_of_eq (depth_of_value? valued)⟩
  | .arr items, _, valued => by
      obtain ⟨values, inside, rfl⟩ := Option.map_eq_some_iff.mp valued
      obtain ⟨proper, shallow⟩ := proper_of_values? inside
      exact ⟨by rwa [Proper], Nat.succ_le_succ shallow⟩
  | .obj fields, _, valued => by
      obtain ⟨values, inside, rfl⟩ := Option.map_eq_some_iff.mp valued
      obtain ⟨proper, shallow⟩ := proper_of_fieldValues? inside
      exact ⟨proper_ofFields proper, depth_ofFields_le shallow⟩

theorem proper_of_values? : ∀ {items : List Tree} {values : List Json},
    values? items = some values → ProperList values ∧ Json.depthList values ≤ depthList items
  | [], _, valued => by
      cases valued
      exact ⟨trivial, Nat.le_refl _⟩
  | item :: rest, _, valued => by
      obtain ⟨value, first, valued⟩ := Option.bind_eq_some_iff.mp valued
      obtain ⟨values, others, rfl⟩ := Option.map_eq_some_iff.mp valued
      obtain ⟨proper, shallow⟩ := proper_of_value? first
      obtain ⟨proper', shallow'⟩ := proper_of_values? others
      refine ⟨⟨proper, proper'⟩, ?_⟩
      rw [Json.depthList, depthList]
      omega

theorem proper_of_fieldValues? : ∀ {fields : List (String × Tree)}
    {values : List (String × Json)}, fieldValues? fields = some values →
    ProperFields values ∧ Json.depthFields values ≤ depthFields fields
  | [], _, valued => by
      cases valued
      exact ⟨trivial, Nat.le_refl _⟩
  | (name, item) :: rest, _, valued => by
      obtain ⟨value, first, valued⟩ := Option.bind_eq_some_iff.mp valued
      obtain ⟨values, others, rfl⟩ := Option.map_eq_some_iff.mp valued
      obtain ⟨proper, shallow⟩ := proper_of_value? first
      obtain ⟨proper', shallow'⟩ := proper_of_fieldValues? others
      refine ⟨⟨proper, proper'⟩, ?_⟩
      rw [Json.depthFields, depthFields]
      omega

end

end Tree

/-- What a text stands for is proper and opens no more arrays and objects than a text may. -/
theorem proper_of_ofText? {text : String} {value : Json} (read : ofText? text = some value) :
    value.Proper ∧ value.depth ≤ greatestDepth := by
  obtain ⟨tree, -, shallow, valued⟩ := ofText?_eq_some_iff.mp read
  obtain ⟨proper, depth⟩ := Tree.proper_of_value? valued
  exact ⟨proper, Nat.le_trans depth shallow⟩

end StationHub.Json
