import StationHub.Json.Printer
import StationHub.Proofs.Json.Acceptance
import StationHub.Proofs.Json.Values

/-!
Reading back what was written.

* `spellsChars_escaped`, `spellsNumber_toDigits`: the texts of strings and whole numbers keep to the
  grammar.
* `says_render`: so do the texts of values whose numbers are whole.
* `ofText?_toText`: a value with whole numbers is read back from its text exactly if it opens no
  more arrays and objects than a text may.
-/

namespace StationHub.Json

open Text (hexDigit hexValue?)

/-! ### Strings -/

theorem hexValue?_hexDigit : ∀ n < 16, hexValue? (hexDigit n) = some n := by decide

theorem hexDigit_mod (n : Nat) : hexDigit (n % 16) = hexDigit n := by
  simp [hexDigit]

/-- The digits of a control character are read as its number. -/
theorem quad?_control {c : Char} (control : c.toNat < 0x20) :
    quad? '0' '0' (hexDigit (c.toNat / 16)) (hexDigit c.toNat) = some c.toNat := by
  have high := hexValue?_hexDigit (c.toNat / 16) (by omega)
  have low := hexValue?_hexDigit (c.toNat % 16) (Nat.mod_lt _ (by decide))
  rw [hexDigit_mod] at low
  have zero : hexValue? '0' = some 0 := by decide
  simp only [quad?, zero, high, low, Option.bind_eq_bind, Option.bind_some, Option.pure_def]
  congr 1
  omega

/-- The form of a character inside a string stands for it. -/
theorem SpellsChars.escapedChar {written chars : List Char} (spells : SpellsChars written chars)
    (c : Char) : SpellsChars (escapedChar c ++ written) (c :: chars) := by
  unfold Json.escapedChar
  split
  · exact .escape rfl spells
  · exact .escape rfl spells
  · exact .escape rfl spells
  · exact .escape rfl spells
  · exact .escape rfl spells
  · exact .escape rfl spells
  · exact .escape rfl spells
  · split
    · rename_i control
      have high : isHighSurrogate c.toNat = false := by
        simp [isHighSurrogate]; omega
      have low : isLowSurrogate c.toNat = false := by
        simp [isLowSurrogate]; omega
      have unit := SpellsChars.unit (quad?_control control) high low spells
      rw [Char.ofNat_toNat] at unit
      exact unit
    · rename_i quote backslash _ _ _ _ _ visible
      exact .plain quote backslash (Nat.not_lt.mp visible) spells

theorem spellsChars_escaped (chars : List Char) :
    SpellsChars (chars.flatMap escapedChar) chars := by
  induction chars with
  | nil => exact .nil
  | cons c chars ih =>
      rw [List.flatMap_cons]
      exact ih.escapedChar c

/-! ### Whole numbers -/

/-- Only zero is written with a leading zero. -/
theorem head?_toDigits {n : Nat} (zero : (Nat.toDigits 10 n).head? = some '0') : n = 0 := by
  induction n using Nat.strongRecOn with
  | ind n ih =>
      rw [Nat.toDigits_eq_if (by decide)] at zero
      split at zero
      · rename_i below
        have known : ∀ n < 10, [Nat.digitChar n].head? = some '0' → n = 0 := by decide
        exact known n below zero
      · have front : (Nat.toDigits 10 (n / 10)).head? = some '0' := by
          cases digits : Nat.toDigits 10 (n / 10) with
          | nil => exact absurd digits Nat.toDigits_ne_nil
          | cons c rest =>
              rw [digits] at zero
              exact zero
        have := ih (n / 10) (by omega) front
        omega

theorem toDigits_cases (n : Nat) :
    n = 0 ∧ Nat.toDigits 10 n = ['0'] ∨
      ∃ c rest, Nat.toDigits 10 n = c :: rest ∧ c ≠ '0' ∧ ∀ d ∈ c :: rest, d.isDigit = true := by
  have all : ∀ c ∈ Nat.toDigits 10 n, c.isDigit = true := fun c =>
    Nat.isDigit_of_mem_toDigits (by decide) (by decide)
  cases digits : Nat.toDigits 10 n with
  | nil => exact absurd digits Nat.toDigits_ne_nil
  | cons c rest =>
      by_cases zero : c = '0'
      · subst zero
        have none : n = 0 := head?_toDigits (by rw [digits]; rfl)
        subst none
        exact .inl ⟨rfl, digits.symm.trans (Nat.toDigits_zero 10)⟩
      · exact .inr ⟨c, rest, rfl, zero, digits ▸ all⟩

theorem ofDigits_toDigits (n : Nat) :
    ofDigits ((Nat.toDigits 10 n).map fun c => c.toNat - '0'.toNat) = n := by
  rw [ofDigits, List.foldl_map, ← Nat.ofDigitChars_eq_foldl, Nat.ofDigitChars_ten_toDigits]

/-- The digits of a whole number are a number. -/
theorem spellsNumber_toDigits (negative : Bool) (n : Nat) :
    SpellsNumber ((if negative then ['-'] else []) ++ Nat.toDigits 10 n)
      ⟨negative, (Nat.toDigits 10 n).map fun c => c.toNat - '0'.toNat, none, none⟩ := by
  have whole : SpellsWhole (Nat.toDigits 10 n)
      ((Nat.toDigits 10 n).map fun c => c.toNat - '0'.toNat) := by
    rcases toDigits_cases n with ⟨rfl, digits⟩ | ⟨c, others, digits, zero, all⟩
    · rw [digits]
      exact .zero
    · rw [digits]
      exact .other ⟨List.cons_ne_nil _ _, all, rfl⟩ fun same => zero (Option.some.inj same)
  have number : SpellsNumber
      ((if negative then ['-'] else []) ++ (Nat.toDigits 10 n ++ ([] ++ [])))
      ⟨negative, _, none, none⟩ := .mk whole .none .none
  simpa using number

/-- A whole number of 64 bits is read back. -/
theorem value?_of_toDigits {negative : Bool} {n : Nat} (fits : n < Nat.pow 2 64) :
    NumberLiteral.value?
        ⟨negative, (Nat.toDigits 10 n).map fun c => c.toNat - '0'.toNat, none, none⟩ =
      ofWhole? negative n := by
  have digits := ofDigits_toDigits n
  rw [ofDigits] at digits
  have read := extendSignificand_of_lt (digits.symm ▸ fits)
  rw [digits] at read
  simp only [NumberLiteral.value?, read, List.isEmpty_nil, if_true]

/-- The text of a whole number of 64 bits is a number of that value. -/
theorem spells_renderInt {n : Int} (proper : (int n).Proper) :
    ∃ literal, SpellsNumber (renderInt n) literal ∧ literal.value? = some (int n) := by
  have power : Nat.pow 2 64 = 2 ^ 64 := rfl
  have half : Nat.pow 2 63 = 2 ^ 63 := rfl
  rw [Proper] at proper
  unfold renderInt
  split
  · refine ⟨_, spellsNumber_toDigits true n.natAbs, ?_⟩
    rw [value?_of_toDigits (by omega), ofWhole?, if_pos rfl, if_neg (by omega)]
    congr 2
    omega
  · refine ⟨_, spellsNumber_toDigits false n.natAbs, ?_⟩
    rw [value?_of_toDigits (by omega), ofWhole?, if_neg (by decide)]
    congr 2
    omega

/-- The text of minus zero is a number of that value. -/
theorem spells_minusZero :
    ∃ literal, SpellsNumber (Binary64.zero true).render literal ∧
      literal.value? = some (real (Binary64.zero true)) := by
  have fraction : SpellsFraction ['.', '0'] (some [0]) := .some ⟨by simp, by simp, rfl⟩
  have number : SpellsNumber ((if true then ['-'] else []) ++ (['0'] ++ (['.', '0'] ++ [])))
      ⟨true, [0], some [0], none⟩ := .mk .zero fraction .none
  exact ⟨_, number, rfl⟩

/-! ### Sorted fields -/

/-- A field with a name after all the others comes last. -/
theorem insertField_of_after {name : String} (value : Json) {fields : List (String × Json)}
    (after : ∀ field ∈ fields, field.1 < name) :
    insertField name value fields = fields ++ [(name, value)] := by
  induction fields with
  | nil => rfl
  | cons first rest ih =>
      have before := after first List.mem_cons_self
      have other : name ≠ first.1 := fun same => String.lt_irrefl _ (same ▸ before)
      rw [insertField, if_neg other, if_neg (String.lt_asymm before),
        ih fun field member => after field (List.mem_cons_of_mem _ member)]
      rfl

/-- Sorted fields stay as they are. -/
theorem ofFields_of_sorted {fields : List (String × Json)}
    (sorted : fields.Pairwise fun a b => a.1 < b.1) : ofFields fields = obj fields := by
  have appended : ∀ start : List (String × Json),
      (start ++ fields).Pairwise (fun a b => a.1 < b.1) →
      fields.foldl (fun sorted field => insertField field.1 field.2 sorted) start =
        start ++ fields := by
    induction fields with
    | nil => exact fun _ _ => (List.append_nil _).symm
    | cons first rest ih =>
        intro start sorted'
        have after : ∀ field ∈ start, field.1 < first.1 := fun field member =>
          (List.pairwise_append.mp sorted').2.2 field member first List.mem_cons_self
        rw [List.append_cons] at sorted' ⊢
        rw [List.foldl_cons, insertField_of_after first.2 after]
        exact ih (List.pairwise_cons.mp sorted).2 _ sorted'
  rw [ofFields, appended [] sorted, List.nil_append]

/-! ### Values -/

/-- The text of a field, from that of its value. -/
theorem spellsField_render (name : String) {chars : List Char} {tree : Tree}
    (spells : Spells chars tree) :
    SpellsField (renderString name ++ ':' :: chars) (name, tree) := by
  have field := SpellsField.mk isGap_nil (spellsChars_escaped name.toList) isGap_nil isGap_nil
    spells isGap_nil
  rw [String.ofList_toList] at field
  simpa [renderString] using field

mutual

/-- The text of a value with whole numbers says that value. -/
theorem says_render : ∀ {value : Json}, value.Proper → value.Whole →
    Says value.render value.depth value
  | .null, _, _ => ⟨.null, .null, Nat.le_refl _, rfl⟩
  | .bool true, _, _ => ⟨.bool true, .yes, Nat.le_refl _, rfl⟩
  | .bool false, _, _ => ⟨.bool false, .no, Nat.le_refl _, rfl⟩
  | .int n, proper, _ => by
      obtain ⟨literal, spells, valued⟩ := spells_renderInt proper
      exact ⟨.number literal, .number spells, Nat.le_refl _, valued⟩
  | .real x, _, whole => by
      rw [Whole] at whole
      subst whole
      obtain ⟨literal, spells, valued⟩ := spells_minusZero
      exact ⟨.number literal, .number spells, Nat.le_refl _, valued⟩
  | .str text, _, _ => by
      have spells := Spells.str (spellsChars_escaped text.toList)
      rw [String.ofList_toList] at spells
      exact ⟨.str text, by simpa [render, renderString] using spells, Nat.le_refl _, rfl⟩
  | .arr [], _, _ => ⟨.arr [], .emptyArr isGap_nil, Nat.le_refl _, rfl⟩
  | .arr (item :: items), proper, whole => by
      rw [Proper] at proper
      rw [Whole] at whole
      obtain ⟨trees, spells, shallow, valued⟩ := spells_renderItems proper whole
      refine ⟨.arr trees, by simpa [render] using Spells.arr spells, ?_, ?_⟩
      · exact Nat.succ_le_succ shallow
      · rw [Tree.value?, valued]
        rfl
  | .obj [], _, _ => ⟨.obj [], .emptyObj isGap_nil, Nat.le_refl _, rfl⟩
  | .obj ((name, value) :: fields), proper, whole => by
      rw [Proper] at proper
      rw [Whole] at whole
      obtain ⟨trees, spells, shallow, valued⟩ := spells_renderFields proper.2 whole
      refine ⟨.obj trees, by simpa [render] using Spells.obj spells, ?_, ?_⟩
      · exact Nat.succ_le_succ shallow
      · rw [Tree.value?, valued, Option.map_some, ofFields_of_sorted proper.1]
termination_by value => sizeOf value

theorem spells_renderItems : ∀ {item : Json} {items : List Json}, ProperList (item :: items) →
    WholeList (item :: items) → ∃ trees, SpellsItems (renderItems (item :: items)) trees ∧
      Tree.depthList trees ≤ depthList (item :: items) ∧
      Tree.values? trees = some (item :: items)
  | item, [], proper, whole => by
      obtain ⟨tree, spells, shallow, valued⟩ := says_render proper.1 whole.1
      refine ⟨[tree], ?_, ?_, ?_⟩
      · simpa [renderItems] using SpellsItems.last isGap_nil spells isGap_nil
      · exact Nat.max_le.mpr ⟨Nat.le_trans shallow (Nat.le_max_left _ _), Nat.zero_le _⟩
      · rw [Tree.values?, valued]
        rfl
  | item, next :: items, proper, whole => by
      obtain ⟨tree, spells, shallow, valued⟩ := says_render proper.1 whole.1
      obtain ⟨trees, others, shallow', valued'⟩ := spells_renderItems proper.2 whole.2
      refine ⟨tree :: trees, ?_, ?_, ?_⟩
      · simpa [renderItems] using SpellsItems.more isGap_nil spells isGap_nil others
      · rw [Tree.depthList, depthList]
        omega
      · rw [Tree.values?, valued, valued']
        rfl
termination_by item items => sizeOf (item :: items)

theorem spells_renderFields : ∀ {name : String} {value : Json} {fields : List (String × Json)},
    ProperFields ((name, value) :: fields) → WholeFields ((name, value) :: fields) →
    ∃ trees, SpellsFields (renderFields ((name, value) :: fields)) trees ∧
      Tree.depthFields trees ≤ depthFields ((name, value) :: fields) ∧
      Tree.fieldValues? trees = some ((name, value) :: fields)
  | name, value, [], proper, whole => by
      obtain ⟨tree, spells, shallow, valued⟩ := says_render proper.1 whole.1
      refine ⟨[(name, tree)], ?_, ?_, ?_⟩
      · simpa [renderFields] using SpellsFields.last (spellsField_render name spells)
      · exact Nat.max_le.mpr ⟨Nat.le_trans shallow (Nat.le_max_left _ _), Nat.zero_le _⟩
      · rw [Tree.fieldValues?, valued]
        rfl
  | name, value, (name', value') :: fields, proper, whole => by
      obtain ⟨tree, spells, shallow, valued⟩ := says_render proper.1 whole.1
      obtain ⟨trees, others, shallow', valued'⟩ := spells_renderFields proper.2 whole.2
      refine ⟨(name, tree) :: trees, ?_, ?_, ?_⟩
      · have more := SpellsFields.more (spellsField_render name spells) others
        simpa only [renderFields, List.append_assoc, List.singleton_append] using more
      · rw [Tree.depthFields, depthFields]
        omega
      · rw [Tree.fieldValues?, valued, valued']
        rfl
termination_by name value fields => sizeOf ((name, value) :: fields)

end

/-- A value with whole numbers is read back from its text exactly if it opens no more arrays and
objects than a text may. -/
theorem ofText?_toText {value : Json} (proper : value.Proper) (whole : value.Whole) :
    ofText? value.toText = some value ↔ value.depth ≤ greatestDepth := by
  refine ⟨fun read => (proper_of_ofText? read).2, fun shallow => ?_⟩
  obtain ⟨tree, spells, depth, valued⟩ := says_render proper whole
  refine ofText?_eq_some_iff.mpr ⟨tree, ⟨[], value.render, [], ?_, isGap_nil, isGap_nil, spells⟩,
    Nat.le_trans depth shallow, valued⟩
  rw [toText, String.toList_ofList, List.append_nil, List.nil_append]

end StationHub.Json
