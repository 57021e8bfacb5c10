import Mathlib.Data.List.DropRight
import Mathlib.Data.List.TakeWhile
import StationHub.Text.Blank

/-!
Splitting and trimming, seen from the texts that were put together.

* `split_join`: the parts of parts joined by the separator are the parts of each, in their order.
* `intercalate_split`: a text is its own parts, joined.
* `trimmed_padded`: white space around a word without any at its own ends is trimmed off.
-/

namespace StationHub.Text

/-! ### Splitting -/

section Split

variable {separator : Char}

@[simp] theorem split_separator (rest : List Char) :
    split separator (separator :: rest) = [] :: split separator rest := by
  simp [split]

theorem split_append (before after : List Char) :
    split separator (before ++ separator :: after) =
      split separator before ++ split separator after := by
  induction before with
  | nil => simp [split]
  | cons c before ih =>
      rw [List.cons_append, split, split, ih]
      obtain ⟨part, parts, same⟩ := List.exists_cons_of_ne_nil (split_ne_nil separator before)
      rw [same]
      cases c == separator <;> rfl

theorem split_of_notMem {part : List Char} (absent : separator ∉ part) :
    split separator part = [part] := by
  induction part with
  | nil => rfl
  | cons c part ih =>
      have other : (c == separator) = false := by
        refine beq_eq_false_iff_ne.mpr ?_
        rintro rfl
        exact absent List.mem_cons_self
      rw [split, ih fun mem => absent (List.mem_cons_of_mem _ mem), other]

theorem notMem_of_mem_split {chars part : List Char} (mem : part ∈ split separator chars) :
    separator ∉ part := by
  induction chars generalizing part with
  | nil =>
      rw [split, List.mem_singleton] at mem
      simp [mem]
  | cons c chars ih =>
      obtain ⟨first, parts, same⟩ := List.exists_cons_of_ne_nil (split_ne_nil separator chars)
      rw [same] at ih
      rw [split, same] at mem
      cases other : c == separator with
      | true =>
          rw [other] at mem
          rcases List.mem_cons.mp mem with rfl | mem
          · simp
          · exact ih mem
      | false =>
          rw [other] at mem
          rcases List.mem_cons.mp mem with rfl | mem
          · have apart : separator ≠ c := fun same => by simp [same] at other
            simp [apart, ih List.mem_cons_self]
          · exact ih (List.mem_cons_of_mem _ mem)

theorem split_join {parts : List (List Char)} (some : parts ≠ []) :
    split separator ([separator].intercalate parts) = parts.flatMap (split separator) := by
  induction parts with
  | nil => exact absurd rfl some
  | cons part parts ih =>
      cases parts with
      | nil => simp [List.intercalate]
      | cons next parts =>
          rw [List.intercalate_cons_cons, List.append_assoc, List.singleton_append, split_append,
            ih (List.cons_ne_nil _ _)]
          rfl

/-- Parts joined by the separator again are the whole. -/
theorem intercalate_split (chars : List Char) :
    [separator].intercalate (split separator chars) = chars := by
  induction chars with
  | nil => rfl
  | cons c chars ih =>
      obtain ⟨part, parts, same⟩ := List.exists_cons_of_ne_nil (split_ne_nil separator chars)
      rw [same] at ih
      rw [split, same]
      cases other : c == separator with
      | true =>
          rw [List.intercalate_cons_cons, ih, beq_iff_eq.mp other]
          rfl
      | false =>
          cases parts with
          | nil => simpa [List.intercalate] using congrArg (c :: ·) ih
          | cons next parts =>
              rw [List.intercalate_cons_cons] at ih ⊢
              exact congrArg (c :: ·) ih

end Split

/-! ### Trimming -/

/-- There is no white space at either end of `word`. -/
def IsTrimmed (word : List Char) : Prop :=
  (∀ c ∈ word.head?, isBlank c = false) ∧ ∀ c ∈ word.getLast?, isBlank c = false

instance (word : List Char) : Decidable (IsTrimmed word) :=
  @instDecidableAnd _ _ (Option.decidableForallMem _) (Option.decidableForallMem _)

/-- All of `pad` is white space. -/
def IsPad (pad : List Char) : Prop := ∀ c ∈ pad, isBlank c = true

theorem dropWhile_of_head {word : List Char} (head : ∀ c ∈ word.head?, isBlank c = false) :
    word.dropWhile isBlank = word := by
  cases word with
  | nil => rfl
  | cons c word => simp [head c rfl]

theorem head_dropWhile {chars : List Char} :
    ∀ c ∈ (chars.dropWhile isBlank).head?, isBlank c = false := by
  intro c first
  have := List.head?_dropWhile_not isBlank chars
  rw [Option.mem_def.mp first] at this
  exact this

theorem trimmed_padded {left word right : List Char} (blankLeft : IsPad left)
    (ends : IsTrimmed word) (blankRight : IsPad right) :
    trimmed (left ++ (word ++ right)) = word := by
  rw [trimmed, List.dropWhile_append_of_pos blankLeft]
  cases word with
  | nil => simp [List.dropWhile_eq_nil_iff.mpr blankRight]
  | cons c word =>
      have starts : ∀ d ∈ (c :: word ++ right).head?, isBlank d = false := by simpa using ends.1
      rw [dropWhile_of_head starts,
        List.reverse_append, List.dropWhile_append_of_pos (by simpa [IsPad] using blankRight),
        dropWhile_of_head (by rw [List.head?_reverse]; exact ends.2), List.reverse_reverse]

theorem trimmed_isPrefix (chars : List Char) : trimmed chars <+: chars.dropWhile isBlank :=
  List.rdropWhile_prefix _ _

theorem isTrimmed_trimmed (chars : List Char) : IsTrimmed (trimmed chars) := by
  constructor
  · intro c first
    obtain ⟨rest, whole⟩ := trimmed_isPrefix chars
    apply @head_dropWhile chars c
    rw [← whole, Option.mem_def, List.head?_append, Option.mem_def.mp first]
    rfl
  · intro c last
    rw [trimmed, List.getLast?_reverse] at last
    exact head_dropWhile c last

/-- What is trimmed off is white space. -/
theorem exists_pads (chars : List Char) :
    ∃ left right, IsPad left ∧ IsPad right ∧ chars = left ++ (trimmed chars ++ right) := by
  have blank {word : List Char} : IsPad (word.takeWhile isBlank) := fun c =>
    List.mem_takeWhile_imp
  refine ⟨chars.takeWhile isBlank, ((chars.dropWhile isBlank).reverse.takeWhile isBlank).reverse,
    blank, fun c mem => blank c (List.mem_reverse.mp mem), ?_⟩
  rw [trimmed, ← List.reverse_append, List.takeWhile_append_dropWhile, List.reverse_reverse,
    List.takeWhile_append_dropWhile]

theorem trimmed_subset (chars : List Char) : trimmed chars ⊆ chars :=
  List.Subset.trans (trimmed_isPrefix chars).subset (List.dropWhile_subset _)

end StationHub.Text
