import StationHub.Json.Reader

/-!
The values that JSON texts stand for.

* `Proper`: a whole number fits 64 bits, and the fields of an object are sorted by name, a name
  occurring once.
* `Whole`: all numbers are whole.
* `proper_of_value?`, `proper_ofFields`: what number literals and objects are read as is proper.
-/

namespace StationHub.Json

mutual

/-- Whole numbers fit 64 bits, and the fields of objects are sorted by name, a name occurring
once. -/
def Proper : Json → Prop
  | int n => -(Nat.pow 2 63 : Int) ≤ n ∧ n < Nat.pow 2 64
  | arr items => ProperList items
  | obj fields => fields.Pairwise (fun a b => a.1 < b.1) ∧ ProperFields fields
  | _ => True

def ProperList : List Json → Prop
  | [] => True
  | item :: rest => Proper item ∧ ProperList rest

def ProperFields : List (String × Json) → Prop
  | [] => True
  | (_, value) :: rest => Proper value ∧ ProperFields rest

end

mutual

/-- All numbers are whole. Minus zero counts as whole, though it is kept as binary64. -/
def Whole : Json → Prop
  | real x => x = Binary64.zero true
  | arr items => WholeList items
  | obj fields => WholeFields fields
  | _ => True

def WholeList : List Json → Prop
  | [] => True
  | item :: rest => Whole item ∧ WholeList rest

def WholeFields : List (String × Json) → Prop
  | [] => True
  | (_, value) :: rest => Whole value ∧ WholeFields rest

end

/-! ### Numbers -/

theorem extendSignificand_lt {start : Nat} (digits : List Nat) (fits : start < Nat.pow 2 64) :
    (extendSignificand start digits).1 < Nat.pow 2 64 := by
  induction digits generalizing start with
  | nil => exact fits
  | cons d rest ih =>
      unfold extendSignificand
      split
      · exact ih (by assumption)
      · exact fits

theorem le_foldl_digits (digits : List Nat) (start : Nat) :
    start ≤ digits.foldl (fun n d => 10 * n + d) start := by
  induction digits generalizing start with
  | nil => exact Nat.le_refl _
  | cons d rest ih =>
      have := ih (10 * start + d)
      rw [List.foldl_cons]
      omega

/-- Digits that fit 64 bits are all read. -/
theorem extendSignificand_of_lt {digits : List Nat} {start : Nat}
    (fits : digits.foldl (fun n d => 10 * n + d) start < Nat.pow 2 64) :
    extendSignificand start digits = (digits.foldl (fun n d => 10 * n + d) start, []) := by
  induction digits generalizing start with
  | nil => rfl
  | cons d rest ih =>
      have below := Nat.lt_of_le_of_lt (le_foldl_digits rest (10 * start + d)) fits
      rw [extendSignificand, if_pos below]
      exact ih fits

theorem proper_of_ofWhole? {negative : Bool} {n : Nat} {value : Json} (fits : n < Nat.pow 2 64)
    (read : ofWhole? negative n = some value) : value.Proper := by
  have power : Nat.pow 2 64 = 2 ^ 64 := rfl
  have half : Nat.pow 2 63 = 2 ^ 63 := rfl
  unfold ofWhole? at read
  split at read
  · split at read
    · obtain ⟨x, -, rfl⟩ := Option.map_eq_some_iff.mp read
      trivial
    · rename_i inside
      cases read
      rw [Proper]
      omega
  · cases read
    rw [Proper]
    omega

theorem proper_of_value? {literal : NumberLiteral} {value : Json}
    (read : literal.value? = some value) : value.Proper := by
  have fits : (extendSignificand 0 literal.whole).1 < Nat.pow 2 64 :=
    extendSignificand_lt literal.whole (by decide)
  unfold NumberLiteral.value? at read
  dsimp only at read
  split at read
  · split at read
    · exact proper_of_ofWhole? fits read
    · obtain ⟨x, -, rfl⟩ := Option.map_eq_some_iff.mp read
      trivial
  · obtain ⟨x, -, rfl⟩ := Option.map_eq_some_iff.mp read
    trivial

theorem depth_of_value? {literal : NumberLiteral} {value : Json}
    (read : literal.value? = some value) : value.depth = 0 := by
  have real : ∀ {x : Option Binary64}, x.map real = some value → value.depth = 0 := by
    intro x is
    obtain ⟨y, -, rfl⟩ := Option.map_eq_some_iff.mp is
    rfl
  unfold NumberLiteral.value? at read
  dsimp only at read
  split at read
  · split at read
    · unfold ofWhole? at read
      split at read
      · split at read
        · exact real read
        · cases read
          rfl
      · cases read
        rfl
    · exact real read
  · exact real read

/-! ### Objects -/

/-- A field that is inserted is the only one of its name, and the others stay. -/
theorem mem_insertField {name : String} {value : Json} {fields : List (String × Json)}
    {field : String × Json} (member : field ∈ insertField name value fields) :
    field = (name, value) ∨ field ∈ fields := by
  induction fields with
  | nil => exact .inl (List.mem_singleton.mp member)
  | cons first rest ih =>
      unfold insertField at member
      split at member
      · rcases List.mem_cons.mp member with rfl | later
        · exact .inl rfl
        · exact .inr (List.mem_cons_of_mem _ later)
      · split at member
        · exact (List.mem_cons.mp member)
        · rcases List.mem_cons.mp member with rfl | later
          · exact .inr List.mem_cons_self
          · exact (ih later).imp_right (List.mem_cons_of_mem _)

theorem sorted_insertField (name : String) (value : Json) {fields : List (String × Json)}
    (sorted : fields.Pairwise fun a b => a.1 < b.1) :
    (insertField name value fields).Pairwise fun a b => a.1 < b.1 := by
  induction fields with
  | nil => exact List.pairwise_singleton _ _
  | cons first rest ih =>
      obtain ⟨least, sorted⟩ := List.pairwise_cons.mp sorted
      unfold insertField
      split
      · rename_i same
        exact List.pairwise_cons.mpr ⟨fun field member => same ▸ least field member, sorted⟩
      · rename_i other
        split
        · rename_i before
          refine List.pairwise_cons.mpr ⟨fun field member => ?_, List.pairwise_cons.mpr
            ⟨least, sorted⟩⟩
          rcases List.mem_cons.mp member with rfl | later
          · exact before
          · exact String.lt_trans before (least field later)
        · rename_i notBefore
          refine List.pairwise_cons.mpr ⟨fun field member => ?_, ih sorted⟩
          rcases mem_insertField member with rfl | later
          · refine Classical.byContradiction fun notAfter => other ?_
            exact String.le_antisymm (String.not_lt.mp notAfter) (String.not_lt.mp notBefore)
          · exact least field later

theorem properFields_iff {fields : List (String × Json)} :
    ProperFields fields ↔ ∀ field ∈ fields, field.2.Proper := by
  induction fields with
  | nil => simp [ProperFields]
  | cons field rest ih => simp [ProperFields, ih]

theorem depthFields_le_iff {fields : List (String × Json)} {bound : Nat} :
    depthFields fields ≤ bound ↔ ∀ field ∈ fields, field.2.depth ≤ bound := by
  induction fields with
  | nil => simp [depthFields]
  | cons field rest ih => rw [depthFields, Nat.max_le, ih, List.forall_mem_cons]

/-- The fields of an object are among those that it is made of, sorted. -/
theorem ofFields_eq (fields : List (String × Json)) :
    ∃ sorted, ofFields fields = obj sorted ∧ (sorted.Pairwise fun a b => a.1 < b.1) ∧
      ∀ field ∈ sorted, field ∈ fields := by
  have inserted : ∀ {start : List (String × Json)}, (start.Pairwise fun a b => a.1 < b.1) →
      ((fields.foldl (fun sorted field => insertField field.1 field.2 sorted) start).Pairwise
          fun a b => a.1 < b.1) ∧
        ∀ field ∈ fields.foldl (fun sorted field => insertField field.1 field.2 sorted) start,
          field ∈ fields ∨ field ∈ start := by
    induction fields with
    | nil => exact fun sorted => ⟨sorted, fun field => .inr⟩
    | cons first rest ih =>
        intro start sorted
        obtain ⟨sorted', among⟩ := ih (sorted_insertField first.1 first.2 sorted)
        refine ⟨sorted', fun field member => ?_⟩
        rcases among field member with later | early
        · exact .inl (List.mem_cons_of_mem _ later)
        · rcases mem_insertField early with rfl | old
          · exact .inl List.mem_cons_self
          · exact .inr old
  obtain ⟨sorted, among⟩ := inserted List.Pairwise.nil
  exact ⟨_, rfl, sorted, fun field member => (among field member).resolve_right List.not_mem_nil⟩

theorem proper_ofFields {fields : List (String × Json)} (proper : ProperFields fields) :
    (ofFields fields).Proper := by
  obtain ⟨sorted, same, inOrder, among⟩ := ofFields_eq fields
  rw [same, Proper, properFields_iff]
  exact ⟨inOrder, fun field member => properFields_iff.mp proper field (among field member)⟩

theorem depth_ofFields_le {fields : List (String × Json)} {bound : Nat}
    (shallow : depthFields fields ≤ bound) : (ofFields fields).depth ≤ bound + 1 := by
  obtain ⟨sorted, same, -, among⟩ := ofFields_eq fields
  rw [same, depth]
  refine Nat.succ_le_succ (depthFields_le_iff.mpr fun field member => ?_)
  exact depthFields_le_iff.mp shallow field (among field member)

end StationHub.Json
