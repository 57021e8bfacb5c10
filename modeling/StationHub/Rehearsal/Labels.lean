import StationHub.Text.Blank

/-!
Labels for identifiers. Identifiers that are known by the order in which they were first seen are
shown as `$call1`, `$call2` and so on, and these labels stand for them where something is read.
-/

namespace StationHub.Rehearsal

/-- The identifiers in the order in which they were first seen. -/
abbrev Labels := List String

namespace Labels

/-- What all labels start with. -/
def stem : List Char := "$call".toList

/-- The label of identifier number `i`, counted from zero. -/
def label (i : Nat) : List Char := stem ++ (toString (i + 1)).toList

/-- The labels with `id` among them. -/
def see (labels : Labels) (id : String) : Labels :=
  if labels.contains id then labels else labels ++ [id]

/-- `chars` with `new` for `old` wherever it occurs; the first `skip` characters are left out. -/
def replace (old new : List Char) : Nat → List Char → List Char
  | _, [] => []
  | skip + 1, _ :: rest => replace old new skip rest
  | 0, c :: rest =>
      if old.isPrefixOf (c :: rest) then new ++ replace old new (old.length - 1) rest
      else c :: replace old new 0 rest

/-- `text` with labels for the identifiers that have one. -/
def conceal (labels : Labels) (text : String) : String :=
  String.ofList (labels.zipIdx.foldl
    (fun chars (id, i) => replace id.toList (label i) 0 chars) text.toList)

/-- The identifier that the label at the front of `chars` stands for, and the length of the
label. -/
def readLabel? (labels : Labels) (chars : List Char) : Option (String × Nat) := do
  let rest ← Text.dropStart? stem chars
  let digits := rest.takeWhile Char.isDigit
  let i ← (List.range labels.length).find? fun i => (toString (i + 1)).toList == digits
  let id ← labels[i]?
  return (id, stem.length + digits.length)

/-- `chars` with identifiers for the labels that stand for one; the first `skip` characters are
left out. -/
def revealFrom (labels : Labels) : Nat → List Char → List Char
  | _, [] => []
  | skip + 1, _ :: rest => revealFrom labels skip rest
  | 0, c :: rest =>
      match readLabel? labels (c :: rest) with
      | some (id, length) => id.toList ++ revealFrom labels (length - 1) rest
      | none => c :: revealFrom labels 0 rest

/-- `text` with identifiers for the labels that stand for one. -/
def reveal (labels : Labels) (text : String) : String :=
  String.ofList (labels.revealFrom 0 text.toList)

end Labels

end StationHub.Rehearsal
