/-!
TOML documents as trees. Every table remembers how it came about, since that decides what may still
be added to it: a header may complete a table that only longer headers have named, dotted keys may
only add to tables of dotted keys, and an inline table is complete as it stands.
-/

namespace StationHub

/-- How a table came about. -/
inductive Toml.Origin where
  /-- By a header of its own, or as the document itself. -/
  | header
  /-- On the way to a table that a longer header named. -/
  | onTheWay
  /-- On the way to the end of a dotted key. -/
  | dotted
  /-- Between braces. -/
  | inline
  deriving DecidableEq, Repr

/-- A TOML value. What a program reads of numbers with a fraction and of times is only that they
are well-formed. -/
inductive Toml where
  | text (value : String)
  | whole (value : Int)
  | fraction
  | flag (value : Bool)
  | time
  /-- The items of an array; `ofTables` if each came from a header in double brackets. -/
  | array (ofTables : Bool) (items : List Toml)
  | table (origin : Toml.Origin) (entries : List (String × Toml))
  deriving Repr, Inhabited

namespace Toml

/-- The entries of a table. -/
abbrev Entries := List (String × Toml)

/-- `entries` with the value of `key` changed, or added at the end. -/
def setEntry (key : String) (value : Toml) : Entries → Entries
  | [] => [(key, value)]
  | (other, old) :: rest =>
      if other = key then (key, value) :: rest else (other, old) :: setEntry key value rest

/-- The table at the end of `path` below `entries`, changed by `change`. Tables that are missing
on the way are made, as tables of `origin`; the last table of an array of tables stands for the
array. Dotted keys do not lead into tables that a header in single brackets has named, and nothing
leads into other values. -/
def changeAt (origin : Origin) (change : Origin → Entries → Option Entries) :
    Origin → Entries → List String → Option Entries
  | here, entries, [] => change here entries
  | _, entries, key :: path =>
      match entries.lookup key with
      | none => do
          let below ← changeAt origin change origin [] path
          return setEntry key (table origin below) entries
      | some (table other below) =>
          if other = .inline ∨ (origin = .dotted ∧ other = .header) then none
          else do
            let below ← changeAt origin change other below path
            return setEntry key (table other below) entries
      | some (array true items) =>
          match items.getLast? with
          | some (table other below) => do
              let below ← changeAt origin change other below path
              return setEntry key (array true (items.dropLast ++ [table other below])) entries
          | _ => none
      | some _ => none

/-- `entries` with a new key. -/
def addEntry (key : String) (value : Toml) (entries : Entries) : Option Entries :=
  match entries.lookup key with
  | none => some (entries ++ [(key, value)])
  | some _ => none

/-- `entries`, those of a table of `origin`, with the value of a dotted key. The last part must be
new, in a table that the other parts have made. -/
def addDotted (origin : Origin) (path : List String) (key : String) (value : Toml)
    (entries : Entries) : Option Entries :=
  match path with
  | [] => addEntry key value entries
  | path =>
      changeAt .dotted
        (fun here entries => if here = .dotted then addEntry key value entries else none)
        origin entries path

/-- `entries`, those of the document, opened at the table of a header in single brackets. Only a
table that longer headers have named may be there already. -/
def openTable (path : List String) (key : String) (entries : Entries) : Option Entries :=
  changeAt .onTheWay
    (fun _ entries =>
      match entries.lookup key with
      | none => some (setEntry key (table .header []) entries)
      | some (table .onTheWay below) => some (setEntry key (table .header below) entries)
      | some _ => none)
    .header entries path

/-- `entries`, those of the document, with a new table at the end of an array of tables. -/
def openItem (path : List String) (key : String) (entries : Entries) : Option Entries :=
  changeAt .onTheWay
    (fun _ entries =>
      match entries.lookup key with
      | none => some (setEntry key (array true [table .header []]) entries)
      | some (array true items) =>
          some (setEntry key (array true (items ++ [table .header []])) entries)
      | some _ => none)
    .header entries path

/-- The entries at `path`, which a header has opened, changed by `change`. -/
def changeOpened (change : Entries → Option Entries) (path : List String) (entries : Entries) :
    Option Entries :=
  changeAt .onTheWay (fun _ entries => change entries) .header entries path

end Toml

end StationHub
