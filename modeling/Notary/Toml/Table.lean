import Notary.Number.Binary64

namespace Notary

/-!
Values of configuration documents, and the rules by which their tables grow. A table remembers how
it came into being, since that decides whether a later line may extend it.
-/

inductive TableOrigin where
  /-- Written in braces; nothing can be added to it. -/
  | inline
  /-- Named by a header of its own. -/
  | header
  /-- Passed through by the header of a table inside it. -/
  | implicit
  /-- Passed through by a dotted key. -/
  | dotted
  deriving DecidableEq, Repr

inductive Toml where
  | string (text : String)
  | integer (value : Int)
  | float (value : Binary64)
  | boolean (value : Bool)
  /-- A date, a time or both; no field has such a value. -/
  | datetime
  | array (items : List Toml)
  | table (origin : TableOrigin) (entries : List (String × Toml))
  /-- A table for each header in double brackets. -/
  | tables (elements : List (List (String × Toml)))
  deriving Repr, Inhabited

abbrev TomlTable := List (String × Toml)

namespace TomlTable

/-- The table with the value of a present key replaced. -/
def replace (key : String) (value : Toml) (table : TomlTable) : TomlTable :=
  table.map fun entry => if entry.1 == key then (key, value) else entry

/-- Changes the table at the end of a path of keys. Tables that are missing on the way are added;
`dotted` says that a dotted key leads there, which must not pass through a table with a header. -/
def alter (dotted : Bool) (origin : TableOrigin) (table : TomlTable) :
    List String → (TableOrigin → TomlTable → Option TomlTable) → Option TomlTable
  | [], change => change origin table
  | key :: path, change =>
      match table.lookup key with
      | none => do
          let added := if dotted then TableOrigin.dotted else .implicit
          let child ← alter dotted added [] path change
          some (table ++ [(key, .table added child)])
      | some (.table found child) =>
          if found = .inline ∨ (dotted ∧ found = .header) then none
          else do
            let changed ← alter dotted found child path change
            some (replace key (.table found changed) table)
      | some (.tables elements) =>
          match elements.getLast? with
          | none => none
          | some last => do
              let changed ← alter dotted .header last path change
              some (replace key (.tables (elements.dropLast ++ [changed])) table)
      | some _ => none

/-- Sets a key that is not present. With a path, the key's table must be one that dotted keys made;
without one, it must not be. -/
def assign (table : TomlTable) (path : List String) (key : String) (value : Toml)
    (origin : TableOrigin) : Option TomlTable :=
  alter true origin table path fun found entries =>
    if (found = .dotted) = path.isEmpty then none
    else if (entries.lookup key).isSome then none
    else some (entries ++ [(key, value)])

/-- Opens the table of a header. It may have been passed through before, but not been opened. -/
def openTable (root : TomlTable) (path : List String) (key : String) : Option TomlTable :=
  alter false .header root path fun _ entries =>
    match entries.lookup key with
    | none => some (entries ++ [(key, .table .header [])])
    | some (.table .implicit child) => some (replace key (.table .header child) entries)
    | some _ => none

/-- Adds a table to the tables of a header in double brackets. -/
def openElement (root : TomlTable) (path : List String) (key : String) : Option TomlTable :=
  alter false .header root path fun _ entries =>
    match entries.lookup key with
    | none => some (entries ++ [(key, .tables [[]])])
    | some (.tables elements) => some (replace key (.tables (elements ++ [[]])) entries)
    | some _ => none

end TomlTable

/-- A line of a document. A dotted name is split into its path and its last key. -/
inductive TomlStatement where
  | assign (path : List String) (key : String) (value : Toml)
  | header (path : List String) (key : String)
  | element (path : List String) (key : String)
  deriving Repr

namespace TomlTable

/-- Carries out the lines of a document; `current` is the path of the table that lines without a
header belong to. -/
def build (root : TomlTable) (current : List String) : List TomlStatement → Option TomlTable
  | [] => some root
  | .assign path key value :: rest => do
      let root ← alter false .header root current fun origin entries =>
        assign entries path key value origin
      build root current rest
  | .header path key :: rest => do
      build (← openTable root path key) (path ++ [key]) rest
  | .element path key :: rest => do
      build (← openElement root path key) (path ++ [key]) rest

end TomlTable

end Notary
