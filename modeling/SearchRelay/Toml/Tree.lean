import SearchRelay.Toml.Value

/-!
# SearchRelay.Toml.Tree

The tables of a document while it is read.

1. A table comes from a header, or is implied by a longer header, or comes from
   a key of several parts.  A header may turn an implied table into one of its
   own, once; it may not reopen any other table.
2. A key of several parts goes only through tables that come from such keys or
   are implied, and ends in one that comes from such keys.
3. A header of a list adds a table to the list; other headers and keys go into
   the last table of a list.
-/

namespace SearchRelay.Toml

/-- Where a table comes from. -/
inductive Origin where
  | header
  | implied
  | dotted
  deriving DecidableEq

/-- What stands under a key. -/
inductive Node where
  /-- A value that is complete. -/
  | value (v : Value)
  | table (origin : Origin) (entries : List (String × Node))
  /-- A list of tables, one for each of its headers. -/
  | tables (all : List (List (String × Node)))

/-- The entries of a table. -/
abbrev Entries := List (String × Node)

namespace Entries

def replace (key : String) (node : Node) (entries : Entries) : Entries :=
  entries.map fun entry => if entry.1 = key then (key, node) else entry

/-- A change of a table. -/
abbrev Change := Origin → Entries → Option (Origin × Entries)

/-- Changes the table at a path. -/
def changeAt (dotted : Bool) (change : Change) : List String → Change
  | [], origin, entries => change origin entries
  | key :: path, origin, entries =>
    match entries.lookup key with
    | none =>
      (changeAt dotted change path (if dotted then .dotted else .implied) []).map
        fun (inner, child) => (origin, entries ++ [(key, .table inner child)])
    | some (.table inner child) =>
      if dotted ∧ inner = .header then none
      else (changeAt dotted change path inner child).map fun (inner, child) =>
        (origin, replace key (.table inner child) entries)
    | some (.tables all) => do
      let last ← all.getLast?
      let (_, child) ← changeAt dotted change path .header last
      return (origin, replace key (.tables (all.dropLast ++ [child])) entries)
    | some (.value _) => none

/-- Adds a value under a key of several parts, the last of which is `key`. -/
def addValue (path : List String) (key : String) (v : Value) : Change :=
  changeAt true (fun origin entries =>
    if ¬ path.isEmpty ∧ origin ≠ .dotted then none
    else if (entries.lookup key).isSome then none
    else some (origin, entries ++ [(key, .value v)])) path

/-- Opens a table with a header. -/
def openTable (path : List String) (key : String) : Change :=
  changeAt false (fun origin entries =>
    match entries.lookup key with
    | none => some (origin, entries ++ [(key, .table .header [])])
    | some (.table .implied child) => some (origin, replace key (.table .header child) entries)
    | some _ => none) path

/-- Adds a table to a list with a header. -/
def addTable (path : List String) (key : String) : Change :=
  changeAt false (fun origin entries =>
    match entries.lookup key with
    | none => some (origin, entries ++ [(key, .tables [[]])])
    | some (.tables all) => some (origin, replace key (.tables (all ++ [[]])) entries)
    | some _ => none) path

end Entries

/-! ## Values -/

mutual

/-- What stands under a key, as a value. -/
def Node.toValue : Node → Value
  | .value v => v
  | .table _ entries => .table (entriesToTable entries)
  | .tables all => .array (tablesToValues all)

/-- Entries as the entries of a value. -/
def entriesToTable : Entries → Table
  | [] => []
  | (key, node) :: rest => (key, node.toValue) :: entriesToTable rest

/-- Tables as values. -/
def tablesToValues : List Entries → List Value
  | [] => []
  | entries :: rest => .table (entriesToTable entries) :: tablesToValues rest

end

end SearchRelay.Toml
