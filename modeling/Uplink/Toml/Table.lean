import Uplink.Value

/-!
Tables of a TOML document while it is read: what a key may still be added to.

A table has one definition. Tables that stand only in the path of a heading can be given a heading
of their own later, and tables that stand only in the path of a dotted key can be extended by other
dotted keys of the same table. The last table of an array of tables stands for the array.
-/

namespace Uplink.Toml

/-- How a table came to be. -/
inductive Origin where
  /-- It stands in the path of a heading. -/
  | path
  /-- It stands in the path of a dotted key. -/
  | dotted
  /-- It has a heading of its own. -/
  | heading
deriving Repr, DecidableEq

/-- What a key of a table holds. -/
inductive Node where
  | value (value : Value)
  | table (origin : Origin) (entries : List (String × Node))
  | tables (items : List (List (String × Node)))

/-- The keys of a table in the order of the document. -/
abbrev Entries := List (String × Node)

mutual

/-- The value of a key. -/
def Node.toValue : Node → Value
  | .value value => value
  | .table _ entries => .table (entryValues entries)
  | .tables items => .tables (itemValues items)

/-- The values of the keys. -/
def entryValues : List (String × Node) → List (String × Value)
  | [] => []
  | (key, node) :: rest => (key, node.toValue) :: entryValues rest

/-- The values of the tables of an array. -/
def itemValues : List (List (String × Node)) → List Value
  | [] => []
  | entries :: rest => .table (entryValues entries) :: itemValues rest

end

namespace Entries

/-- Put another node in the place of the one that a key holds. -/
def set (entries : Entries) (key : String) (node : Node) : Entries :=
  entries.map fun (other, kept) => if other = key then (other, node) else (other, kept)

/-- Change the table that a path leads to, by keys that are dotted or from a heading. Tables that
are missing on the way are made. -/
def change? {α : Type} (dotted : Bool) (change : Origin → Entries → Option (α × Entries)) :
    List String → Origin → Entries → Option (α × Entries)
  | [], origin, entries => change origin entries
  | key :: path, _, entries =>
    match entries.lookup key with
    | none => do
      let origin := if dotted then Origin.dotted else .path
      let (a, inner) ← change? dotted change path origin []
      return (a, entries ++ [(key, .table origin inner)])
    | some (.value _) => none
    -- The last table of an array stands for the array.
    | some (.tables items) => do
      let (a, inner) ← change? dotted change path .heading (← items.getLast?)
      return (a, entries.set key (.tables (items.dropLast ++ [inner])))
    | some (.table origin inner) => do
      -- A table with a heading of its own is complete where its lines are.
      if dotted && origin = .heading then none
      else
        let (a, inner) ← change? dotted change path origin inner
        return (a, entries.set key (.table origin inner))

/-- Add a value under a key that is new in the table. -/
def insert? (entries : Entries) (key : String) (value : Value) : Option Entries :=
  if (entries.lookup key).isSome then none else some (entries ++ [(key, .value value)])

/-- Add a value under a dotted key. Only tables that dotted keys have made can be extended. -/
def add? (entries : Entries) (path : List String) (key : String) (value : Value) : Option Entries := do
  let put (origin : Origin) (entries : Entries) : Option (Unit × Entries) := do
    -- A dotted key ends in a table of dotted keys, and a plain key in none.
    if decide (origin = .dotted) == path.isEmpty then none else return ((), ← entries.insert? key value)
  return (← entries.change? true put path .heading).2

/-- Open the table of a heading. What the paths of other headings have put into it is taken out of
the document, and the table is put back at the end of its parent once it is complete. -/
def openTable? (entries : Entries) (path : List String) (key : String) : Option (Entries × Entries) :=
  let take (_ : Origin) (entries : Entries) : Option (Entries × Entries) :=
    match entries.lookup key with
    | none => some ([], entries)
    -- Only the paths of other headings have made it so far, and it may be given its own now.
    | some (.table .path inner) => some (inner, entries.filter (·.1 ≠ key))
    | some _ => none
  entries.change? false take path .heading

/-- Put a complete table into its parent. -/
def closeTable? (entries : Entries) (path : List String) (key : String) (inner : Entries) : Option Entries := do
  let put (_ : Origin) (entries : Entries) : Option (Unit × Entries) :=
    some ((), entries ++ [(key, .table .heading inner)])
  return (← entries.change? false put path .heading).2

/-- Open a table of an array of tables. -/
def openItem? (entries : Entries) (path : List String) (key : String) : Option Entries := do
  let put (_ : Origin) (entries : Entries) : Option (Unit × Entries) :=
    match entries.lookup key with
    -- The first heading of an array makes the array.
    | none => some ((), entries ++ [(key, .tables [])])
    | some (.tables _) => some ((), entries)
    | some _ => none
  return (← entries.change? false put path .heading).2

/-- Put a complete table into its array. -/
def closeItem? (entries : Entries) (path : List String) (key : String) (inner : Entries) : Option Entries := do
  let put (_ : Origin) (entries : Entries) : Option (Unit × Entries) :=
    match entries.lookup key with
    | some (.tables items) => some ((), entries.set key (.tables (items ++ [inner])))
    | _ => none
  return (← entries.change? false put path .heading).2

end Entries

end Uplink.Toml
