/-!
# Tables

Keys with their values, in the order in which the keys were first written. Writing a key that is
there replaces its value and leaves its place.
-/

namespace ControlSchema

abbrev Table (κ α : Type) := List (κ × α)

namespace Table

variable {κ α : Type} [BEq κ]

def put (table : Table κ α) (key : κ) (value : α) : Table κ α :=
  match table with
  | [] => [(key, value)]
  | (k, v) :: rest => if k == key then (k, value) :: rest else (k, v) :: put rest key value

def get? (table : Table κ α) (key : κ) : Option α := table.lookup key

def has (table : Table κ α) (key : κ) : Bool := (table.lookup key).isSome

/-- The table that the pairs leave when they are written one after another. -/
def ofPairs (pairs : List (κ × α)) : Table κ α :=
  pairs.foldl (fun table (key, value) => put table key value) []

def keys (table : Table κ α) : List κ := table.map Prod.fst

/-- The table with the entries of another written into it. -/
def merge (table other : Table κ α) : Table κ α :=
  other.foldl (fun table (key, value) => put table key value) table

end Table

/-- Whether the first text is not behind the second. -/
def textAtMost (a b : String) : Bool := !decide (b < a)

/-- A table in the order of its keys. -/
def Table.sorted {α : Type} (table : Table String α) : Table String α :=
  table.mergeSort fun a b => textAtMost a.1 b.1

end ControlSchema
