import ControlSchema.Text.Blank
import ControlSchema.Toml.Value

/-!
# TOML documents

A document is a list of lines: pairs of a key and a value, headers that open a table, and headers
that add a table to an array of tables. Pairs belong to the table opened last. A table may be opened
once, and arrays and inline tables are complete where they stand.
-/

namespace ControlSchema.Toml

structure Document where
  root : Entries
  /-- The path of the table opened last. -/
  header : List String
  /-- The paths of tables that may not be opened. -/
  opened : List (List String)
  /-- Paths that become those of opened tables with the next header. -/
  pending : List (List String)
  /-- The paths of complete values. -/
  frozen : List (List String)

namespace Document

def empty : Document := ⟨[], [], [], [], []⟩

/-- The paths that lead to a table but not further, through the key of a pair. -/
def between (header key : List String) : List (List String) :=
  (List.range (key.length - 1)).map fun n => header ++ key.take (n + 1)

/-- The document with a pair in the table opened last. -/
def addPair (d : Document) (key : List String) (value : Datum) : Result Document := do
  let passed := between d.header key
  if passed.any d.opened.contains then throw .malformed
  let path := d.header ++ key.dropLast
  if leadsThrough d.frozen path then throw .malformed
  let root ← changeAt true (addEntry (key.getLast?.getD "") value) path d.root
  return { d with
    root
    pending := passed ++ d.pending
    frozen := if isContainer value then (d.header ++ key) :: d.frozen else d.frozen }

/-- The document with the tables that its pairs led through counted as opened. -/
def settle (d : Document) : Document := { d with opened := d.pending ++ d.opened, pending := [] }

/-- The document with a table opened. -/
def openTable (d : Document) (key : List String) : Result Document := do
  if d.opened.contains key || leadsThrough d.frozen key then throw .malformed
  let root ← changeAt true .ok key d.root
  return { d with root, header := key, opened := key :: d.opened }

/-- The entries with one more table in the array under a name. -/
def addTable (name : String) (entries : Entries) : Result Entries :=
  match Datum.lookup? name entries with
  | none => .ok (Datum.insert entries (.text name) (.list [.dict []]))
  | some (.list items) => .ok (Datum.insert entries (.text name) (.list (items ++ [.dict []])))
  | some _ => .error .malformed

/-- The document with a table added to an array of tables. What was known of the tables below
belongs to the item before. -/
def openItem (d : Document) (key : List String) : Result Document := do
  if leadsThrough d.frozen key then throw .malformed
  let root ← changeAt true (addTable (key.getLast?.getD "")) key.dropLast d.root
  let outside (paths : List (List String)) : List (List String) :=
    paths.filter fun path => !key.isPrefixOf path
  return { d with
    root, header := key, opened := key :: outside d.opened, frozen := outside d.frozen }

/-- The document with a header, behind its first bracket. -/
def addHeader (d : Document) (cs : List Char) : Result (Document × List Char) := do
  let d := d.settle
  match cs with
  | '[' :: rest =>
    let (key, rest) ← readKey (skipSpace rest)
    let d ← d.openItem key
    match rest with
    | ']' :: ']' :: after => return (d, after)
    | _ => throw .malformed
  | cs =>
    let (key, rest) ← readKey (skipSpace cs)
    let d ← d.openTable key
    match rest with
    | ']' :: after => return (d, after)
    | _ => throw .malformed

/-- The document with what stands on the line in front. -/
def addLine (d : Document) (cs : List Char) : Result (Document × List Char) := do
  match cs with
  | [] | '\n' :: _ | '#' :: _ => return (d, cs)
  | '[' :: rest => d.addHeader rest
  | cs =>
    let ((key, value), rest) ← readPair cs
    return (← d.addPair key value, rest)

/-- The document with all lines. -/
def addLines : Nat → Document → List Char → Result Document
  | 0, _, _ => .error .malformed
  | fuel + 1, d, cs => do
    let (d, rest) ← d.addLine (skipSpace cs)
    match ← skipComment (skipSpace rest) with
    | [] => return d
    | '\n' :: more => addLines fuel d more
    | _ => throw .malformed

end Document

/-- Line feeds for line ends of two characters. -/
def unifyPairs : List Char → List Char
  | [] => []
  | '\r' :: '\n' :: rest => '\n' :: unifyPairs rest
  | c :: rest => c :: unifyPairs rest

/-- The table that a text describes. -/
def read (text : String) : Result Entries := do
  let cs := unifyPairs text.toList
  return (← Document.addLines (cs.length + 1) .empty cs).root

end ControlSchema.Toml
