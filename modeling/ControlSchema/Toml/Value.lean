import ControlSchema.Toml.Scalar

/-!
# Values of TOML

A value is a scalar, an array or an inline table. Arrays may run over several lines with comments
between their items, inline tables may not. A key is a list of names between points, and the tables
that it leads through are made where they are missing.

Readers of nested values are bounded by the length of the text, and by a limit on how deeply values
are nested, for which an array counts as two and a table as three.
-/

namespace ControlSchema.Toml

/-! ## Keys -/

def isBareKey (c : Char) : Bool := c.isAlphanum || c == '-' || c == '_'

/-- One name of a key. -/
def readName (cs : List Char) : Result (String × List Char) :=
  match cs with
  | '\'' :: rest => readLiteral rest
  | '"' :: rest => readBasic rest
  | cs =>
    let name := cs.takeWhile isBareKey
    if name.isEmpty then .error .malformed else .ok (String.ofList name, cs.dropWhile isBareKey)

/-- The names of a key, with blanks around the points and behind the last name. -/
def readNames : Nat → List Char → Result (List String × List Char)
  | 0, _ => .error .malformed
  | fuel + 1, cs => do
    let (name, rest) ← readName cs
    match skipSpace rest with
    | '.' :: more =>
      let (names, after) ← readNames fuel (skipSpace more)
      return (name :: names, after)
    | after => return ([name], after)

def readKey (cs : List Char) : Result (List String × List Char) := readNames (cs.length + 1) cs

/-! ## Tables -/

abbrev Entries := List (Datum × Datum)

/-- Changes the table that a path leads to. A list stands for the last of its items, unless only
tables are to be entered. -/
def changeAt (enterLists : Bool) (change : Entries → Result Entries) :
    List String → Entries → Result Entries
  | [], entries => change entries
  | name :: path, entries => do
    let put (value : Datum) : Entries := Datum.insert entries (.text name) value
    match Datum.lookup? name entries with
    | none => return put (.dict (← changeAt enterLists change path []))
    | some (.dict inner) => return put (.dict (← changeAt enterLists change path inner))
    | some (.list items) =>
      match items.getLast?, enterLists with
      | some (.dict inner), true =>
        return put (.list (items.dropLast ++ [.dict (← changeAt enterLists change path inner)]))
      | _, _ => throw .malformed
    | some _ => throw .malformed

/-- Adds an entry whose name must be new. -/
def addEntry (name : String) (value : Datum) (entries : Entries) : Result Entries :=
  match Datum.lookup? name entries with
  | some _ => .error .malformed
  | none => .ok (Datum.insert entries (.text name) value)

/-- Whether a value is a table or an array, which nothing may be added to later. -/
def isContainer : Datum → Bool
  | .dict _ | .list _ => true
  | _ => false

/-- Whether a path leads to or through one of the given paths. -/
def leadsThrough (paths : List (List String)) (path : List String) : Bool :=
  paths.any fun other => other.isPrefixOf path

/-! ## Comments -/

/-- The text behind a comment, if it begins with one. -/
def skipComment (cs : List Char) : Result (List Char) :=
  match cs with
  | '#' :: rest =>
    if (rest.takeWhile (· != '\n')).all isInline then .ok (rest.dropWhile (· != '\n'))
    else .error .malformed
  | cs => .ok cs

/-- The text behind blanks, line feeds and comments. -/
def skipLines : Nat → List Char → Result (List Char)
  | 0, _ => .error .malformed
  | fuel + 1, cs =>
    match cs.dropWhile isSpaceOrBreak with
    | '#' :: rest => do skipLines fuel (← skipComment ('#' :: rest))
    | rest => .ok rest

def skipFiller (cs : List Char) : Result (List Char) := skipLines (cs.length + 1) cs

/-! ## Values -/

/-- Values that are nested deeper are not read. -/
def depthLimit : Nat := 980

def readText (cs : List Char) : Option (Result (String × List Char)) :=
  match cs with
  | '"' :: '"' :: '"' :: rest => some (readLongBasic rest)
  | '"' :: rest => some (readBasic rest)
  | '\'' :: '\'' :: '\'' :: rest => some (readLongLiteral rest)
  | '\'' :: rest => some (readLiteral rest)
  | _ => none

def words : List (List Char × Datum) :=
  [("true".toList, .bool true), ("false".toList, .bool false)]

/-- A value that holds no others. -/
def readScalar (cs : List Char) : Result (Datum × List Char) :=
  match readText cs with
  | some result => result.map fun (text, rest) => (.text text, rest)
  | none =>
    match words.find? fun (word, _) => word.isPrefixOf cs with
    | some (word, value) => .ok (value, cs.drop word.length)
    | none => readNumeral cs

mutual

def readValue (depth : Nat) : Nat → List Char → Result (Datum × List Char)
  | 0, _ => .error .malformed
  | fuel + 1, cs =>
    match cs with
    | '[' :: rest => do
      if depthLimit ≤ depth then throw .tooDeep
      let (items, after) ← readItems (depth + 2) fuel rest
      return (.list items, after)
    | '\x7b' :: rest => do
      if depthLimit ≤ depth then throw .tooDeep
      match skipSpace rest with
      | '\x7d' :: after => return (.dict [], after)
      | inner =>
        let (entries, after) ← readPairs (depth + 3) fuel [] [] inner
        return (.dict entries, after)
    | cs => readScalar cs

/-- Items up to the closing bracket, with commas between them and possibly behind the last. -/
def readItems (depth : Nat) : Nat → List Char → Result (List Datum × List Char)
  | 0, _ => .error .malformed
  | fuel + 1, cs => do
    match ← skipFiller cs with
    | ']' :: after => return ([], after)
    | inner =>
      let (item, rest) ← readValue depth fuel inner
      match ← skipFiller rest with
      | ']' :: after => return ([item], after)
      | ',' :: more =>
        let (items, after) ← readItems depth fuel more
        return (item :: items, after)
      | _ => throw .malformed

/-- Pairs of an inline table up to the closing brace, given the entries so far and the paths of
those that nothing may be added to. -/
def readPairs (depth : Nat) : Nat → Entries → List (List String) → List Char →
    Result (Entries × List Char)
  | 0, _, _, _ => .error .malformed
  | fuel + 1, entries, frozen, cs => do
    let (key, rest) ← readKey cs
    let '=' :: rest := rest | throw .malformed
    let (value, rest) ← readValue depth fuel (skipSpace rest)
    if leadsThrough frozen key then throw .malformed
    let entries ← changeAt false (addEntry (key.getLast?.getD "") value) key.dropLast entries
    match skipSpace rest with
    | '\x7d' :: after => return (entries, after)
    | ',' :: more =>
      readPairs depth fuel entries (if isContainer value then key :: frozen else frozen)
        (skipSpace more)
    | _ => throw .malformed

end

/-- A key and its value, with the text behind them. -/
def readPair (cs : List Char) : Result ((List String × Datum) × List Char) := do
  let (key, rest) ← readKey cs
  let '=' :: rest := rest | throw .malformed
  let (value, after) ← readValue 0 (2 * rest.length + 2) (skipSpace rest)
  return ((key, value), after)

end ControlSchema.Toml
