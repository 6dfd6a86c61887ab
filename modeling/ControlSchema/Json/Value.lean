import ControlSchema.Datum.Text
import ControlSchema.Table

/-!
# JSON values

What a text of JSON stands for. A text inside of a value may name halves of characters by number,
so it is more than a text of characters: one with a half that stands alone is compared, shown and
written like any other, but no bytes encode it.

What is to be written may also hold what JSON has no form for, and keys that are not texts; that it
does is found when it is written.
-/

namespace ControlSchema.Json

open Number

/-! ## Texts -/

inductive Words where
  | whole (text : String)
  /-- The codes of a text with halves of characters that stand alone. -/
  | garbled (codes : List Nat)
deriving DecidableEq

namespace Words

/-- The codes that are halves of characters. -/
def isHalf (code : Nat) : Bool := 0xd800 ≤ code && code < 0xe000

def ofCodes (codes : List Nat) : Words :=
  if codes.any isHalf then .garbled codes else .whole (String.ofList (codes.map Char.ofNat))

def codes : Words → List Nat
  | .whole text => text.toList.map Char.toNat
  | .garbled codes => codes

def isWhole : Words → Bool
  | .whole _ => true
  | .garbled _ => false

def isEmpty : Words → Bool
  | .whole text => text.isEmpty
  | .garbled codes => codes.isEmpty

/-- Texts are ordered by the codes of their characters. -/
def atMost : Words → Words → Bool
  | .whole a, .whole b => textAtMost a b
  | v, w => !decide (w.codes < v.codes)

/-- The text as an expression, with the halves by number. -/
def shown : Words → String
  | .whole text => Text.quoted text
  | .garbled codes =>
    let quote := Text.quoteFor ((codes.filter (!isHalf ·)).map Char.ofNat)
    let escape (code : Nat) : List Char :=
      if isHalf code then Text.numberedEscape code else Text.escapeChar quote (Char.ofNat code)
    String.ofList (quote :: codes.flatMap escape ++ [quote])

end Words

/-! ## Values -/

inductive Value where
  | null
  | bool (value : Bool)
  | int (value : Int)
  | float (value : Double)
  | text (words : Words)
  | list (items : List Value)
  | dict (entries : List (Value × Value))
  /-- A datum that JSON has no form for. -/
  | foreign (found : Datum)

namespace Value

instance : Inhabited Value := ⟨.null⟩

/-- Entries under keys that are texts. -/
def entriesOf (fields : List (String × Value)) : List (Value × Value) :=
  fields.map fun (key, value) => (.text (.whole key), value)

/-- A dictionary whose keys are texts. -/
def ofRecord (fields : List (String × Value)) : Value := .dict (entriesOf fields)

mutual

/-- A datum as it is written: a tuple is a list. -/
def ofDatum : Datum → Value
  | .null => .null
  | .bool b => .bool b
  | .int i => .int i
  | .float x => .float x
  | .text s => .text (.whole s)
  | .list xs | .tuple xs => .list (ofItems xs)
  | .dict es => .dict (ofEntries es)
  | d => .foreign d
termination_by structural d => d

def ofItems : List Datum → List Value
  | [] => []
  | x :: xs => ofDatum x :: ofItems xs
termination_by structural xs => xs

def ofEntries : List (Datum × Datum) → List (Value × Value)
  | [] => []
  | e :: rest => ofEntry e :: ofEntries rest
termination_by structural es => es

def ofEntry : Datum × Datum → Value × Value
  | (k, v) => (ofDatum k, ofDatum v)
termination_by structural e => e

end

/-- The word by which messages name the kind of a value. -/
def typeName : Value → String
  | .null => Datum.null.typeName
  | .bool b => (Datum.bool b).typeName
  | .int i => (Datum.int i).typeName
  | .float x => (Datum.float x).typeName
  | .text _ => (Datum.text "").typeName
  | .list _ => (Datum.list []).typeName
  | .dict _ => (Datum.dict []).typeName
  | .foreign d => d.typeName

/-- What counts as present: numbers other than zero, and whatever is not empty. -/
def truthy : Value → Bool
  | .null => false
  | .bool b => b
  | .int i => i != 0
  | .float x => !x.isZero
  | .text w => !w.isEmpty
  | .list xs => !xs.isEmpty
  | .dict es => !es.isEmpty
  | .foreign d => d.truthy

/-! ## Parts -/

mutual

/-- What is in a value besides lists and dictionaries, keys included. -/
def scalars : Value → List Value
  | .list xs => scalarsOfItems xs
  | .dict es => scalarsOfEntries es
  | v => [v]
termination_by structural v => v

def scalarsOfItems : List Value → List Value
  | [] => []
  | x :: xs => scalars x ++ scalarsOfItems xs
termination_by structural xs => xs

def scalarsOfEntries : List (Value × Value) → List Value
  | [] => []
  | e :: rest => scalarsOfEntry e ++ scalarsOfEntries rest
termination_by structural es => es

def scalarsOfEntry : Value × Value → List Value
  | (k, v) => scalars k ++ scalars v
termination_by structural e => e

end

/-- Whether no integer in a value is too long to be written. -/
def isWritable (v : Value) : Bool := v.scalars.all fun
  | .int i => Number.isWritable i
  | _ => true

/-- Whether every text in a value can be encoded. -/
def isWhole (v : Value) : Bool := v.scalars.all fun
  | .text w => w.isWhole
  | _ => true

/-! ## Values as text -/

mutual

/-- The value as an expression. -/
def shown : Value → String
  | .null => Datum.null.shown
  | .bool b => (Datum.bool b).shown
  | .int i => (Datum.int i).shown
  | .float x => (Datum.float x).shown
  | .text w => w.shown
  | .list xs => "[" ++ ", ".intercalate (shownItems xs) ++ "]"
  | .dict es => "\x7b" ++ ", ".intercalate (shownEntries es) ++ "\x7d"
  | .foreign d => d.shown
termination_by structural v => v

def shownItems : List Value → List String
  | [] => []
  | x :: xs => shown x :: shownItems xs
termination_by structural xs => xs

def shownEntries : List (Value × Value) → List String
  | [] => []
  | e :: rest => shownEntry e :: shownEntries rest
termination_by structural es => es

def shownEntry : Value × Value → String
  | (k, v) => shown k ++ ": " ++ shown v
termination_by structural e => e

end

/-- The value as it appears inside running text. -/
def plain : Value → Words
  | .text w => w
  | .foreign d => .whole d.plain
  | v => .whole v.shown

/-! ## Dictionaries -/

/-- Whether two keys are one: a truth value equals zero or one, and an integer the floating-point
number of the same value. -/
def sameKey : Value → Value → Bool
  | .text v, .text w => v == w
  | v, w => match scalar? v, scalar? w with
    | some a, some b => a.same b
    | _, _ => false
where
  scalar? : Value → Option Datum
    | .null => some .null
    | .bool b => some (.bool b)
    | .int i => some (.int i)
    | .float x => some (.float x)
    | .foreign d => some d
    | _ => none

/-- The value under a key that is a text. -/
def lookup? (key : String) (entries : List (Value × Value)) : Option Value :=
  (entries.find? fun (k, _) => match k with
    | .text w => w == .whole key
    | _ => false).map Prod.snd

/-- The value under a key: in place when the key is known, at the end otherwise. -/
def insert (entries : List (Value × Value)) (key value : Value) : List (Value × Value) :=
  match entries with
  | [] => [(key, value)]
  | (k, v) :: rest =>
    if sameKey k key then (k, value) :: rest else (k, v) :: insert rest key value

/-- The dictionary made by inserting the pairs from left to right. -/
def ofPairs (pairs : List (Value × Value)) : List (Value × Value) :=
  pairs.foldl (fun entries (k, v) => insert entries k v) []

/-- Only what cannot change may be a key: lists and dictionaries may not. -/
def hashable : Value → Bool
  | .list _ | .dict _ => false
  | .foreign d => d.hashable
  | _ => true

/-- The items met when a value is walked through, none when it cannot be. -/
def items? : Value → Option (List Value)
  | .list xs => some xs
  | .dict es => some (es.map Prod.fst)
  | .text w => some (w.codes.map fun code => .text (.ofCodes [code]))
  | .foreign d => d.items?.map ofItems
  | _ => none

end Value

/-! ## Mappings

What can be taken for a dictionary is a dictionary itself, or anything to walk through whose items
are pairs of a key and a value.
-/

inductive MappingFault where
  /-- The value cannot be walked through. -/
  | notSequence (found : Value)
  /-- The item at the index cannot be walked through. -/
  | notItems (index : Nat)
  /-- The item at the index does not have two parts. -/
  | notPair (index length : Nat)
  /-- The key may change. -/
  | notKey (found : Value)

namespace MappingFault

def message : MappingFault → String
  | .notSequence found => "'" ++ found.typeName ++ "' object is not iterable"
  | .notItems index =>
    "cannot convert dictionary update sequence element #" ++ digitsText index ++ " to a sequence"
  | .notPair index length =>
    "dictionary update sequence element #" ++ digitsText index ++ " has length "
      ++ digitsText length ++ "; 2 is required"
  | .notKey found => "unhashable type: '" ++ found.typeName ++ "'"

end MappingFault

namespace Value

/-- The pair that the item at an index is. -/
def asPair (index : Nat) (item : Value) : Except MappingFault (Value × Value) :=
  match item.items? with
  | none => .error (.notItems index)
  | some [key, value] => if key.hashable then .ok (key, value) else .error (.notKey key)
  | some parts => .error (.notPair index parts.length)

/-- The entries of the dictionary that a value can be taken for. -/
def asMapping (value : Value) : Except MappingFault (List (Value × Value)) :=
  match value with
  | .dict entries => .ok entries
  | value =>
    match value.items? with
    | none => .error (.notSequence value)
    | some items => do return ofPairs (← items.zipIdx.mapM fun (item, index) => asPair index item)

end Value

end ControlSchema.Json
