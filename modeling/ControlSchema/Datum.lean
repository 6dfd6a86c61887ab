import ControlSchema.Number.Binary

/-!
# Dynamic data

Schema documents, configuration files and callers hand over data whose shape is not known in
advance. A datum is a tree of scalars, sequences and dictionaries, with the three geometric records
as leaves of their own; what it should have been is decided by whoever reads it.

Equality follows the numeric reading of a scalar: a truth value equals zero or one, an integer
equals the floating-point number of the same value, and dictionaries are equal in any order.
-/

namespace ControlSchema

structure Date where
  year : Nat
  month : Nat
  day : Nat
deriving DecidableEq

/-- A time of day. -/
structure Clock where
  hour : Nat
  minute : Nat
  second : Nat
  microsecond : Nat
deriving DecidableEq

/-- A time of day on a date, with the offset from universal time in seconds when it has one. -/
structure Moment where
  date : Date
  clock : Clock
  offset : Option Int
deriving DecidableEq

inductive Datum where
  | null
  | bool (value : Bool)
  | int (value : Int)
  | float (value : Number.Double)
  | text (value : String)
  | bytes (value : List UInt8)
  | list (items : List Datum)
  | tuple (items : List Datum)
  | dict (entries : List (Datum × Datum))
  | set (items : List Datum)
  | date (value : Date)
  | clock (value : Clock)
  | moment (value : Moment)
  | point (x y : Datum)
  | size (width height : Datum)
  | rectangle (x y width height : Datum)

namespace Datum

instance : Inhabited Datum := ⟨.null⟩

/-- The word by which messages name the kind of a datum. -/
def typeName : Datum → String
  | .null => "NoneType"
  | .bool _ => "bool"
  | .int _ => "int"
  | .float _ => "float"
  | .text _ => "str"
  | .bytes _ => "bytes"
  | .list _ => "list"
  | .tuple _ => "tuple"
  | .dict _ => "dict"
  | .set _ => "set"
  | .date _ => "date"
  | .clock _ => "time"
  | .moment _ => "datetime"
  | .point .. => "Point"
  | .size .. => "Size"
  | .rectangle .. => "Rectangle"

/-- What counts as present: numbers other than zero, and whatever is not empty. -/
def truthy : Datum → Bool
  | .null => false
  | .bool b => b
  | .int i => i != 0
  | .float x => !x.isZero
  | .text s => !s.isEmpty
  | .bytes b => !b.isEmpty
  | .list xs | .tuple xs | .set xs => !xs.isEmpty
  | .dict es => !es.isEmpty
  | _ => true

/-! ## Equality -/

/-- The integer that a truth value or integer counts as. -/
def asInt? : Datum → Option Int
  | .bool b => some (if b then 1 else 0)
  | .int i => some i
  | _ => none

/-- Equality of two scalars by numeric value. -/
def sameScalar : Datum → Datum → Bool
  | .null, .null => true
  | .text s, .text t => s == t
  | .bytes s, .bytes t => s == t
  | .date s, .date t => s == t
  | .clock s, .clock t => s == t
  | .moment s, .moment t => s == t
  | .float x, .float y => x.same y
  | .float x, b => match b.asInt? with
    | some i => x.toInt? == some i
    | none => false
  | a, .float y => match a.asInt? with
    | some i => y.toInt? == some i
    | none => false
  | a, b => match a.asInt?, b.asInt? with
    | some i, some j => i == j
    | _, _ => false

mutual

/-- Whether two data are equal. -/
def same : Datum → Datum → Bool
  | .list xs, .list ys => sameItems xs ys
  | .tuple xs, .tuple ys => sameItems xs ys
  | .dict es, .dict fs => es.length == fs.length && entriesWithin es fs
  | .set xs, .set ys => xs.length == ys.length && itemsWithin xs ys
  | .point x y, .point x' y' => same x x' && same y y'
  | .size w h, .size w' h' => same w w' && same h h'
  | .rectangle x y w h, .rectangle x' y' w' h' =>
    same x x' && same y y' && same w w' && same h h'
  | a, b => sameScalar a b
termination_by structural x => x

def sameItems : List Datum → List Datum → Bool
  | [], [] => true
  | x :: xs, y :: ys => same x y && sameItems xs ys
  | _, _ => false
termination_by structural xs => xs

/-- Every entry has a partner of equal key and equal value. -/
def entriesWithin : List (Datum × Datum) → List (Datum × Datum) → Bool
  | [], _ => true
  | e :: rest, fs => fs.any (fun f => sameEntry e f) && entriesWithin rest fs
termination_by structural es => es

def sameEntry : Datum × Datum → Datum × Datum → Bool
  | (k, v), (k', v') => same k k' && same v v'
termination_by structural e => e

def itemsWithin : List Datum → List Datum → Bool
  | [], _ => true
  | x :: rest, ys => ys.any (fun y => same x y) && itemsWithin rest ys
termination_by structural xs => xs

end

/-! ## Dictionaries -/

/-- The value under a key that is a text. -/
def lookup? (key : String) (entries : List (Datum × Datum)) : Option Datum :=
  (entries.find? fun (k, _) => match k with
    | .text s => s == key
    | _ => false).map Prod.snd

/-- The value under a key: in place when the key is known, at the end otherwise. -/
def insert (entries : List (Datum × Datum)) (key value : Datum) : List (Datum × Datum) :=
  match entries with
  | [] => [(key, value)]
  | (k, v) :: rest => if same k key then (k, value) :: rest else (k, v) :: insert rest key value

/-- The dictionary made by inserting the pairs from left to right. -/
def ofPairs (pairs : List (Datum × Datum)) : List (Datum × Datum) :=
  pairs.foldl (fun entries (k, v) => insert entries k v) []

mutual

/-- Only what cannot change may be a key: lists, dictionaries and sets may not. -/
def hashable : Datum → Bool
  | .list _ | .dict _ | .set _ => false
  | .tuple xs => allHashable xs
  | .point x y => hashable x && hashable y
  | .size w h => hashable w && hashable h
  | .rectangle x y w h => hashable x && hashable y && hashable w && hashable h
  | _ => true
termination_by structural x => x

def allHashable : List Datum → Bool
  | [] => true
  | x :: xs => hashable x && allHashable xs
termination_by structural xs => xs

end

/-- The items met when a datum is walked through, none when it cannot be. -/
def items? : Datum → Option (List Datum)
  | .list xs | .tuple xs | .set xs => some xs
  | .dict es => some (es.map Prod.fst)
  | .text s => some (s.toList.map fun c => .text c.toString)
  | .bytes b => some (b.map fun x => .int x.toNat)
  | _ => none

end Datum

end ControlSchema
