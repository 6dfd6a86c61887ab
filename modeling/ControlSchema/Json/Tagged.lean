import ControlSchema.Json.Value

/-!
# Data beyond JSON

JSON has no tuples, bytes and geometry, and its numbers do not tell integers from floating-point
numbers of the same value. In tagged JSON each of these is an object whose one key names the kind,
so that any datum without sets and times can be told from its tagged form. Halves of characters that
stand alone are replaced where a value is taken for a datum.
-/

namespace ControlSchema.Json

open Number

mutual

/-- The datum that a value is, its texts being made whole. -/
def Value.datum : Value → Datum
  | .null => .null
  | .bool b => .bool b
  | .int i => .int i
  | .float x => .float x
  | .text w => .text (String.ofList (w.codes.map fun code =>
    if Words.isHalf code then Char.ofNat 0xfffd else Char.ofNat code))
  | .list xs => .list (Value.datumItems xs)
  | .dict es => .dict (Value.datumEntries es)
  | .foreign d => d
termination_by structural v => v

def Value.datumItems : List Value → List Datum
  | [] => []
  | x :: xs => Value.datum x :: Value.datumItems xs
termination_by structural xs => xs

def Value.datumEntries : List (Value × Value) → List (Datum × Datum)
  | [] => []
  | e :: rest => Value.datumEntry e :: Value.datumEntries rest
termination_by structural es => es

def Value.datumEntry : Value × Value → Datum × Datum
  | (k, v) => (Value.datum k, Value.datum v)
termination_by structural e => e

end

def tag (kind : String) (content : Datum) : Datum := .dict [(.text kind, content)]

mutual

/-- The tagged form of a datum. -/
def encode : Datum → Datum
  | .float x => tag "$float" (.text x.text)
  | .bytes b => tag "$bytes" (.text (Text.hexOfBytes b))
  | .tuple xs => tag "$tuple" (.list (encodeItems xs))
  | .list xs => .list (encodeItems xs)
  | .dict es => .dict (encodeEntries es)
  | .point x y => tag "$point" (.list [encode x, encode y])
  | .size w h => tag "$size" (.list [encode w, encode h])
  | .rectangle x y w h => tag "$rect" (.list [encode x, encode y, encode w, encode h])
  | d => d
termination_by structural d => d

def encodeItems : List Datum → List Datum
  | [] => []
  | x :: xs => encode x :: encodeItems xs
termination_by structural xs => xs

def encodeEntries : List (Datum × Datum) → List (Datum × Datum)
  | [] => []
  | e :: rest => encodeEntry e :: encodeEntries rest
termination_by structural es => es

def encodeEntry : Datum × Datum → Datum × Datum
  | (k, v) => (k, encode v)
termination_by structural e => e

end

/-- The datum that a tag and its content, already decoded, stand for. -/
def untag? (kind : String) (content : Datum) : Option Datum :=
  match kind, content with
  | "$float", .text "nan" => some (.float (Binary.undefined .double))
  | "$float", .text "inf" => some (.float (Binary.infinite .double false))
  | "$float", .text "-inf" => some (.float (Binary.infinite .double true))
  | "$float", .text s => (doubleOfText? s.toList).map .float
  | "$bytes", .text hex => (Text.bytesOfHex? hex.toList).map .bytes
  | "$tuple", .list xs => some (.tuple xs)
  | "$point", .list [x, y] => some (.point x y)
  | "$size", .list [w, h] => some (.size w h)
  | "$rect", .list [x, y, w, h] => some (.rectangle x y w h)
  | _, _ => none

/-- The datum of a dictionary whose values are decoded. -/
def untagEntries (entries : List (Datum × Datum)) : Datum :=
  match entries with
  | [(.text kind, content)] => (untag? kind content).getD (.dict entries)
  | entries => .dict entries

mutual

/-- The datum of a tagged form; an object that is no tag is a dictionary. -/
def decode : Datum → Datum
  | .list xs => .list (decodeItems xs)
  | .dict es => untagEntries (decodeEntries es)
  | d => d
termination_by structural d => d

def decodeItems : List Datum → List Datum
  | [] => []
  | x :: xs => decode x :: decodeItems xs
termination_by structural xs => xs

def decodeEntries : List (Datum × Datum) → List (Datum × Datum)
  | [] => []
  | e :: rest => decodeEntry e :: decodeEntries rest
termination_by structural es => es

def decodeEntry : Datum × Datum → Datum × Datum
  | (k, v) => (k, decode v)
termination_by structural e => e

end

end ControlSchema.Json
