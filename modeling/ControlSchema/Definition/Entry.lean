import ControlSchema.Readers

/-!
# Schema entries

A schema names each control once and describes it by a mapping with a type, a description, and
possibly a size, an enumeration and a mark for drafts. The type, the size and the enumeration are
read first, in this order, and each stops the reading when it is wrong; the name, the vendor and the
enumeration as a whole are checked last.

A definition can also be given by its own fields, in which case every issue is reported.

Data of other kinds are taken for their texts. An integer that is too long to be written is an issue
where fields are checked, and where an entry is read it stops the reading.
-/

namespace ControlSchema

open Text

variable [Readers]

/-! ## Enumerators -/

/-- The text of a field that is read from its datum's text, which needs to have one. -/
def readWritten {α : Type} (datum : Datum) (read : String → Checked α) : Checked α :=
  if datum.isWritable then read datum.plainIfPresent
  else Checked.fail (.rejected ("Exceeds the limit (" ++ Number.digitsText Number.digitLimit
    ++ " digits) for integer string conversion; use sys.set_int_max_str_digits() to increase the limit"))

namespace Enumerator

def readName (datum : Datum) : Checked String :=
  readWritten datum fun text =>
    match Naming.checkName "enumerator name" (.text text) with
    | .ok name => .ok name
    | .error error => Checked.fail (.rejected error.message)

/-- The field of a record, read if it is there. -/
def readField {α : Type} (entries : List (Datum × Datum)) (name : String) (absent : Checked α)
    (read : Datum → Checked α) : Checked α :=
  Checked.located (.field name) <| match Datum.lookup? name entries with
    | some datum => read datum
    | none => absent

/-- The enumerator that a mapping describes; fields of other names are let pass. -/
def ofDatum (datum : Datum) : Checked Enumerator :=
  match datum with
  | .dict entries =>
    let name := readField entries "name" (Checked.fail .missing) readName
    let value := readField entries "value" (Checked.fail .missing) Readers.integer
    let description := readField entries "description" (.ok "") Readers.text
    match name, value, description with
    | .ok name, .ok value, .ok description => .ok ⟨name, value, description⟩
    | name, value, description =>
      .error (Checked.issues name ++ Checked.issues value ++ Checked.issues description)
  | _ => Checked.fail .notRecord

end Enumerator

/-! ## Definitions from their fields -/

namespace Definition

def readName (datum : Datum) : Checked String :=
  readWritten datum fun text =>
    match Naming.checkName "control name" (.text text) with
    | .ok name => .ok name
    | .error error => Checked.fail (.rejected error.message)

def readVendor (datum : Datum) : Checked String :=
  readWritten datum fun text =>
    let vendor := strip text
    if Naming.isLowerSnake vendor then .ok vendor
    else Checked.fail (.rejected ("vendor must be lower_snake, got " ++ datum.shown))

/-- The complaint about a kind that no alias names. -/
def unknownKindMessage (name : String) : String := "unknown control type " ++ quoted name

/-- A kind by alias, or by its tag. -/
def readKind (datum : Datum) : Checked ControlKind :=
  match datum with
  | .text name =>
    match ControlKind.ofAlias? name with
    | some kind => .ok kind
    | none => Checked.fail (.rejected (unknownKindMessage name))
  | datum => Readers.kind datum

def readEnumeration (datum : Datum) : Checked (Option (List Enumerator)) :=
  match datum with
  | .null => .ok none
  | .list items | .tuple items | .set items =>
    (Checked.all 0 (items.map Enumerator.ofDatum)).map some
  | _ => Checked.fail .notTuple

/-- The definition, if its enumeration is sound. -/
def checked (d : Definition) : Checked Definition :=
  match d.check with
  | .ok d => .ok d
  | .error fault => Checked.fail (.rejected fault.message)

def fieldNames : List String :=
  ["name", "vendor", "kind", "description", "dimensionality", "enumeration"]

/-- An issue for each field that definitions do not have. -/
def unknownFields (entries : List (Datum × Datum)) : List Issue :=
  entries.filterMap fun (key, _) =>
    if fieldNames.contains key.plain then none else some ⟨[.field key.plain], .unknownField⟩

/-- The definition with the given fields. -/
def ofFields (entries : List (Datum × Datum)) : Checked Definition :=
  let name := Enumerator.readField entries "name" (Checked.fail .missing) readName
  let vendor := Enumerator.readField entries "vendor" (.ok coreVendor) readVendor
  let kind := Enumerator.readField entries "kind" (Checked.fail .missing) readKind
  let description := Enumerator.readField entries "description" (.ok "") Readers.text
  let shape := Enumerator.readField entries "dimensionality" (.ok .scalar) Readers.shape
  let enumeration := Enumerator.readField entries "enumeration" (.ok none) readEnumeration
  match name, vendor, kind, description, shape, enumeration, unknownFields entries with
  | .ok name, .ok vendor, .ok kind, .ok description, .ok shape, .ok enumeration, [] =>
    checked ⟨name, vendor, kind, description, shape, enumeration⟩
  | name, vendor, kind, description, shape, enumeration, unknown =>
    .error (Checked.issues name ++ Checked.issues vendor ++ Checked.issues kind
      ++ Checked.issues description ++ Checked.issues shape ++ Checked.issues enumeration
      ++ unknown)

end Definition

/-! ## Definitions from schema entries -/

inductive EntryError where
  | notMapping (name : String) (found : Datum)
  | missingType (name : String)
  | enumNotList (name : String)
  | unknownKind (kind : String)
  | badSize (size : Datum) (fault : SizeFault)
  /-- What has to be written holds an integer that is too long. -/
  | unwritable
  | invalid (issues : List Issue)

namespace EntryError

/-- The text of the error; issues speak for themselves. -/
def message? : EntryError → Option String
  | .notMapping name found =>
    some (name ++ ": entry must be a mapping, got " ++ found.typeName)
  | .missingType name => some (name ++ ": missing 'type'")
  | .enumNotList name => some (name ++ ": 'enum' must be a list")
  | .unknownKind kind => some (Definition.unknownKindMessage kind)
  | .badSize size fault =>
    some ("invalid size spec " ++ size.shown ++ ": " ++ fault.message)
  | .unwritable | .invalid _ => none

end EntryError

namespace Definition

/-- The enumerators of a list, up to the first that is none. -/
def entryEnumerators (items : List Datum) : Except EntryError (List Enumerator) :=
  items.mapM fun item => (Enumerator.ofDatum item).mapError .invalid

/-- The list of enumerators, if the entry has one. -/
def entryEnumeration (name : String) (entries : List (Datum × Datum)) :
    Except EntryError (Option (List Datum)) :=
  match Datum.lookup? "enum" entries with
  | none | some .null => .ok none
  | some (.list items) => .ok (some items)
  | some _ => .error (.enumNotList name)

/-- The vendor of an entry: what the document says, else the draft vendor or the core vendor. -/
def entryVendor (entries : List (Datum × Datum)) (vendor : Datum) : Datum :=
  match vendor, Datum.lookup? "draft" entries with
  | .null, some (.bool true) => .text draftVendor
  | .null, _ => .text coreVendor
  | vendor, _ => vendor

def entryKind (datum : Datum) : Except EntryError ControlKind :=
  if datum.isWritable then
    match ControlKind.ofAlias? datum.plain with
    | some kind => .ok kind
    | none => .error (.unknownKind datum.plain)
  else .error .unwritable

/-- The shape; a size that is wrong is written into the error. -/
def entryShape (size : Datum) : Except EntryError Shape :=
  (Shape.ofSize size).mapError fun fault =>
    if size.isWritable then .badSize size fault else .unwritable

def entryDescription (datum : Datum) : Except EntryError String :=
  if datum.isWritable then .ok (strip datum.plainIfPresent) else .error .unwritable

/-- The definition made of parts that have been read. -/
def ofParts (name vendor : Datum) (kind : ControlKind) (description : String) (shape : Shape)
    (enumeration : Option (List Enumerator)) : Checked Definition :=
  match Checked.located (.field "name") (readName name),
    Checked.located (.field "vendor") (readVendor vendor) with
  | .ok name, .ok vendor => checked ⟨name, vendor, kind, description, shape, enumeration⟩
  | name, vendor => .error (Checked.issues name ++ Checked.issues vendor)

/-- The definition that an entry of a schema describes. -/
def ofEntry (name entry vendor : Datum) : Except EntryError Definition :=
  match entry with
  | .dict entries =>
    match Datum.lookup? "type" entries with
    | none => .error (.missingType name.plain)
    | some type => do
      let enumeration ← entryEnumeration name.plain entries
      let kind ← entryKind type
      let description ← entryDescription ((Datum.lookup? "description" entries).getD .null)
      let shape ← entryShape ((Datum.lookup? "size" entries).getD .null)
      let enumerators ← enumeration.mapM entryEnumerators
      (ofParts name (entryVendor entries vendor) kind description shape enumerators).mapError
        .invalid
  | found => .error (.notMapping name.plain found)

end Definition

end ControlSchema
