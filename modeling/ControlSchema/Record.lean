import ControlSchema.Cell
import ControlSchema.Datum.Field
import ControlSchema.Json.Tagged
import ControlSchema.Linkage
import ControlSchema.Release
import ControlSchema.Settings
import ControlSchema.Snapshot

/-!
# Records

What can be asked of a value, a snapshot, a release, a runtime or the settings, field by field, and
what is made of such fields when a program gives them.
-/

namespace ControlSchema

/-!
## Kinds, values and cells

Data that plain records cannot hold are in their tagged form, payloads are in hexadecimal digits.
-/

def ControlKind.fields (kind : ControlKind) : List (String × Datum) :=
  let range := kind.intRange?.elim Datum.null fun (low, high) => .list [.int low, .int high]
  [("tag", .int kind.tag), ("label", .text kind.label), ("is_integer", .bool kind.isInteger),
    ("python_type", kind.elementType?.elim .null .text), ("int_range", range)]

namespace ControlValue

/-- The kind and the data, which make up the value. -/
def parts (v : ControlValue) : List (String × Datum) :=
  [("type", .text v.kind.label), ("data", Json.encode v.data)]

def record (v : ControlValue) : Datum := Datum.ofRecord <| v.parts ++ [
  ("count", .int v.elementCount), ("is_array", .bool v.isArray), ("repr", .text v.shown)]

/-- The tagged form of a value. -/
def tagged (v : ControlValue) : Datum := Json.tag "$value" (Datum.ofRecord v.parts)

end ControlValue

def Cell.record (cell : Cell) : Datum := Datum.ofRecord [
  ("type", .int cell.tag), ("is_array", .bool cell.isArray), ("num_elements", .int cell.count),
  ("data", cell.payload.elim .null fun bytes => .text (Text.hexOfBytes bytes))]

/-! ## Snapshots, with all that follows from them -/

def Enumerator.record (e : Enumerator) : Datum := Datum.ofRecord [
  ("name", .text e.name), ("value", .int e.value), ("description", .text e.description)]

namespace Definition

/-- What the type qualifiers of a source text begin with. -/
def qualifier : String := "_types."

def numbers (ns : List Nat) : Datum := .list (ns.map fun (n : Nat) => .int n)

/-- The definition, unless one of its enumerators has no name as a variant. -/
def record (d : Definition) : Except NamingError Datum := do
  let variants ← d.variantNames
  let enumeration := d.enumeration.elim Datum.null fun es => .list (es.map Enumerator.record)
  return Datum.ofRecord [
    ("name", .text d.name), ("vendor", .text d.vendor), ("kind", .text d.kind.label),
    ("description", .text d.description), ("dims", numbers d.shape.dims),
    ("dynamic", .bool d.shape.isDynamic), ("enumeration", enumeration),
    ("is_core", .bool d.isCore), ("is_enum", .bool d.isEnum),
    ("feature", d.feature.elim .null .text), ("linkage_name", .text d.linkageName),
    ("c_name", .text d.snakeName), ("variant_names", .list (variants.map .text)),
    ("hint", .text d.descriptor.hint), ("source", .text (d.descriptor.source qualifier))]

end Definition

namespace Snapshot

def idsRecord (ids : Table String Nat) : Datum :=
  Datum.ofRecord (ids.map fun (name, id) => (name, .int id))

def record (s : Snapshot) : Except NamingError Datum := do
  let controls ← s.controls.mapM Definition.record
  let properties ← s.properties.mapM Definition.record
  return Datum.ofRecord [
    ("version", .text s.version.text), ("controls", .list controls),
    ("properties", .list properties), ("control_ids", idsRecord (s.linkageIds .controls)),
    ("property_ids", idsRecord (s.linkageIds .properties)),
    ("vendors", .list (s.vendors.map .text))]

end Snapshot

/-! ## Releases, as their version, their tag and the texts of their documents -/

namespace Release

/-- Documents as pairs of name and text. -/
def pairs (documents : Table String String) : Datum :=
  .list (documents.map fun (name, text) => .tuple [.text name, .text text])

def record (r : Release) : Datum := Datum.ofRecord [
  ("version", .text r.version.text), ("tag", .text r.tag), ("controls", pairs r.controls),
  ("properties", pairs r.properties)]

/-- The texts of a record under their names. -/
def documentsOf (d : Datum) : Table String String :=
  d.asRecord.map fun (name, text) => (name, text.plain)

/-- The release of a version; its tag is made of the version as it is written unless it is given. -/
def ofRecord (version : String) (d : Datum) : Except VersionError Release := do
  return {
    version := ← Version.parse version
    tag := (d.member? "tag").elim ("v" ++ version) Datum.plain
    controls := documentsOf (d.member "controls")
    properties := documentsOf (d.member "properties") }

end Release

/-! ## Runtimes, as their version and the numbers of their constants -/

namespace LinkedRuntime

def constantsRecord (ids : Table String Int) : Datum :=
  Datum.ofRecord (ids.map fun (name, id) => (name, .int id))

def fields (r : LinkedRuntime) : List (String × Datum) := [
  ("version", r.version.elim .null fun v => .text v.text),
  ("controls", constantsRecord r.controls), ("properties", constantsRecord r.properties)]

def record (r : LinkedRuntime) : Datum := Datum.ofRecord r.fields

def constantsOf (d : Datum) : Table String Int := d.asRecord.map fun (name, id) => (name, id.asInt)

/-- The runtime of no particular version that has the given constants. -/
def ofRecord (d : Datum) : LinkedRuntime :=
  ⟨none, constantsOf (d.member "controls"), constantsOf (d.member "properties")⟩

end LinkedRuntime

/-!
## Settings

A program may also give settings field by field. They are then taken as they are: nothing is
accepted or refused, and a field that is not given has its default.
-/

namespace Settings

def optional : Option String → Datum
  | some s => .text s
  | none => .null

/-- The fields of the settings under their names. -/
def record (s : Settings) : Datum := Datum.ofRecord [
  ("versioned_dir", .text s.versionedDir), ("compat_mode", .text s.compatMode),
  ("linked_version", optional s.linkedVersion), ("runtime_header", optional s.runtimeHeader),
  ("features", .list (s.features.map .text)), ("git_url", .text s.gitUrl),
  ("git_dir", .text s.gitDir), ("schema_dir", .text s.schemaDir), ("log_level", .text s.logLevel)]

/-- The text that is given for a field, or else its default. -/
def givenText (d : Datum) (key default : String) : String :=
  (d.member? key).elim default Datum.plain

def givenOptional (d : Datum) (key : String) : Option String :=
  match d.member key with
  | .null => none
  | value => some value.plain

/-- The settings with the given fields. -/
def ofRecord (d : Datum) : Settings where
  versionedDir := givenText d "versioned_dir" default.versionedDir
  compatMode := givenText d "compat_mode" default.compatMode
  linkedVersion := givenOptional d "linked_version"
  runtimeHeader := givenOptional d "runtime_header"
  features := (d.member? "features").elim default.features fun names =>
    (names.items?.getD []).map Datum.plain
  gitUrl := givenText d "git_url" default.gitUrl
  gitDir := givenText d "git_dir" default.gitDir
  schemaDir := givenText d "schema_dir" default.schemaDir
  logLevel := givenText d "log_level" default.logLevel

end Settings

end ControlSchema
