import ControlSchema.Category
import ControlSchema.Definition
import ControlSchema.Table
import ControlSchema.Version

/-!
# Snapshots

All controls and properties that one release defines, each category in the order of its schema. No
name occurs twice in a category. The constants of a category are numbered from one in that order,
definitions of all vendors included.

The catalogue is the overview of one category: a row for each definition, in the order of the
schema.
-/

namespace ControlSchema

structure Snapshot where
  version : Version
  controls : List Definition
  properties : List Definition
deriving DecidableEq

/-- The first name of a category that was there before. -/
structure RepeatedName where
  category : Category
  name : String
  version : Version

namespace RepeatedName

def message (e : RepeatedName) : String :=
  "duplicate " ++ e.category.word ++ " entry " ++ Text.quoted e.name ++ " in " ++ e.version.text

end RepeatedName

/-- The first text that equals an earlier one. -/
def firstRepeated? (seen : List String) : List String → Option String
  | [] => none
  | name :: rest =>
    if seen.contains name then some name else firstRepeated? (name :: seen) rest

namespace Snapshot

def definitions (s : Snapshot) : Category → List Definition
  | .controls => s.controls
  | .properties => s.properties

/-- The snapshot with the given definitions, if no name occurs twice in a category. -/
def ofDefinitions (version : Version) (controls properties : List Definition) :
    Except RepeatedName Snapshot :=
  match firstRepeated? [] (controls.map (·.name)), firstRepeated? [] (properties.map (·.name)) with
  | some name, _ => .error ⟨.controls, name, version⟩
  | none, some name => .error ⟨.properties, name, version⟩
  | none, none => .ok ⟨version, controls, properties⟩

/-- Constants with their numbers, from `next` on. -/
def numbered (next : Nat) : List Definition → List (String × Nat)
  | [] => []
  | d :: rest => (d.linkageName, next) :: numbered (next + 1) rest

/-- The constants of a category; of two equal constants the later number counts. -/
def linkageIds (s : Snapshot) (category : Category) : Table String Nat :=
  Table.ofPairs (numbered 1 (s.definitions category))

/-- The vendors of all definitions, the core vendor first and the others in order. -/
def vendors (s : Snapshot) : List String :=
  let found := ((s.controls ++ s.properties).map (·.vendor)).eraseDups
  found.filter (· == Definition.coreVendor)
    ++ (found.filter (· != Definition.coreVendor)).mergeSort textAtMost

end Snapshot

/-! ## Catalogues -/

structure CatalogueRow where
  id : Nat
  name : String
  vendor : String
  feature : Option String
  type : String
  shape : String
  /-- The number of enumerators, where there is an enumeration. -/
  variants : Option Nat
deriving DecidableEq

namespace CatalogueRow

def columns : List String := ["id", "name", "vendor", "feature", "type", "shape", "variants"]

def ofDefinition (ids : Table String Nat) (d : Definition) : CatalogueRow where
  id := (ids.get? d.linkageName).getD 0
  name := d.name
  vendor := d.vendor
  feature := d.feature
  type := d.kind.label
  shape := d.descriptor.hint
  variants := d.enumeration.map List.length

/-- The row under the columns. -/
def cells (row : CatalogueRow) : List Datum := [
  .int row.id, .text row.name, .text row.vendor, row.feature.elim .null .text, .text row.type,
  .text row.shape, row.variants.elim .null fun n => .int n]

end CatalogueRow

/-- The rows of a category. -/
def Snapshot.catalogue (s : Snapshot) (category : Category) : List CatalogueRow :=
  (s.definitions category).map (CatalogueRow.ofDefinition (s.linkageIds category))

end ControlSchema
