import ControlSchema.Snapshot
import ControlSchema.Source.Literal

/-!
# The layout of generated source

One module is generated for each category of a snapshot. After a fixed preamble it holds the
catalogue of identifiers, a class for every definition in the order of the schema, and the table
that dispatches on identifiers. Whatever belongs to a definition of another vendor than the core
stands under a guard that asks for the vendor's feature; in the catalogue, neighbours of one vendor
share a guard, and in the table all entries of one vendor do.
-/

namespace ControlSchema

open Number Text

namespace Layout

def indent : String := "    "

/-! ## Small parts -/

/-- Comment lines that hold a description. -/
def commentRows (margin description : String) : List String :=
  (lines (strip description)).map fun line => stripRight (margin ++ "#: " ++ line)

def guard (feature : String) : String := "if _features.enabled(" ++ quoted feature ++ "):"

/-- The expression for a definition's identifier. -/
def identifier (category : Category) (d : Definition) : String := category.idClass ++ "." ++ d.name

/-! ## The preamble -/

def preamble (version : Version) (category : Category) : List String := [
  "\"\"\"Generated " ++ category.word ++ " catalogue for libcamera " ++ version.text ++ ".",
  "",
  "Do not edit: regenerate with ``camctl generate``.",
  "\"\"\"",
  "",
  "# fmt: off",
  "from __future__ import annotations",
  "",
  "from typing import TYPE_CHECKING",
  "",
  "from camctl.core import types as _types",
  "from camctl.core.versioning import Version",
  "from camctl.runtime import control as _control",
  "from camctl.runtime import features as _features",
  "from camctl.runtime import linked as _linked",
  "from camctl.runtime.registry import DynRegistry",
  "from camctl.runtime.value import ControlValue",
  "",
  "if TYPE_CHECKING:",
  "    from camctl.core.geometry import Point, Rectangle, Size",
  "",
  "SNAPSHOT_VERSION = Version(" ++ digitsText version.major ++ ", " ++ digitsText version.minor
    ++ ", " ++ digitsText version.patch ++ ")",
  "CATEGORY = " ++ quoted category.word,
  "",
  "_ids = _linked.linkage(CATEGORY)",
  "",
  ""]

/-! ## The catalogue -/

def memberRow (d : Definition) : String := d.name ++ " = _ids." ++ d.linkageName

/-- The members of the catalogue, behind a definition of the given feature. -/
def memberRows (previous : Option String) : List Definition → List String
  | [] => []
  | d :: rest =>
    (match d.feature with
      | none => [indent ++ memberRow d]
      | some feature =>
        (if previous == some feature then [] else [indent ++ guard feature])
          ++ [indent ++ indent ++ memberRow d])
      ++ memberRows d.feature rest

def catalogueRows (category : Category) (definitions : List Definition) : List String :=
  ["class " ++ category.idClass ++ "(_control.DiscriminantEnum):",
    "    \"\"\"Numeric ids of the " ++ category.word ++ " in this snapshot, as linked.\"\"\""]
    ++ memberRows none definitions

/-! ## Classes -/

/-- The row of an enumerator with its comment; a commented enumerator that is not the first stands
apart from the one before. -/
def enumeratorRows (margin : String) (first : Bool) (e : Enumerator) (name : String) :
    List String :=
  (if first || e.description.isEmpty then [] else [""])
    ++ commentRows margin e.description
    ++ [margin ++ name ++ " = " ++ intText e.value]

def enumerationRows (margin : String) (d : Definition) : List String :=
  match d.variants with
  | [] => []
  | (e, name) :: rest =>
    enumeratorRows margin true e name
      ++ rest.flatMap fun (e, name) => enumeratorRows margin false e name

/-- The body of a definition's class. -/
def bodyRows (margin : String) (d : Definition) : List String :=
  let doc := Source.Docstring.rows margin d.description
  let apart := if doc.isEmpty then [] else [""]
  if d.isEnum then
    let members := enumerationRows margin d
    if members.isEmpty then if doc.isEmpty then [margin ++ "pass"] else doc
    else doc ++ apart ++ members
  else doc ++ apart ++ [margin ++ "value: " ++ d.descriptor.hint]

def baseClass (d : Definition) : String :=
  if d.isEnum then "_control.ControlEnum" else "_control.ControlWrapper"

/-- The class of a definition, bound to its identifier and descriptor. -/
def classRows (margin : String) (category : Category) (d : Definition) : List String :=
  [margin ++ "@_control.bind(" ++ identifier category d ++ ", " ++ d.descriptor.source "_types."
      ++ ")",
    margin ++ "class " ++ d.name ++ "(_control." ++ category.marker ++ ", " ++ baseClass d ++ "):"]
    ++ bodyRows (margin ++ indent) d

/-- The class under its guard, if it has one. -/
def guardedClassRows (category : Category) (d : Definition) : List String :=
  match d.feature with
  | none => classRows "" category d
  | some feature => [guard feature, ""] ++ classRows indent category d

/-! ## The dispatch table -/

def dispatchRow (margin : String) (category : Category) (d : Definition) : String :=
  margin ++ identifier category d ++ ": " ++ d.name ++ ","

/-- The features of some definitions, each once, in the order in which they first occur. -/
def features (definitions : List Definition) : List String :=
  (definitions.filterMap Definition.feature).eraseDups

def updateRows (category : Category) (definitions : List Definition) (feature : String) :
    List String :=
  [guard feature, "    _DYN_TABLE.update(", "        \x7b"]
    ++ (definitions.filter (·.feature == some feature)).map (dispatchRow "            " category)
    ++ ["        \x7d", "    )"]

def dispatchRows (category : Category) (definitions : List Definition) : List String :=
  ["_DYN_TABLE: dict[int, type[_control.ControlEntry]] = \x7b"]
    ++ (definitions.filter (·.feature == none)).map (dispatchRow indent category)
    ++ ["\x7d"]
    ++ (features definitions).flatMap (updateRows category definitions)

/-! ## The whole module -/

def closing (category : Category) : List String := [
  "",
  "",
  "def make_dyn(id: int, value: ControlValue) -> _control.DynControlEntry:",
  "    \"\"\"Type-erased entry for ``id``; raises ControlNotFound or ControlValueError.\"\"\"",
  "    return _control.make_dyn(_DYN_TABLE, id, value)",
  "",
  "",
  "registry = DynRegistry(CATEGORY, " ++ category.idClass ++ ", make_dyn)",
  ""]

def rows (s : Snapshot) (category : Category) : List String :=
  let definitions := s.definitions category
  preamble s.version category
    ++ catalogueRows category definitions
    ++ definitions.flatMap (fun d => ["", ""] ++ guardedClassRows category d)
    ++ ["", ""]
    ++ dispatchRows category definitions
    ++ closing category

/-- The source text for a category of a snapshot. -/
def text (s : Snapshot) (category : Category) : String := "\n".intercalate (rows s category)

end Layout

end ControlSchema
