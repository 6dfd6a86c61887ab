import ControlSchema.Bindings.Gating
import ControlSchema.Bindings.Layout

/-!
# Generating source

Generation refuses names that the generated module needs for itself, and fails where a number in
the source has too many digits. Its own result is read back before it is given out: a text that is
no source, or whose pieces are not guarded alike, is an error.
-/

namespace ControlSchema

inductive GenerationError where
  | repeatedName (name : String)
  | reservedName (name : String)
  | reservedVariant (control variant : String)
  /-- A number in the source or in the header is too long to be written. -/
  | unwritable
  | unreadable
  | unevenGuards (category : Category) (mismatched : GatingMap)

namespace GenerationError

def message? : GenerationError → Option String
  | .repeatedName name => some ("duplicate control name " ++ Text.quoted name)
  | .reservedName name =>
    some ("control name " ++ Text.quoted name ++ " is reserved in generated modules")
  | .reservedVariant control variant =>
    some (control ++ ": enum variant " ++ Text.quoted variant ++ " is reserved")
  | .unwritable => none
  | .unreadable => some "generated source does not parse"
  | .unevenGuards category mismatched => some ("inconsistent feature guards in generated "
      ++ category.word ++ ": " ++ mismatched.datum.shown)

end GenerationError

namespace Bindings

/-! ## Names -/

/-- Names that the module uses itself. -/
def reservedNames : List String := [
  "ControlId", "PropertyId", "SNAPSHOT_VERSION", "CATEGORY", "DynRegistry", "make_dyn", "registry",
  "annotations"]

/-- Attributes that every class of an enumeration has. -/
def reservedVariants : List String :=
  ["ID", "TYPE", "from_value", "to_value", "mro", "name", "value"]

def isReservedName (name : String) : Bool := Naming.isKeyword name || reservedNames.contains name

/-- Refuses names that occur twice or are reserved. -/
def checkNames (seen : List String) : List Definition → Except GenerationError Unit
  | [] => .ok ()
  | d :: rest =>
    if seen.contains d.name then .error (.repeatedName d.name)
    else if isReservedName d.name then .error (.reservedName d.name)
    else match (d.variants.map Prod.snd).find? reservedVariants.contains with
      | some variant => .error (.reservedVariant d.name variant)
      | none => checkNames (d.name :: seen) rest

/-! ## Numbers -/

/-- Whether no number in the source is too long to be written. -/
def isWritable (s : Snapshot) (category : Category) : Bool :=
  s.version.isWritable && (s.definitions category).all (·.shape.isWritable)

/-! ## Guards -/

/-- The guards of every control's pieces in a source text. -/
def gatingMap (text : String) (category : Category) : Except GenerationError GatingMap :=
  match Source.read? text with
  | some statements => .ok (GatingMap.ofStatements category statements)
  | none => .error .unreadable

/-- The source of the module for a category of a snapshot. -/
def generate (s : Snapshot) (category : Category) : Except GenerationError String := do
  checkNames [] (s.definitions category)
  if !isWritable s category then throw .unwritable
  let text := Layout.text s category
  let guards ← gatingMap text category
  let mismatched := guards.mismatched
  if mismatched.isEmpty then return text else throw (.unevenGuards category mismatched)

end Bindings

end ControlSchema
