import ControlSchema.Naming
import ControlSchema.Shape

/-!
# Definitions

What a schema says about one control or property: its name, the vendor it belongs to, the kind and
shape of its value, and possibly the closed set of values it can take. Controls of the core vendor
are always there; those of any other vendor belong to a feature that may be left out.
-/

namespace ControlSchema

/-- One value of a closed set, by name. -/
structure Enumerator where
  name : String
  value : Int
  description : String
deriving DecidableEq

structure Definition where
  name : String
  vendor : String
  kind : ControlKind
  description : String
  shape : Shape
  /-- The closed set of values, in the order of the schema. -/
  enumeration : Option (List Enumerator)
deriving DecidableEq

namespace Definition

def coreVendor : String := "libcamera"

/-- The vendor of entries that are marked as drafts in a document without a vendor. -/
def draftVendor : String := "draft"

def isCore (d : Definition) : Bool := d.vendor == coreVendor

def isEnum (d : Definition) : Bool := d.enumeration.isSome

/-- The feature that the definition belongs to, none for the core vendor. -/
def feature (d : Definition) : Option String :=
  if d.isCore then none else some ("vendor_" ++ d.vendor)

def linkageName (d : Definition) : String := Naming.linkageName d.name

/-- The snake case name, as C spells it. -/
def snakeName (d : Definition) : String := Naming.snakeCase d.name

def descriptor (d : Definition) : Descriptor := ⟨d.kind, d.shape⟩

def enumerators (d : Definition) : List Enumerator := d.enumeration.getD []

/-- The names of the enumerators' members, in the order of the schema. -/
def variantNames (d : Definition) : Except NamingError (List String) :=
  d.enumerators.mapM fun e => Naming.variantName e.name d.name

/-- The enumerators with the names of their members; those without one are left out. -/
def variants (d : Definition) : List (Enumerator × String) :=
  d.enumerators.filterMap fun e =>
    match Naming.variantName e.name d.name with
    | .ok name => some (e, name)
    | .error _ => none

end Definition

/-! ## Sound enumerations -/

/-- Why an enumeration does not go with the rest of its definition. -/
inductive EnumerationFault where
  | notInteger (control : String) (kind : ControlKind)
  | notScalar (control : String)
  | outOfRange (control : String) (enumerators : List String) (kind : ControlKind)
  | badName (error : NamingError)
  | repeatedNames (control : String) (names : List String)

/-- Names between brackets, each quoted. -/
def listing (names : List String) : String := (Datum.list (names.map .text)).shown

namespace EnumerationFault

def message : EnumerationFault → String
  | .notInteger control kind => control ++ ": enum requires an integer type, got " ++ kind.label
  | .notScalar control => control ++ ": enum controls must be scalar"
  | .outOfRange control enumerators kind =>
    control ++ ": enum values of " ++ listing enumerators ++ " out of range for " ++ kind.label
  | .badName error => error.message
  | .repeatedNames control names => control ++ ": duplicate enum variant names " ++ listing names

end EnumerationFault

/-- The names that occur more than once, each once and in order. -/
def repeatedNames (names : List String) : List String :=
  ((names.filter fun n => 1 < names.count n).eraseDups).mergeSort fun a b => !decide (b < a)

namespace Definition

/-- The definition, if its enumeration is sound: the kind is an integer kind, the shape a scalar,
every value in range and every member's name its own. -/
def check (d : Definition) : Except EnumerationFault Definition :=
  match d.enumeration with
  | none => .ok d
  | some enumerators =>
    match d.kind.intRange? with
    | none => .error (.notInteger d.name d.kind)
    | some (low, high) =>
      let beyond := enumerators.filter fun e => !(low ≤ e.value && e.value ≤ high)
      if !d.shape.isScalar then .error (.notScalar d.name)
      else if !beyond.isEmpty then .error (.outOfRange d.name (beyond.map (·.name)) d.kind)
      else match d.variantNames with
        | .error error => .error (.badName error)
        | .ok names =>
          let twice := repeatedNames names
          if twice.isEmpty then .ok d else .error (.repeatedNames d.name twice)

end Definition

end ControlSchema
