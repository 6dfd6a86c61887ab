import ControlSchema.Choice

/-!
# Categories

Controls are settable with each request, properties describe a camera and are only read. The two
have separate identifiers, documents and generated modules.
-/

namespace ControlSchema

inductive Category where
  | controls
  | properties
deriving DecidableEq, Inhabited

namespace Category

def all : List Category := [.controls, .properties]

def word : Category → String
  | .controls => "controls"
  | .properties => "properties"

def ofDatum (value : Datum) : Except ChoiceError Category :=
  choose "category" [("controls", controls), ("properties", properties)] value

/-- The class of the category's identifiers in generated source. -/
def idClass : Category → String
  | .controls => "ControlId"
  | .properties => "PropertyId"

/-- The class that marks the category's entries in generated source. -/
def marker : Category → String
  | .controls => "Control"
  | .properties => "Property"

/-- What the names of the category's documents begin with. -/
def filePrefix : Category → String
  | .controls => "control_ids"
  | .properties => "property_ids"

/-- The enumeration of the category's identifiers in a C header. -/
def headerEnum : Category → String
  | .controls => "libcamera_control_id"
  | .properties => "libcamera_property_id"

/-- What the constants of the category begin with in a C header. -/
def headerPrefix : Category → String
  | .controls => "LIBCAMERA_CONTROL_ID_"
  | .properties => "LIBCAMERA_PROPERTY_ID_"

end Category

end ControlSchema
