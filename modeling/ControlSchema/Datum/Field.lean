import ControlSchema.Datum.Text

/-!
# Data as records and mappings

A record that is known to be well formed is read field by field. What is absent, or is no dictionary
or list at all, reads as null or as empty, and whatever is asked for as a text has its plain text.
-/

namespace ControlSchema

/-! ## Fields -/

namespace Datum

/-- The value under a key of a dictionary. -/
def member? (d : Datum) (key : String) : Option Datum :=
  match d with
  | .dict entries => lookup? key entries
  | _ => none

def member (d : Datum) (key : String) : Datum := (d.member? key).getD .null

def asList : Datum → List Datum
  | .list items => items
  | _ => []

def asInt (d : Datum) : Int := d.asInt?.getD 0

/-- The entries of a dictionary under the plain texts of their keys. -/
def asRecord : Datum → List (String × Datum)
  | .dict entries => entries.map fun (key, value) => (key.plain, value)
  | _ => []

def textAt (d : Datum) (key : String) : String := (d.member key).plain

def listAt (d : Datum) (key : String) : List Datum := (d.member key).asList

def intAt (d : Datum) (key : String) : Int := (d.member key).asInt

/-- A dictionary whose keys are texts. -/
def ofRecord (fields : List (String × Datum)) : Datum :=
  .dict (fields.map fun (key, value) => (.text key, value))

end Datum

end ControlSchema
