import ControlSchema.Definition.Issue
import ControlSchema.Shape

/-!
# Readers

Two readers come from elsewhere: the one that makes data of a YAML text, and the one that brings a
datum into the type that a field of a record is declared with. Whatever is defined over them takes
them as they are, so what is proved of it holds for every pair of readers.

The texts in the data of a document are made of characters. Half of a surrogate pair, which an
escape in YAML may write, is none.
-/

namespace ControlSchema

namespace Yaml

/-- Why a text has no data. -/
inductive Fault where
  /-- The reader's own error: the text is not well-formed, or asks for a type that is not known. -/
  | malformed
  /-- A scalar is not a value of its type. -/
  | badValue
  /-- Any other error, by the name of its class. -/
  | other (name : String)
deriving DecidableEq

end Yaml

class Readers where
  /-- The data of the documents of a YAML text, one for each document. -/
  yaml : String → Except Yaml.Fault (List Datum)
  text : Datum → Checked String
  integer : Datum → Checked Int
  /-- A kind by its tag. -/
  kind : Datum → Checked ControlKind
  /-- A shape by its own fields. -/
  shape : Datum → Checked Shape

end ControlSchema
