import ControlSchema.Datum.Text
import ControlSchema.Text.Blank

/-!
# Choices by name

A setting or argument that selects one of a few alternatives is a word, in any letter case and with
blanks around it. An absent value counts as the empty word, which selects nothing.
-/

namespace ControlSchema

inductive ChoiceError where
  /-- The value of `what` is none of the allowed words. -/
  | unknown (what : String) (allowed : List String) (value : Datum)
  /-- The value is present and no text at all. -/
  | notText

namespace ChoiceError

def message? : ChoiceError → Option String
  | .unknown what allowed value =>
    some (what ++ " must be one of " ++ (Datum.list (allowed.map .text)).shown ++ " (got "
      ++ value.shown ++ ")")
  | .notText => none

end ChoiceError

/-- The alternative that a value selects. -/
def choose {α : Type} (what : String) (alternatives : List (String × α)) (value : Datum) :
    Except ChoiceError α :=
  let unknown := .error (.unknown what (alternatives.map Prod.fst) value)
  let select (word : String) : Except ChoiceError α :=
    match alternatives.lookup word with
    | some chosen => .ok chosen
    | none => unknown
  match value with
  | .text s => select (Text.lower (Text.strip s))
  | .bytes _ => unknown
  | _ => if value.truthy then .error .notText else select ""

end ControlSchema
