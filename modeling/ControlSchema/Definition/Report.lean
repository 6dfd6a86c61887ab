import ControlSchema.Datum.Field
import ControlSchema.Definition.Issue

/-!
# Issues as data

Each issue is reported with its location, the word for what is wrong and, where a rule rejects the
value, what the rule says.
-/

namespace ControlSchema

def Place.datum : Place → Datum
  | .field name => .text name
  | .index n => .int n

namespace IssueKind

def word : IssueKind → String
  | .rejected _ => "value_error"
  | .missing => "missing"
  | .unknownField => "extra_forbidden"
  | .notText => "string_type"
  | .notInteger => "int_type"
  | .notDecimal => "int_parsing"
  | .tooLong => "int_parsing_size"
  | .fractional => "int_from_float"
  | .notFinite => "finite_number"
  | .notRecord => "model_type"
  | .notTuple => "tuple_type"
  | .notMember => "enum"

def message? : IssueKind → Option String
  | .rejected message => some message
  | _ => none

end IssueKind

namespace Issue

def datum (issue : Issue) : Datum :=
  let location := Datum.list (issue.location.map Place.datum)
  Datum.ofRecord <| [("loc", location), ("type", .text issue.kind.word)]
    ++ (issue.kind.message?.map fun message => ("msg", Datum.text message)).toList

def report (issues : List Issue) : Datum := .list (issues.map datum)

end Issue

end ControlSchema
