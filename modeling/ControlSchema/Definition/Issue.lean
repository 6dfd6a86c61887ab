import ControlSchema.Definition

/-!
# Issues

What is wrong with the fields of a record that was handed over as data. All fields are looked at, so
there may be several issues, each at the place of its field.
-/

namespace ControlSchema

/-- A step on the way to a part of a record. -/
inductive Place where
  | field (name : String)
  | index (n : Nat)
deriving DecidableEq

inductive IssueKind where
  /-- A rule of this library rejects the value. -/
  | rejected (message : String)
  | missing
  | unknownField
  | notText
  | notInteger
  | notDecimal
  | tooLong
  | fractional
  | notFinite
  | notRecord
  | notTuple
  | notMember
deriving DecidableEq

structure Issue where
  location : List Place
  kind : IssueKind
deriving DecidableEq

namespace Issue

/-- The issues as seen from outside the part at the given place. -/
def under (place : Place) (issues : List Issue) : List Issue :=
  issues.map fun issue => { issue with location := place :: issue.location }

end Issue

/-- A value, or the issues that keep it from being one. -/
abbrev Checked := Except (List Issue)

namespace Checked

def fail {α : Type} (kind : IssueKind) : Checked α := .error [⟨[], kind⟩]

def issues {α : Type} : Checked α → List Issue
  | .ok _ => []
  | .error issues => issues

def located {α : Type} (place : Place) : Checked α → Checked α
  | .ok a => .ok a
  | .error issues => .error (Issue.under place issues)

/-- The values of all parts, or the issues of all parts, each at its index. -/
def all {α : Type} (start : Nat) : List (Checked α) → Checked (List α)
  | [] => .ok []
  | part :: rest =>
    match located (.index start) part, all (start + 1) rest with
    | .ok a, .ok as => .ok (a :: as)
    | a, as => .error (issues a ++ issues as)

end Checked

end ControlSchema
