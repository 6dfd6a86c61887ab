import ControlSchema.Category
import ControlSchema.Source.Program
import ControlSchema.Table

/-!
# Feature guards in source

Generated source spreads each control over three pieces: a member of the catalogue, a class, and an
entry of the dispatch table. A piece is guarded by the innermost branch on an enabled feature that
it stands in. The map of guards is read from the source itself and from nothing else, so it tells
whether the pieces of each control appear and disappear together.
-/

namespace ControlSchema

namespace Source

/-- The positional arguments of a call. -/
def positional (arguments : List Item) : List Item := arguments.filter Item.isPositional

/-- The feature that a test asks for, when it is a question for one enabled feature. -/
def featureOf? : Expr → Option String
  | .call (.attribute (.name "_features") "enabled") arguments =>
    match positional arguments with
    | [.plain e] => e.shownConstant?
    | _ => none
  | _ => none

mutual

/-- The statement with its guard, or those of its body when it is a guard itself. -/
def guardedOne (feature : Option String) (s : Statement) : List (Statement × Option String) :=
  match s with
  | .branch test body otherwise =>
    match featureOf? test with
    | some inner => guarded (some inner) body
    | none => [(.branch test body otherwise, feature)]
  | s => [(s, feature)]

/-- Statements with the features that guard them. -/
def guarded (feature : Option String) (body : List Statement) :
    List (Statement × Option String) :=
  match body with
  | [] => []
  | s :: rest => guardedOne feature s ++ guarded feature rest

end

/-- The attributes that the keys of a display are. -/
def keyNames : Expr → List String
  | .dict entries =>
    entries.filterMap fun
      | .entry (.attribute _ name) _ => some name
      | _ => none
  | _ => []

end Source

/-! ## The map of guards -/

/-- The parts of generated source that every control is spread over. -/
inductive Piece where
  | catalogue
  | entryClass
  | dispatch
deriving DecidableEq

namespace Piece

def all : List Piece := [.catalogue, .entryClass, .dispatch]

def word : Piece → String
  | .catalogue => "catalogue"
  | .entryClass => "class"
  | .dispatch => "dispatch"

end Piece

/-- The guard of each piece, none for a piece without a guard. -/
abbrev Guards := Table Piece (Option String)

namespace Guards

/-- Whether all pieces are there and under the same guard. -/
def agree (guards : Guards) : Bool :=
  match guards.get? .catalogue, guards.get? .entryClass, guards.get? .dispatch with
  | some a, some b, some c => a == b && b == c
  | _, _, _ => false

/-- The guards, spelled as a dictionary. -/
def datum (guards : Guards) : Datum :=
  .dict (guards.map fun (piece, guard) => (.text piece.word, guard.elim .null .text))

end Guards

/-- The guards of the pieces that belong to each name. -/
abbrev GatingMap := Table String Guards

namespace GatingMap

open Source

/-- A piece that a name has at some place, with the guard of the place. -/
structure Mark where
  name : String
  piece : Piece
  guard : Option String

/-- The names that a statement of the catalogue's body assigns to. -/
def memberNames : Statement → List String
  | .assignment targets _ => targets.filterMap Expr.name?
  | _ => []

/-- The pieces of the catalogue's body. -/
def catalogueMarks (body : List Statement) : List Mark :=
  (guarded none body).flatMap fun (s, guard) =>
    (memberNames s).map fun name => ⟨name, .catalogue, guard⟩

def dispatchMarks (guard : Option String) (display : Expr) : List Mark :=
  (keyNames display).map fun name => ⟨name, .dispatch, guard⟩

/-- The pieces that a statement of the source contributes. -/
def marksOf (category : Category) (s : Statement) (guard : Option String) : List Mark :=
  match s with
  | .classDefinition decorators name _ body =>
    if name == category.idClass then catalogueMarks body
    else if decorators.isEmpty then []
    else [⟨name, .entryClass, guard⟩]
  | .annotated (.name "_DYN_TABLE") _ (some display) => dispatchMarks guard display
  | .expression (.call (.attribute _ "update") arguments) =>
    match positional arguments with
    | .plain display :: _ => dispatchMarks guard display
    | _ => []
  | _ => []

def marks (category : Category) (statements : List Statement) : List Mark :=
  (guarded none statements).flatMap fun (s, guard) => marksOf category s guard

def write (m : GatingMap) (mark : Mark) : GatingMap :=
  m.put mark.name (((m.get? mark.name).getD []).put mark.piece mark.guard)

/-- The guards that the statements of a source put their pieces under. -/
def ofStatements (category : Category) (statements : List Statement) : GatingMap :=
  (marks category statements).foldl write []

/-- The names whose pieces do not agree. -/
def mismatched (m : GatingMap) : GatingMap := m.filter fun (_, guards) => !guards.agree

def datum (m : GatingMap) : Datum :=
  .dict (m.map fun (name, guards) => (.text name, Guards.datum guards))

end GatingMap

end ControlSchema
