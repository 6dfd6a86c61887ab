import ControlSchema.Bindings.Entry
import ControlSchema.Bindings.Gating
import ControlSchema.Linkage

/-!
# Importing generated source

Importing runs the statements of generated source from the first to the last, against the constants
of a linked runtime and a set of enabled features. What is left are the identifiers, the classes of
entries, and the table that finds a class by number. A constant that the runtime does not define
ends the import at the first member that asks for it.

Only source of the generated form is run; an empty text has that form and leaves nothing, and so do
constants under names of their own. A statement that raises an error ends the import with it.
-/

namespace ControlSchema

/-- What an import leaves behind. -/
structure Bindings where
  version : Option (Nat × Nat × Nat)
  category : Option Category
  identifiers : Option Identifiers
  classes : Table String EntryClass
  dispatch : Table Int EntryClass

inductive ImportFault where
  | unreadable
  | missing (error : MissingConstant)
  /-- A member of the identifiers has a name that none can have. -/
  | forbiddenName
  /-- A statement raises an error of its own. -/
  | raised (name : String)
  /-- A statement raises what is no error, such as the wish to end the process. -/
  | exited (name : String)
  /-- A statement is not of the generated form. -/
  | unknownStatement

namespace ImportFault

/-- What can be raised without being an error. -/
def exitNames : List String := ["BaseException", "GeneratorExit", "KeyboardInterrupt", "SystemExit"]

/-- The fault of a statement that raises a class of the name. -/
def ofRaising (name : String) : ImportFault :=
  if exitNames.contains name then .exited name else .raised name

end ImportFault

/-- What an import depends on. -/
structure ImportContext where
  runtime : LinkedRuntime
  enabled : String → Bool

namespace Bindings

open Source

def empty : Bindings := ⟨none, none, none, [], []⟩

/-! ## Expressions of the generated form -/

/-- The dimensions between the parentheses of a fixed shape. -/
def dimensions? (items : List Item) : Option (List Nat) :=
  items.mapM fun
    | .plain (.number n) => some n
    | _ => none

def shape? : Expr → Option Shape
  | .call (.attribute (.attribute (.name "_types") "Dimensionality") form) arguments =>
    match form, arguments with
    | "scalar", [] => some .scalar
    | "variable", [] => some .variable
    | "fixed", dims => (dimensions? dims).map .fixed
    | _, _ => none
  | _ => none

def kind? : Expr → Option ControlKind
  | .attribute (.attribute (.name "_types") "ControlType") constant =>
    ControlKind.ofConstant? constant
  | _ => none

def descriptor? : Expr → Option Descriptor
  | .call (.attribute (.name "_types") "TypeDescriptor") [.plain kind, .plain shape] => do
    return ⟨← kind? kind, ← shape? shape⟩
  | _ => none

def version? : Expr → Option (Nat × Nat × Nat)
  | .call (.name "Version") [.plain (.number a), .plain (.number b), .plain (.number c)] =>
    some (a, b, c)
  | _ => none

/-- The number of an identifier of the catalogue. -/
def identifier? (b : Bindings) : Expr → Option Int
  | .attribute (.name owner) name => do
    let ids ← b.identifiers
    if owner == ids.category.idClass then ids.numberOf? name else none
  | _ => none

/-! ## The catalogue -/

mutual

/-- The members that a statement of the catalogue's body adds. -/
def membersOf (context : ImportContext) (category : Category) (s : Statement) :
    Except ImportFault (List (String × Int)) :=
  match s with
  | .expression (.text _) => .ok []
  | .assignment [.name name] (.attribute (.name "_ids") constant) =>
    match context.runtime.constant category constant with
    | .ok id => .ok [(name, id)]
    | .error e => .error (.missing e)
  | .branch test body _ =>
    match featureOf? test with
    | some feature => if context.enabled feature then members context category body else .ok []
    | none => .error .unknownStatement
  | _ => .error .unknownStatement

def members (context : ImportContext) (category : Category) (body : List Statement) :
    Except ImportFault (List (String × Int)) :=
  match body with
  | [] => .ok []
  | s :: rest => do
    let first ← membersOf context category s
    let more ← members context category rest
    return first ++ more

end

def runCatalogue (context : ImportContext) (category : Category) (body : List Statement)
    (b : Bindings) : Except ImportFault Bindings := do
  let found ← members context category body
  match Identifiers.ofMembers? category (Table.ofPairs found) with
  | some ids => return { b with identifiers := some ids }
  | none => throw .forbiddenName

/-! ## Classes -/

/-- The docstring that a body begins with. -/
def doc? : List Statement → Option String
  | .expression (.text s) :: _ => some s
  | _ => none

/-- The enumerators that a body defines. -/
def enumerators (body : List Statement) : Table String Int :=
  body.filterMap fun
    | .assignment [.name name] value => value.integer?.map fun n => (name, n)
    | _ => none

def form? (body : List Statement) : String → Option EntryForm
  | "ControlWrapper" => some .wrapper
  | "ControlEnum" => some (.enumeration (enumerators body))
  | _ => none

/-- The category that a marker belongs to. -/
def marked? (marker : String) : Option Category := Category.all.find? (·.marker == marker)

/-- The class that a decorated definition binds to its identifier. -/
def entryClass? (b : Bindings) (decorators : List Expr) (name : String) (bases : List Item)
    (body : List Statement) : Option EntryClass :=
  match decorators, bases with
  | [.call (.attribute (.name "_control") "bind") [.plain id, .plain descriptor]],
    [.plain (.attribute (.name "_control") marker), .plain (.attribute (.name "_control") base)] =>
    do return {
      name
      category := ← marked? marker
      id := ← b.identifier? id
      descriptor := ← descriptor? descriptor
      form := ← form? body base
      doc := doc? body }
  | _, _ => none

/-! ## The dispatch table -/

/-- An entry of the table. -/
def dispatchEntry? (b : Bindings) : Item → Option (Int × EntryClass)
  | .entry key (.name name) => do return (← b.identifier? key, ← b.classes.get? name)
  | _ => none

/-- The bindings with the entries of a display written into the table. -/
def runDispatch (display : Expr) (b : Bindings) : Except ImportFault Bindings :=
  match display with
  | .dict entries =>
    match entries.mapM b.dispatchEntry? with
    | some pairs => .ok { b with dispatch := b.dispatch.merge pairs }
    | none => .error .unknownStatement
  | _ => .error .unknownStatement

/-! ## Statements -/

def runAssignment (name : String) (value : Expr) (b : Bindings) : Except ImportFault Bindings :=
  match name, value with
  | "SNAPSHOT_VERSION", value =>
    match version? value with
    | some version => .ok { b with version := some version }
    | none => .error .unknownStatement
  | "CATEGORY", .text word =>
    match Category.all.find? (·.word == word) with
    | some category => .ok { b with category := some category }
    | none => .error .unknownStatement
  | "_ids", .call (.attribute (.name "_linked") "linkage") [.plain (.name "CATEGORY")] => .ok b
  | "registry", .call (.name "DynRegistry") _ => .ok b
  | _, .text _ | _, .number _ | _, .real _ | _, .constant _ => .ok b
  | _, _ => .error .unknownStatement

def runClass (context : ImportContext) (decorators : List Expr) (name : String)
    (bases : List Item) (body : List Statement) (b : Bindings) : Except ImportFault Bindings :=
  match decorators, b.category with
  | [], some category =>
    if name == category.idClass then runCatalogue context category body b
    else .error .unknownStatement
  | decorators, _ =>
    match b.entryClass? decorators name bases body with
    | some c => .ok { b with classes := b.classes.put name c }
    | none => .error .unknownStatement

mutual

def runOne (context : ImportContext) (s : Statement) (b : Bindings) :
    Except ImportFault Bindings :=
  match s with
  | .expression (.text _) | .imported .. | .nothing | .function .. => .ok b
  | .raising (some (.name error)) _ | .raising (some (.call (.name error) _)) _ =>
    .error (.ofRaising error)
  | .expression (.call (.attribute (.name "_DYN_TABLE") "update") [.plain display]) =>
    runDispatch display b
  | .assignment [.name name] value => runAssignment name value b
  | .annotated (.name "_DYN_TABLE") _ (some display) => runDispatch display b
  | .branch (.name "TYPE_CHECKING") _ _ => .ok b
  | .branch test body _ =>
    match featureOf? test with
    | some feature => if context.enabled feature then run context body b else .ok b
    | none => .error .unknownStatement
  | .classDefinition decorators name bases body => runClass context decorators name bases body b
  | _ => .error .unknownStatement

/-- The bindings behind all statements. -/
def run (context : ImportContext) (statements : List Statement) (b : Bindings) :
    Except ImportFault Bindings :=
  match statements with
  | [] => .ok b
  | s :: rest => do run context rest (← runOne context s b)

end

/-- Whether a statement takes names from the future of the language. -/
def isFuture : Statement → Bool
  | .imported 0 ["__future__"] _ => true
  | _ => false

/-- The statements behind a docstring. -/
def behindDoc : List Statement → List Statement
  | .expression (.text _) :: rest => rest
  | statements => statements

/-- Whether nothing but a docstring stands in front of the statements about the future, as a module
has to have it. -/
def futureLeads (statements : List Statement) : Bool :=
  !((behindDoc statements).dropWhile isFuture).any isFuture

/-- The bindings that a source text leaves. -/
def importText (context : ImportContext) (text : String) : Except ImportFault Bindings :=
  match Source.read? text with
  | some statements =>
    if futureLeads statements then run context statements empty else .error .unreadable
  | none => .error .unreadable

/-! ## Using bindings -/

/-- The entry that a number and a value stand for. -/
def makeEntry (b : Bindings) (id : Int) (value : ControlValue) : Except DispatchError Entry :=
  match b.dispatch.get? id with
  | none => .error (.notFound ⟨id⟩)
  | some c =>
    match c.ofValue value with
    | .ok entry => .ok entry
    | .error e => .error (.conversion e)

/-- The registry over the identifiers. -/
def registry? (b : Bindings) : Option (Registry Entry) :=
  b.identifiers.map fun ids => ⟨ids, b.makeEntry⟩

end Bindings

end ControlSchema
