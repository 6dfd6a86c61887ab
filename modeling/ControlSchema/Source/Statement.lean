import ControlSchema.Source.Expression

/-!
# Statements

A statement is simple or compound. A simple statement is read from the tokens between the semicolons
of a logical line: a keyword and what belongs to it, or else an expression, an assignment or a hint.
Several targets, values or results need no brackets around them.
-/

namespace ControlSchema.Source

/-- A parameter of a function. -/
structure Parameter where
  name : String
  hint : Option Expr

inductive Statement where
  | expression (value : Expr)
  | assignment (targets : List Expr) (value : Expr)
  /-- An assignment of what an operator makes of the target and the value. -/
  | update (target : Expr) (operator : String) (value : Expr)
  | annotated (target hint : Expr) (value : Option Expr)
  /-- Names taken from a module, each with the name that it gets. The module may be given relative
  to a number of enclosing packages. -/
  | imported (packages : Nat) (source : List String) (names : List (String × String))
  /-- Modules, each possibly with a name that it gets. -/
  | modules (names : List (List String × Option String))
  | nothing
  | result (value : Option Expr)
  | deletion (target : Expr)
  | assertion (test : Expr) (report : Option Expr)
  | raising (error cause : Option Expr)
  /-- Names that belong to an enclosing scope. -/
  | outer (names : List String)
  /-- The end of a loop, or of one turn of it. -/
  | leave (word : String)
  | branch (test : Expr) (body otherwise : List Statement)
  | classDefinition (decorators : List Expr) (name : String) (bases : List Item)
      (body : List Statement)
  | function (decorators : List Expr) (name : String) (parameters : List Parameter)
      (result : Option Expr) (body : List Statement)

namespace Statement

/-! ## Targets -/

/-- Whether the expression is a single place that a value can be assigned to. -/
def isPlace : Expr → Bool
  | .name _ | .attribute .. | .subscript .. => true
  | _ => false

mutual

/-- Whether a value can be assigned to the expression, item by item if it has items. -/
def isTarget : Expr → Bool
  | .tuple items | .list items => areTargets items
  | e => isPlace e

def areTargets : List Item → Bool
  | [] => true
  | item :: rest => isTargetItem item && areTargets rest

def isTargetItem : Item → Bool
  | .plain e => isTarget e
  | .spread stars e => stars == 1 && isTarget e
  | _ => false

end

/-! ## Names -/

def plainName? (w : String) : Option String := if Naming.isKeyword w then none else some w

/-- Names between commas. -/
def names? : List Token → Option (List String)
  | [.word w] => (plainName? w).map fun name => [name]
  | .word w :: .symbol "," :: rest => do return (← plainName? w) :: (← names? rest)
  | _ => none

/-- The words of a dotted name, and the tokens behind it. -/
def dotted? : List Token → Option (List String × List Token)
  | .word w :: .symbol "." :: rest => do
    let name ← plainName? w
    let (more, rest) ← dotted? rest
    return (name :: more, rest)
  | .word w :: rest => (plainName? w).map fun name => ([name], rest)
  | _ => none

/-! ## Imports -/

/-- Names with what they are renamed to, between commas. -/
def renamed? : List Token → Option (List (String × String))
  | [.word w] => (plainName? w).map fun name => [(name, name)]
  | [.word w, .word "as", .word v] => do return [(← plainName? w, ← plainName? v)]
  | .word w :: .symbol "," :: rest => do
    let name ← plainName? w
    return (name, name) :: (← renamed? rest)
  | .word w :: .word "as" :: .word v :: .symbol "," :: rest => do
    return (← plainName? w, ← plainName? v) :: (← renamed? rest)
  | _ => none

/-- The names to take from a module: everything, or a list, in brackets perhaps, where a comma may
stand at the end. -/
def taken? : List Token → Option (List (String × String))
  | [.symbol "*"] => some [("*", "*")]
  | .symbol "(" :: rest =>
    match rest.reverse with
    | .symbol ")" :: .symbol "," :: names | .symbol ")" :: names => renamed? names.reverse
    | _ => none
  | tokens => renamed? tokens

/-- The number of enclosing packages that points in front ask for, and the tokens behind them. -/
def packages : List Token → Nat × List Token
  | .symbol "." :: rest => let (n, rest) := packages rest; (n + 1, rest)
  | .symbol "..." :: rest => let (n, rest) := packages rest; (n + 3, rest)
  | tokens => (0, tokens)

def importedFrom? (tokens : List Token) : Option Statement :=
  match packages tokens with
  | (0, tokens) => do
    let (source, rest) ← dotted? tokens
    match rest with
    | .word "import" :: rest => return .imported 0 source (← taken? rest)
    | _ => none
  | (n, .word "import" :: rest) => do return .imported n [] (← taken? rest)
  | (n, tokens) => do
    let (source, rest) ← dotted? tokens
    match rest with
    | .word "import" :: rest => return .imported n source (← taken? rest)
    | _ => none

/-- Modules between commas. -/
def modules? : Nat → List Token → Option (List (List String × Option String))
  | 0, _ => none
  | fuel + 1, tokens => do
    let (path, rest) ← dotted? tokens
    let (name, rest) ← (match rest with
      | .word "as" :: .word w :: rest => (plainName? w).map fun name => (some name, rest)
      | rest => some (none, rest) : Option (Option String × List Token))
    match rest with
    | [] => return [(path, name)]
    | .symbol "," :: rest => return (path, name) :: (← modules? fuel rest)
    | _ => none

/-! ## Reading -/

/-- A list of expressions that takes up all the tokens. -/
def whole? (tokens : List Token) : Option Expr :=
  match Expr.listed? tokens with
  | some (e, []) => some e
  | _ => none

/-- A single expression that takes up all the tokens. -/
def single? (tokens : List Token) : Option Expr :=
  match Expr.front? tokens with
  | some (e, []) => some e
  | _ => none

/-- The expressions between signs of equality. -/
def equated? : Nat → List Token → Option (List Expr)
  | 0, _ => none
  | fuel + 1, tokens => do
    let (e, rest) ← Expr.listed? tokens
    match rest with
    | [] => return [e]
    | .symbol "=" :: rest => return e :: (← equated? fuel rest)
    | _ => none

/-- The operators that may stand in front of a sign of equality. -/
def updateOperator? (s : String) : Option String :=
  ["+", "-", "*", "/", "//", "%", "@", "&", "|", "^", ">>", "<<", "**"].find? fun operator =>
    s == operator ++ "="

/-- A statement without a keyword: an expression, an assignment or a hint. -/
def unmarked? (tokens : List Token) : Option Statement := do
  let (e, rest) ← Expr.listed? tokens
  match rest with
  | [] => return .expression e
  | .symbol ":" :: rest =>
    if !isPlace e then none
    else do
      let (hint, rest) ← Expr.front? rest
      match rest with
      | [] => return .annotated e hint none
      | .symbol "=" :: rest => return .annotated e hint (some (← whole? rest))
      | _ => none
  | .symbol "=" :: rest =>
    let more ← equated? rest.length rest
    let targets := e :: more.dropLast
    let value ← more.getLast?
    if targets.all isTarget then return .assignment targets value else none
  | .symbol s :: rest => do
    let operator ← updateOperator? s
    if isPlace e then return .update e operator (← whole? rest) else none
  | _ => none

/-- Two expressions with something between them, or one. -/
def pair? (between : Token) (tokens : List Token) : Option (Expr × Option Expr) := do
  let (e, rest) ← Expr.front? tokens
  match rest with
  | [] => return (e, none)
  | token :: rest => if token = between then return (e, some (← single? rest)) else none

def simple? (tokens : List Token) : Option Statement :=
  match tokens with
  | [.word "pass"] => some .nothing
  | [.word "return"] => some (.result none)
  | .word "return" :: rest => (whole? rest).map fun e => .result (some e)
  | .word "from" :: rest => importedFrom? rest
  | .word "import" :: rest => (modules? rest.length rest).map .modules
  | [.word "break"] => some (.leave "break")
  | [.word "continue"] => some (.leave "continue")
  | [.word "raise"] => some (.raising none none)
  | .word "raise" :: rest =>
    (pair? (.word "from") rest).map fun (e, cause) => .raising (some e) cause
  | .word "assert" :: rest =>
    (pair? (.symbol ",") rest).map fun (e, report) => .assertion e report
  | .word "del" :: rest => do
    let e ← whole? rest
    if isTarget e then return .deletion e else none
  | .word "global" :: rest => (names? rest).map .outer
  | .word "nonlocal" :: rest => (names? rest).map .outer
  | tokens => unmarked? tokens

/-- Parts between semicolons, an empty one at the end left out. -/
def parts : List Token → List (List Token)
  | [] => []
  | .symbol ";" :: rest => [] :: parts rest
  | token :: rest =>
    match parts rest with
    | [] => [[token]]
    | part :: more => (token :: part) :: more

def simples? (tokens : List Token) : Option (List Statement) := (parts tokens).mapM simple?

end Statement

end ControlSchema.Source
