import ControlSchema.Source.Line
import ControlSchema.Source.Statement

/-!
# Programs

A program is a list of statements. A compound statement is read from a block: the tokens of its head
and the blocks of its body, which may also be simple statements behind the colon.

The blocks of a body are read from the last to the first, so that a branch finds the alternatives
that follow it, and a decorator the definition that it belongs to.
-/

namespace ControlSchema.Source

namespace Statement

/-! ## Heads of compound statements -/

inductive Head where
  | conditional (test : Expr)
  | alternative (test : Expr)
  | otherwise
  | classDefinition (name : String) (bases : List Item)
  | function (name : String) (parameters : List Parameter) (result : Option Expr)
  | decorator (value : Expr)

/-- The tokens behind the colon that ends a head. -/
def afterColon? : List Token → Option (List Token)
  | .symbol ":" :: rest => some rest
  | _ => none

/-- Parameters up to the closing parenthesis, and the tokens behind it. -/
def parameters? : Nat → List Token → Option (List Parameter × List Token)
  | 0, _ => none
  | _, .symbol ")" :: rest => some ([], rest)
  | fuel + 1, .word w :: rest => do
    let name ← plainName? w
    let (hint, rest) ← (match rest with
      | .symbol ":" :: rest => (Expr.front? rest).map fun (e, rest) => (some e, rest)
      | rest => some (none, rest) : Option (Option Expr × List Token))
    match rest with
    | .symbol "," :: rest =>
      let (more, rest) ← parameters? fuel rest
      return (⟨name, hint⟩ :: more, rest)
    | .symbol ")" :: rest => return ([⟨name, hint⟩], rest)
    | _ => none
  | _, _ => none

/-- The head in front of some tokens, and what stands behind its colon. -/
def head? (tokens : List Token) : Option (Head × List Token) :=
  match tokens with
  | .word "if" :: rest => do
    let (e, rest) ← Expr.front? rest
    return (.conditional e, ← afterColon? rest)
  | .word "elif" :: rest => do
    let (e, rest) ← Expr.front? rest
    return (.alternative e, ← afterColon? rest)
  | .word "else" :: rest => do return (.otherwise, ← afterColon? rest)
  | .word "class" :: .word w :: .symbol "(" :: rest => do
    let name ← plainName? w
    let (items, _, rest) ← Expr.items? (8 * (rest.length + 1)) ")" rest
    if items.all Item.isArgument && Item.inOrder items then
      return (.classDefinition name items, ← afterColon? rest)
    else none
  | .word "class" :: .word w :: rest => do
    return (.classDefinition (← plainName? w) [], ← afterColon? rest)
  | .word "def" :: .word w :: .symbol "(" :: rest => do
    let name ← plainName? w
    let (parameters, rest) ← parameters? (rest.length + 1) rest
    match rest with
    | .symbol "->" :: rest =>
      let (e, rest) ← Expr.front? rest
      return (.function name parameters (some e), ← afterColon? rest)
    | rest => return (.function name parameters none, ← afterColon? rest)
  | .symbol "@" :: rest => do return (.decorator (← single? rest), [])
  | _ => none

/-! ## Bodies -/

/-- What is known of the blocks that follow: the statements, and an alternative that still needs
its branch. -/
structure Tail where
  otherwise : Option (List Statement)
  statements : List Statement

/-- A decorator in front of a definition. -/
def decorated? (decorator : Expr) : List Statement → Option (List Statement)
  | .classDefinition decorators name bases body :: rest =>
    some (.classDefinition (decorator :: decorators) name bases body :: rest)
  | .function decorators name parameters returns body :: rest =>
    some (.function (decorator :: decorators) name parameters returns body :: rest)
  | _ => none

/-- A head with its body in front of what follows it. -/
def extend? (head : Head) (body : List Statement) (tail : Tail) : Option Tail :=
  match head, tail.otherwise with
  | .conditional test, otherwise =>
    some ⟨none, .branch test body (otherwise.getD []) :: tail.statements⟩
  | .alternative test, otherwise =>
    some ⟨some [.branch test body (otherwise.getD [])], tail.statements⟩
  | .otherwise, none => some ⟨some body, tail.statements⟩
  | .classDefinition name bases, none =>
    some ⟨none, .classDefinition [] name bases body :: tail.statements⟩
  | .function name parameters returns, none =>
    some ⟨none, .function [] name parameters returns body :: tail.statements⟩
  | .decorator e, none => (decorated? e tail.statements).map fun statements => ⟨none, statements⟩
  | _, some _ => none

def isDecorator : Head → Bool
  | .decorator _ => true
  | _ => false

mutual

/-- The statements of a block in front of what follows it. -/
def ofBlock? (block : Block) (tail : Tail) : Option Tail :=
  match block with
  | .mk tokens body => do
    match head? tokens with
    | some (head, inner) =>
      if isDecorator head then
        if body.isEmpty then extend? head [] tail else none
      else if inner.isEmpty then
        if body.isEmpty then none
        else do
          let statements ← ofBlocks? body
          if statements.otherwise.isSome then none else extend? head statements.statements tail
      else if body.isEmpty then do extend? head (← simples? inner) tail
      else none
    | none =>
      if body.isEmpty && tail.otherwise.isNone then do
        return ⟨none, (← simples? tokens) ++ tail.statements⟩
      else none

def ofBlocks? (blocks : List Block) : Option Tail :=
  match blocks with
  | [] => some ⟨none, []⟩
  | block :: rest => do
    let tail ← ofBlocks? rest
    ofBlock? block tail

end

end Statement

/-! ## Whole texts -/

/-- The statements of a source text; a text with the null character has none. -/
def read? (text : String) : Option (List Statement) :=
  if text.toList.contains '\x00' then none
  else do
    let lexemes ← Lexeme.read? (Text.unifyBreaks text).toList
    let lines ← Line.gather? 0 0 [] lexemes
    let blocks ← Block.nest? 0 lines
    let tail ← Statement.ofBlocks? blocks
    if tail.otherwise.isSome then none else some tail.statements

end ControlSchema.Source
