import ControlSchema.Source.Lexeme
import ControlSchema.Naming

/-!
# Expressions

Names, constants, displays of collections, attributes, calls, subscripts and operators. An
expression is read from tokens by descent: an operand with everything that is attached to it, then
the operators that bind at least as tightly as the place allows.

Between two tokens that are taken at most six steps are made, so a number of steps proportional to
the number of tokens is always enough.
-/

namespace ControlSchema.Source

mutual

inductive Expr where
  | name (name : String)
  | text (value : String)
  | number (value : Nat)
  | real (value : Number.Double)
  /-- A constant that is written as a word of the language. -/
  | constant (word : String)
  | attribute (object : Expr) (name : String)
  | call (function : Expr) (arguments : List Item)
  | subscript (object index : Expr)
  | tuple (items : List Item)
  | list (items : List Item)
  | set (items : List Item)
  | dict (entries : List Item)
  | prefixed (operator : String) (operand : Expr)
  | joined (operator : String) (left right : Expr)
  | conditional (yes test no : Expr)

/-- What stands between two commas of a display or a call. -/
inductive Item where
  | plain (value : Expr)
  | named (name : String) (value : Expr)
  | spread (stars : Nat) (value : Expr)
  | entry (key value : Expr)

end

namespace Item

def isPositional : Item → Bool
  | .plain _ => true
  | .spread stars _ => stars == 1
  | _ => false

def isEntry : Item → Bool
  | .entry .. => true
  | .spread stars _ => stars == 2
  | _ => false

def isArgument : Item → Bool
  | .entry .. => false
  | _ => true

/-- No plain argument stands behind a named one, and none that is spread by position behind one that
is spread by name. -/
def inOrder : List Item → Bool
  | [] => true
  | .named .. :: rest => (rest.all fun | .plain _ => false | _ => true) && inOrder rest
  | .spread 2 _ :: rest => !rest.any isPositional && inOrder rest
  | _ :: rest => inOrder rest

end Item

namespace Expr

/-! ## Operators -/

/-- How tightly operators bind. -/
def comparisonRank : Nat := 4

def negationRank : Nat := 11

def operatorRanks : List (String × Nat) := [
  ("|", 5), ("^", 6), ("&", 7), ("<<", 8), (">>", 8), ("+", 9), ("-", 9), ("*", 10), ("/", 10),
  ("//", 10), ("%", 10), ("@", 10), ("**", 12), ("<", 4), (">", 4), ("==", 4), (">=", 4),
  ("<=", 4), ("!=", 4)]

/-- The operator in front of some tokens with its rank, and the tokens behind it. -/
def operator? : List Token → Option ((String × Nat) × List Token)
  | .word "or" :: rest => some (("or", 1), rest)
  | .word "and" :: rest => some (("and", 2), rest)
  | .word "in" :: rest => some (("in", comparisonRank), rest)
  | .word "is" :: .word "not" :: rest => some (("is not", comparisonRank), rest)
  | .word "is" :: rest => some (("is", comparisonRank), rest)
  | .word "not" :: .word "in" :: rest => some (("not in", comparisonRank), rest)
  | .symbol s :: rest => (operatorRanks.lookup s).map fun rank => ((s, rank), rest)
  | _ => none

/-- The least rank that the right operand of an operator may have. -/
def rightRank (rank : Nat) : Nat := if rank = 12 then negationRank else rank + 1

/-! ## Atoms -/

/-- The value of a number in decimal digits without leading zeros. -/
def decimal? (s : String) : Option Nat :=
  let cs := s.toList
  if cs.isEmpty || !cs.all Char.isDigit then none
  else if cs.head? == some '0' && cs.any (· != '0') then none
  else some (cs.foldl (fun n c => 10 * n + (c.toNat - 0x30)) 0)

/-- The number of a spelling: an integer, or else one with a point or a power of ten. -/
def ofNumber? (s : String) : Option Expr :=
  match decimal? s with
  | some n => some (.number n)
  | none =>
    if s.toList.all Char.isDigit then none
    else (Number.doubleOfText? s.toList).map .real

def constants : List String := ["None", "True", "False"]

def ofWord? (w : String) : Option Expr :=
  if constants.contains w then some (.constant w)
  else if Naming.isKeyword w then none
  else some (.name w)

/-- The literals in front of some tokens, whose values are joined, and the tokens behind them. -/
def literals? : List Token → Option (String × List Token)
  | .literal l :: rest => do
    let value ← l.value?
    let (more, rest) ← literals? rest
    return (value ++ more, rest)
  | tokens => some ("", tokens)

/-- What a parenthesis holds: a lone item without a comma is that item, any other a tuple. -/
def ofParenthesis? (items : List Item) (comma : Bool) : Option Expr :=
  match items, comma with
  | [.plain e], false => some e
  | [_], false => none
  | items, _ => if items.all Item.isPositional then some (.tuple items) else none

def ofBraces? (items : List Item) : Option Expr :=
  if items.all Item.isEntry then some (.dict items)
  else if items.all Item.isPositional then some (.set items)
  else none

/-! ## Reading -/

mutual

/-- The expression in front of some tokens, and the tokens behind it. -/
def read? : Nat → List Token → Option (Expr × List Token)
  | 0, _ => none
  | fuel + 1, tokens => do
    let (e, rest) ← operation? fuel 1 tokens
    match rest with
    | .word "if" :: rest =>
      let (test, rest) ← operation? fuel 1 rest
      match rest with
      | .word "else" :: rest =>
        let (no, rest) ← read? fuel rest
        return (.conditional e test no, rest)
      | _ => none
    | rest => return (e, rest)

/-- An operand with the operators of at least the given rank behind it. -/
def operation? : Nat → Nat → List Token → Option (Expr × List Token)
  | 0, _, _ => none
  | fuel + 1, rank, tokens => do
    let (e, rest) ← operand? fuel rank tokens
    operators? fuel rank e rest

def operators? : Nat → Nat → Expr → List Token → Option (Expr × List Token)
  | 0, _, _, _ => none
  | fuel + 1, least, left, tokens =>
    match operator? tokens with
    | none => some (left, tokens)
    | some ((operator, rank), rest) =>
      if rank < least then some (left, tokens)
      else do
        let (right, rest) ← operation? fuel (rightRank rank) rest
        operators? fuel least (.joined operator left right) rest

def operand? : Nat → Nat → List Token → Option (Expr × List Token)
  | 0, _, _ => none
  | fuel + 1, least, tokens =>
    match tokens with
    | .word "not" :: rest =>
      if 3 < least then none
      else do
        let (e, rest) ← operation? fuel 3 rest
        return (.prefixed "not" e, rest)
    | .symbol s :: rest =>
      if s == "-" || s == "+" || s == "~" then do
        let (e, rest) ← operation? fuel negationRank rest
        return (.prefixed s e, rest)
      else do
        let (e, rest) ← atom? fuel tokens
        attached? fuel e rest
    | tokens => do
      let (e, rest) ← atom? fuel tokens
      attached? fuel e rest

def atom? : Nat → List Token → Option (Expr × List Token)
  | 0, _ => none
  | fuel + 1, tokens =>
    match tokens with
    | .word w :: rest => (ofWord? w).map fun e => (e, rest)
    | .number s :: rest => (ofNumber? s).map fun e => (e, rest)
    | .literal _ :: _ => (literals? tokens).map fun (value, rest) => (.text value, rest)
    | .symbol "..." :: rest => some (.constant "...", rest)
    | .symbol "(" :: rest => do
      let (items, comma, rest) ← items? fuel ")" rest
      let e ← ofParenthesis? items comma
      return (e, rest)
    | .symbol "[" :: rest => do
      let (items, _, rest) ← items? fuel "]" rest
      if items.all Item.isPositional then return (.list items, rest) else none
    | .symbol "\x7b" :: rest => do
      let (items, _, rest) ← items? fuel "\x7d" rest
      let e ← ofBraces? items
      return (e, rest)
    | _ => none

/-- An expression with the attributes, calls and subscripts behind it. -/
def attached? : Nat → Expr → List Token → Option (Expr × List Token)
  | 0, _, _ => none
  | fuel + 1, e, tokens =>
    match tokens with
    | .symbol "." :: .word w :: rest =>
      if Naming.isKeyword w then none else attached? fuel (.attribute e w) rest
    | .symbol "." :: _ => none
    | .symbol "(" :: rest => do
      let (items, _, rest) ← items? fuel ")" rest
      if items.all Item.isArgument && Item.inOrder items then attached? fuel (.call e items) rest
      else none
    | .symbol "[" :: rest => do
      let (items, comma, rest) ← items? fuel "]" rest
      if items.isEmpty then none
      else do
        let index ← ofParenthesis? items comma
        attached? fuel (.subscript e index) rest
    | tokens => some (e, tokens)

/-- The items up to a closing bracket, whether a comma stands in front of it, and the tokens
behind it. -/
def items? : Nat → String → List Token → Option (List Item × Bool × List Token)
  | 0, _, _ => none
  | fuel + 1, closing, tokens =>
    match tokens with
    | [] => none
    | token :: rest =>
      if token = .symbol closing then some ([], false, rest)
      else do
        let (item, rest) ← item? fuel tokens
        match rest with
        | .symbol "," :: rest =>
          let (items, comma, rest) ← items? fuel closing rest
          return (item :: items, comma || items.isEmpty, rest)
        | token :: rest => if token = .symbol closing then return ([item], false, rest) else none
        | [] => none

def item? : Nat → List Token → Option (Item × List Token)
  | 0, _ => none
  | fuel + 1, tokens =>
    match tokens with
    | .symbol "*" :: rest => (read? fuel rest).map fun (e, rest) => (.spread 1 e, rest)
    | .symbol "**" :: rest => (read? fuel rest).map fun (e, rest) => (.spread 2 e, rest)
    | .word w :: .symbol "=" :: rest =>
      if Naming.isKeyword w then none
      else (read? fuel rest).map fun (e, rest) => (.named w e, rest)
    | tokens => do
      let (e, rest) ← read? fuel tokens
      match rest with
      | .symbol ":" :: rest =>
        let (value, rest) ← read? fuel rest
        return (.entry e value, rest)
      | rest => return (.plain e, rest)

end

/-- The expression in front of some tokens, and the tokens behind it. -/
def front? (tokens : List Token) : Option (Expr × List Token) :=
  read? (8 * (tokens.length + 1)) tokens

/-- An item of a list without brackets. -/
def listItem? : List Token → Option (Item × List Token)
  | .symbol "*" :: rest =>
    (operation? (8 * (rest.length + 1)) 5 rest).map fun (e, rest) => (.spread 1 e, rest)
  | tokens => (front? tokens).map fun (e, rest) => (.plain e, rest)

/-- The items between commas in front of some tokens, whether there is a comma, and the tokens
behind them. -/
def series? : Nat → List Token → Option (List Item × Bool × List Token)
  | 0, _ => none
  | fuel + 1, tokens => do
    let (item, rest) ← listItem? tokens
    match rest with
    | .symbol "," :: rest =>
      match series? fuel rest with
      | some (items, _, rest) => return (item :: items, true, rest)
      | none => return ([item], true, rest)
    | rest => return ([item], false, rest)

/-- The expression in front of some tokens, where a tuple needs no brackets. -/
def listed? (tokens : List Token) : Option (Expr × List Token) := do
  let (items, comma, rest) ← series? (tokens.length + 1) tokens
  let e ← ofParenthesis? items comma
  return (e, rest)

/-! ## Views -/

/-- The name that a lone name is. -/
def name? : Expr → Option String
  | .name w => some w
  | _ => none

/-- The text of a constant, as it is shown. -/
def shownConstant? : Expr → Option String
  | .text s => some s
  | .number n => some (Number.digitsText n)
  | .real x => some x.text
  | .constant w => some (if w == "..." then "Ellipsis" else w)
  | _ => none

/-- The integer that a number is, possibly behind a sign. -/
def integer? : Expr → Option Int
  | .number n => some n
  | .prefixed "-" (.number n) => some (-n)
  | _ => none

end Expr

end ControlSchema.Source
