import ControlSchema.Source.Lexeme

/-!
# Logical lines and blocks

A logical line ends at a line break outside all brackets. Lines without tokens do not count. The
columns at which the lines begin nest them: the lines below one that begin further right are its
body.
-/

namespace ControlSchema.Source

/-- A logical line: the column of its first token, and its tokens. -/
structure Line where
  column : Nat
  tokens : List Token
deriving DecidableEq

namespace Line

/-- Brackets may not be nested deeper. -/
def nestingLimit : Nat := 200

def isOpening (t : Token) : Bool := [.symbol "(", .symbol "[", .symbol "\x7b"].contains t

def isClosing (t : Token) : Bool := [.symbol ")", .symbol "]", .symbol "\x7d"].contains t

/-- The number of open brackets behind a token. -/
def depthAfter? (depth : Nat) (t : Token) : Option Nat :=
  if isOpening t then if depth < nestingLimit then some (depth + 1) else none
  else if isClosing t then if depth = 0 then none else some (depth - 1)
  else some depth

/-- The column behind blanks at the beginning of a line: tabs go to the next multiple of eight. -/
def columnAfter (column : Nat) : List Char → Nat
  | [] => column
  | c :: rest =>
    if c == '\t' then columnAfter ((column / 8 + 1) * 8) rest
    else if c == '\x0c' then columnAfter 0 rest
    else columnAfter (column + 1) rest

/-- The line that ends, if there is anything on it. The tokens are in reverse. -/
def finished (column : Nat) (tokens : List Token) : List Line :=
  if tokens.isEmpty then [] else [⟨column, tokens.reverse⟩]

/-- The lines of lexemes behind the tokens of a line that has begun, at a number of open
brackets. -/
def gather? (depth column : Nat) (tokens : List Token) : List Lexeme → Option (List Line)
  | [] => if depth = 0 then some (finished column tokens) else none
  | .lineBreak :: rest =>
    if depth = 0 then (gather? 0 0 [] rest).map (finished column tokens ++ ·)
    else gather? depth column tokens rest
  | .blanks cs :: rest =>
    gather? depth (if tokens.isEmpty then columnAfter 0 cs else column) tokens rest
  | .comment _ :: rest => gather? depth column tokens rest
  | [.joined] => none
  | .joined :: rest => gather? depth column tokens rest
  | .token t :: rest => do
    let depth ← depthAfter? depth t
    gather? depth column (t :: tokens) rest

end Line

/-! ## Blocks -/

/-- A logical line with the lines nested below it. -/
inductive Block where
  | mk (tokens : List Token) (body : List Block)

namespace Block

/-- The lines in front that begin to the right of a column. -/
def nested (column : Nat) (lines : List Line) : List Line := lines.takeWhile (column < ·.column)

/-- The lines behind those. -/
def following (column : Nat) (lines : List Line) : List Line := lines.dropWhile (column < ·.column)

theorem length_nested_le (column : Nat) (lines : List Line) :
    (nested column lines).length ≤ lines.length :=
  (List.takeWhile_sublist _).length_le

theorem length_following_le (column : Nat) (lines : List Line) :
    (following column lines).length ≤ lines.length :=
  (List.dropWhile_sublist _).length_le

/-- The column at which the first of some lines begins. -/
def firstColumn (lines : List Line) : Nat := (lines.head?.map Line.column).getD 0

/-- The blocks of lines that begin at a column, unless some line fits nowhere. -/
def nest? (column : Nat) (lines : List Line) : Option (List Block) :=
  match lines with
  | [] => some []
  | line :: rest =>
    if line.column = column then do
      let body ← nest? (firstColumn (nested column rest)) (nested column rest)
      let more ← nest? column (following column rest)
      return mk line.tokens body :: more
    else none
termination_by lines.length
decreasing_by
  · exact Nat.lt_succ_of_le (length_nested_le column rest)
  · exact Nat.lt_succ_of_le (length_following_le column rest)

end Block

end ControlSchema.Source
