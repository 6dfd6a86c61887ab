import ControlSchema.Source.Literal
import ControlSchema.Text.Letter

/-!
# Lexemes

Source text falls into lexemes: words, numbers, literals and symbols, with blanks, comments and line
breaks between them. Every character belongs to exactly one lexeme, and each lexeme is the longest
that begins where it does, so a text without faults is the concatenation of its lexemes' spellings.
-/

namespace ControlSchema.Source

open Text

inductive Token where
  /-- A name or a keyword. -/
  | word (spelling : String)
  | number (spelling : String)
  | literal (literal : Literal)
  | symbol (spelling : String)
deriving DecidableEq

inductive Lexeme where
  | token (token : Token)
  | blanks (characters : List Char)
  | comment (characters : List Char)
  | lineBreak
  /-- A backslash at the end of a line, which joins the next line to it. -/
  | joined
deriving DecidableEq

def Token.spelling : Token → List Char
  | .word s | .number s | .symbol s => s.toList
  | .literal l => l.spelling

namespace Lexeme

def spelling : Lexeme → List Char
  | .token t => t.spelling
  | .blanks cs | .comment cs => cs
  | .lineBreak => ['\n']
  | .joined => ['\\', '\n']

def isSpace (c : Char) : Bool := c == ' ' || c == '\t' || c == '\x0c'

/-- The symbols, none behind one that it begins with. -/
def symbols : List String := [
  "...", "**=", "//=", "<<=", ">>=", "->", "==", "!=", "<=", ">=", ":=", "+=", "-=", "*=", "/=",
  "%=", "@=", "&=", "|=", "^=", "**", "//", "<<", ">>",
  "(", ")", "[", "]", "\x7b", "\x7d", ",", ":", ".", ";", "@", "=", "+", "-", "*", "/", "%", "&",
  "|", "^", "~", "<", ">"]

/-- The letters that may stand in front of a literal. -/
def literalLetters : List String := ["r", "R", "u", "U"]

def word (cs : List Char) : List Char := cs.takeWhile isNameRest

def isNumberChar (c : Char) : Bool := isNameRest c || c == '.'

/-- The lexeme that begins a text which does not begin with a blank or a break. -/
def frontToken? (cs : List Char) : Option Token :=
  match cs with
  | [] => none
  | c :: _ =>
    if Literal.isMark c then (Literal.front? [] cs).map .literal
    else if c.isDigit then some (.number (String.ofList (cs.takeWhile isNumberChar)))
    else if isNameStart c then
      let name := word cs
      let rest := cs.drop name.length
      if literalLetters.contains (String.ofList name) && rest.head?.any Literal.isMark then
        (Literal.front? name rest).map .literal
      else some (.word (String.ofList name))
    else (symbols.find? fun s => s.toList.isPrefixOf cs).map .symbol

/-- The lexeme that begins a text. -/
def front? (cs : List Char) : Option Lexeme :=
  match cs with
  | [] => none
  | '\n' :: _ => some .lineBreak
  | '\\' :: '\n' :: _ => some .joined
  | c :: _ =>
    if isSpace c then some (.blanks (cs.takeWhile isSpace))
    else if c == '#' then some (.comment (cs.takeWhile (· != '\n')))
    else (frontToken? cs).map .token

/-- The lexemes of a text; the number counts characters that the last lexeme has taken. -/
def readFrom : Nat → List Char → Option (List Lexeme)
  | _, [] => some []
  | taken + 1, _ :: rest => readFrom taken rest
  | 0, c :: rest => do
    let lexeme ← front? (c :: rest)
    let more ← readFrom (lexeme.spelling.length - 1) rest
    return lexeme :: more

/-- The lexemes of a text, unless some of it belongs to none. -/
def read? (cs : List Char) : Option (List Lexeme) := readFrom 0 cs

end Lexeme

end ControlSchema.Source
