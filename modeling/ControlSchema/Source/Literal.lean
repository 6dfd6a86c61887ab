import ControlSchema.Text.Blank
import ControlSchema.Text.Hex

/-!
# String literals

A literal is written between quotation marks, one or three at each end. What stands between the
marks is its body, where a backslash keeps the next character from closing the literal. A docstring
is a literal between three marks that holds a description; its writer stands beside the reader.
-/

namespace ControlSchema.Source

open Text

/-- A string literal as it is written. -/
structure Literal where
  /-- The letters in front of the marks. -/
  letters : List Char
  mark : Char
  triple : Bool
  body : List Char
deriving DecidableEq

namespace Literal

def isMark (c : Char) : Bool := c == '"' || c == '\''

def marks (l : Literal) : List Char := if l.triple then [l.mark, l.mark, l.mark] else [l.mark]

def spelling (l : Literal) : List Char := l.letters ++ l.marks ++ l.body ++ l.marks

/-! ## Finding the end -/

/-- The body in front of a single closing mark on the same line. -/
def singleBody? (mark : Char) : List Char → Option (List Char)
  | [] => none
  | c :: rest =>
    if c == '\\' then
      match rest with
      | [] => none
      | d :: rest => (singleBody? mark rest).map fun body => c :: d :: body
    else if c == mark then some []
    else if c == '\n' then none
    else (singleBody? mark rest).map (c :: ·)

/-- The body in front of three closing marks. -/
def tripleBody? (mark : Char) : List Char → Option (List Char)
  | [] => none
  | c :: rest =>
    if c == '\\' then
      match rest with
      | [] => none
      | d :: rest => (tripleBody? mark rest).map fun body => c :: d :: body
    else if [mark, mark, mark].isPrefixOf (c :: rest) then some []
    else (tripleBody? mark rest).map (c :: ·)

/-- The literal in front of a text that begins with its marks, behind the given letters. -/
def front? (letters : List Char) : List Char → Option Literal
  | [] => none
  | mark :: rest =>
    if !isMark mark then none
    else if [mark, mark].isPrefixOf rest then
      (tripleBody? mark (rest.drop 2)).map fun body => ⟨letters, mark, true, body⟩
    else (singleBody? mark rest).map fun body => ⟨letters, mark, false, body⟩

/-! ## Values -/

def simpleEscapes : List (Char × Char) := [
  ('\\', '\\'), ('\'', '\''), ('"', '"'), ('a', '\x07'), ('b', '\x08'), ('f', '\x0c'),
  ('n', '\n'), ('r', '\r'), ('t', '\t'), ('v', '\x0b')]

def charOfCode? (n : Nat) : Option Char := if n.isValidChar then some (Char.ofNat n) else none

/-- The character numbered by the first `width` characters, all hexadecimal digits. -/
def numbered? (width : Nat) (cs : List Char) : Option Char :=
  match (cs.take width).mapM hexValue? with
  | some digits =>
    if digits.length == width then charOfCode? (digits.foldl (fun n d => 16 * n + d) 0) else none
  | none => none

def isOctal (c : Char) : Bool := '0' ≤ c && c ≤ '7'

/-- The characters that an escape stands for, and the number of its characters behind the
backslash. A backslash before any other character stands for itself. -/
def escape? : List Char → Option (List Char × Nat)
  | [] => some (['\\'], 0)
  | c :: rest =>
    match simpleEscapes.lookup c with
    | some meaning => some ([meaning], 1)
    | none =>
      if c == '\n' then some ([], 1)
      else if c == 'x' then (numbered? 2 rest).map fun d => ([d], 3)
      else if c == 'u' then (numbered? 4 rest).map fun d => ([d], 5)
      else if c == 'U' then (numbered? 8 rest).map fun d => ([d], 9)
      else if c == 'N' then none
      else if isOctal c then
        let digits := ((c :: rest).take 3).takeWhile isOctal
        some ([Char.ofNat (digits.foldl (fun n d => 8 * n + (d.toNat - 0x30)) 0)], digits.length)
      else some (['\\', c], 1)

/-- The text that a body stands for; the number counts characters that an escape has taken. -/
def unescapeFrom : Nat → List Char → Option (List Char)
  | _, [] => some []
  | taken + 1, _ :: rest => unescapeFrom taken rest
  | 0, c :: rest =>
    if c == '\\' then do
      let (meaning, length) ← escape? rest
      let more ← unescapeFrom length rest
      return meaning ++ more
    else (unescapeFrom 0 rest).map (c :: ·)

def isRaw (l : Literal) : Bool := l.letters.contains 'r' || l.letters.contains 'R'

/-- The text that the literal stands for. -/
def value? (l : Literal) : Option String :=
  (if l.isRaw then some l.body else unescapeFrom 0 l.body).map String.ofList

end Literal

/-! ## Docstrings -/

namespace Docstring

def tripleMark : String := "\"\"\""

/-- A mark at the very end is kept from running into the closing marks. -/
def guardEnd (body : String) : String :=
  if body.toList.getLast? == some '"' then String.ofList body.toList.dropLast ++ "\\\"" else body

/-- The body that stands for a description, blanks at its ends left out. -/
def body (description : String) : String :=
  guardEnd (replaceAll (replaceAll (strip description) "\\" "\\\\") tripleMark "\\\"\\\"\\\"")

/-- The lines of a description's docstring; a blank description has none. -/
def rows (indent description : String) : List String :=
  match lines (body description) with
  | [] => []
  | [line] => [indent ++ tripleMark ++ line ++ tripleMark]
  | many =>
    (indent ++ tripleMark) :: many.map (fun line => stripRight (indent ++ line))
      ++ [indent ++ tripleMark]

end Docstring

end ControlSchema.Source
