import ControlSchema.Readers

/-!
# Reading positions in YAML text

The scanner looks at a text through a cursor, which knows the line and the column of the next
character: indentation is measured in columns, and a key has to end on the line it begins on. The
end of the text reads as the character of code zero, which no text may hold.
-/

namespace ControlSchema.Yaml

abbrev Result := Except Fault

/-! ## Characters -/

def endOfText : Char := '\x00'

def isBreak (c : Char) : Bool :=
  c == '\n' || c == '\r' || c.toNat == 0x85 || c.toNat == 0x2028 || c.toNat == 0x2029

def isBreakOrEnd (c : Char) : Bool := isBreak c || c == endOfText

/-- Spaces, line breaks and the end, but no tabs. -/
def isSpaceOrEnd (c : Char) : Bool := c == ' ' || isBreakOrEnd c

def isBlankOrEnd (c : Char) : Bool := c == '\t' || isSpaceOrEnd c

/-- Letters, digits, hyphens and underscores of ASCII. -/
def isNameChar (c : Char) : Bool := c.isAlphanum || c == '-' || c == '_'

def isOneOf (set : String) (c : Char) : Bool := set.toList.contains c

/-- The characters that a text may hold. -/
def isAllowed (c : Char) : Bool :=
  let n := c.toNat
  n == 0x9 || n == 0xa || n == 0xd || (0x20 ≤ n && n ≤ 0x7e) || n == 0x85
    || (0xa0 ≤ n && n ≤ 0xd7ff) || (0xe000 ≤ n && n ≤ 0xfffd) || 0x10000 ≤ n

def byteOrderMark : Char := Char.ofNat 0xfeff

/-! ## Cursors -/

structure Cursor where
  rest : List Char
  index : Nat := 0
  line : Nat := 0
  column : Nat := 0

namespace Cursor

/-- The character `n` places ahead. -/
def peek (c : Cursor) (n : Nat := 0) : Char := c.rest.getD n endOfText

/-- One character on. A carriage return before a line feed does not end the line by itself. -/
def next (c : Cursor) : Cursor :=
  match c.rest with
  | [] => c
  | ch :: rest =>
    if isBreak ch && !(ch == '\r' && rest.head? == some '\n') then
      ⟨rest, c.index + 1, c.line + 1, 0⟩
    else ⟨rest, c.index + 1, c.line, if ch == byteOrderMark then c.column else c.column + 1⟩

def skip : Nat → Cursor → Cursor
  | 0, c => c
  | n + 1, c => skip n c.next

/-- The characters from here on that satisfy a condition, and the cursor behind them. -/
def takeWhile (c : Cursor) (p : Char → Bool) : List Char × Cursor :=
  let taken := c.rest.takeWhile p
  (taken, c.skip taken.length)

def skipWhile (c : Cursor) (p : Char → Bool) : Cursor := (c.takeWhile p).2

def skipSpaces (c : Cursor) : Cursor := c.skipWhile (· == ' ')

/-- A comment up to the end of its line, if one begins here. -/
def skipComment (c : Cursor) : Cursor :=
  if c.peek == '#' then c.skipWhile fun ch => !isBreakOrEnd ch else c

/-- The line break that begins here: one of the common kinds counts as a line feed, and there may
be none. -/
def lineBreak (c : Cursor) : List Char × Cursor :=
  let ch := c.peek
  if ch == '\r' && c.peek 1 == '\n' then (['\n'], c.skip 2)
  else if ch == '\r' || ch == '\n' || ch.toNat == 0x85 then (['\n'], c.next)
  else if isBreak ch then ([ch], c.next)
  else ([], c)

/-- Whether three characters that separate documents begin here. -/
def atSeparator (c : Cursor) : Bool :=
  let three := c.rest.take 3
  (three == ['-', '-', '-'] || three == ['.', '.', '.']) && isBlankOrEnd (c.peek 3)

/-- Nothing but a comment may follow on the line. -/
def endOfLine (c : Cursor) : Result Cursor :=
  let c := c.skipSpaces.skipComment
  if isBreakOrEnd c.peek then .ok c.lineBreak.2 else .error .malformed

end Cursor

end ControlSchema.Yaml
