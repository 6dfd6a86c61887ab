import ControlSchema.Yaml.Cursor
import ControlSchema.Text.Hex

/-!
# Scalars as written

The text of a scalar in each of the four ways to write it. Plain and quoted scalars are folded: a
single line break counts as a space and of several breaks the first is dropped. Block scalars keep
their lines, or fold them where neither line is indented further than the block.

Each reader takes a cursor to the first character of the scalar and answers its text with the cursor
behind it. Loops are bounded by the characters that are left, since every turn takes at least one.
-/

namespace ControlSchema.Yaml

namespace Cursor

/-- A bound on the turns of a loop that moves on in each. -/
def fuel (c : Cursor) : Nat := c.rest.length + 1

/-! ## Breaks between lines -/

/-- What a break stands for inside folded text, given the breaks that follow it. -/
def foldBreak (first following : List Char) : List Char :=
  if first != ['\n'] then first ++ following
  else if following.isEmpty then [' ']
  else following

/-! ## Quoted scalars -/

def escapes : List (Char × Nat) := [
  ('0', 0x0), ('a', 0x7), ('b', 0x8), ('t', 0x9), ('\t', 0x9), ('n', 0xa), ('v', 0xb), ('f', 0xc),
  ('r', 0xd), ('e', 0x1b), (' ', 0x20), ('"', 0x22), ('\\', 0x5c), ('/', 0x2f), ('N', 0x85),
  ('_', 0xa0), ('L', 0x2028), ('P', 0x2029)]

/-- The number of digits of an escape by number. -/
def escapeWidths : List (Char × Nat) := [('x', 2), ('u', 4), ('U', 8)]

def hexNumber (digits : List Char) : Option Nat :=
  digits.foldlM (fun value digit => (Text.hexValue? digit).map (16 * value + ·)) 0

/-- The character of a code; codes of surrogates stand for none and are replaced. -/
def charOfCode (code : Nat) : Result Char :=
  if code < 0x110000 then
    .ok (if 0xd800 ≤ code && code < 0xe000 then Char.ofNat 0xfffd else Char.ofNat code)
  else if code < 0x80000000 then .error .badValue
  else .error (.other "OverflowError")

/-- An escape by number of the given width. -/
def numberedEscape (width : Nat) (c : Cursor) : Result (Char × Cursor) := do
  let digits := c.rest.take width
  match hexNumber digits with
  | some code =>
    if digits.length = width then return (← charOfCode code, c.skip width) else throw .malformed
  | none => throw .malformed

/-- Line breaks and the blanks at the beginning of lines. -/
def quotedBreaks : Nat → Cursor → Result (List Char × Cursor)
  | 0, _ => .error .malformed
  | fuel + 1, c =>
    if c.atSeparator then .error .malformed
    else
      let c := c.skipWhile fun ch => ch == ' ' || ch == '\t'
      if isBreak c.peek then do
        let (first, c) := c.lineBreak
        let (more, c) ← quotedBreaks fuel c
        return (first ++ more, c)
      else return ([], c)

/-- The escape behind a backslash. -/
def escape (c : Cursor) : Result (List Char × Cursor) :=
  match escapes.lookup c.peek, escapeWidths.lookup c.peek with
  | some code, _ => .ok ([Char.ofNat code], c.next)
  | none, some width => do
    let (ch, c) ← numberedEscape width c.next
    return ([ch], c)
  | none, none =>
    if isBreak c.peek then quotedBreaks c.fuel c.lineBreak.2 else .error .malformed

/-- The characters up to the next blank, line break or closing quotation mark. -/
def quotedRun (double : Bool) : Nat → Cursor → Result (List Char × Cursor)
  | 0, _ => .error .malformed
  | fuel + 1, c =>
    let ch := c.peek
    if isBlankOrEnd ch then .ok ([], c)
    else if !double && ch == '\'' then
      if c.peek 1 == '\'' then do
        let (more, c) ← quotedRun double fuel (c.skip 2)
        return ('\'' :: more, c)
      else .ok ([], c)
    else if double && ch == '"' then .ok ([], c)
    else if double && ch == '\\' then do
      let (text, c) ← escape c.next
      let (more, c) ← quotedRun double fuel c
      return (text ++ more, c)
    else do
      let (more, c) ← quotedRun double fuel c.next
      return (ch :: more, c)

/-- Blanks inside a line, or what a line break with its surroundings stands for. -/
def quotedBlanks (c : Cursor) : Result (List Char × Cursor) :=
  let (blanks, c) := c.takeWhile fun ch => ch == ' ' || ch == '\t'
  if c.peek == endOfText then .error .malformed
  else if isBreak c.peek then do
    let (first, c) := c.lineBreak
    let (breaks, c) ← quotedBreaks c.fuel c
    return (foldBreak first breaks, c)
  else .ok (blanks, c)

def quotedRest (double : Bool) : Nat → Cursor → Result (List Char × Cursor)
  | 0, _ => .error .malformed
  | fuel + 1, c => do
    if c.peek == (if double then '"' else '\'') then return ([], c.next)
    let (blanks, c) ← quotedBlanks c
    let (run, c) ← quotedRun double c.fuel c
    let (more, c) ← quotedRest double fuel c
    return (blanks ++ run ++ more, c)

/-- A scalar between quotation marks or apostrophes. -/
def quotedScalar (c : Cursor) : Result (String × Cursor) := do
  let double := c.peek == '"'
  let (run, c) ← quotedRun double c.fuel c.next
  let (more, c) ← quotedRest double c.fuel c
  return (String.ofList (run ++ more), c)

/-! ## Plain scalars -/

/-- Whether a colon before this character ends a plain scalar. -/
def endsKey (inFlow : Bool) (following : Char) : Bool :=
  isBlankOrEnd following || (inFlow && isOneOf ",[]\x7b\x7d" following)

/-- The characters up to the next blank or indicator. -/
def plainRun (inFlow : Bool) : List Char → List Char
  | [] => []
  | ch :: rest =>
    if isBlankOrEnd ch || (ch == ':' && endsKey inFlow (rest.headD endOfText))
      || (inFlow && isOneOf ",?[]\x7b\x7d" ch) then []
    else ch :: plainRun inFlow rest

/-- Line breaks and leading spaces inside a plain scalar, none when a document ends there. -/
def plainBreaks : Nat → Cursor → Option (List Char) × Cursor
  | 0, c => (some [], c)
  | fuel + 1, c =>
    let c := c.skipSpaces
    if isBreak c.peek then
      let (first, c) := c.lineBreak
      if c.atSeparator then (none, c)
      else
        let (more, c) := plainBreaks fuel c
        (more.map (first ++ ·), c)
    else (some [], c)

/-- What stands between two runs: spaces, or what line breaks stand for; and whether a line
ended. -/
def plainGap (c : Cursor) : List Char × Cursor × Bool :=
  let (blanks, c) := c.takeWhile (· == ' ')
  if isBreak c.peek then
    let (first, c) := c.lineBreak
    if c.atSeparator then ([], c, true)
    else match plainBreaks c.fuel c with
      | (none, c) => ([], c, true)
      | (some breaks, c) => (foldBreak first breaks, c, true)
  else (blanks, c, false)

/-- The runs of a plain scalar, those that follow being on lines indented at least by `indent`. -/
def plainRuns (inFlow : Bool) (indent : Int) : Nat → List Char → Bool → Cursor →
    List Char × Cursor × Bool
  | 0, _, ended, c => ([], c, ended)
  | fuel + 1, gap, ended, c =>
    let run := plainRun inFlow c.rest
    if c.peek == '#' || run.isEmpty then ([], c, ended)
    else
      let (nextGap, c, ended) := plainGap (c.skip run.length)
      if nextGap.isEmpty || (!inFlow && (c.column : Int) < indent) then (gap ++ run, c, ended)
      else
        let (more, c, ended) := plainRuns inFlow indent fuel nextGap ended c
        (gap ++ run ++ more, c, ended)

/-- A plain scalar, and whether a line ended behind it. -/
def plainScalar (inFlow : Bool) (indent : Int) (c : Cursor) : String × Cursor × Bool :=
  let (text, c, ended) := plainRuns inFlow indent c.fuel [] false c
  (String.ofList text, c, ended)

/-! ## Block scalars -/

/-- What happens to the line breaks at the end of a block. -/
inductive Chomping where
  | strip
  | clip
  | keep
deriving DecidableEq

def chomping? (ch : Char) : Option Chomping :=
  if ch == '+' then some .keep else if ch == '-' then some .strip else none

def increment? (ch : Char) : Option Nat :=
  if ch.isDigit then some (ch.toNat - 0x30) else none

/-- The indicators behind the style of a block, in either order. -/
def blockIndicators (c : Cursor) : Result (Chomping × Option Nat × Cursor) :=
  let (first, c) := match chomping? c.peek with
    | some chomping => (some chomping, c.next)
    | none => (none, c)
  let (increment, c) := match increment? c.peek with
    | some n => (some n, c.next)
    | none => (none, c)
  let (second, c) := match first, increment, chomping? c.peek with
    | none, some _, some chomping => (some chomping, c.next)
    | chomping, _, _ => (chomping, c)
  if increment == some 0 || !isSpaceOrEnd c.peek then .error .malformed
  else .ok (second.getD .clip, increment, c)

/-- Empty lines in front of a block, and the column of its widest line of spaces. -/
def blockIndentation : Nat → Nat → Cursor → List Char × Nat × Cursor
  | 0, widest, c => ([], widest, c)
  | fuel + 1, widest, c =>
    if c.peek == ' ' then blockIndentation fuel (max widest (c.column + 1)) c.next
    else if isBreak c.peek then
      let (first, c) := c.lineBreak
      let (more, widest, c) := blockIndentation fuel widest c
      (first ++ more, widest, c)
    else ([], widest, c)

/-- Spaces up to the indentation of a block. -/
def blockMargin (indent : Int) : Nat → Cursor → Cursor
  | 0, c => c
  | fuel + 1, c =>
    if (c.column : Int) < indent && c.peek == ' ' then blockMargin indent fuel c.next else c

/-- Empty lines inside a block. -/
def blockBreaks (indent : Int) : Nat → Cursor → List Char × Cursor
  | 0, c => ([], c)
  | fuel + 1, c =>
    let c := blockMargin indent c.fuel c
    if isBreak c.peek then
      let (first, c) := c.lineBreak
      let (more, c) := blockBreaks indent fuel c
      (first ++ more, c)
    else ([], c)

/-- Whether the cursor is at a line of the block. -/
def inBlock (indent : Int) (c : Cursor) : Bool :=
  (c.column : Int) == indent && c.peek != endOfText

/-- What a break between two lines of a block stands for, given the empty lines between them. -/
def blockBreak (folded : Bool) (outer inner : Bool) (lineBreak breaks : List Char) : List Char :=
  if folded && lineBreak == ['\n'] && outer && inner then
    if breaks.isEmpty then [' '] else []
  else lineBreak

/-- The lines of a block, the last line break, and the empty lines at the end. -/
def blockLines (folded : Bool) (indent : Int) : Nat → List Char → Cursor →
    List Char × List Char × List Char × Cursor
  | 0, breaks, c => ([], [], breaks, c)
  | fuel + 1, breaks, c =>
    if !inBlock indent c then ([], [], breaks, c)
    else
      let outer := !isOneOf " \t" c.peek
      let (line, c) := c.takeWhile fun ch => !isBreakOrEnd ch
      let (lineBreak, c) := c.lineBreak
      let (nextBreaks, c) := blockBreaks indent c.fuel c
      if inBlock indent c then
        let inner := !isOneOf " \t" c.peek
        let join := blockBreak folded outer inner lineBreak nextBreaks
        let (more, last, final, c) := blockLines folded indent fuel nextBreaks c
        (breaks ++ line ++ join ++ more, last, final, c)
      else (breaks ++ line, lineBreak, nextBreaks, c)

/-- A block scalar inside a block of the given indentation. -/
def blockScalar (outerIndent : Int) (c : Cursor) : Result (String × Cursor) := do
  let folded := c.peek == '>'
  let (chomping, increment, c) ← blockIndicators c.next
  let c ← c.endOfLine
  let least := max (outerIndent + 1) 1
  let (breaks, indent, c) := match increment with
    | none =>
      let (breaks, widest, c) := blockIndentation c.fuel 0 c
      (breaks, max least widest, c)
    | some n =>
      let indent := least + n - 1
      let (breaks, c) := blockBreaks indent c.fuel c
      (breaks, indent, c)
  let (lines, last, final, c) := blockLines folded indent c.fuel breaks c
  let ending := match chomping with
    | .strip => []
    | .clip => last
    | .keep => last ++ final
  return (String.ofList (lines ++ ending), c)

end Cursor

end ControlSchema.Yaml
