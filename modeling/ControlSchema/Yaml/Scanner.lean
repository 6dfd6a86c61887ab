import ControlSchema.Yaml.Token

/-!
# From text to tokens

Outside of brackets the indentation of a line opens and closes blocks. A key need not be announced:
whether a scalar is one shows only when a colon follows on its line, so the scanner remembers where
a key may have begun, at most one for each level of brackets, and puts the tokens of the key in
front of it later. A place that must hold a key and does not is an error.

Tokens are kept in reverse until the end, because most of what is put in later goes in near the end.
-/

namespace ControlSchema.Yaml

/-- A place where a key may have begun. -/
structure PossibleKey where
  /-- The number of tokens in front of it. -/
  number : Nat
  required : Bool
  index : Nat
  line : Nat
  column : Nat

structure Scanner where
  cursor : Cursor
  /-- The last token first. -/
  tokens : List Token
  count : Nat
  flowLevel : Nat
  /-- The column of the innermost block, before all columns outside of blocks. -/
  indent : Int
  indents : List Int
  allowKey : Bool
  keys : List (Nat × PossibleKey)
  finished : Bool

namespace Scanner

def start (text : List Char) : Scanner where
  cursor := ⟨text, 0, 0, 0⟩
  tokens := []
  count := 0
  flowLevel := 0
  indent := -1
  indents := []
  allowKey := true
  keys := []
  finished := false

def inFlow (s : Scanner) : Bool := 0 < s.flowLevel

def push (s : Scanner) (token : Token) : Scanner :=
  { s with tokens := token :: s.tokens, count := s.count + 1 }

/-- The token put behind the first `number` tokens. -/
def pushAt (s : Scanner) (number : Nat) (token : Token) : Scanner :=
  let later := s.count - number
  { s with tokens := s.tokens.take later ++ token :: s.tokens.drop later, count := s.count + 1 }

/-! ## Indentation -/

/-- Every block that is indented further than the column ends. -/
def unwindFrom (column : Int) : List Int → Scanner → Scanner
  | [], s => s
  | outer :: indents, s =>
    if column < s.indent then
      unwindFrom column indents ({ s with indent := outer, indents := indents }.push .blockEnd)
    else s

def unwind (s : Scanner) (column : Int) : Scanner :=
  if s.inFlow then s else unwindFrom column s.indents s

/-- The scanner inside a block at the column, and whether the block is new. -/
def indentTo (s : Scanner) (column : Nat) : Scanner × Bool :=
  if s.indent < column then
    ({ s with indents := s.indent :: s.indents, indent := column }, true)
  else (s, false)

/-! ## Possible keys -/

/-- A key is over when its line is, and is never longer than this. -/
def keyLimit : Nat := 1024

def isStale (c : Cursor) (key : PossibleKey) : Bool :=
  key.line != c.line || keyLimit < c.index - key.index

def dropStale (s : Scanner) : Result Scanner :=
  if s.keys.any fun (_, key) => isStale s.cursor key && key.required then .error .malformed
  else .ok { s with keys := s.keys.filter fun (_, key) => !isStale s.cursor key }

/-- The possible key of this level is given up. -/
def dropKey (s : Scanner) : Result Scanner :=
  if (s.keys.lookup s.flowLevel).any (·.required) then .error .malformed
  else .ok { s with keys := s.keys.filter fun (level, _) => level != s.flowLevel }

/-- A key may begin at the cursor. -/
def saveKey (s : Scanner) : Result Scanner := do
  if !s.allowKey then return s
  let c := s.cursor
  let required := !s.inFlow && s.indent == c.column
  let s ← s.dropKey
  return { s with keys := (s.flowLevel, ⟨s.count, required, c.index, c.line, c.column⟩) :: s.keys }

/-! ## Tokens -/

/-- Blanks, comments and line breaks in front of the next token. -/
def skipBlanks : Nat → Scanner → Scanner
  | 0, s => s
  | fuel + 1, s =>
    let c := s.cursor.skipSpaces.skipComment
    if isBreak c.peek then
      skipBlanks fuel { s with cursor := c.lineBreak.2, allowKey := s.allowKey || !s.inFlow }
    else { s with cursor := c }

def skipMark (s : Scanner) : Scanner :=
  if s.cursor.index = 0 && s.cursor.peek == byteOrderMark then { s with cursor := s.cursor.next }
  else s

/-- One token of `width` characters. -/
def indicator (s : Scanner) (width : Nat) (token : Token) : Scanner :=
  { s with cursor := s.cursor.skip width }.push token

def fetchEnd (s : Scanner) : Result Scanner := do
  let s ← (s.unwind (-1)).dropKey
  return { s with allowKey := false, keys := [], finished := true }.push .streamEnd

def fetchDirective (s : Scanner) : Result Scanner := do
  let s ← (s.unwind (-1)).dropKey
  let (token, c) ← s.cursor.directive
  return { s with allowKey := false, cursor := c }.push token

def fetchSeparator (s : Scanner) (token : Token) : Result Scanner := do
  let s ← (s.unwind (-1)).dropKey
  return { s with allowKey := false }.indicator 3 token

def fetchFlowStart (s : Scanner) (token : Token) : Result Scanner := do
  let s ← s.saveKey
  return { s with flowLevel := s.flowLevel + 1, allowKey := true }.indicator 1 token

def fetchFlowEnd (s : Scanner) (token : Token) : Result Scanner := do
  let s ← s.dropKey
  return { s with flowLevel := s.flowLevel - 1, allowKey := false }.indicator 1 token

def fetchFlowEntry (s : Scanner) : Result Scanner := do
  let s ← s.dropKey
  return { s with allowKey := true }.indicator 1 .flowEntry

/-- A block begins here when the column is deeper than the block around it. -/
def openBlock (s : Scanner) (token : Token) : Result Scanner :=
  if s.inFlow then .ok s
  else if !s.allowKey then .error .malformed
  else
    let (s, opened) := s.indentTo s.cursor.column
    .ok (if opened then s.push token else s)

def fetchBlockEntry (s : Scanner) : Result Scanner := do
  let s ← (← s.openBlock .blockSequenceStart).dropKey
  return { s with allowKey := true }.indicator 1 .blockEntry

def fetchKey (s : Scanner) : Result Scanner := do
  let s ← (← s.openBlock .blockMappingStart).dropKey
  return { s with allowKey := !s.inFlow }.indicator 1 .key

/-- A colon turns the possible key of its level into a key. -/
def fetchValue (s : Scanner) : Result Scanner := do
  match s.keys.lookup s.flowLevel with
  | some key =>
    let s := { s with keys := s.keys.filter fun (level, _) => level != s.flowLevel }
    let s := s.pushAt key.number .key
    let (s, opened) := if s.inFlow then (s, false) else s.indentTo key.column
    let s := if opened then s.pushAt key.number .blockMappingStart else s
    return { s with allowKey := false }.indicator 1 .value
  | none =>
    let s ← s.openBlock .blockMappingStart
    return { s with allowKey := !s.inFlow }.indicator 1 .value

def fetchAnchor (s : Scanner) (token : String → Token) : Result Scanner := do
  let s ← s.saveKey
  let (name, c) ← s.cursor.next.anchorName
  return { s with allowKey := false, cursor := c }.push (token name)

def fetchTag (s : Scanner) : Result Scanner := do
  let s ← s.saveKey
  let (token, c) ← s.cursor.tag
  return { s with allowKey := false, cursor := c }.push token

def fetchBlockScalar (s : Scanner) : Result Scanner := do
  let s ← s.dropKey
  let (text, c) ← s.cursor.blockScalar s.indent
  return { s with allowKey := true, cursor := c }.push (.scalar text false)

def fetchQuoted (s : Scanner) : Result Scanner := do
  let s ← s.saveKey
  let (text, c) ← s.cursor.quotedScalar
  return { s with allowKey := false, cursor := c }.push (.scalar text false)

def fetchPlain (s : Scanner) : Result Scanner := do
  let s ← s.saveKey
  let (text, c, ended) := s.cursor.plainScalar s.inFlow (s.indent + 1)
  return { s with allowKey := ended, cursor := c }.push (.scalar text true)

/-- Whether a plain scalar may begin at the cursor. -/
def startsPlain (s : Scanner) : Bool :=
  let ch := s.cursor.peek
  !(isBlankOrEnd ch || isOneOf "-?:,[]\x7b\x7d#&*!|>'\"%@`" ch)
    || (!isBlankOrEnd (s.cursor.peek 1) && (ch == '-' || (!s.inFlow && (ch == '?' || ch == ':'))))

/-- The next token, with the marks that go in front of it. -/
def fetch (s : Scanner) : Result Scanner := do
  let s := skipBlanks s.cursor.fuel s.skipMark
  let s := (← s.dropStale).unwind s.cursor.column
  let ch := s.cursor.peek
  let blankNext := isBlankOrEnd (s.cursor.peek 1)
  if ch == endOfText then s.fetchEnd
  else if ch == '%' && s.cursor.column = 0 then s.fetchDirective
  else if ch == '-' && s.cursor.column = 0 && s.cursor.atSeparator then
    s.fetchSeparator .documentStart
  else if ch == '.' && s.cursor.column = 0 && s.cursor.atSeparator then
    s.fetchSeparator .documentEnd
  else if ch == '[' then s.fetchFlowStart .flowSequenceStart
  else if ch == '\x7b' then s.fetchFlowStart .flowMappingStart
  else if ch == ']' then s.fetchFlowEnd .flowSequenceEnd
  else if ch == '\x7d' then s.fetchFlowEnd .flowMappingEnd
  else if ch == ',' then s.fetchFlowEntry
  else if ch == '-' && blankNext then s.fetchBlockEntry
  else if ch == '?' && (s.inFlow || blankNext) then s.fetchKey
  else if ch == ':' && (s.inFlow || blankNext) then s.fetchValue
  else if ch == '*' then s.fetchAnchor .alias
  else if ch == '&' then s.fetchAnchor .anchor
  else if ch == '!' then s.fetchTag
  else if (ch == '|' || ch == '>') && !s.inFlow then s.fetchBlockScalar
  else if ch == '\'' || ch == '"' then s.fetchQuoted
  else if s.startsPlain then s.fetchPlain
  else .error .malformed

/-- Tokens up to the end or the first fault. -/
def run : Nat → Scanner → Scanner × Option Fault
  | 0, s => (s, some .malformed)
  | fuel + 1, s =>
    if s.finished then (s, none)
    else match s.fetch with
      | .ok s => run fuel s
      | .error fault => (s, some fault)

/-- The tokens that no possible key can go in front of any more. -/
def settled (s : Scanner) : List Token :=
  let pending := s.keys.filter fun (_, key) => !isStale s.cursor key
  s.tokens.reverse.take (pending.foldl (fun n (_, key) => min n key.number) s.count)

end Scanner

/-- The tokens of a text, and the fault behind them if there is one. Each turn of the scanner takes
at least one character or is the last. -/
def scan (text : String) : List Token × Option Fault :=
  let cs := text.toList
  if cs.all isAllowed then
    let (s, fault) := (Scanner.start cs).run (cs.length + 2)
    (s.settled, fault)
  else ([], some .malformed)

end ControlSchema.Yaml
