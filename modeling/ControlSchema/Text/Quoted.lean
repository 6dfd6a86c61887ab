import ControlSchema.Text.Letter
import ControlSchema.Text.Hex

/-!
# Quoted text

How a text is shown inside messages and descriptions: between apostrophes, or between quotation
marks when it holds an apostrophe and no quotation mark. Characters that would not be seen as
themselves are escaped by the shortest of three numbered forms.
-/

namespace ControlSchema.Text

/-- The quotation mark is chosen only when it saves escaping an apostrophe. -/
def quoteFor (cs : List Char) : Char :=
  if cs.contains '\'' && !cs.contains '"' then '"' else '\''

/-- A numbered escape: two, four or eight digits, whichever is the least that holds the code. -/
def numberedEscape (n : Nat) : List Char :=
  if n < 0x100 then '\\' :: 'x' :: hexDigits 2 n
  else if n < 0x10000 then '\\' :: 'u' :: hexDigits 4 n
  else '\\' :: 'U' :: hexDigits 8 n

def escapeChar (quote c : Char) : List Char :=
  if c == quote || c == '\\' then ['\\', c]
  else if c == '\n' then ['\\', 'n']
  else if c == '\r' then ['\\', 'r']
  else if c == '\t' then ['\\', 't']
  else if isPrintable c then [c]
  else numberedEscape c.toNat

def quoted (s : String) : String :=
  let quote := quoteFor s.toList
  String.ofList (quote :: s.toList.flatMap (escapeChar quote) ++ [quote])

/-- Bytes are quoted as the characters of the same codes, those beyond ASCII always by number. -/
def quotedBytes (bytes : List UInt8) : String :=
  let cs := bytes.map fun b => Char.ofNat b.toNat
  let quote := quoteFor cs
  let escape (c : Char) : List Char :=
    if c.toNat < 0x80 then escapeChar quote c else numberedEscape c.toNat
  String.ofList ('b' :: quote :: cs.flatMap escape ++ [quote])

end ControlSchema.Text
