/-!
# Blanks and lines

Blanks are what stripping removes at the ends of a text; line breaks are what divides a text into
lines. Both sets reach beyond ASCII, and every line break is a blank.
-/

namespace ControlSchema.Text

/-! ## Blanks -/

/-- Spaces of every width, tabs, and the control characters that separate lines or records. -/
def isBlank (c : Char) : Bool :=
  let n := c.toNat
  n == 0x20 || (0x9 ≤ n && n ≤ 0xd) || (0x1c ≤ n && n ≤ 0x1f) || n == 0x85 || n == 0xa0
    || n == 0x1680 || (0x2000 ≤ n && n ≤ 0x200a) || n == 0x2028 || n == 0x2029 || n == 0x202f
    || n == 0x205f || n == 0x3000

def stripStart (cs : List Char) : List Char := cs.dropWhile isBlank

def stripEnd (cs : List Char) : List Char := (cs.reverse.dropWhile isBlank).reverse

/-- The text without blanks at either end. -/
def strip (s : String) : String := String.ofList (stripEnd (stripStart s.toList))

/-- The text without blanks at its end. -/
def stripRight (s : String) : String := String.ofList (stripEnd s.toList)

/-! ## Lines -/

def isLineBreak (c : Char) : Bool :=
  let n := c.toNat
  (0xa ≤ n && n ≤ 0xd) || (0x1c ≤ n && n ≤ 0x1e) || n == 0x85 || n == 0x2028 || n == 0x2029

/-- The lines of a text without their breaks; a break at the very end opens no further line, and
a carriage return with the line feed after it is one break. -/
def splitLines : List Char → List (List Char)
  | [] => []
  | '\r' :: '\n' :: rest => [] :: splitLines rest
  | c :: rest =>
    if isLineBreak c then [] :: splitLines rest
    else match splitLines rest with
      | [] => [[c]]
      | line :: lines => (c :: line) :: lines

def lines (s : String) : List String := (splitLines s.toList).map String.ofList

/-- Every carriage return, with the line feed behind it if there is one, becomes a line feed. -/
def unifyFrom : List Char → List Char
  | [] => []
  | '\r' :: '\n' :: rest => '\n' :: unifyFrom rest
  | c :: rest => (if c == '\r' then '\n' else c) :: unifyFrom rest

/-- The text with line feeds for its line ends. -/
def unifyBreaks (s : String) : String := String.ofList (unifyFrom s.toList)

/-! ## Pieces -/

/-- The pieces between occurrences of one character; there is always at least one. -/
def splitOn (separator : Char) : List Char → List (List Char)
  | [] => [[]]
  | c :: rest =>
    if c == separator then [] :: splitOn separator rest
    else match splitOn separator rest with
      | [] => [[c]]
      | piece :: pieces => (c :: piece) :: pieces

/-- Every occurrence of a nonempty pattern, from the left, gives way to the replacement. -/
def replaceFrom (pattern replacement : List Char) : Nat → List Char → List Char
  | _, [] => []
  | skip + 1, _ :: rest => replaceFrom pattern replacement skip rest
  | 0, c :: rest =>
    if pattern.isPrefixOf (c :: rest) then
      replacement ++ replaceFrom pattern replacement (pattern.length - 1) rest
    else c :: replaceFrom pattern replacement 0 rest

/-- An empty pattern occurs before every character and at the end. -/
def replaceAll (s pattern replacement : String) : String :=
  if pattern.isEmpty then
    replacement ++ String.join (s.toList.map fun c => c.toString ++ replacement)
  else String.ofList (replaceFrom pattern.toList replacement.toList 0 s.toList)

end ControlSchema.Text
