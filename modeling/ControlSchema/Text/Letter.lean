import ControlSchema.Text.CharacterTable
import ControlSchema.Text.CaseTable

/-!
# Letters, digits and identifiers

The character classes that names, versions and shown text depend on. Every class is a rule on the
ASCII characters and a table beyond them, so a fact about a name made of ASCII letters and digits
never needs a table.

Case mappings send one character to a list, because some letters have no single counterpart.
-/

namespace ControlSchema.Text

/-! ## Membership -/

/-- The number of bounds from `low` on that are at most `n`, plus `low`, for increasing bounds. -/
def boundsUpTo (bounds : Array Nat) (n low high : Nat) : Nat :=
  if low < high then
    let middle := (low + high) / 2
    if bounds.getD middle 0 ≤ n then boundsUpTo bounds n (middle + 1) high
    else boundsUpTo bounds n low middle
  else low
termination_by high - low

/-- A code point is inside when it follows an odd number of bounds. -/
def insideBounds (bounds : Array Nat) (n : Nat) : Bool :=
  boundsUpTo bounds n 0 bounds.size % 2 == 1

/-- The rule decides on ASCII, the table beyond it. -/
def classify (ascii : Char → Bool) (bounds : Array Nat) (c : Char) : Bool :=
  if c.toNat < 0x80 then ascii c else insideBounds bounds c.toNat

/-! ## Classes -/

def isUpper : Char → Bool := classify Char.isUpper CharacterTable.upperBounds

def isLower : Char → Bool := classify Char.isLower CharacterTable.lowerBounds

/-- Characters with a digit value; those beyond ASCII need not be decimal digits. -/
def isDigit : Char → Bool := classify Char.isDigit CharacterTable.digitBounds

/-- Letters, numbers and the underscore. -/
def isWord : Char → Bool := classify (fun c => c.isAlphanum || c == '_') CharacterTable.wordBounds

def isNameStart : Char → Bool :=
  classify (fun c => c.isAlpha || c == '_') CharacterTable.nameStartBounds

def isNameRest : Char → Bool :=
  classify (fun c => c.isAlphanum || c == '_') CharacterTable.nameBounds

/-- Characters that shown text need not escape. -/
def isPrintable : Char → Bool :=
  classify (fun c => 0x20 ≤ c.toNat && c.toNat < 0x7f) CharacterTable.printableBounds

/-- The value of a decimal digit of any script. -/
def decimalValue? (c : Char) : Option Nat :=
  if c.isDigit then some (c.toNat - 0x30)
  else if c.toNat < 0x80 then none
  else (CharacterTable.decimalZeros.find? fun first => first ≤ c.toNat && c.toNat < first + 10).map
    (c.toNat - ·)

def isDecimal (c : Char) : Bool := (decimalValue? c).isSome

/-- A letter or underscore followed by letters, digits and underscores, in any script. -/
def isIdentifier (s : String) : Bool :=
  match s.toList with
  | [] => false
  | c :: rest => isNameStart c && rest.all isNameRest

/-! ## Case -/

/-- The image of `n` under the first row that covers it. -/
def imageInRows (rows : Array (Nat × Nat × Nat × Nat)) (n : Nat) : Option Nat :=
  rows.findSome? fun (first, last, stride, image) =>
    if first ≤ n && n ≤ last && (n - first) % stride == 0 then some (image + (n - first)) else none

/-- The case form of a character beyond ASCII, itself when no table names it. -/
def tableCase (rows : Array (Nat × Nat × Nat × Nat)) (sequences : List (Nat × List Nat))
    (c : Char) : List Char :=
  match sequences.lookup c.toNat with
  | some image => image.map Char.ofNat
  | none => [(imageInRows rows c.toNat).elim c Char.ofNat]

def lowerChar (c : Char) : List Char :=
  if c.toNat < 0x80 then [c.toLower] else tableCase CaseTable.lowerRows CaseTable.lowerSequences c

def upperChar (c : Char) : List Char :=
  if c.toNat < 0x80 then [c.toUpper] else tableCase CaseTable.upperRows CaseTable.upperSequences c

def lower (s : String) : String := String.ofList (s.toList.flatMap lowerChar)

def upper (s : String) : String := String.ofList (s.toList.flatMap upperChar)

end ControlSchema.Text
