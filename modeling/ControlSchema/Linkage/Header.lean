import ControlSchema.Linkage
import ControlSchema.Text.Hex

/-!
# Reading constants back from a header

The header of a runtime is not parsed as C. Everything of the form of a constant with a value
counts, wherever it stands, and of two values for one constant the later counts; likewise for the
three numbers of the version, which is known when all of them are there.

A match takes its characters, so no part of it belongs to another match. Each reader walks through
the text with the number of characters that are still taken.
-/

namespace ControlSchema

open Number Text

namespace HeaderText

/-- The characters behind a given beginning. -/
def after? (beginning : String) (cs : List Char) : Option (List Char) :=
  if beginning.toList.isPrefixOf cs then some (cs.drop beginning.length) else none

/-- A number as it stands in a header, in base sixteen or in decimal digits of any script. -/
inductive Numeral where
  | hexadecimal (digits : List Char)
  | decimal (digits : List Char)

namespace Numeral

def length : Numeral → Nat
  | .hexadecimal digits => digits.length + 2
  | .decimal digits => digits.length

/-- The value, none when there are too many digits. -/
def value? : Numeral → Option Nat
  | .hexadecimal digits => some ((digits.filterMap hexValue?).foldl (fun n d => 16 * n + d) 0)
  | .decimal digits =>
    if digitLimit < digits.length then none
    else some (ofDigits (digits.filterMap decimalValue?))

def isHexDigit (c : Char) : Bool := (hexValue? c).isSome

def ofDecimal? (cs : List Char) : Option Numeral :=
  let digits := cs.takeWhile isDecimal
  if digits.isEmpty then none else some (.decimal digits)

/-- The longest number in front of a text. -/
def take? (cs : List Char) : Option Numeral :=
  match cs with
  | '0' :: x :: rest =>
    let digits := rest.takeWhile isHexDigit
    if (x == 'x' || x == 'X') && !digits.isEmpty then some (.hexadecimal digits)
    else ofDecimal? cs
  | cs => ofDecimal? cs

end Numeral

/-! ## Constants -/

structure Constant where
  category : Category
  name : List Char
  value : Numeral

def isConstantChar (c : Char) : Bool := c.isUpper || c.isDigit || c == '_'

/-- The constant of a category in front of a text, and the number of its characters. -/
def constantOf? (category : Category) (cs : List Char) : Option (Constant × Nat) := do
  let afterPrefix ← after? category.headerPrefix cs
  let name := afterPrefix.takeWhile isConstantChar
  if name.isEmpty then none
  else
    let afterName := afterPrefix.drop name.length
    let blanks := afterName.takeWhile isBlank
    let '=' :: afterEquals := afterName.drop blanks.length | none
    let more := afterEquals.takeWhile isBlank
    let value ← Numeral.take? (afterEquals.drop more.length)
    return (⟨category, name, value⟩, category.headerPrefix.length + name.length + blanks.length + 1
      + more.length + value.length)

def constantAt? (cs : List Char) : Option (Constant × Nat) :=
  (constantOf? .controls cs).or (constantOf? .properties cs)

/-- The constants of a text. None begins inside a word. -/
def constantsFrom (insideWord : Bool) : Nat → List Char → List Constant
  | _, [] => []
  | taken + 1, c :: rest => constantsFrom (isWord c) taken rest
  | 0, c :: rest =>
    match if insideWord then none else constantAt? (c :: rest) with
    | some (constant, length) => constant :: constantsFrom (isWord c) (length - 1) rest
    | none => constantsFrom (isWord c) 0 rest

def constants (text : String) : List Constant := constantsFrom false 0 text.toList

/-! ## Versions -/

inductive Component where
  | major
  | minor
  | patch
deriving DecidableEq

def components : List (String × Component) :=
  [("MAJOR", .major), ("MINOR", .minor), ("PATCH", .patch)]

/-- One number of the version in front of a text, and the number of its characters. -/
def componentAt? (cs : List Char) : Option ((Component × Numeral) × Nat) := do
  let afterDefine ← after? "#define" cs
  let blanks := afterDefine.takeWhile isBlank
  if blanks.isEmpty then none
  else
    let afterName ← after? "LIBCAMERA_VERSION_" (afterDefine.drop blanks.length)
    let (word, component) ← components.find? fun (word, _) => word.toList.isPrefixOf afterName
    let afterWord := afterName.drop word.length
    let more := afterWord.takeWhile isBlank
    if more.isEmpty then none
    else
      let value ← Numeral.ofDecimal? (afterWord.drop more.length)
      return ((component, value), cs.length - (afterWord.drop more.length).length + value.length)

def componentsFrom : Nat → List Char → List (Component × Numeral)
  | _, [] => []
  | taken + 1, _ :: rest => componentsFrom taken rest
  | 0, c :: rest =>
    match componentAt? (c :: rest) with
    | some (component, length) => component :: componentsFrom (length - 1) rest
    | none => componentsFrom 0 rest

end HeaderText

/-- A number of a header has more digits than are ever read. -/
structure HeaderFault where

namespace LinkedRuntime

open HeaderText

def readValue (value : Numeral) : Except HeaderFault Int :=
  match value.value? with
  | some n => .ok n
  | none => .error ⟨⟩

/-- The constants with their numbers, those of one name written over one another. -/
def collect (category : Category) (constants : List Constant) :
    Except HeaderFault (Table String Int) := do
  let pairs ← (constants.filter (·.category == category)).mapM fun constant => do
    return (String.ofList constant.name, ← readValue constant.value)
  return Table.ofPairs pairs

/-- The version whose three numbers a text defines, if it defines all of them. -/
def headerVersion (text : String) : Except HeaderFault (Option Version) := do
  let found := componentsFrom 0 text.toList
  let last? (component : Component) : Option Numeral := found.reverse.lookup component
  match last? .major, last? .minor, last? .patch with
  | some major, some minor, some patch =>
    let major ← readValue major
    let minor ← readValue minor
    let patch ← readValue patch
    return some ⟨major.toNat, minor.toNat, patch.toNat, []⟩
  | _, _, _ => return none

/-- The runtime that a header describes, of the given version or else of the header's own. -/
def ofHeader (text : String) (version : Option Version) : Except HeaderFault LinkedRuntime := do
  let all := constants text
  let controls ← collect .controls all
  let properties ← collect .properties all
  let version ← match version with
    | some version => pure (some version)
    | none => headerVersion text
  return ⟨version, controls, properties⟩

end LinkedRuntime

end ControlSchema
