import ControlSchema.Number.Notation
import ControlSchema.Text.Blank
import ControlSchema.Text.Quoted

/-!
# Versions

A release is named by three numbers and possibly pre-release identifiers. Build metadata may follow
and says nothing about the release, so it is read and dropped. The numbers are written without
leading zeros; identifiers may have them.

Precedence compares the numbers first, puts a pre-release before its release, and then compares
identifiers one by one, all-digit ones by value and below the others. Two versions can be of equal
precedence without being equal, as `1.0.0-01` and `1.0.0-1` are.

Numbers of more than a certain length are neither read nor written. That bounds the texts that name
versions, and it bounds precedence as well: an identifier is only read as a number when its version
is compared, so there are versions that no version can be compared with.
-/

namespace ControlSchema

open Text

structure Version where
  major : Nat
  minor : Nat
  patch : Nat
  pre : List String := []
deriving DecidableEq, Inhabited

inductive VersionError where
  /-- The text does not name a version. -/
  | notVersion (text : String)
  /-- A component was given as a negative number. -/
  | negative (component : String) (value : Int)
  /-- A number has more digits than are ever read or written. -/
  | tooLong
  /-- An identifier of digits is no number that can be read. -/
  | uncounted

namespace VersionError

def message? : VersionError → Option String
  | .notVersion text => some ("not a semantic version: " ++ quoted text)
  | .negative component value =>
    some ("Version " ++ component ++ " must be non-negative, got " ++ Number.intText value)
  | .tooLong | .uncounted => none

end VersionError

namespace Version

/-- The version with the given components, the first negative one being at fault. -/
def ofComponents (major minor patch : Int) (pre : List String) : Except VersionError Version :=
  if major < 0 then .error (.negative "major" major)
  else if minor < 0 then .error (.negative "minor" minor)
  else if patch < 0 then .error (.negative "patch" patch)
  else .ok ⟨major.toNat, minor.toNat, patch.toNat, pre⟩

def triple (v : Version) : Nat × Nat × Nat := (v.major, v.minor, v.patch)

def isZero (v : Version) : Bool := v.triple == (0, 0, 0)

/-! ## Text -/

/-- The three numbers, without identifiers. -/
def coreText (v : Version) : String :=
  ".".intercalate [Number.digitsText v.major, Number.digitsText v.minor, Number.digitsText v.patch]

def text (v : Version) : String :=
  if v.pre.isEmpty then v.coreText else v.coreText ++ "-" ++ ".".intercalate v.pre

def isWritable (v : Version) : Bool :=
  [v.major, v.minor, v.patch].all fun n => Number.isWritable n

/-- The text of a version whose numbers are not too long to be written. -/
def write (v : Version) : Except VersionError String :=
  if v.isWritable then .ok v.text else .error .tooLong

/-- Zero alone, or digits of any script of which the first is an ASCII digit from one to nine. -/
def takeNumber? (cs : List Char) : Option (List Char × List Char) :=
  match cs with
  | '0' :: rest => some (['0'], rest)
  | c :: rest =>
    if c.isDigit then some (c :: rest.takeWhile isDecimal, rest.dropWhile isDecimal) else none
  | [] => none

def numberValue (digits : List Char) : Except VersionError Nat :=
  if Number.digitLimit < digits.length then .error .tooLong
  else .ok (Number.ofDigits (digits.filterMap decimalValue?))

def isIdentifierChar (c : Char) : Bool := c.isAlphanum || c == '-'

/-- The identifiers between points; each holds letters, digits and hyphens, and at least one. -/
def identifiers? (cs : List Char) : Option (List String) :=
  let parts := splitOn '.' cs
  if parts.all fun part => !part.isEmpty && part.all isIdentifierChar then
    some (parts.map String.ofList)
  else none

/-- What follows the numbers: identifiers after a hyphen, build metadata after a plus sign. -/
def suffix? (cs : List Char) : Option (List String) :=
  let ofBuild (build : List Char) (pre : List String) : Option (List String) :=
    match build with
    | [] => some pre
    | _ :: metadata => (identifiers? metadata).map fun _ => pre
  match cs with
  | [] => some []
  | '-' :: rest => do
    let pre ← identifiers? (rest.takeWhile (· != '+'))
    ofBuild (rest.dropWhile (· != '+')) pre
  | '+' :: _ => ofBuild cs []
  | _ => none

/-- The digits of the three numbers and the identifiers, as written. -/
def parts? (cs : List Char) : Option ((List Char × List Char × List Char) × List String) := do
  let (major, rest) ← takeNumber? cs
  let '.' :: rest := rest | none
  let (minor, rest) ← takeNumber? rest
  let '.' :: rest := rest | none
  let (patch, rest) ← takeNumber? rest
  return ((major, minor, patch), ← suffix? rest)

/-- The version that a text names, blanks around it aside. -/
def parse (text : String) : Except VersionError Version :=
  match parts? (strip text).toList with
  | none => .error (.notVersion text)
  | some ((major, minor, patch), pre) => do
    return ⟨← numberValue major, ← numberValue minor, ← numberValue patch, pre⟩

/-- The part of a tag after its last slash. -/
def lastSegment (tag : List Char) : List Char := ((splitOn '/' tag).getLast?).getD []

/-- The version of a release tag: a `v` and a version. Other tags name no release. -/
def ofTag? (tag : String) : Option Version :=
  match lastSegment tag.toList with
  | 'v' :: rest => (parse (String.ofList rest)).toOption
  | _ => none

/-! ## Precedence -/

/-- What a pre-release identifier is compared by. -/
inductive IdentifierKey where
  | number (value : Nat)
  | word (text : String)
deriving DecidableEq

namespace IdentifierKey

/-- Digits of any script, and at least one, stand for a number. -/
def isNumeral (s : String) : Bool := !s.isEmpty && s.toList.all isDigit

def ofText (s : String) : IdentifierKey :=
  if isNumeral s then .number (Number.ofDigits (s.toList.filterMap decimalValue?)) else .word s

/-- A number is read if it is not too long and its digits are decimal. -/
def isReadable (s : String) : Bool :=
  !isNumeral s || (s.toList.length ≤ Number.digitLimit && s.toList.all isDecimal)

def compare : IdentifierKey → IdentifierKey → Ordering
  | .number a, .number b => Ord.compare a b
  | .number _, .word _ => .lt
  | .word _, .number _ => .gt
  | .word a, .word b => if a < b then .lt else if b < a then .gt else .eq

end IdentifierKey

/-- Identifiers one by one; a list that runs out first comes first. -/
def compareKeys : List IdentifierKey → List IdentifierKey → Ordering
  | [], [] => .eq
  | [], _ :: _ => .lt
  | _ :: _, [] => .gt
  | a :: as, b :: bs => (IdentifierKey.compare a b).then (compareKeys as bs)

/-- A release follows all of its pre-releases. -/
def comparePre (a b : List String) : Ordering :=
  match a, b with
  | [], [] => .eq
  | [], _ :: _ => .gt
  | _ :: _, [] => .lt
  | _, _ => compareKeys (a.map .ofText) (b.map .ofText)

def precedence (a b : Version) : Ordering :=
  (compare a.major b.major).then <| (compare a.minor b.minor).then <|
    (compare a.patch b.patch).then (comparePre a.pre b.pre)

def before (a b : Version) : Bool := precedence a b == .lt

def atMost (a b : Version) : Bool := precedence a b != .gt

/-- Versions in increasing order; those of equal precedence keep their places. -/
def sort (versions : List Version) : List Version := versions.mergeSort atMost

/-! ## Precedence of versions that need not be comparable

The names of directories are too short for a number that cannot be read, so what is found on a disk
is ordered by the functions above. Versions from elsewhere are checked first. -/

/-- Whether every number among the identifiers can be read. -/
def isComparable (v : Version) : Bool := v.pre.all IdentifierKey.isReadable

/-- How two versions compare: the numbers of both are read, wherever they differ. -/
def compareChecked (a b : Version) : Except VersionError Ordering :=
  if a.isComparable && b.isComparable then .ok (precedence a b) else .error .uncounted

def beforeChecked (a b : Version) : Except VersionError Bool :=
  (compareChecked a b).map (· == .lt)

def atMostChecked (a b : Version) : Except VersionError Bool :=
  (compareChecked a b).map (· != .gt)

/-- Versions in increasing order. Each one is compared with another unless it is the only one. -/
def sortChecked (versions : List Version) : Except VersionError (List Version) :=
  if versions.length ≤ 1 || versions.all isComparable then .ok (sort versions)
  else .error .uncounted

end Version

end ControlSchema
