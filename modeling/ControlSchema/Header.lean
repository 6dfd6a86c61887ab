import ControlSchema.Snapshot

/-!
# C headers

A header numbers the constants of both categories and lists the values of every enumeration. It is
a sequence of pieces: lines of code that depend on names and numbers only, and comments that hold
the descriptions. A description cannot end its comment, because the mark for the end is broken up
wherever it occurs.
-/

namespace ControlSchema

open Number Text

namespace Header

inductive Piece where
  | code (line : String)
  /-- A block of comment lines, of which the first says what the block is about. -/
  | comment (indent : String) (lines : List String)
deriving DecidableEq

namespace Piece

def commentLine (indent text : String) : String := stripRight (indent ++ " * " ++ text)

def lines : Piece → List String
  | .code line => [line]
  | .comment _ [] => []
  | .comment indent (first :: rest) =>
    (indent ++ "/**") :: commentLine indent ("\\brief " ++ first)
      :: rest.map (commentLine indent) ++ [indent ++ " */"]

end Piece

/-- The comment that holds a text, as far as there is one. -/
def comment (indent text : String) : Piece :=
  .comment indent (Text.lines (replaceAll (strip text) "*/" "* /"))

def innerIndent : String := "    "

/-! ## Pieces of a header -/

/-- The line that gives a constant its value. -/
def constantLine (name value : String) : Piece :=
  .code (innerIndent ++ name ++ " = " ++ value ++ ",")

def identifierName (category : Category) (d : Definition) : String :=
  category.headerPrefix ++ d.linkageName

/-- The constants of a category with their descriptions. -/
def identifierPieces (s : Snapshot) (category : Category) : List Piece :=
  let ids := s.linkageIds category
  .code ("enum " ++ category.headerEnum ++ " \x7b")
    :: (s.definitions category).flatMap (fun d =>
      [comment innerIndent d.description,
        constantLine (identifierName category d) (digitsText ((ids.get? d.linkageName).getD 0))])
    ++ [.code "\x7d;"]

/-- The name of an enumerator's constant. -/
def variantConstant (e : Enumerator) : String := "LIBCAMERA_" ++ Naming.linkageName e.name

/-- The values of one enumeration. -/
def variantPieces (category : Category) (d : Definition) : List Piece :=
  comment "" ("Supported values for " ++ identifierName category d ++ " control")
    :: .code ("enum libcamera_" ++ d.snakeName ++ " \x7b")
    :: d.enumerators.flatMap (fun e =>
      [comment innerIndent e.description, constantLine (variantConstant e) (intText e.value)])
    ++ [.code "\x7d;"]

def guard : String := "__LIBCAMERA_CONTROL_IDS_H__"

def preamble (v : Version) : List Piece := [
  .code ("/* Generated for libcamera " ++ v.text
    ++ ". Do not edit: regenerate with camctl generate. */"),
  .code ("#ifndef " ++ guard),
  .code ("#define " ++ guard),
  .code "",
  .code ("#define LIBCAMERA_VERSION_MAJOR " ++ digitsText v.major),
  .code ("#define LIBCAMERA_VERSION_MINOR " ++ digitsText v.minor),
  .code ("#define LIBCAMERA_VERSION_PATCH " ++ digitsText v.patch)]

def pieces (s : Snapshot) : List Piece :=
  preamble s.version
    ++ Category.all.flatMap (fun category => .code "" :: identifierPieces s category)
    ++ Category.all.flatMap (fun category =>
      ((s.definitions category).filter Definition.isEnum).flatMap fun d =>
        .code "" :: variantPieces category d)
    ++ [.code "", .code ("#endif /* " ++ guard ++ " */"), .code ""]

/-- The text of a snapshot's header. -/
def text (s : Snapshot) : String :=
  "\n".intercalate ((pieces s).flatMap Piece.lines)

/-! ## Generating -/

/-- Whether no number of the header is too long to be written. -/
def isWritable (s : Snapshot) : Bool :=
  s.version.isWritable && Category.all.all fun category =>
    (s.linkageIds category).all (fun entry => Number.isWritable entry.2)
      && (s.definitions category).all fun d => d.enumerators.all fun e => Number.isWritable e.value

/-- The header of a snapshot. -/
def generate (s : Snapshot) : Except TooLong String :=
  if isWritable s then .ok (text s) else .error ⟨⟩

end Header

end ControlSchema
