import ControlSchema.ControlValue

/-!
# Conversion errors

What can be wrong when a value is built, decoded or extracted. The runtime on the other side is not
trusted, so most of these are expected and carry what was asked for beside what was found.
-/

namespace ControlSchema

open Number

/-- How a caller asks for a kind: by the kind itself, or by a tag that is looked up when a value is
built. A bare tag is never the kind of a value. -/
inductive KindRequest where
  | known (kind : ControlKind)
  | byTag (tag : Int)
deriving DecidableEq

namespace KindRequest

instance : Coe ControlKind KindRequest := ⟨.known⟩

def label : KindRequest → String
  | .known kind => kind.label
  | .byTag tag => intText tag

/-- The kind that is meant, none when the tag is unknown. -/
def resolve? : KindRequest → Option ControlKind
  | .known kind => some kind
  | .byTag tag => ControlKind.ofTag? tag

end KindRequest

/-- Data of the right type with content that no value can have. -/
inductive DataFault where
  | noneHoldsElements
  | elementOutOfRange (kind : ControlKind) (value : Int)
  | fieldOutOfRange (kind : ControlKind) (field : String) (value : Int)
  | negativeCount (count : Int)
  | nullPointer (count : Int) (kind : ControlKind)
  | notUtf8

namespace DataFault

def message : DataFault → String
  | .noneHoldsElements => "None value cannot hold elements"
  | .elementOutOfRange kind value => intText value ++ " out of range for " ++ kind.label
  | .fieldOutOfRange kind field value =>
    kind.label ++ "." ++ field ++ " " ++ intText value ++ " out of range"
  | .negativeCount count => "negative element count " ++ intText count
  | .nullPointer count kind =>
    "null data pointer for " ++ intText count ++ " " ++ kind.label ++ " elements"
  | .notUtf8 => "string payload is not valid UTF-8"

/-- The integers in the message. -/
def numbers : DataFault → List Int
  | .elementOutOfRange _ value | .fieldOutOfRange _ _ value => [value]
  | .negativeCount count | .nullPointer count _ => [count]
  | .noneHoldsElements | .notUtf8 => []

end DataFault

/-- Data of a type that the kind does not hold. -/
inductive TypeFault where
  | element (kind : ControlKind) (found : Datum)
  | field (kind : ControlKind) (field : String) (found : Datum)
  | notText (found : Datum)
  | notElements (kind : ControlKind)
  /-- The data cannot be walked through. -/
  | notSequence

namespace TypeFault

/-- What an element of the kind has to be. -/
def elementNoun : ControlKind → String
  | .float => "a number"
  | kind => kind.elementType?.getD "None"

def message? : TypeFault → Option String
  | .element kind found =>
    some (kind.label ++ " element must be " ++ elementNoun kind ++ ", got " ++ found.typeName)
  | .field kind name found =>
    some (kind.label ++ "." ++ name ++ " must be int, got " ++ found.typeName)
  | .notText found => some ("String value must hold str, got " ++ found.typeName)
  | .notElements kind => some (kind.label ++ " value must hold a sequence of elements")
  | .notSequence => none

end TypeFault

/-- The classes of errors that a caller can tell apart. -/
inductive ErrorClass where
  | invalidType
  | invalidLength
  | unknownType
  | unknownVariant
  | invalidData
  | wrongType
  /-- Something is wrong with a value, and there is no class for it. -/
  | badValue
  | overflow
  | notFound
deriving DecidableEq

namespace ErrorClass

def name : ErrorClass → String
  | .invalidType => "InvalidType"
  | .invalidLength => "InvalidLength"
  | .unknownType => "UnknownType"
  | .unknownVariant => "UnknownVariant"
  | .invalidData => "InvalidData"
  | .wrongType => "TypeError"
  | .badValue => "ValueError"
  | .overflow => "OverflowError"
  | .notFound => "ControlNotFound"

/-- The class of what is raised for an error of a class, whose message has these integers in it. An
error takes its message along, so when the message cannot be written, that is what is raised
instead. -/
def raised (own : ErrorClass) (numbers : List Int) : ErrorClass :=
  if numbers.all isWritable then own else .badValue

end ErrorClass

inductive ValueError where
  | invalidType (expected : KindRequest) (found : ControlKind)
  | invalidLength (expected : Int) (found : Nat)
  | unknownType (tag : Int)
  | unknownVariant (value : ControlValue)
  | invalidData (fault : DataFault)
  | wrongType (fault : TypeFault)
  /-- The tag of a kind to build from is unknown. -/
  | noSuchKind
  /-- An integer is beyond all floating-point numbers. -/
  | tooLarge
  /-- Elements cannot be divided into groups of none. -/
  | emptyGroups

namespace ValueError

def message? : ValueError → Option String
  | .invalidType expected found =>
    some ("Expected type " ++ expected.label ++ ", found " ++ found.label)
  | .invalidLength expected found =>
    some ("Expected " ++ intText expected ++ " elements, found " ++ digitsText found)
  | .unknownType tag => some ("Unknown control type " ++ intText tag)
  | .unknownVariant value => some ("Unknown enum variant " ++ value.shown)
  | .invalidData fault => some fault.message
  | .wrongType fault => fault.message?
  | .noSuchKind | .tooLarge | .emptyGroups => none

/-- The integers in the message. -/
def numbers : ValueError → List Int
  | .invalidType (.byTag tag) _ => [tag]
  | .invalidLength expected found => [expected, found]
  | .unknownType tag => [tag]
  | .invalidData fault => fault.numbers
  | _ => []

/-- Whether no integer in the message is too long to be written. -/
def isWritable (e : ValueError) : Bool := e.numbers.all Number.isWritable

/-- The class of the error itself. -/
def ownClass : ValueError → ErrorClass
  | .invalidType .. => .invalidType
  | .invalidLength .. => .invalidLength
  | .unknownType _ => .unknownType
  | .unknownVariant _ => .unknownVariant
  | .invalidData _ => .invalidData
  | .wrongType _ => .wrongType
  | .noSuchKind | .emptyGroups => .badValue
  | .tooLarge => .overflow

/-- The class of what is raised. -/
def errorClass (e : ValueError) : ErrorClass := e.ownClass.raised e.numbers

theorem errorClass_of_not_isWritable {e : ValueError} (h : ¬ e.isWritable = true) :
    e.errorClass = .badValue := if_neg h

/-- Whether the error says that a value does not fit a control, which is expected of values from
the runtime, rather than that a caller passed something else than a value. -/
def isConversion : ValueError → Bool
  | .invalidType .. | .invalidLength .. | .unknownType _ | .unknownVariant _
  | .invalidData _ => true
  | _ => false

end ValueError

end ControlSchema
