import ControlSchema.Number.Notation
import ControlSchema.Text.Blank
import ControlSchema.Text.Hex

/-!
# Texts in files

A file holds bytes. Read as a text it must be valid UTF-8; the first byte sequence that is not is at
fault, and the error says where it stands and what is wrong with it. Read for its lines, the text
also has line feeds for all of its line ends.
-/

namespace ControlSchema.Text

/-- What is wrong with a byte sequence. -/
inductive EncodingReason where
  | startByte
  | continuationByte
  | unexpectedEnd
deriving DecidableEq

/-- The first sequence of bytes that is not UTF-8. -/
structure EncodingFault where
  /-- Where the sequence begins. -/
  position : Nat
  first : UInt8
  length : Nat
  reason : EncodingReason
deriving DecidableEq

namespace EncodingFault

def reasonText : EncodingReason → String
  | .startByte => "invalid start byte"
  | .continuationByte => "invalid continuation byte"
  | .unexpectedEnd => "unexpected end of data"

/-- A single byte is named, of several only the positions are. -/
def message (f : EncodingFault) : String :=
  let place :=
    if f.length = 1 then
      "byte 0x" ++ String.ofList (hexDigits 2 f.first.toNat) ++ " in position "
        ++ Number.digitsText f.position
    else
      "bytes in position " ++ Number.digitsText f.position ++ "-"
        ++ Number.digitsText (f.position + f.length - 1)
  "'utf-8' codec can't decode " ++ place ++ ": " ++ reasonText f.reason

end EncodingFault

/-! ## Finding the fault -/

def isContinuation (b : UInt8) : Bool := 0x80 ≤ b && b < 0xc0

/-- The number of bytes behind a leading byte, none when no sequence begins with it. -/
def followers? (first : UInt8) : Option Nat :=
  if first < 0x80 then some 0
  else if 0xc2 ≤ first && first < 0xe0 then some 1
  else if 0xe0 ≤ first && first < 0xf0 then some 2
  else if 0xf0 ≤ first && first < 0xf5 then some 3
  else none

/-- Whether a byte may be the second of a sequence: overlong forms, surrogates and numbers beyond
the last code point are out. -/
def isSecond (first second : UInt8) : Bool :=
  isContinuation second
    && (first != 0xe0 || 0xa0 ≤ second) && (first != 0xed || second < 0xa0)
    && (first != 0xf0 || 0x90 ≤ second) && (first != 0xf4 || second < 0x90)

/-- What is wrong with the bytes behind a leading byte, and how many bytes are at fault. -/
def followerFault? (first : UInt8) (wanted : Nat) (rest : List UInt8) :
    Option (EncodingReason × Nat) :=
  let good := match rest with
    | second :: more =>
      if isSecond first second then 1 + (more.takeWhile isContinuation).length else 0
    | [] => 0
  if wanted ≤ good then none
  else if rest.length ≤ good then some (.unexpectedEnd, good + 1)
  else some (.continuationByte, good + 1)

/-- The first fault, given the position and the number of bytes that are already accounted for. -/
def encodingFault? (position : Nat) : Nat → List UInt8 → Option EncodingFault
  | _, [] => none
  | skip + 1, _ :: rest => encodingFault? (position + 1) skip rest
  | 0, first :: rest =>
    match followers? first with
    | none => some ⟨position, first, 1, .startByte⟩
    | some wanted =>
      match followerFault? first wanted rest with
      | some (reason, length) => some ⟨position, first, length, reason⟩
      | none => encodingFault? (position + 1) wanted rest

/-! ## Reading -/

/-- The text that the bytes encode. -/
def ofBytes (bytes : ByteArray) : Except EncodingFault String :=
  match String.fromUTF8? bytes with
  | some text => .ok text
  | none => .error ((encodingFault? 0 0 bytes.toList).getD ⟨0, 0, 1, .startByte⟩)

/-- The text that the bytes encode, with line feeds for its line ends. -/
def linesOfBytes (bytes : ByteArray) : Except EncodingFault String :=
  (ofBytes bytes).map unifyBreaks

end ControlSchema.Text
