import ControlSchema.ControlValue.Error

/-!
# Cells

The form in which the runtime keeps a value: a tag, whether it is an array, the number of elements,
and the bytes of the elements one after another, least significant byte first. There are no bytes
without elements. A text is stored in UTF-8 and its elements are the bytes.

Reading is the inverse of writing but for two points: every nonzero byte is a true truth value, and
a number that is undefined is read as a quiet one.
-/

namespace ControlSchema

open Number

attribute [local instance] corePow

structure Cell where
  tag : Nat
  isArray : Bool
  count : Nat
  payload : Option (List UInt8)
deriving DecidableEq

/-! ## Words -/

/-- The lowest `width` bytes of `n`, least significant first. -/
def littleEndian : Nat → Nat → List UInt8
  | 0, _ => []
  | width + 1, n => UInt8.ofNat n :: littleEndian width (n / 256)

def ofLittleEndian : List UInt8 → Nat
  | [] => 0
  | b :: rest => b.toNat + 256 * ofLittleEndian rest

namespace Ranged

/-- The integer between the bounds that differs from `n` by a multiple of their distance. -/
def wrap {low high : Int} (h : low ≤ high) (n : Int) : Ranged low high where
  val := low + (n - low) % (high - low + 1)
  low_le := by
    have := Int.emod_nonneg (n - low) (show high - low + 1 ≠ 0 by omega)
    omega
  le_high := by
    have := Int.emod_lt_of_pos (n - low) (show 0 < high - low + 1 by omega)
    omega

/-- The word of an integer: itself, or what is left after its weight when it is negative. -/
def word {low high : Int} (width : Nat) (n : Ranged low high) : Nat :=
  (n.val % 256 ^ width).toNat

end Ranged

/-! ## Elements -/

namespace ElementKind

/-- The number of bytes of an element. -/
def width : ElementKind → Nat
  | .bool | .byte => 1
  | .int32 | .float => 4
  | .int64 | .size | .point => 8
  | .rectangle => 16

def write : (kind : ElementKind) → kind.Element → List UInt8
  | .bool, b => [if b then 1 else 0]
  | .byte, n => littleEndian 1 (n.word 1)
  | .int32, n => littleEndian 4 (n.word 4)
  | .int64, n => littleEndian 8 (n.word 8)
  | .float, x => littleEndian 4 x.bits
  | .rectangle, r =>
    littleEndian 4 (r.x.word 4) ++ littleEndian 4 (r.y.word 4)
      ++ littleEndian 4 (r.width.word 4) ++ littleEndian 4 (r.height.word 4)
  | .size, s => littleEndian 4 (s.width.word 4) ++ littleEndian 4 (s.height.word 4)
  | .point, p => littleEndian 4 (p.x.word 4) ++ littleEndian 4 (p.y.word 4)

/-- The four bytes at an offset. -/
def wordAt (bytes : List UInt8) (offset : Nat) : Int :=
  ofLittleEndian ((bytes.drop offset).take 4)

def signedAt (bytes : List UInt8) (offset : Nat) : Signed32 :=
  .wrap (by decide) (wordAt bytes offset)

def unsignedAt (bytes : List UInt8) (offset : Nat) : Unsigned32 :=
  .wrap (by decide) (wordAt bytes offset)

/-- The element that the first bytes stand for. -/
def read : (kind : ElementKind) → List UInt8 → kind.Element
  | .bool, bytes => bytes.headD 0 != 0
  | .byte, bytes => .wrap (by decide) (ofLittleEndian (bytes.take 1))
  | .int32, bytes => signedAt bytes 0
  | .int64, bytes => .wrap (by decide) (ofLittleEndian (bytes.take 8))
  | .float, bytes => (Binary.ofBits .single (ofLittleEndian (bytes.take 4))).convert .single
  | .rectangle, bytes =>
    ⟨signedAt bytes 0, signedAt bytes 4, unsignedAt bytes 8, unsignedAt bytes 12⟩
  | .size, bytes => ⟨unsignedAt bytes 0, unsignedAt bytes 4⟩
  | .point, bytes => ⟨signedAt bytes 0, signedAt bytes 4⟩

/-- The elements in front of a payload. -/
def readMany (kind : ElementKind) : Nat → List UInt8 → List kind.Element
  | 0, _ => []
  | count + 1, bytes => kind.read bytes :: kind.readMany count (bytes.drop kind.width)

end ElementKind

/-! ## Values -/

namespace ControlValue

/-- The bytes of the elements. -/
def bytes : ControlValue → List UInt8
  | .none => []
  | .array kind elements => elements.flatMap kind.write
  | .string text => text.toUTF8.toList

def encode (value : ControlValue) : Cell where
  tag := value.kind.tag
  isArray := value.isArray
  count := value.elementCount
  payload := if value.elementCount = 0 then none else some value.bytes

/-- The value of a kind without elements. -/
def empty (kind : ControlKind) : ControlValue :=
  match kind, kind.element? with
  | .string, _ => .string ""
  | _, some elementKind => .array elementKind []
  | _, none => .none

/-- The text of the first `count` bytes. -/
def decodeText (count : Nat) (payload : List UInt8) : Except ValueError ControlValue :=
  match String.fromUTF8? (ByteArray.mk (payload.take count).toArray) with
  | some text => .ok (.string text)
  | none => .error (.invalidData .notUtf8)

/-- The value that a tag, a number of elements and a payload stand for. -/
def decode (tag count : Int) (payload : Option (List UInt8)) : Except ValueError ControlValue :=
  match ControlKind.ofTag? tag with
  | none => .error (.unknownType tag)
  | some .none => .ok .none
  | some kind =>
    if count < 0 then .error (.invalidData (.negativeCount count))
    else if count = 0 then .ok (empty kind)
    else match payload with
      | none => .error (.invalidData (.nullPointer count kind))
      | some bytes =>
        match kind.element? with
        | some elementKind => .ok (.array elementKind (elementKind.readMany count.toNat bytes))
        | none => decodeText count.toNat bytes

def ofCell (cell : Cell) : Except ValueError ControlValue :=
  decode cell.tag cell.count cell.payload

end ControlValue

end ControlSchema
