import ControlSchema.Json.Writer

/-!
# SHA-256

The digest that names the content of a file. Input is padded to whole blocks of sixteen words;
each block updates the eight words of the state through sixty-four rounds.
-/

namespace ControlSchema.Digest

attribute [local instance] Number.corePow

/-- Fractional parts of the cube roots of the first sixty-four primes. -/
def roundConstants : Array UInt32 := #[
  0x428a2f98, 0x71374491, 0xb5c0fbcf, 0xe9b5dba5, 0x3956c25b, 0x59f111f1, 0x923f82a4, 0xab1c5ed5,
  0xd807aa98, 0x12835b01, 0x243185be, 0x550c7dc3, 0x72be5d74, 0x80deb1fe, 0x9bdc06a7, 0xc19bf174,
  0xe49b69c1, 0xefbe4786, 0x0fc19dc6, 0x240ca1cc, 0x2de92c6f, 0x4a7484aa, 0x5cb0a9dc, 0x76f988da,
  0x983e5152, 0xa831c66d, 0xb00327c8, 0xbf597fc7, 0xc6e00bf3, 0xd5a79147, 0x06ca6351, 0x14292967,
  0x27b70a85, 0x2e1b2138, 0x4d2c6dfc, 0x53380d13, 0x650a7354, 0x766a0abb, 0x81c2c92e, 0x92722c85,
  0xa2bfe8a1, 0xa81a664b, 0xc24b8b70, 0xc76c51a3, 0xd192e819, 0xd6990624, 0xf40e3585, 0x106aa070,
  0x19a4c116, 0x1e376c08, 0x2748774c, 0x34b0bcb5, 0x391c0cb3, 0x4ed8aa4a, 0x5b9cca4f, 0x682e6ff3,
  0x748f82ee, 0x78a5636f, 0x84c87814, 0x8cc70208, 0x90befffa, 0xa4506ceb, 0xbef9a3f7, 0xc67178f2]

/-- Fractional parts of the square roots of the first eight primes. -/
def initialState : Array UInt32 := #[
  0x6a09e667, 0xbb67ae85, 0x3c6ef372, 0xa54ff53a, 0x510e527f, 0x9b05688c, 0x1f83d9ab, 0x5be0cd19]

def rotateRight (x : UInt32) (n : UInt32) : UInt32 := (x >>> n) ||| (x <<< (32 - n))

/-- The bits of a length or word as bytes, most significant first. -/
def bigEndian (width n : Nat) : List UInt8 :=
  (List.range width).reverse.map fun place => UInt8.ofNat (n / 256 ^ place)

/-- A one bit, zeros up to eight bytes short of a block, and the length in bits. -/
def pad (message : ByteArray) : ByteArray :=
  let zeros := (119 - message.size % 64) % 64
  let tail := 0x80 :: List.replicate zeros 0 ++ bigEndian 8 (8 * message.size)
  tail.foldl ByteArray.push message

def wordAt (bytes : ByteArray) (i : Nat) : UInt32 :=
  let byte (k : Nat) : UInt32 := (bytes[i + k]?.getD 0).toUInt32
  (byte 0 <<< 24) ||| (byte 1 <<< 16) ||| (byte 2 <<< 8) ||| byte 3

/-- The sixty-four words of a block's schedule. -/
def schedule (bytes : ByteArray) (start : Nat) : Array UInt32 :=
  let first := Array.ofFn fun i : Fin 16 => wordAt bytes (start + 4 * i)
  (List.range 48).foldl (fun w i =>
    let a := w.getD (i + 1) 0
    let b := w.getD (i + 14) 0
    let s0 := rotateRight a 7 ^^^ rotateRight a 18 ^^^ (a >>> 3)
    let s1 := rotateRight b 17 ^^^ rotateRight b 19 ^^^ (b >>> 10)
    w.push (w.getD i 0 + s0 + w.getD (i + 9) 0 + s1)) first

/-- The eight working words. -/
structure Working where
  (a b c d e f g h : UInt32)

def Working.round (s : Working) (word constant : UInt32) : Working :=
  let s1 := rotateRight s.e 6 ^^^ rotateRight s.e 11 ^^^ rotateRight s.e 25
  let choice := (s.e &&& s.f) ^^^ (~~~s.e &&& s.g)
  let t1 := s.h + s1 + choice + constant + word
  let s0 := rotateRight s.a 2 ^^^ rotateRight s.a 13 ^^^ rotateRight s.a 22
  let majority := (s.a &&& s.b) ^^^ (s.a &&& s.c) ^^^ (s.b &&& s.c)
  ⟨t1 + (s0 + majority), s.a, s.b, s.c, s.d + t1, s.e, s.f, s.g⟩

def compress (state : Array UInt32) (bytes : ByteArray) (start : Nat) : Array UInt32 :=
  let words := schedule bytes start
  let word (i : Nat) : UInt32 := state.getD i 0
  let last := (List.range 64).foldl
    (fun s i => Working.round s (words.getD i 0) (roundConstants.getD i 0))
    ⟨word 0, word 1, word 2, word 3, word 4, word 5, word 6, word 7⟩
  #[word 0 + last.a, word 1 + last.b, word 2 + last.c, word 3 + last.d,
    word 4 + last.e, word 5 + last.f, word 6 + last.g, word 7 + last.h]

def sha256 (message : ByteArray) : List UInt8 :=
  let padded := pad message
  let state := (List.range (padded.size / 64)).foldl
    (fun state block => compress state padded (64 * block)) initialState
  state.toList.flatMap fun word => bigEndian 4 word.toNat

/-- The digest of a text's UTF-8 encoding, in hexadecimal. -/
def ofText (text : String) : String := Text.hexOfBytes (sha256 text.toUTF8)

/-! ## Digests of documents and mappings

A document is named by the digest of its text, a mapping by the digest of its canonical JSON, which
no order of entries can change.
-/

/-- Documents with their digests, in the order of their names. -/
def ofDocuments (documents : List (String × String)) : List (String × String) :=
  (documents.map fun (name, text) => (name, ofText text)).mergeSort fun a b => !decide (b.1 < a.1)

/-- The digest of a mapping, if its canonical JSON can be encoded. -/
def ofEntries (entries : List (Json.Value × Json.Value)) : Except Json.WriteFault String :=
  (Json.canonical (.dict entries)).map ofText

end ControlSchema.Digest
