import ControlSchema.Number.Integer
import ControlSchema.Yaml.Scalar

/-!
# YAML tokens

Indicators, properties and scalars, together with the marks that the scanner puts where indentation
opens or closes a block. Properties (anchors, aliases and tags) and directives are read here.
-/

namespace ControlSchema.Yaml

inductive Token where
  | streamEnd
  | yamlDirective (major : Nat)
  | tagDirective (handle stem : String)
  | otherDirective
  | documentStart
  | documentEnd
  | blockSequenceStart
  | blockMappingStart
  | blockEnd
  | flowSequenceStart
  | flowSequenceEnd
  | flowMappingStart
  | flowMappingEnd
  | blockEntry
  | flowEntry
  | key
  | value
  | alias (name : String)
  | anchor (name : String)
  | tag (handle : Option String) (suffix : String)
  | scalar (text : String) (plain : Bool)
deriving DecidableEq

namespace Cursor

/-! ## Names -/

/-- A name of an anchor or alias, behind its indicator. -/
def anchorName (c : Cursor) : Result (String × Cursor) :=
  let (name, c) := c.takeWhile isNameChar
  if name.isEmpty || !(isBlankOrEnd c.peek || isOneOf "?:,]\x7d%@`" c.peek) then .error .malformed
  else .ok (String.ofList name, c)

/-! ## Tags -/

/-- The bytes of consecutive percent escapes. -/
def escapedBytes : Nat → Cursor → Result (List UInt8 × Cursor)
  | 0, _ => .error .malformed
  | fuel + 1, c =>
    if c.peek != '%' then .ok ([], c)
    else match Text.hexValue? (c.peek 1), Text.hexValue? (c.peek 2) with
      | some high, some low => do
        let (more, c) ← escapedBytes fuel (c.skip 3)
        return (UInt8.ofNat (16 * high + low) :: more, c)
      | _, _ => .error .malformed

def isUriChar (c : Char) : Bool := c.isAlphanum || isOneOf "-;/?:@&=+$,_.!~*'()[]" c

def uriParts : Nat → Cursor → Result (List Char × Cursor)
  | 0, _ => .error .malformed
  | fuel + 1, c =>
    if c.peek == '%' then do
      let (bytes, c) ← escapedBytes c.fuel c
      match String.fromUTF8? (ByteArray.mk bytes.toArray) with
      | none => throw .malformed
      | some text =>
        let (more, c) ← uriParts fuel c
        return (text.toList ++ more, c)
    else
      let (run, c) := c.takeWhile isUriChar
      if run.isEmpty then .ok ([], c)
      else do
        let (more, c) ← uriParts fuel c
        return (run ++ more, c)

/-- An identifier with percent escapes, of at least one character. -/
def uri (c : Cursor) : Result (String × Cursor) := do
  let start := c.index
  let (text, c) ← uriParts c.fuel c
  if c.index = start then throw .malformed
  return (String.ofList text, c)

/-- A name between exclamation marks, or a single one. -/
def tagHandle (c : Cursor) : Result (String × Cursor) :=
  if c.peek != '!' then .error .malformed
  else if c.peek 1 == ' ' then .ok ("!", c.next)
  else
    let (name, c) := c.next.takeWhile isNameChar
    if c.peek != '!' then .error .malformed
    else .ok (String.ofList ('!' :: name ++ ['!']), c.next)

/-- The handle and the suffix of a shorthand. -/
def shorthand (c : Cursor) : Result (Option String × String × Cursor) := do
  let body := (c.next.rest).takeWhile fun ch => !isSpaceOrEnd ch
  let (handle, c) ← if body.contains '!' then c.tagHandle else .ok ("!", c.next)
  let (suffix, c) ← c.uri
  return (some handle, suffix, c)

/-- A tag: verbatim between angle brackets, a lone exclamation mark, or a shorthand. -/
def tag (c : Cursor) : Result (Token × Cursor) := do
  let (handle, suffix, c) ←
    if c.peek 1 == '<' then do
      let (suffix, c) ← (c.skip 2).uri
      if c.peek != '>' then throw .malformed
      pure (none, suffix, c.next)
    else if isBlankOrEnd (c.peek 1) then pure (none, "!", c.next)
    else c.shorthand
  if !isSpaceOrEnd c.peek then throw .malformed
  return (.tag handle suffix, c)

/-! ## Directives -/

def directiveNumber (c : Cursor) : Result (Nat × Cursor) :=
  let (digits, c) := c.takeWhile Char.isDigit
  if digits.isEmpty then .error .malformed
  else if Number.digitLimit < digits.length then .error .badValue
  else .ok (digits.foldl (fun n d => 10 * n + (d.toNat - 0x30)) 0, c)

/-- The version of the language that a text is written in. -/
def yamlDirective (c : Cursor) : Result (Token × Cursor) := do
  let (major, c) ← c.skipSpaces.directiveNumber
  if c.peek != '.' then throw .malformed
  let (_, c) ← c.next.directiveNumber
  if !isSpaceOrEnd c.peek then throw .malformed
  return (.yamlDirective major, c)

/-- A handle and what it stands for. -/
def tagDirective (c : Cursor) : Result (Token × Cursor) := do
  let (handle, c) ← c.skipSpaces.tagHandle
  if c.peek != ' ' then throw .malformed
  let (stem, c) ← c.skipSpaces.uri
  if !isSpaceOrEnd c.peek then throw .malformed
  return (.tagDirective handle stem, c)

/-- A directive with the rest of its line; unknown ones are passed over. -/
def directive (c : Cursor) : Result (Token × Cursor) := do
  let (name, c) := c.next.takeWhile isNameChar
  if name.isEmpty || !isSpaceOrEnd c.peek then throw .malformed
  let (token, c) ←
    if name == "YAML".toList then c.yamlDirective
    else if name == "TAG".toList then c.tagDirective
    else pure (.otherDirective, c.skipWhile fun ch => !isBreakOrEnd ch)
  return (token, ← c.endOfLine)

end Cursor

end ControlSchema.Yaml
