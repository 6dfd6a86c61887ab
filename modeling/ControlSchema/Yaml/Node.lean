import ControlSchema.Yaml.Scanner
import ControlSchema.Yaml.Tag

/-!
# From tokens to nodes

A document is one node: a scalar, a sequence or a mapping, each with its type. Anchors name nodes of
the same document, and an alias is the node that was named. The text may hold several documents;
those in front of a fault are there all the same.

Every function takes the tokens it needs and passes the rest on inside the state. The recursion is
bounded by the number of tokens, because no two turns go by without taking one.
-/

namespace ControlSchema.Yaml

inductive Node where
  | scalar (kind : Kind) (text : String)
  | sequence (kind : Kind) (items : List Node)
  | mapping (kind : Kind) (pairs : List (Node × Node))

instance : Inhabited Node := ⟨.scalar .null ""⟩

structure Composer where
  tokens : List Token
  /-- What the handles of tags stand for. -/
  handles : List (String × String)
  /-- Finished nodes by the names of their anchors. -/
  anchors : List (String × Node)
  /-- The names of all anchors, those of unfinished nodes included. -/
  names : List String

namespace Composer

def head? (s : Composer) : Option Token := s.tokens.head?

def next (s : Composer) : Composer := { s with tokens := s.tokens.drop 1 }

def isNext (s : Composer) (tokens : List Token) : Bool := s.head?.any tokens.contains

def expect (s : Composer) (token : Token) : Result Composer :=
  if s.head? == some token then .ok s.next else .error .malformed

/-! ## Properties -/

structure Properties where
  anchor : Option String := none
  tag : Option (Option String × String) := none

/-- An anchor and a tag, in either order. -/
def properties (s : Composer) : Properties × Composer :=
  match s.tokens with
  | .anchor name :: .tag handle suffix :: rest =>
    ({ anchor := some name, tag := some (handle, suffix) }, { s with tokens := rest })
  | .tag handle suffix :: .anchor name :: rest =>
    ({ anchor := some name, tag := some (handle, suffix) }, { s with tokens := rest })
  | .anchor name :: rest => ({ anchor := some name }, { s with tokens := rest })
  | .tag handle suffix :: rest => ({ tag := some (handle, suffix) }, { s with tokens := rest })
  | _ => ({}, s)

/-- The full text of a tag; none when there is no tag or one that leaves the type open. -/
def fullTag (s : Composer) (p : Properties) : Result (Option String) :=
  match p.tag with
  | none => .ok none
  | some (none, suffix) => .ok (some suffix)
  | some (some handle, suffix) =>
    match s.handles.lookup handle with
    | some stem => .ok (some (stem ++ suffix))
    | none => .error .malformed

/-- An anchor's name is taken from here on, and may not be taken twice. -/
def declare (s : Composer) (p : Properties) : Result Composer :=
  match p.anchor with
  | none => .ok s
  | some name =>
    if s.names.contains name then .error .malformed else .ok { s with names := name :: s.names }

/-- The node with its anchor, if it has one. -/
def record (s : Composer) (p : Properties) (node : Node) : Node × Composer :=
  match p.anchor with
  | none => (node, s)
  | some name => (node, { s with anchors := (name, node) :: s.anchors })

def kindOf (tag : Option String) (otherwise : Kind) : Kind :=
  match tag with
  | none | some "!" => otherwise
  | some tag => .ofTag tag

def empty : Node := .scalar .null ""

/-! ## Nodes -/

/-- Which nodes may stand at a place. -/
structure Setting where
  /-- Blocks may. -/
  block : Bool
  /-- Entries of a sequence that is not indented may. -/
  bareEntries : Bool

mutual

/-- A node, or its alias. -/
def node (setting : Setting) : Nat → Composer → Result (Node × Composer)
  | 0, _ => .error .malformed
  | fuel + 1, s =>
    match s.head? with
    | some (.alias name) =>
      match s.anchors.lookup name with
      | some node => .ok (node, s.next)
      | none => .error .malformed
    | _ => do
      let (p, s) := s.properties
      let tag ← s.fullTag p
      let s ← s.declare p
      let (node, s) ← content setting p tag fuel s
      return s.record p node

/-- What stands behind the properties of a node. -/
def content (setting : Setting) (p : Properties) (tag : Option String) :
    Nat → Composer → Result (Node × Composer)
  | 0, _ => .error .malformed
  | fuel + 1, s =>
    let sequence (result : Result (List Node × Composer)) : Result (Node × Composer) :=
      result.map fun (items, s) => (.sequence (kindOf tag .sequence) items, s)
    let mapping (result : Result (List (Node × Node) × Composer)) : Result (Node × Composer) :=
      result.map fun (pairs, s) => (.mapping (kindOf tag .mapping) pairs, s)
    match s.head? with
    | some (.scalar text plain) =>
      let kind :=
        if (plain && tag.isNone) || tag == some "!" then .ofPlain text else kindOf tag .text
      .ok (.scalar kind text, s.next)
    | some .flowSequenceStart => sequence (flowItems true fuel s.next)
    | some .flowMappingStart => mapping (flowPairs true fuel s.next)
    | some .blockEntry =>
      if setting.bareEntries then sequence (bareItems fuel s) else absent p tag s
    | some .blockSequenceStart =>
      if setting.block then sequence (blockItems fuel s.next) else absent p tag s
    | some .blockMappingStart =>
      if setting.block then mapping (blockPairs fuel s.next) else absent p tag s
    | _ => absent p tag s

/-- Only a node with properties may have no content. -/
def absent (p : Properties) (tag : Option String) (s : Composer) : Result (Node × Composer) :=
  if p.anchor.isNone && p.tag.isNone then .error .malformed
  else .ok (.scalar (kindOf tag .null) "", s)

/-- Items of an indented sequence, up to the end of the block. -/
def blockItems : Nat → Composer → Result (List Node × Composer)
  | 0, _ => .error .malformed
  | fuel + 1, s =>
    match s.head? with
    | some .blockEntry => do
      let s := s.next
      let (item, s) ← if s.isNext [.blockEntry, .blockEnd] then .ok (empty, s)
        else node ⟨true, false⟩ fuel s
      let (items, s) ← blockItems fuel s
      return (item :: items, s)
    | some .blockEnd => .ok ([], s.next)
    | _ => .error .malformed

/-- Items of a sequence at the indentation of the mapping around it. -/
def bareItems : Nat → Composer → Result (List Node × Composer)
  | 0, _ => .error .malformed
  | fuel + 1, s =>
    match s.head? with
    | some .blockEntry => do
      let s := s.next
      let (item, s) ← if s.isNext [.blockEntry, .key, .value, .blockEnd] then .ok (empty, s)
        else node ⟨true, false⟩ fuel s
      let (items, s) ← bareItems fuel s
      return (item :: items, s)
    | _ => .ok ([], s)

/-- Pairs of an indented mapping, up to the end of the block. -/
def blockPairs : Nat → Composer → Result (List (Node × Node) × Composer)
  | 0, _ => .error .malformed
  | fuel + 1, s =>
    match s.head? with
    | some .key => do
      let s := s.next
      let (key, s) ← if s.isNext [.key, .value, .blockEnd] then .ok (empty, s)
        else node ⟨true, true⟩ fuel s
      blockValue key fuel s
    | some .blockEnd => .ok ([], s.next)
    | _ => .error .malformed

/-- The value of a key, and the pairs behind it. -/
def blockValue (key : Node) : Nat → Composer → Result (List (Node × Node) × Composer)
  | 0, _ => .error .malformed
  | fuel + 1, s => do
    let (value, s) ←
      if s.head? == some .value then
        let s := s.next
        if s.isNext [.key, .value, .blockEnd] then .ok (empty, s) else node ⟨true, true⟩ fuel s
      else .ok (empty, s)
    let (pairs, s) ← blockPairs fuel s
    return ((key, value) :: pairs, s)

/-- Items between brackets; a pair among them is a mapping of its own. -/
def flowItems (first : Bool) : Nat → Composer → Result (List Node × Composer)
  | 0, _ => .error .malformed
  | fuel + 1, s => do
    if s.head? == some .flowSequenceEnd then return ([], s.next)
    let s ← if first then .ok s else s.expect .flowEntry
    match s.head? with
    | some .flowSequenceEnd => return ([], s.next)
    | some .key =>
      let s := s.next
      let (key, s) ← if s.isNext [.value, .flowEntry, .flowSequenceEnd] then .ok (empty, s)
        else node ⟨false, false⟩ fuel s
      let (value, s) ←
        if s.head? == some .value then
          let s := s.next
          if s.isNext [.flowEntry, .flowSequenceEnd] then .ok (empty, s)
          else node ⟨false, false⟩ fuel s
        else .ok (empty, s)
      let (items, s) ← flowItems false fuel s
      return (.mapping .mapping [(key, value)] :: items, s)
    | _ =>
      let (item, s) ← node ⟨false, false⟩ fuel s
      let (items, s) ← flowItems false fuel s
      return (item :: items, s)

/-- Pairs between braces; a node without a colon is a key without a value. -/
def flowPairs (first : Bool) : Nat → Composer → Result (List (Node × Node) × Composer)
  | 0, _ => .error .malformed
  | fuel + 1, s => do
    if s.head? == some .flowMappingEnd then return ([], s.next)
    let s ← if first then .ok s else s.expect .flowEntry
    match s.head? with
    | some .flowMappingEnd => return ([], s.next)
    | some .key =>
      let s := s.next
      let (key, s) ← if s.isNext [.value, .flowEntry, .flowMappingEnd] then .ok (empty, s)
        else node ⟨false, false⟩ fuel s
      let (value, s) ←
        if s.head? == some .value then
          let s := s.next
          if s.isNext [.flowEntry, .flowMappingEnd] then .ok (empty, s)
          else node ⟨false, false⟩ fuel s
        else .ok (empty, s)
      let (pairs, s) ← flowPairs false fuel s
      return ((key, value) :: pairs, s)
    | _ =>
      let (key, s) ← node ⟨false, false⟩ fuel s
      let (pairs, s) ← flowPairs false fuel s
      return ((key, empty) :: pairs, s)

end

/-! ## Documents -/

def defaultHandles : List (String × String) := [("!", "!"), ("!!", Kind.stem)]

/-- The directives in front of a document: one version at most, of the language's first number, and
one meaning for each handle. -/
def directives (versionSeen : Bool) (handles : List (String × String)) :
    List Token → Result (List (String × String) × List Token)
  | .yamlDirective major :: rest =>
    if versionSeen || major != 1 then .error .malformed else directives true handles rest
  | .tagDirective handle stem :: rest =>
    if (handles.lookup handle).isSome then .error .malformed
    else directives versionSeen ((handle, stem) :: handles) rest
  | .otherDirective :: rest => directives versionSeen handles rest
  | tokens => .ok (handles, tokens)

def isBoundary : Token → Bool
  | .yamlDirective _ | .tagDirective .. | .otherDirective | .documentStart | .documentEnd
  | .streamEnd => true
  | _ => false

/-- The node of a document, empty when nothing stands between its marks. -/
def root (handles : List (String × String)) (explicit : Bool) (tokens : List Token) :
    Result (Node × List Token) := do
  let s : Composer := ⟨tokens, handles, [], []⟩
  if explicit && (tokens.head?).any isBoundary then return (empty, tokens)
  let (node, s) ← node ⟨true, false⟩ (6 * tokens.length + 6) s
  if s.tokens.isEmpty then throw .malformed
  return (node, if s.head? == some .documentEnd then s.tokens.drop 1 else s.tokens)

/-- The documents behind the first, each with its marks. -/
def laterDocuments : Nat → List Token → List Node × Option Fault
  | 0, _ => ([], some .malformed)
  | fuel + 1, tokens =>
    let tokens := tokens.dropWhile (· == .documentEnd)
    match tokens with
    | [.streamEnd] => ([], none)
    | tokens =>
      let document : Result (Node × List Token) := do
        let (handles, tokens) ← directives false [] tokens
        match tokens with
        | .documentStart :: tokens => root (handles ++ defaultHandles) true tokens
        | _ => throw .malformed
      match document with
      | .ok (node, tokens) =>
        let (nodes, fault) := laterDocuments fuel tokens
        (node :: nodes, fault)
      | .error fault => ([], some fault)

/-- The documents of a sequence of tokens; the first may go without its mark. -/
def documents (tokens : List Token) : List Node × Option Fault :=
  match tokens with
  | [] => ([], some .malformed)
  | token :: _ =>
    if isBoundary token && token != .documentEnd then laterDocuments (tokens.length + 1) tokens
    else match root defaultHandles false tokens with
      | .ok (node, rest) =>
        let (nodes, fault) := laterDocuments (tokens.length + 1) rest
        (node :: nodes, fault)
      | .error fault => ([], some fault)

end Composer

/-- The documents of a text, and the fault behind them if there is one. -/
def compose (text : String) : List Node × Option Fault :=
  let (tokens, scanFault) := scan text
  let (nodes, fault) := Composer.documents tokens
  (nodes, fault.map fun fault => scanFault.getD fault)

end ControlSchema.Yaml
