import ControlSchema.Digest
import ControlSchema.Number.Integer

/-!
# Manifests

A manifest stands beside the files of a generated snapshot and records the digests of the documents
it was generated from and of the files that were generated. It is sealed by a digest of itself,
which leaves out the seal and the time of writing, so that the same snapshot generated twice has the
same seal.

A manifest is read leniently: what is missing has a value that stands for it, texts may be any
value, and the digests may be anything that can be taken for a mapping. So a manifest that was read
may have no digest itself: its files may be named by what is no text, and its texts may hold halves
of characters.
-/

namespace ControlSchema

open Json

structure Manifest where
  /-- The version of the release. -/
  version : Words
  /-- The tag of the release. -/
  tag : Words
  /-- Documents with their digests. -/
  sources : List (Value × Value)
  /-- Generated files with their digests. -/
  outputs : List (Value × Value)
  generator : Words
  createdAt : Words
  /-- The number of the manifest's own layout. -/
  layout : Int
  /-- The seal. -/
  digest : Words

/-- Why a value is no manifest. -/
inductive ManifestFault where
  | notMapping (found : Value)
  | missingVersion
  | badDigests (fault : MappingFault)
  /-- The layout is a text or number that is no integer. -/
  | badLayout (found : Value)
  | infiniteLayout
  /-- The layout is neither a number nor a text. -/
  | untypedLayout (found : Value)

namespace Manifest

def fileName : String := "manifest.json"

/-- The key of the version of the release. -/
def versionKey : String := "libcamera_version"

/-- What manifests name as their generator. -/
def generatorName : String := "camctl.gen"

/-- The layout that is written. -/
def currentLayout : Int := 1

/-! ## The identity -/

/-- The entries that identify the snapshot, under their keys. -/
def identityFields (m : Manifest) : Table String Value := [
  (versionKey, .text m.version), ("tag", .text m.tag), ("sources", .dict m.sources),
  ("outputs", .dict m.outputs), ("generator", .text m.generator), ("version", .int m.layout)]

/-- All entries under their keys. -/
def fields (m : Manifest) : Table String Value :=
  m.identityFields ++ [("created_at", .text m.createdAt), ("digest", .text m.digest)]

/-- The digest that the seal should be. -/
def identity (m : Manifest) : Except WriteFault String :=
  Digest.ofEntries (Value.entriesOf m.identityFields)

/-- The manifest with its seal. -/
def sealed (m : Manifest) : Manifest := { m with digest := .whole (m.identity.toOption.getD "") }

/-- The text of the manifest's file. -/
def text (m : Manifest) : String := (canonical (.ofRecord m.fields)).toOption.getD "" ++ "\n"

/-! ## Digests of files -/

/-- Digests of files as entries, in the order of the files' names. -/
def digestsOf (files : List (String × String)) : List (Value × Value) :=
  (Digest.ofDocuments files).map fun (name, digest) => (.text (.whole name), .text (.whole digest))

/-! ## Reading -/

def textField (entries : List (Value × Value)) (key missing : String) : Words :=
  ((Value.lookup? key entries).map Value.plain).getD (.whole missing)

/-- Recorded digests; whatever counts as absent records none. -/
def digestsField (entries : List (Value × Value)) (key : String) :
    Except ManifestFault (List (Value × Value)) :=
  match Value.lookup? key entries with
  | none => .ok []
  | some d => if d.truthy then d.asMapping.mapError .badDigests else .ok []

/-- The integer nearest to zero of a number, or the integer that a text writes. -/
def readLayout : Value → Except ManifestFault Int
  | .bool b => .ok (if b then 1 else 0)
  | .int n => .ok n
  | .float x =>
    match x.truncate? with
    | some n => .ok n
    | none => .error (if x.isUndefined then .badLayout (.float x) else .infiniteLayout)
  | .text (.whole s) => match Number.integerOfText? s with
    | some n => .ok n
    | none => .error (.badLayout (.text (.whole s)))
  | .text (.garbled codes) => .error (.badLayout (.text (.garbled codes)))
  | .foreign (.bytes b) => match Number.integerOfBytes? b with
    | some n => .ok n
    | none => .error (.badLayout (.foreign (.bytes b)))
  | v => .error (.untypedLayout v)

/-- The manifest that a value stands for. -/
def ofValue : Value → Except ManifestFault Manifest
  | .dict entries => do
    let some version := Value.lookup? versionKey entries | throw .missingVersion
    let sources ← digestsField entries "sources"
    let outputs ← digestsField entries "outputs"
    let layout ← readLayout ((Value.lookup? "version" entries).getD (.int currentLayout))
    return {
      version := version.plain
      tag := textField entries "tag" ""
      sources, outputs
      generator := textField entries "generator" generatorName
      createdAt := textField entries "created_at" ""
      layout
      digest := textField entries "digest" "" }
  | v => .error (.notMapping v)

end Manifest

end ControlSchema
