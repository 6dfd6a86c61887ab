import ControlSchema.Artifact.Error
import ControlSchema.Digest
import ControlSchema.Json.Reader
import ControlSchema.Table

/-!
# Checking snapshots

A snapshot directory is intact when every file that its manifest records is there with the recorded
digest and the manifest's own seal is right. Files that the manifest does not record do not matter.
-/

namespace ControlSchema.Manifest

variable {m : Type → Type} [Monad m] [Storage m]

/-! ## Reading a manifest -/

/-- The manifest that a text holds. -/
def ofText (file text : String) : Except ArtifactFault Manifest :=
  match Json.read text with
  | .error fault => .error (.artifact (.badManifest file (.notJson (fault.message text))))
  | .ok value =>
    match ofValue value with
    | .ok manifest => .ok manifest
    | .error .infiniteLayout => .error .infiniteLayout
    | .error fault => .error (.artifact (.badManifest file (.badContent fault)))

/-- The manifest of a directory, nothing when there is no such file. -/
def ofDirectory? (path : String) : ExceptT ArtifactFault m (Option Manifest) := do
  let file := Path.join path fileName
  if !(← ExceptT.lift (Storage.present file)) then return none
  let text ← (Storage.readText file).adapt fun e => .artifact (.badManifest file (.unreadable e))
  return some (← ExceptT.mk (pure (ofText file text)))

/-! ## Comparing -/

/-- Digests under names that are texts. -/
def namedDigests? (entries : List (Json.Value × Json.Value)) :
    Option (Table String Json.Value) :=
  entries.mapM fun
    | (.text (.whole name), digest) => some (name, digest)
    | _ => none

/-- The recorded files with their digests, in the order of their names. -/
def recorded? (manifest : Manifest) : Option (Table String Json.Value) := do
  return (Table.merge (← namedDigests? manifest.sources) (← namedDigests? manifest.outputs)).sorted

/-- All names that files are recorded under, in order. -/
def recordedNames (manifest : Manifest) : List Json.Value :=
  (Json.inOrder (Json.Value.ofPairs (manifest.sources ++ manifest.outputs))).map Prod.fst

/-- What comes of names of which one is no text. If they can be put in order then none is a text,
and all are reported as missing, which is done in order too: with the manifest among them it
fails. -/
def untyped (manifest : Manifest) (identity : String) : ArtifactFault :=
  if manifest.digest == .whole identity && Json.comparable manifest.recordedNames then
    .untypedReport manifest.recordedNames
  else .untypedNames

/-- Whether a text has the recorded digest. -/
def agrees (text : String) : Json.Value → Bool
  | .text digest => digest == .whole (Digest.ofText text)
  | _ => false

/-- Whether a recorded file is missing or has changed. -/
def isDamaged (path : String) (present : List String) (name : String) (digest : Json.Value) :
    ExceptT ArtifactFault m Bool := do
  if present.contains name then
    let text ← (Storage.readExact (Path.join path name)).adapt .reading
    return !agrees text digest
  else return true

/-- The names of the recorded files that are missing or have changed, in order, and among them the
manifest itself when its seal is wrong. -/
def verify (path : String) : ExceptT ArtifactFault m (List String) := do
  let some manifest ← ofDirectory? path | throw (.artifact (.noManifest path))
  let present ← (Storage.sortedNames path).adapt fun e => .reading (.storage e)
  let identity ← ExceptT.mk (pure (manifest.identity.mapError .undigested))
  let some recorded := manifest.recorded? | throw (manifest.untyped identity)
  let damaged ← recorded.filterM fun (name, digest) => isDamaged path present name digest
  let unsealed := if manifest.digest == .whole identity then [] else [fileName]
  return (unsealed ++ Table.keys damaged).mergeSort textAtMost

end ControlSchema.Manifest
