import ControlSchema.Document
import ControlSchema.Snapshot

/-!
# Releases

A release as published: its version, the tag it was published under, and the texts of its schema
documents for both categories. What it defines is the snapshot that the documents add up to.
-/

namespace ControlSchema

structure Release where
  version : Version
  tag : String
  controls : Table String String
  properties : Table String String
deriving DecidableEq

inductive ReleaseError where
  | document (error : DocumentError)
  | repeated (error : RepeatedName)

namespace Release

def documents (r : Release) : Category → Table String String
  | .controls => r.controls
  | .properties => r.properties

/-- The documents of both categories. -/
def allDocuments (r : Release) : Table String String := Table.merge r.controls r.properties

/-- The snapshot that the release defines. -/
def parse [Readers] (r : Release) : Except ReleaseError Snapshot := do
  let controls ← (Document.parseAll r.controls).mapError .document
  let properties ← (Document.parseAll r.properties).mapError .document
  (Snapshot.ofDefinitions r.version controls properties).mapError .repeated

end Release

end ControlSchema
