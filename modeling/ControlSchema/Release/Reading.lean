import ControlSchema.Release.Source

/-!
# Reading releases

A tag that names a version other than zero, and has at least one schema document, is a release. Of
several tags for one version only the first that is a release counts. Releases come in the order of
their versions.

The snapshot directory of a release keeps the documents as they were, so the release can be read
back from it.
-/

namespace ControlSchema

/-- What the names of schema documents end with. -/
def Document.fileSuffix : String := ".yaml"

/-- Whether a file is a schema document of the category. -/
def Category.hasDocument (category : Category) (name : String) : Bool :=
  category.filePrefix.toList.isPrefixOf name.toList
    && Document.fileSuffix.toList.isSuffixOf name.toList

namespace Release

variable {m : Type → Type} [Monad m]

def hasDocuments (r : Release) : Bool := !r.controls.isEmpty || !r.properties.isEmpty

/-- The texts of those files that are documents of a category. -/
def readDocuments (read : String → ExceptT ReleaseFault m String) (category : Category)
    (files : List String) : ExceptT ReleaseFault m (Table String String) := do
  return Table.ofPairs
    (← (files.filter category.hasDocument).mapM fun name => return (name, ← read name))

/-! ## From a source -/

/-- The documents of a tag, as a release of the version that the tag names. -/
def ofTag (source : ReleaseSource m) (tag : String) (version : Version) :
    ExceptT ReleaseFault m Release := do
  let files := (← source.files tag).mergeSort textAtMost
  let controls ← readDocuments (source.read tag) .controls files
  let properties ← readDocuments (source.read tag) .properties files
  return { version, tag, controls, properties }

/-- The releases among tags, given those that were read before. -/
def collect (source : ReleaseSource m) (found : List Release) :
    List String → ExceptT ReleaseFault m (List Release)
  | [] => return found
  | tag :: rest => do
    match Version.ofTag? tag with
    | none => collect source found rest
    | some version =>
      if version.isZero || found.any (·.version == version) then collect source found rest
      else
        let release ← ofTag source tag version
        collect source (if release.hasDocuments then found ++ [release] else found) rest

/-- The releases of a source, or those among the given tags, in the order of their versions. -/
def readAll (source : ReleaseSource m) (tags : Option (List String)) :
    ExceptT ReleaseFault m (List Release) := do
  let tags ← match tags with
    | some tags => pure tags
    | none => source.tags
  return (← collect source [] tags).mergeSort fun a b => a.version.atMost b.version

/-- The same from a source whose tags may be longer than names of directories, so that there may be
versions among them which are compared with no other. -/
def readAllChecked (source : ReleaseSource m) (tags : Option (List String)) :
    ExceptT ReleaseFault m (Except VersionError (List Release)) := do
  let releases ← readAll source tags
  return (Version.sortChecked (releases.map (·.version))).map fun _ => releases

/-! ## From a snapshot directory -/

/-- The tag of a release that is read back from its snapshot. -/
def storedTag (version : Version) : String := "v" ++ version.text

/-- The version that a directory is named by. -/
def storedVersion (root : String) : Except ReleaseFault Version :=
  (Version.parse (Path.lastName root)).mapError fun e => .source (.unnamed root e)

/-- The release whose documents a directory holds, of the version that names the directory unless
one is given. -/
def ofSnapshotDirectory [Storage m] (path : String) (version : Option Version) :
    ExceptT ReleaseFault m Release := do
  let root := Path.tidy path
  if !(← ReleaseSource.asFault (Storage.leadsTo .directory root)) then
    throw (.source (.noSnapshot root))
  let version ← match version with
    | some version => pure version
    | none => ExceptT.mk (pure (storedVersion root))
  let files ← ReleaseSource.asFault (ReleaseSource.entriesOf .file root)
  let read (name : String) : ExceptT ReleaseFault m String :=
    (Storage.readText (Path.join root name)).adapt .reading
  let controls ← readDocuments read .controls files
  let properties ← readDocuments read .properties files
  let release : Release := { version, tag := storedTag version, controls, properties }
  if release.hasDocuments then return release else throw (.source (.noDocuments root))

end Release

end ControlSchema
