import ControlSchema.Storage.Disk
import ControlSchema.Storage.Operation

/-!
# Workspaces

A workspace is a disk on which the files of a table have been made, with the directories above them.
-/

namespace ControlSchema

/-- Makes a file and the directories above it that are missing. -/
def Storage.makeFile {m : Type → Type} [Monad m] [Storage m] (path : String)
    (content : ByteArray) : StorageT m Unit := do
  makeDirectories (Path.parent (Path.join "." path)) true
  write path content

namespace Disk

/-- The disk with the given files, up to the first that cannot be made. -/
def ofFiles (home : Trail) (files : Table String ByteArray) : Disk :=
  let making : StorageT Run Unit := files.forM fun (path, content) => Storage.makeFile path content
  (making.run (empty home)).2

/-- The paths of all that stands below a place, seen from there, in order. Directories end in a
slash. -/
def listing (d : Disk) (top : Trail) : List String :=
  let paths := d.nodes.filterMap fun (trail, node) =>
    if top.isPrefixOf trail && trail != top then
      let ending := if node matches .directory then "/" else ""
      some ("/".intercalate (trail.drop top.length) ++ ending)
    else none
  paths.mergeSort textAtMost

end Disk

end ControlSchema
