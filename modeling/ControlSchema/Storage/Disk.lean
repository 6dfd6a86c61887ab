import ControlSchema.Datum.Text
import ControlSchema.Storage.Basic
import ControlSchema.Table

/-!
# Disks

A disk is a table of places, each the list of names that leads to it from the root, with what stands
there. It answers the operations of storage as a machine would. The operations that change
something are counted, and a schedule of faults says which of them fail, so that every way for a
program to be interrupted is a value too.

Of the limits of machines it has that on the length of a name. It has none on the length of a whole
path, no permissions, and no character that names cannot have but the slash.
-/

namespace ControlSchema

inductive Node where
  | file (content : ByteArray)
  | directory

/-- The names that lead to a file or directory from the root. -/
abbrev Trail := List String

structure Disk where
  /-- Everything but the root, which is a directory. -/
  nodes : Table Trail Node
  /-- Where paths that are not absolute begin. -/
  home : Trail
  /-- The number of changes that have been asked for. -/
  steps : Nat
  /-- The changes that fail. -/
  failing : Nat → Bool

namespace Disk

/-- A disk that never fails and holds one empty directory, with those above it. -/
def empty (home : Trail) : Disk where
  nodes := (List.range home.length).map fun n => (home.take (n + 1), .directory)
  home
  steps := 0
  failing := fun _ => false

def node? (d : Disk) (place : Trail) : Option Node :=
  if place.isEmpty then some .directory else d.nodes.get? place

def kindAt? (d : Disk) (place : Trail) : Option EntryKind :=
  (d.node? place).map fun
    | .file _ => .file
    | .directory => .directory

/-! ## From paths to places -/

/-- Longer names are refused. -/
def nameLimit : Nat := 255

/-- Follows the pieces of a path. Every piece but the last must lead to a directory. -/
def follow (d : Disk) (place : Trail) : List String → Except StorageFault Trail
  | [] => .ok place
  | piece :: rest =>
    match d.node? place with
    | none => .error .missing
    | some (.file _) => .error .notDirectory
    | some .directory =>
      if piece.isEmpty || piece == "." then follow d place rest
      else if piece == ".." then follow d place.dropLast rest
      else if nameLimit < piece.utf8ByteSize then .error .nameTooLong
      else follow d (place ++ [piece]) rest

def start (d : Disk) (path : String) : Trail := if Path.isAbsolute path then [] else d.home

/-- The place that a path leads to, whether or not something stands there. -/
def place (d : Disk) (path : String) : Except StorageFault Trail :=
  if path.isEmpty then .error .missing else d.follow (d.start path) (Path.pieces path)

/-- The place of a directory that is to be made; slashes at the end of the path do not matter. -/
def newPlace (d : Disk) (path : String) : Except StorageFault Trail :=
  if path.isEmpty then .error .missing
  else
    let pieces := Path.pieces path
    d.follow (d.start path) (pieces.reverse.dropWhile String.isEmpty).reverse

/-! ## Reading -/

/-- The names in the directory at a place. -/
def namesAt (d : Disk) (place : Trail) : List String :=
  d.nodes.filterMap fun (other, _) =>
    if !other.isEmpty && other.dropLast == place then other.getLast? else none

def names (d : Disk) (path : String) : Except StorageFault (List String) := do
  let place ← d.place path
  match d.node? place with
  | some .directory => return d.namesAt place
  | some (.file _) => throw .notDirectory
  | none => throw .missing

def read (d : Disk) (path : String) : Except StorageFault ByteArray := do
  match d.node? (← d.place path) with
  | some (.file content) => return content
  | some .directory => throw .isDirectory
  | none => throw .missing

/-- What a path leads to. A path on which something is missing or is no directory leads nowhere. -/
def look (d : Disk) (path : String) : Except StorageFault (Option EntryKind) :=
  match d.place path with
  | .ok place => .ok (d.kindAt? place)
  | .error .nameTooLong => .error .nameTooLong
  | .error _ => .ok none

/-! ## Changing -/

def put (d : Disk) (place : Trail) (node : Node) : Disk :=
  { d with nodes := d.nodes.put place node }

/-- The disk without what stands at a place and below it. -/
def clear (d : Disk) (place : Trail) : Disk :=
  { d with nodes := d.nodes.filter fun (other, _) => !place.isPrefixOf other }

/-- The disk with what stands at a place and below it at another place. -/
def move (d : Disk) (source target : Trail) : Disk :=
  { d with nodes := (d.clear target).nodes.map fun (other, node) =>
      if source.isPrefixOf other then (target ++ other.drop source.length, node)
      else (other, node) }

def write (d : Disk) (path : String) (content : ByteArray) : Except StorageFault Disk := do
  let place ← d.place path
  match d.node? place with
  | some .directory => throw .isDirectory
  | _ => return d.put place (.file content)

def makeDirectory (d : Disk) (path : String) : Except StorageFault Disk := do
  let place ← d.newPlace path
  match d.node? place with
  | some _ => throw .alreadyExists
  | none => return d.put place .directory

/-- The first unused name of its kind: names are numbered, and more are tried than are in use. -/
def freshName (d : Disk) (place : Trail) (beginning ending : String) : String :=
  let candidates := (List.range (d.nodes.length + 1)).map fun n => beginning ++ padded 8 n ++ ending
  (candidates.find? fun name => !d.nodes.has (place ++ [name])).getD beginning

def makeTemporary (d : Disk) (directory beginning ending : String) :
    Except StorageFault (String × Disk) := do
  let place ← d.place directory
  match d.node? place with
  | some .directory =>
    let name := d.freshName place beginning ending
    if nameLimit < name.utf8ByteSize then throw .nameTooLong
    else return (Path.join directory name, d.put (place ++ [name]) .directory)
  | some (.file _) => throw .notDirectory
  | none => throw .missing

def removeFile (d : Disk) (path : String) : Except StorageFault Disk := do
  let place ← d.place path
  match d.node? place with
  | some (.file _) => return d.clear place
  | some .directory => throw .isDirectory
  | none => throw .missing

def removeDirectory (d : Disk) (path : String) : Except StorageFault Disk := do
  let place ← d.place path
  match d.node? place with
  | some .directory =>
    if (d.namesAt place).isEmpty then return d.clear place else throw .notEmpty
  | some (.file _) => throw .notDirectory
  | none => throw .missing

/-- Moves a node. Only an empty directory may give way to a directory, and only a file to a file;
a directory cannot be moved into itself. -/
def replace (d : Disk) (source target : String) : Except StorageFault Disk := do
  let source ← d.place source
  let target ← d.newPlace target
  match d.kindAt? source, d.kindAt? target with
  | none, _ => throw .missing
  | some _, none => if source.isPrefixOf target then throw .invalid else return d.move source target
  | some .file, some .file => if source == target then return d else return d.move source target
  | some .file, some .directory => throw .isDirectory
  | some .directory, some .file => throw .notDirectory
  | some .directory, some .directory =>
    if source == target then return d
    else if source.isPrefixOf target then throw .invalid
    else if (d.namesAt target).isEmpty then return d.move source target
    else throw .notEmpty

/-! ## The operations of storage -/

/-- Computations on a disk. -/
abbrev Run := StateM Disk

/-- An answer about the disk as it is. -/
def inquire {α : Type} (path : String) (answer : Disk → Except StorageFault α) :
    StorageT Run α := ExceptT.mk fun d =>
  match answer d with
  | .ok a => (.ok a, d)
  | .error fault => (.error ⟨fault, path, none⟩, d)

/-- A change of the disk, unless it is one of those that fail. -/
def change {α : Type} (path : String) (target : Option String)
    (action : Disk → Except StorageFault (α × Disk)) : StorageT Run α := ExceptT.mk fun d =>
  let counted (d' : Disk) : Disk := { d' with steps := d.steps + 1 }
  if d.failing d.steps then (.error ⟨.inputOutput, path, target⟩, counted d)
  else match action d with
    | .ok (a, d') => (.ok a, counted d')
    | .error fault => (.error ⟨fault, path, target⟩, counted d)

/-- A change that has no answer. -/
def alter (path : String) (target : Option String) (action : Disk → Except StorageFault Disk) :
    StorageT Run Unit := change path target fun d => (action d).map fun d' => ((), d')

instance : Storage Run where
  look path := inquire path fun d => d.look path
  names path := inquire path fun d => d.names path
  read path := inquire path fun d => d.read path
  write path content := alter path none fun d => d.write path content
  makeDirectory path := alter path none fun d => d.makeDirectory path
  makeTemporary directory beginning ending :=
    change (Path.join directory (beginning ++ ending)) none fun d =>
      d.makeTemporary directory beginning ending
  removeFile path := alter path none fun d => d.removeFile path
  removeDirectory path := alter path none fun d => d.removeDirectory path
  replace source target := alter source (some target) fun d => d.replace source target
  workingDirectory := fun d => ("/" ++ "/".intercalate d.home, d)
  now := fun d => (Moment.mk ⟨1970, 1, 1⟩ ⟨0, 0, 0, 0⟩ (some 0), d)

end Disk

end ControlSchema
