import ControlSchema.Linkage.Header
import ControlSchema.Storage.Operation

/-!
# Headers in files

A runtime is described by the text of a header or by the path of a file that holds one. A text that
could be either, on one line and without a brace, is a path only if it leads to a file.
-/

namespace ControlSchema

/-- Why a header in a file describes no runtime. -/
inductive HeaderError where
  /-- The text that may be a path cannot be followed. -/
  | unreachable (error : StorageError)
  | unreadable (error : Storage.ReadError)
  | badNumber (fault : HeaderFault)

namespace LinkedRuntime

variable {m : Type → Type} [Monad m] [Storage m]

/-- The runtime that the header in a file describes. -/
def ofFile (path : String) : ExceptT HeaderError m LinkedRuntime := do
  let text ← (Storage.readText (Path.tidy path)).adapt .unreadable
  ExceptT.mk (pure ((ofHeader text none).mapError .badNumber))

/-- Whether a text may be meant as a path. -/
def mayBePath (text : String) : Bool := text.toList.all fun c => c != '\n' && c != '\x7b'

/-- The runtime that a header describes, given by its text or its path. -/
def ofTextOrFile (source : String) : ExceptT HeaderError m LinkedRuntime := do
  if mayBePath source then
    if ← (Storage.leadsTo .file (Path.tidy source)).adapt .unreachable then return ← ofFile source
  ExceptT.mk (pure ((ofHeader source none).mapError .badNumber))

end LinkedRuntime

end ControlSchema
