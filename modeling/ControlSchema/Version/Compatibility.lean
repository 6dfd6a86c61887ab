import ControlSchema.Version
import ControlSchema.Choice

/-!
# Compatibility

Which snapshot may serve a linked runtime. The exact mode asks for equal numbers. The caret mode
reads the snapshot's version as a requirement: the runtime is at least as new and agrees up to the
first number of the snapshot that is not zero. Pre-release identifiers play no part.

Among compatible snapshots the greatest is taken, the first of several of equal precedence.
-/

namespace ControlSchema

inductive CompatMode where
  | exact
  | caret
deriving DecidableEq, Inhabited

namespace CompatMode

def word : CompatMode → String
  | .exact => "exact"
  | .caret => "caret"

def ofDatum (value : Datum) : Except ChoiceError CompatMode :=
  choose "compat mode" [("caret", caret), ("exact", exact)] value

end CompatMode

/-- No snapshot may serve the linked runtime; every one that was there is listed in order. -/
structure VersionMismatch where
  linked : Version
  mode : CompatMode
  available : List Version

namespace VersionMismatch

def message (e : VersionMismatch) : String :=
  let listing :=
    if e.available.isEmpty then "\t<none>"
    else "\n".intercalate (e.available.map fun v => "\t" ++ v.text)
  "Unsupported version of libcamera detected: " ++ e.linked.text ++ " (mode=" ++ e.mode.word
    ++ ")\nsupported versions are: \n" ++ listing

/-- Whether all versions that the message lists can be written. -/
def isWritable (e : VersionMismatch) : Bool :=
  e.linked.isWritable && e.available.all Version.isWritable

end VersionMismatch

/-- Why no version is resolved. -/
inductive ResolutionError where
  | mismatch (error : VersionMismatch)
  /-- A version cannot be compared or not be written into the message of a mismatch. -/
  | version (error : VersionError)

namespace Version

/-- Whether the numbers of `a` are at most those of `b`. -/
def tripleAtMost (a b : Version) : Bool :=
  a.major < b.major || (a.major == b.major &&
    (a.minor < b.minor || (a.minor == b.minor && a.patch ≤ b.patch)))

/-- Whether `linked` satisfies the requirement that `candidate` stands for. -/
def satisfiesCaret (candidate linked : Version) : Bool :=
  tripleAtMost candidate linked && linked.major == candidate.major
    && (candidate.major != 0 || (linked.minor == candidate.minor
      && (candidate.minor != 0 || linked.patch == candidate.patch)))

def isCompatible (mode : CompatMode) (candidate linked : Version) : Bool :=
  match mode with
  | .exact => candidate.triple == linked.triple
  | .caret => satisfiesCaret candidate linked

/-- The first of the greatest versions. -/
def greatest? : List Version → Option Version
  | [] => none
  | v :: rest => some (rest.foldl (fun best next => if best.before next then next else best) v)

/-- The greatest version that may serve the linked runtime. -/
def resolve (available : List Version) (linked : Version) (mode : CompatMode) :
    Except VersionMismatch Version :=
  let candidates := sort available
  match greatest? (candidates.filter fun c => isCompatible mode c linked) with
  | some chosen => .ok chosen
  | none => .error ⟨linked, mode, candidates⟩

/-- The greatest of versions that need not be comparable. A mismatch has its message made at once.
-/
def resolveChecked (available : List Version) (linked : Version) (mode : CompatMode) :
    Except ResolutionError Version := do
  let _ ← (sortChecked available).mapError .version
  match resolve available linked mode with
  | .ok chosen => .ok chosen
  | .error mismatch =>
    if mismatch.isWritable then .error (.mismatch mismatch) else .error (.version .tooLong)

end Version

end ControlSchema
