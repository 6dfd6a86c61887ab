import ControlSchema.Text.Blank

/-!
# Paths

A path is a text of names between slashes, absolute when it begins with one. The same place has many
paths: repeated slashes and the name `.` do not matter. A tidy path has neither; what `..` leads to
is only for the storage to say, except that an absolute path may be simplified by name.
-/

namespace ControlSchema.Path

/-! ## Parts -/

/-- The pieces between slashes, some of which may be empty. -/
def pieces (path : String) : List String := (Text.splitOn '/' path.toList).map String.ofList

/-- The pieces that matter. -/
def names (path : String) : List String :=
  (pieces path).filter fun piece => !piece.isEmpty && piece != "."

def isAbsolute (path : String) : Bool := path.toList.head? == some '/'

/-- The slashes that an absolute path begins with: exactly two stay two, more are one. -/
def root (path : String) : String :=
  match path.toList.takeWhile (· == '/') with
  | [] => ""
  | ['/', '/'] => "//"
  | _ => "/"

/-- The text behind the last slash. -/
def baseName (path : String) : String := ((pieces path).getLast?).getD ""

/-- The text in front of the last slash, with the slashes at its end only if it has nothing else. -/
def parent (path : String) : String :=
  let before := path.toList.reverse.dropWhile (· != '/')
  let trimmed := before.dropWhile (· == '/')
  String.ofList (if trimmed.isEmpty then before.reverse else trimmed.reverse)

/-- The last piece that matters. -/
def lastName (path : String) : String := ((names path).getLast?).getD ""

/-! ## Putting paths together -/

/-- A path followed by another; one that is absolute stands alone. -/
def join (a b : String) : String :=
  if isAbsolute b then b
  else if a.isEmpty || a.toList.getLast? == some '/' then a ++ b
  else a ++ "/" ++ b

/-- The path without slashes and names that do not matter. -/
def tidy (path : String) : String :=
  let text := root path ++ "/".intercalate (names path)
  if text.isEmpty then "." else text

/-- The tidy path of a name in a directory. -/
def below (directory name : String) : String := tidy (join directory name)

/-- The names with each `..` taking back the name in front of it. -/
def takeBack (names : List String) : List String :=
  (names.foldl (fun stack name => if name == ".." then stack.tail else name :: stack) []).reverse

/-- The absolute path of a path, seen from a directory that is itself given by an absolute path. -/
def absolute (workingDirectory path : String) : String :=
  let whole := join workingDirectory path
  root whole ++ "/".intercalate (takeBack (names whole))

/-! ## Lineage -/

/-- Splits off the last piece; a slash at the very end does not count as one. -/
def split (path : String) : String × String :=
  if baseName path == "" then (parent (parent path), baseName (parent path))
  else (parent path, baseName path)

/-- The path and the paths of the directories above it, as far as there is a name to split off. -/
def lineageFrom : Nat → String → List String
  | 0, path => [path]
  | fuel + 1, path =>
    let (above, name) := split path
    if above.isEmpty || name.isEmpty then [path] else path :: lineageFrom fuel above

def lineage (path : String) : List String := lineageFrom path.length path

/-- A tidy path and the tidy paths above it, with as many steps up as are asked for. -/
def ascentFrom : Nat → String → List String
  | 0, path => [path]
  | steps + 1, path => path :: ascentFrom steps (tidy (parent path))

/-- A tidy path and all tidy paths above it, by name. -/
def ascent (path : String) : List String := ascentFrom (names path).length path

example : lineage "a/b//c/" = ["a/b//c/", "a/b", "a"] := by decide +kernel
example : lineage "/a/b" = ["/a/b", "/a", "/"] := by decide +kernel
example : ascent "a/b" = ["a/b", "a", "."] := by decide +kernel

end ControlSchema.Path
