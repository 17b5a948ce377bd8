/-
  `std::filesystem::path` on POSIX, as the plugin registry uses it.

  Two paths compare equal when they agree on being absolute and on their elements; a run of slashes
  separates like one, and a slash at the end adds an empty element.  Nothing else is looked at, so
  `x.so` and `./x.so` differ, though they have one lexically normal form.
-/
import MiniGateway.Model

namespace MiniGateway

/-- What the comparison of paths looks at. -/
structure PathName where
  /-- `has_root_directory`. -/
  rooted : Bool
  /-- The elements behind the root. -/
  elements : List ByteString
  deriving DecidableEq

/-- The elements between slashes; only the last may be empty. -/
def splitSlashes (relative : ByteString) : List ByteString :=
  let parts := relative.splitOn 47
  parts.dropLast.filter (· ≠ []) ++ parts.getLast?.toList

/-- The root directory and the elements of a path. -/
def pathName (path : ByteString) : PathName where
  rooted := path.head? == some 47
  elements :=
    match path.dropWhile (· == 47) with
    | [] => []
    | relative => splitSlashes relative

/-- `filename`. -/
def PathName.filename (name : PathName) : ByteString := name.elements.getLastD []

/-- `has_extension` of a file name: a dot that is not its first character. -/
def hasExtension (filename : ByteString) : Bool :=
  filename != lit "." && filename != lit ".." && filename.tail.contains 46

/-! ### `lexically_normal` -/

/-- One element is taken over; the names so far are listed from the last. -/
def normalStep (rooted : Bool) (names : List ByteString) (element : ByteString) :
    List ByteString :=
  if element = [] ∨ element = lit "." then names
  else if element = lit ".." then
    match names with
    | [] => if rooted then [] else [element]
    | name :: rest => if name = lit ".." then element :: names else rest
  else element :: names

/-- `lexically_normal`, of a path that is not empty. -/
def PathName.lexicallyNormal (name : PathName) : PathName :=
  let names := name.elements.foldl (normalStep name.rooted) []
  let directory := name.filename ∈ [[], lit ".", lit ".."]
  if names = [] ∧ name.rooted = false then { rooted := false, elements := [lit "."] }
  else
    { rooted := name.rooted
      elements := names.reverse ++
        if directory ∧ names ≠ [] ∧ names.head? ≠ some (lit "..") then [[]] else [] }

example : (pathName (lit "./a/../x.so")).lexicallyNormal = pathName (lit "x.so") := by decide +kernel

end MiniGateway
