-- SUMMARY: Paths of files, as names to follow one after another.
import HostBoundary.Text.Split

/-!
# Locations

A path is a list of names to follow. Slashes in a row count as one, and the name `.` counts only at
the two ends of a path. A path that ends with a slash asks for a directory.
-/

namespace HostBoundary

/-- A path, taken apart. -/
structure Location where
  /-- The names to follow; an absolute path starts at the name `/`. -/
  names : List String
  /-- Whether the path asks for a directory. -/
  wantsDirectory : Bool := false
  /-- How many bytes the path has as a text. -/
  size : Nat
  deriving DecidableEq, Repr

namespace Location

/-- The name of the root. -/
def root : String := "/"

/-- The name of the directory in which it is looked up. -/
def here : String := "."

/-- The name of the directory above. -/
def up : String := ".."

/-- The most bytes that a name can have. -/
def nameLimit : Nat := 255

/-- The most bytes that a path can have. -/
def pathLimit : Nat := 4095

/-- Whether a part of a path is a name that counts wherever it stands. -/
def isName (part : List Char) : Bool := part ≠ [] && part ≠ here.toList

/-- Takes a path apart. -/
def ofPath (path : String) : Location :=
  let parts := Text.split '/' path.toList
  let front :=
    if path.toList.head? = some '/' then [root]
    else if parts.head? = some here.toList then [here] else []
  let inner := (parts.filter isName).map String.ofList
  let last := (parts.filter (· ≠ [])).getLast?
  { names := front ++ inner ++ (if inner ≠ [] ∧ last = some here.toList then [here] else [])
    wantsDirectory := parts.getLast? == some []
    size := path.utf8ByteSize }

/-- Whether a path ends in the name of what it leads to, and not in a slash or a name such as `..`. -/
def endsInName (location : Location) : Bool :=
  !location.wantsDirectory && location.names.getLast?.any (· ∉ [here, up, root])

/-- The path of the directory in which a path's last name is to be found. It is empty where that is
the working directory. -/
def parentPath (path : String) : String :=
  let parts := (Text.split '/' path.toList).reverse.dropWhile (!isName ·)
  let above := (parts.tail.dropWhile (!isName ·)).reverse
  if above = [] ∧ path.toList.head? = some '/' then root else String.ofList (Text.join '/' above)

end Location

end HostBoundary
