-- SUMMARY: A tree of files and directories: looking up, making directories, appending, writing and removing.
import HostBoundary.Files.Location
import HostBoundary.Files.PlaceMap

/-!
# File trees

A tree is what a process sees of a file system. A place is told by the names that lead there from the
root, so a file has one place, however it is spelled. A path that does not start at the root starts at the
working directory, which is there, and so are the directories above it. Directories are never removed.
Each operation follows the names of a path through directories that are there and says what stands in
its way.

A file that is closed is not written, and in a directory that is closed nothing is made and nothing is
removed. What an operation makes is open. Apart from that, what is closed stays closed and what is open
stays open. Directories can be searched and files can be read whether they are closed or not. There is room
for all that is written, there are no links and no devices, and no other process is at work.
-/

namespace HostBoundary

/-- Why a file operation fails. -/
inductive FileError where
  | absent
  | exists
  | notDirectory
  | isDirectory
  | nameTooLong
  | denied
  | readOnly
  | zeroByte
  deriving DecidableEq, Repr

namespace FileError

/-- The text of an error. -/
def message : FileError → String
  | absent => "No such file or directory (os error 2)"
  | .exists => "File exists (os error 17)"
  | notDirectory => "Not a directory (os error 20)"
  | isDirectory => "Is a directory (os error 21)"
  | nameTooLong => "File name too long (os error 36)"
  | denied => "Permission denied (os error 13)"
  | readOnly => "Read-only file system (os error 30)"
  | zeroByte => "file name contained an unexpected NUL byte"

end FileError

/-- What is found in a tree. -/
inductive Node where
  | file (content : String)
  | directory
  deriving DecidableEq, Repr

/-- A tree of files and directories. -/
structure FileTree where
  /-- What is found where. -/
  nodes : PlaceMap Node := .empty
  /-- Why what is at a place is closed, if it is. -/
  closed : PlaceMap FileError := .empty
  /-- The place of the working directory, which is one in `/tmp` if nothing else is said. -/
  home : List String := ["tmp", "work"]

namespace FileTree

/-! ## Places -/

/-- Whether a place is the working directory or a directory above it. -/
def isGiven (tree : FileTree) (place : List String) : Bool := place.isPrefixOf tree.home

/-- What is found at a place. -/
def at? (tree : FileTree) (place : List String) : Option Node :=
  if tree.isGiven place then some .directory else tree.nodes.get? place

/-- The content of the file at a place, if there is a file. -/
def contentAt? (tree : FileTree) (place : List String) : Option String :=
  match tree.at? place with
  | some (.file content) => some content
  | _ => none

/-- The tree with something else at a place, which is open. -/
def put (tree : FileTree) (place : List String) (node : Node) : FileTree :=
  { tree with nodes := tree.nodes.set (some node) place, closed := tree.closed.set none place }

/-- The tree with nothing at a place. -/
def drop (tree : FileTree) (place : List String) : FileTree :=
  { tree with nodes := tree.nodes.set none place, closed := tree.closed.set none place }

theorem at?_put {tree : FileTree} {place other : List String} (h : tree.isGiven place = false)
    (node : Node) :
    (tree.put place node).at? other = if place = other then some node else tree.at? other := by
  unfold at? put isGiven at *
  grind [PlaceMap.get?_set]

theorem at?_drop {tree : FileTree} {place other : List String} (h : tree.isGiven place = false) :
    (tree.drop place).at? other = if place = other then none else tree.at? other := by
  unfold at? drop isGiven at *
  grind [PlaceMap.get?_set]

/-- The directory above a place. The root is above itself. -/
def above (place : List String) : List String := place.dropLast

/-- The place that a name stands for in a directory. -/
def inside (place : List String) (name : String) : Except FileError (List String) :=
  if name = Location.here then .ok place
  else if name = Location.up then .ok (above place)
  else if name = Location.root then .ok []
  else if Location.nameLimit < name.utf8ByteSize then .error .nameTooLong
  else .ok (place ++ [name])

/-! ## Looking up -/

/-- What is wrong with a path, whatever there is in the tree. -/
def fault? (location : Location) : Option FileError :=
  if location.names.any (·.toList.contains '\x00') then some .zeroByte
  else if Location.pathLimit < location.size then some .nameTooLong
  else none

/-- Follows the names of directories. -/
def enter (tree : FileTree) (place : List String) : List String → Except FileError (List String)
  | [] => .ok place
  | name :: rest =>
    match inside place name with
    | .error e => .error e
    | .ok next =>
      match tree.at? next with
      | some .directory => enter tree next rest
      | some (.file _) => .error .notDirectory
      | none => .error .absent

/-- The place that a path leads to. All names but the last must lead to directories; at the last one
there may be nothing. -/
def locate (tree : FileTree) (location : Location) : Except FileError (List String) :=
  match fault? location, location.names.getLast? with
  | some e, _ => .error e
  | none, none => .error .absent
  | none, some last => do inside (← tree.enter tree.home location.names.dropLast) last

/-- What a path leads to, if to anything. -/
def node? (tree : FileTree) (location : Location) : Option Node :=
  match tree.locate location with
  | .error _ => none
  | .ok place =>
    match tree.at? place with
    | some (.file content) => if location.wantsDirectory then none else some (.file content)
    | found => found

/-- The content of the file that a path leads to. -/
def read? (tree : FileTree) (location : Location) : Option String :=
  match tree.node? location with
  | some (.file content) => some content
  | _ => none

/-! ## Changes -/

/-- How a file in the way of a directory fails, by the names that go on from it. It is there already
where a directory is to be made: at the last name, and at each name once one before it had to be
made. Elsewhere it is passed through and is no directory. -/
def blocked (made : Bool) (rest : List String) : FileError :=
  if rest = [] ∨ (made ∧ rest ≠ [Location.here]) then .exists else .notDirectory

/-- Makes the directories that names lead through, from a directory on. What was made stays if a
later name fails. The name `.` at the end asks for a directory that is there. -/
def makeFrom (tree : FileTree) (made : Bool) (place : List String) :
    List String → FileTree × Except FileError Unit
  | [] => (tree, .ok ())
  | name :: rest =>
    match inside place name with
    | .error e => (tree, .error e)
    | .ok next =>
      match tree.at? next with
      | some .directory => makeFrom tree made next rest
      | some (.file _) => (tree, .error (blocked made rest))
      | none =>
        if rest = [Location.here] then (tree, .error .absent)
        else
          match tree.closed.get? place with
          | some e => (tree, .error e)
          | none => makeFrom (tree.put next .directory) true next rest

/-- Makes a directory and those above it that are missing. -/
def makeDirectories (tree : FileTree) (location : Location) : FileTree × Except FileError Unit :=
  match fault? location with
  | some e => (tree, .error e)
  | none => tree.makeFrom false tree.home location.names

/-- What stands in the way of writing a file at a place, for a path that may ask for a directory. A file
that is missing is made in the directory above. -/
def obstacle? (tree : FileTree) (wantsDirectory : Bool) (place : List String) : Option FileError :=
  match tree.at? place with
  | some .directory => some .isDirectory
  | some (.file _) => if wantsDirectory then some .notDirectory else tree.closed.get? place
  | none => if wantsDirectory then some .isDirectory else tree.closed.get? (above place)

/-- Changes the content of a file, which is made if it is missing. -/
def change (tree : FileTree) (location : Location) (f : String → String) :
    Except FileError FileTree := do
  let place ← tree.locate location
  match tree.obstacle? location.wantsDirectory place with
  | some e => .error e
  | none => .ok (tree.put place (.file (f ((tree.contentAt? place).getD ""))))

/-- Appends to a file. -/
def append (tree : FileTree) (location : Location) (text : String) : Except FileError FileTree :=
  tree.change location (· ++ text)

/-- Writes a file anew. -/
def write (tree : FileTree) (location : Location) (text : String) : Except FileError FileTree :=
  tree.change location fun _ => text

/-- What stands in the way of removing a file at a place. That a directory is not removed is noticed first
only if the path does not end in the name of that directory. -/
def removalObstacle? (tree : FileTree) (location : Location) (place : List String) : Option FileError :=
  match tree.at? place with
  | none => some .absent
  | some .directory =>
    if location.endsInName then some ((tree.closed.get? (above place)).getD .isDirectory)
    else some .isDirectory
  | some (.file _) =>
    if location.wantsDirectory then some .notDirectory else tree.closed.get? (above place)

/-- Removes a file. -/
def remove (tree : FileTree) (location : Location) : Except FileError FileTree := do
  let place ← tree.locate location
  match tree.removalObstacle? location place with
  | some e => .error e
  | none => .ok (tree.drop place)

end FileTree

end HostBoundary
