import MatchingDecomp.Host.OsError
import MatchingDecomp.Host.Path
import MatchingDecomp.Text.Utf8

/-!
# File trees

The files of a machine, as a list of named places. A place is the list of names on the way to it
from the root; the root itself is always a directory.

Absolute paths are walked name by name. Every name but the last must lead to a directory, `..` goes
back up, and a trailing slash asks for a directory. `read` and `exists?` walk the whole path;
`create` and `makeDirectory` walk to the directory that the last name is in.
-/

namespace MatchingDecomp

/-- What stands at a place. -/
inductive Node where
  | file (data : Bytes)
  | directory
  /-- A device; a full one takes no data. Nothing is ever read from it. -/
  | device (full : Bool)
  deriving DecidableEq, Repr

/-- A place: the names on the way to it from the root. -/
abbrev Place := List String

/-- The files of a machine. -/
structure FileTree where
  entries : List (Place × Node) := []
  deriving DecidableEq, Repr

namespace FileTree

/-- What stands at a place. -/
def node? (t : FileTree) : Place → Option Node
  | [] => some .directory
  | place => t.entries.lookup place

/-- The tree with a new node at a place. -/
def set (t : FileTree) (place : Place) (node : Node) : FileTree :=
  ⟨(place, node) :: t.entries.filter fun e => e.1 ≠ place⟩

/-- The tree without a place and everything below it. -/
def removeAll (t : FileTree) (place : Place) : FileTree :=
  ⟨t.entries.filter fun e => !place.isPrefixOf e.1⟩

/-! ### Walking -/

/-- The most bytes that a name may have. -/
def nameLimit : Nat := 255

/-- The first number of bytes that a path may not have. -/
def pathLimit : Nat := 4096

/-- The names of a path that the system accepts as a path at all. -/
def names (path : String) : Except OsError (List String) :=
  if path.toList.contains '\x00' then .error .nulInPath
  else if path.isEmpty then .error .notFound
  else if pathLimit ≤ path.utf8ByteSize then .error .nameTooLong
  else .ok (Path.segments path)

/-- One name further from a place. -/
def step (t : FileTree) (place : Place) (name : String) : Except OsError Place :=
  match t.node? place with
  | some .directory =>
    if Path.isStill name then .ok place
    else if name == ".." then .ok place.dropLast
    else if nameLimit < name.utf8ByteSize then .error .nameTooLong
    else if (t.node? (place ++ [name])).isSome then .ok (place ++ [name])
    else .error .notFound
  | some _ => .error .notDirectory
  | none => .error .notFound

/-- The place that names lead to from another place. -/
def walk (t : FileTree) (place : Place) : List String → Except OsError Place
  | [] => .ok place
  | name :: rest =>
    match t.step place name with
    | .ok next => t.walk next rest
    | .error e => .error e

/-- The place that an absolute path leads to. -/
def locate (t : FileTree) (path : String) : Except OsError Place := do
  t.walk [] (← names path)

/-- What an absolute path leads to. -/
def look (t : FileTree) (path : String) : Except OsError Node := do
  match t.node? (← t.locate path) with
  | some node => .ok node
  | none => .error .notFound

/-! ### Reading -/

/-- Whether a path leads anywhere. -/
def exists? (t : FileTree) (path : String) : Bool :=
  match t.look path with
  | .ok _ => true
  | .error _ => false

/-- Whether a path leads to a directory. -/
def isDirectory (t : FileTree) (path : String) : Bool :=
  match t.look path with
  | .ok .directory => true
  | _ => false

/-- The data of a file. -/
def read (t : FileTree) (path : String) : Except OsError Bytes := do
  match ← t.look path with
  | .file data => .ok data
  | .directory => .error .isDirectory
  | .device _ => .ok []

/-! ### Writing -/

/-- The directory that the last name of a path is in, that name, and whether slashes follow it. The
root has no last name. -/
def locateLast (t : FileTree) (path : String) :
    Except OsError (Option (Place × String × Bool)) := do
  let names ← names path
  match names.reverse.dropWhile (· == "") with
  | [] => .ok none
  | last :: before =>
    let directory ← t.walk [] before.reverse
    match t.node? directory with
    | some .directory => .ok (some (directory, last, names.getLast? == some ""))
    | some _ => .error .notDirectory
    | none => .error .notFound

/-- The place of a file that is opened for writing; what it held is gone. -/
def create (t : FileTree) (path : String) : Except OsError (Place × FileTree) := do
  match ← t.locateLast path with
  | none => .error .isDirectory
  | some (directory, last, slashed) =>
    let place := directory ++ [last]
    if slashed || last == "." || last == ".." then .error .isDirectory
    else if nameLimit < last.utf8ByteSize then .error .nameTooLong
    else
      match t.node? place with
      | some .directory => .error .isDirectory
      | some (.device full) => .ok (place, t.set place (.device full))
      | _ => .ok (place, t.set place (.file []))

/-- The tree after data is put into an opened file. -/
def fill (t : FileTree) (place : Place) (data : Bytes) : Except OsError FileTree :=
  match t.node? place with
  | some (.device true) => if data.isEmpty then .ok t else .error .storageFull
  | some (.device false) => .ok t
  | _ => .ok (t.set place (.file data))

/-- The tree after a whole file is written. -/
def write (t : FileTree) (path : String) (data : Bytes) : Except OsError FileTree := do
  let (place, opened) ← t.create path
  opened.fill place data

/-- The tree after a directory is made. -/
def makeDirectory (t : FileTree) (path : String) : Except OsError FileTree := do
  match ← t.locateLast path with
  | none => .error .alreadyExists
  | some (directory, last, _) =>
    let place := directory ++ [last]
    if last == "." || last == ".." then .error .alreadyExists
    else if nameLimit < last.utf8ByteSize then .error .nameTooLong
    else if (t.node? place).isSome then .error .alreadyExists
    else .ok (t.set place .directory)

/-- The tree after a directory is made, which may also be there already. -/
def ensureDirectory (t : FileTree) (path : String) : Except OsError FileTree :=
  match t.makeDirectory path with
  | .ok made => .ok made
  | .error e => if t.isDirectory path then .ok t else .error e

/-- What comes of a change that may fail: if it does, the tree stays as it is. -/
def attempt (t : FileTree) : Except OsError FileTree → Except OsError Unit × FileTree
  | .ok changed => (.ok (), changed)
  | .error e => (.error e, t)

/-- Make a directory, and before it those of the directories above it that are missing. One that is
made stays, also if another one cannot be made after it. -/
def makeWithAncestors (t : FileTree) (path : String) :
    List String → Except OsError Unit × FileTree
  | [] => t.attempt (t.ensureDirectory path)
  | above :: rest =>
    match t.ensureDirectory path with
    | .error .notFound =>
      match t.makeWithAncestors above rest with
      | (.ok (), made) => made.attempt (made.ensureDirectory path)
      | failed => failed
    | answer => t.attempt answer

/-- Make an absolute directory and all that it is in. -/
def makeMissing (t : FileTree) (path : String) : Except OsError Unit × FileTree :=
  t.makeWithAncestors path (Path.ancestors path)

/-- The tree after an absolute directory and all that it is in are made. -/
def makeDirectories (t : FileTree) (path : String) : Except OsError FileTree :=
  match t.makeMissing path with
  | (.ok (), made) => .ok made
  | (.error e, _) => .error e

end FileTree

end MatchingDecomp
