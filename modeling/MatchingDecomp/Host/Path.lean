/-!
# Paths

A path is a text whose segments are divided by slashes. Empty segments and the segment `.` stand for
the directory they are in; `segments` keeps them, because a file followed by one of them is not the
file itself.
-/

namespace MatchingDecomp.Path

/-- The segments of a text between its slashes, empty ones included. -/
def splitSlash : List Char → List (List Char)
  | [] => [[]]
  | c :: cs =>
    if c = '/' then [] :: splitSlash cs
    else
      match splitSlash cs with
      | [] => [[c]]
      | s :: ss => (c :: s) :: ss

/-- The segments of a path. -/
def segments (path : String) : List String :=
  (splitSlash path.toList).map String.ofList

/-- Whether a path starts at the root. -/
def isAbsolute (path : String) : Bool :=
  path.toList.head? == some '/'

/-- A path seen from a directory. An absolute path stays as it is. -/
def join (directory path : String) : String :=
  if isAbsolute path then path
  else if directory.toList.getLast? == some '/' || directory.isEmpty then directory ++ path
  else directory ++ "/" ++ path

/-- Whether a segment stands for the directory it is in. -/
def isStill (segment : String) : Bool :=
  segment == "" || segment == "."

/-- The last segment that does not stand for the directory it is in, unless it is `..`. -/
def fileName? (path : String) : Option String :=
  match (segments path).reverse.dropWhile isStill with
  | [] => none
  | name :: _ => if name == ".." then none else some name

/-- Segments joined by slashes under the root. -/
def ofSegments : List String → String
  | [] => "/"
  | names => "/" ++ String.intercalate "/" names

/-- The directories that lie on the way to an absolute path, the nearest first, each without
trailing segments that stand for itself. -/
def ancestorsFrom : List String → List String
  | [] => []
  | name :: rest =>
    -- The segments are in reverse order, so the nearest directory comes first.
    if isStill name then ancestorsFrom rest
    else ofSegments (rest.dropWhile isStill).reverse :: ancestorsFrom rest

/-- The directories above an absolute path, the nearest first and the root last. -/
def ancestors (path : String) : List String :=
  ancestorsFrom ((segments path).drop 1).reverse

/-- The directory above an absolute path. The root has none. -/
def parent? (path : String) : Option String :=
  (ancestors path).head?

end MatchingDecomp.Path
