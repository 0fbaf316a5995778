import MatchingDecomp.Host.Http
import MatchingDecomp.Host.Program
import MatchingDecomp.Time.Instant

/-!
# The machine

Everything outside the library that it depends on or changes: files, installed programs, services
that can be reached, and a clock. The machine also keeps what was asked of it, so that "the tool was
started once" is a statement about a list.
-/

namespace MatchingDecomp

/-- The state of the machine. -/
structure Machine where
  files : FileTree := {}
  workingDirectory : String := "/"
  tempDirectory : String := "/tmp"
  /-- The installed programs, by absolute path or by bare name. -/
  programs : List (String × Program) := []
  /-- The services that can be reached, by host. -/
  services : List (String × Http.Service) := []
  clock : Instant := ⟨0, 0⟩
  /-- How many workspaces were made so far. -/
  workspaces : Nat := 0
  /-- The programs that were started, with their arguments, in order. -/
  started : List (String × List String) := []
  /-- The requests that reached a service, in order. -/
  sent : List Http.Request := []

namespace Machine

/-- A path as the machine sees it: relative paths start at the working directory. -/
def absolute (m : Machine) (path : String) : String :=
  Path.join m.workingDirectory path

/-- The text of a file; `none` if the file cannot be read or holds no text. -/
def readText (m : Machine) (path : String) : Option String :=
  match m.files.read (if path.isEmpty then path else m.absolute path) with
  | .ok data => (Utf8.decode? data).map String.ofList
  | .error _ => none

/-- Whether a text holds a NUL character. -/
def hasNul (s : String) : Bool :=
  s.toList.contains '\x00'

/-- The two names that every directory has an entry for: itself and the one above it. -/
def isDirectoryLink (name : String) : Bool :=
  name == "." || name == ".."

/-- The program that a command names: by path if the name has a slash in it, else by search. Files
of the tree are no programs, so that naming one is not permitted, and a search for a name that every
directory has finds a directory. -/
def find (m : Machine) (command : String) : Except OsError Program :=
  let byPath := command.toList.contains '/'
  match m.programs.lookup (if byPath then m.absolute command else command) with
  | some program => .ok program
  | none =>
    if byPath then
      match m.files.look (m.absolute command) with
      | .ok _ => .error .permissionDenied
      | .error e => .error e
    else if isDirectoryLink command then .error .permissionDenied
    else if FileTree.nameLimit < command.utf8ByteSize then .error .nameTooLong
    else .error .notFound

/-- Run a program to its end, or until its time is over. -/
def run (m : Machine) (command : String) (arguments : List String) : ToolRun × Machine :=
  if hasNul command || arguments.any hasNul then (.refused .nulInArgument, m)
  else
    match m.find command with
    | .error e => (.refused e, m)
    | .ok program =>
      let (answer, files) := program arguments m.files
      let m := { m with files, started := m.started ++ [(command, arguments)] }
      match answer with
      | some output => (.finished output, m)
      | none => (.timedOut, m)

/-- Make a new empty directory for temporary files, and return its path. -/
def newWorkspace (m : Machine) : Except OsError String × Machine :=
  let path := Path.join m.tempDirectory ("decomp-" ++ Decimal.text m.workspaces)
  let m := { m with workspaces := m.workspaces + 1 }
  match m.files.makeDirectory path with
  | .ok files => (.ok path, { m with files })
  | .error e => (.error e, m)

/-- Remove a directory for temporary files with everything in it. -/
def dropWorkspace (m : Machine) (path : String) : Machine :=
  match m.files.locate path with
  | .ok place => { m with files := m.files.removeAll place }
  | .error _ => m

/-- Post a request. -/
def post (m : Machine) (request : Http.Request) : Http.Delivery × Machine :=
  match Http.address? request.endpoint with
  | none => (.unsendable, m)
  | some (host, _) =>
    if !(request.authorization.all Http.isHeaderValue) then (.unsendable, m)
    else
      match m.services.lookup host with
      | none => (.refused, m)
      | some service => (.replied (service request), { m with sent := m.sent ++ [request] })

end Machine

end MatchingDecomp
