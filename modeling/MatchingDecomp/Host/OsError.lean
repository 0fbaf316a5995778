/-!
# Failures of the machine

Why a file could not be used or a program not started, with the wording that the system gives it.
-/

namespace MatchingDecomp

/-- Why an operation on files or programs failed. -/
inductive OsError where
  | notFound
  | permissionDenied
  | alreadyExists
  | notDirectory
  | isDirectory
  | storageFull
  | nameTooLong
  /-- A path with a NUL character in it. -/
  | nulInPath
  /-- A program or an argument with a NUL character in it. -/
  | nulInArgument
  /-- Any other failure, given by its text. -/
  | other (text : String)
  deriving DecidableEq, Repr

/-- The text of a failure. -/
def OsError.message : OsError → String
  | .notFound => "No such file or directory (os error 2)"
  | .permissionDenied => "Permission denied (os error 13)"
  | .alreadyExists => "File exists (os error 17)"
  | .notDirectory => "Not a directory (os error 20)"
  | .isDirectory => "Is a directory (os error 21)"
  | .storageFull => "No space left on device (os error 28)"
  | .nameTooLong => "File name too long (os error 36)"
  | .nulInPath => "file name contained an unexpected NUL byte"
  | .nulInArgument => "nul byte found in provided data"
  | .other text => text

end MatchingDecomp
