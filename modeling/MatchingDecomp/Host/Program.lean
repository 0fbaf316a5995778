import MatchingDecomp.Decimal.Digits
import MatchingDecomp.Host.FileTree

/-!
# Programs

An external program is a function of its arguments and of the files it finds. It either ends, with a
status and what it printed, or it never does; either way it may have changed files.
-/

namespace MatchingDecomp

/-- How a program ended. -/
inductive ExitStatus where
  | code (n : Nat)
  /-- Killed by a signal, which may leave a core dump behind. -/
  | signal (n : Nat) (coreDumped : Bool := false)
  deriving DecidableEq, Repr

namespace ExitStatus

/-- Whether a program reports success. -/
def isSuccess : ExitStatus → Bool
  | .code 0 => true
  | _ => false

/-- The names of the signals that have one. -/
def signalNames : List (Nat × String) :=
  [(1, "SIGHUP"), (2, "SIGINT"), (3, "SIGQUIT"), (4, "SIGILL"), (5, "SIGTRAP"), (6, "SIGABRT"),
    (7, "SIGBUS"), (8, "SIGFPE"), (9, "SIGKILL"), (10, "SIGUSR1"), (11, "SIGSEGV"),
    (12, "SIGUSR2"), (13, "SIGPIPE"), (14, "SIGALRM"), (15, "SIGTERM"), (16, "SIGSTKFLT"),
    (17, "SIGCHLD"), (18, "SIGCONT"), (19, "SIGSTOP"), (20, "SIGTSTP"), (21, "SIGTTIN"),
    (22, "SIGTTOU"), (23, "SIGURG"), (24, "SIGXCPU"), (25, "SIGXFSZ"), (26, "SIGVTALRM"),
    (27, "SIGPROF"), (28, "SIGWINCH"), (29, "SIGIO"), (30, "SIGPWR"), (31, "SIGSYS")]

/-- The text of a status. -/
def text : ExitStatus → String
  | .code n => "exit status: " ++ Decimal.text n
  | .signal n coreDumped =>
    "signal: " ++ Decimal.text n ++
      (match signalNames.lookup n with
        | some name => " (" ++ name ++ ")"
        | none => "") ++
      if coreDumped then " (core dumped)" else ""

end ExitStatus

/-- What a program that ended leaves behind, files aside. -/
structure ToolOutput where
  status : ExitStatus := .code 0
  stdout : Bytes := []
  stderr : Bytes := []
  deriving DecidableEq, Repr

/-- A program. What it answers is `none` when it never ends. -/
abbrev Program := List String → FileTree → Option ToolOutput × FileTree

/-- What came of an attempt to run a program. -/
inductive ToolRun where
  /-- It could not be started. -/
  | refused (cause : OsError)
  /-- It did not end in time and was stopped. -/
  | timedOut
  | finished (output : ToolOutput)
  deriving DecidableEq, Repr

end MatchingDecomp
