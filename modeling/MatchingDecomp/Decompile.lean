import MatchingDecomp.Config.Backends
import MatchingDecomp.Report.Save

/-!
# Decompiling one fragment

The whole way for a single fragment: the backends of a configuration are put to work in a session of
their own, and on request a report on the run is saved.
-/

namespace MatchingDecomp

/-- Why a fragment was not decompiled. -/
inductive DecompileError where
  | invalidConfig (problems : List String)
  | pipeline (e : PipelineError)
  /-- The run came to no end. This never arises: a run has three calls to wait for. -/
  | unfinished
  | save (e : SaveError)
  deriving DecidableEq, Repr

/-- The text of the reason. -/
def DecompileError.message : DecompileError → String
  | .invalidConfig problems => Config.refusal problems
  | .pipeline e => e.message
  | .unfinished => "the run came to no end"
  | .save e => e.message

/-- A run of a configuration: what was announced, and how it ended. -/
structure Performance where
  events : List Event
  result : Option (Except PipelineError Run)

/-- The record of a run that was performed. -/
def Performance.run (p : Performance) : Except DecompileError Run :=
  match p.result with
  | some (.ok run) => .ok run
  | some (.error e) => .error (.pipeline e)
  | none => .error .unfinished

/-- Run the backends of a configuration on a fragment; the problems of the configuration, if there
are any, come first. -/
def perform (config : Config) (fragment : Fragment) :
    StateM Machine (Except (List String) Performance) := fun m =>
  match config.backends m.tempDirectory with
  | .error problems => (.error problems, m)
  | .ok backends =>
    let session : Session Workbench :=
      { resources := { machine := m }, store := config.newStore }
    let (reply, session) := session.run backends 0 fragment m.clock
    (.ok ⟨session.eventsOf 0, reply.result?⟩, session.resources.machine)

/-- Save the report on a run, if there is a path for it. -/
def saveReport (run : Run) : Option String → StateM Machine (Except SaveError (Option String))
  | none => pure (.ok none)
  | some path => do
    match ← Report.save [run] path with
    | .ok saved => return .ok (some saved)
    | .error e => return .error e

/-- Decompile a fragment, and save a report on it if there is a path for one. -/
def decompile (config : Config) (fragment : Fragment) (report : Option String) :
    StateM Machine (Except DecompileError Run) := do
  match ← perform config fragment with
  | .error problems => return .error (.invalidConfig problems)
  | .ok performance =>
    match performance.run with
    | .error e => return .error e
    | .ok run =>
      match ← saveReport run report with
      | .ok _ => return .ok run
      | .error e => return .error (.save e)

end MatchingDecomp
