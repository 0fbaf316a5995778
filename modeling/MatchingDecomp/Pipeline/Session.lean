import MatchingDecomp.Pipeline.Event
import MatchingDecomp.Pipeline.RunState
import MatchingDecomp.Run.Store

/-!
# Sessions

Runs of several fragments side by side. A run is prepared, which gives it an id; it is started on a
fragment; and from then on it moves each time the call that it is waiting for returns. Between two
such moves anything else may happen: other runs move, this run is cancelled or abandoned, the
history is cleared.

A session has one or more desks, which share the history and the backends. A run belongs to the desk
at which it was prepared. Any desk can carry it out, and that desk announces its progress, but only
its own desk can cancel it or tell its state.

Nothing here waits: a run that is inside a backend call is a value, `Position`, which says what was
achieved so far. Cancelling only takes effect when the run comes to its next stage.
-/

namespace MatchingDecomp

/-- What carries out the three stages. -/
structure Backends (σ : Type) where
  generator : Generator σ
  compiler : Compiler σ
  verifier : Verifier σ

/-- The call that a run is waiting for, with what the stages before it achieved. -/
inductive Position where
  | generating
  | compiling (candidate : Candidate)
  | verifying (candidate : Candidate) (outcome : Outcome)
  deriving DecidableEq, Repr

namespace Position

/-- The stage of a position. -/
def stage : Position → Stage
  | .generating => .generate
  | .compiling _ => .compile
  | .verifying .. => .verify

/-- Whether the backend itself is called at a position. It is not when the contract of the stage
settles the answer: for a blank fragment, for brackets that do not balance, for an outcome without
success. -/
def consultsBackend (fragment : Fragment) : Position → Bool
  | .generating => !fragment.isBlank
  | .compiling candidate => Source.isBalanced candidate.source
  | .verifying _ outcome => outcome.success

/-- The outcome that is kept at a position. -/
def outcome? : Position → Option Outcome
  | .verifying _ outcome => some outcome
  | _ => none

end Position

/-- A run that is being carried out: by which desk, on which fragment, and how far it is. -/
structure Work where
  desk : Nat
  fragment : Fragment
  position : Position
  deriving DecidableEq, Repr

/-- A run that was prepared and is not over. -/
structure ActiveRun where
  id : RunId
  /-- The desk at which it was prepared. -/
  home : Nat
  state : RunState := .idle
  cancelled : Bool := false
  work : Option Work := none
  deriving DecidableEq, Repr

/-- A change of state of a run. -/
structure Move where
  id : RunId
  before : RunState
  after : RunState
  deriving DecidableEq, Repr

/-- A session. -/
structure Session (σ : Type) where
  /-- What the backends work on. -/
  resources : σ
  store : Store
  active : List ActiveRun := []
  /-- The sequence number of the next run. -/
  sequence : UInt64 := 0
  /-- The events that were announced, each with the desk that did, oldest first. -/
  events : List (Nat × Event) := []
  /-- The changes of state that desks made, oldest first. -/
  moves : List Move := []

/-- What comes of starting a run or moving it. -/
inductive Reply where
  /-- There is no such run to start or to move. -/
  | refused
  /-- The run waits for a call. -/
  | working
  | finished (result : Except PipelineError Run)

/-- How a run ended, if it did. -/
def Reply.result? : Reply → Option (Except PipelineError Run)
  | .finished result => some result
  | _ => none

namespace Session

variable {σ : Type}

/-! ### The active runs -/

/-- The active run with an id. -/
def find? (s : Session σ) (id : RunId) : Option ActiveRun :=
  s.active.find? fun r => r.id = id

/-- The active run with an id, seen from a desk. -/
def findAt? (s : Session σ) (desk : Nat) (id : RunId) : Option ActiveRun :=
  s.active.find? fun r => r.id = id ∧ r.home = desk

/-- The session with a run changed. -/
def update (s : Session σ) (id : RunId) (f : ActiveRun → ActiveRun) : Session σ :=
  { s with active := s.active.map fun r => if r.id = id then f r else r }

/-- The session without a run. -/
def remove (s : Session σ) (id : RunId) : Session σ :=
  { s with active := s.active.filter fun r => r.id ≠ id }

/-- The state of a run, seen from a desk. -/
def stateOf? (s : Session σ) (desk : Nat) (id : RunId) : Option RunState :=
  (s.findAt? desk id).map ActiveRun.state

/-- The ids of the active runs of a desk, in their order as texts. -/
def activeIds (s : Session σ) (desk : Nat) : List RunId :=
  ((s.active.filter fun r => r.home = desk).map ActiveRun.id).mergeSort RunId.le

/-! ### What desks write down -/

/-- A desk announces an event. -/
def announce (s : Session σ) (desk : Nat) (event : Event) : Session σ :=
  { s with events := s.events ++ [(desk, event)] }

/-- The events of a desk, oldest first. -/
def eventsOf (s : Session σ) (desk : Nat) : List Event :=
  (s.events.filter fun e => e.1 = desk).map Prod.snd

/-- A desk changes the state of a run, if the run is its own. -/
def transition (s : Session σ) (desk : Nat) (id : RunId) (next : RunState) : Session σ :=
  match s.findAt? desk id with
  | none => s
  | some run =>
    { s.update id fun r => { r with state := next } with
      moves := s.moves ++ [⟨id, run.state, next⟩] }

/-! ### Requests -/

/-- Prepare a run at a desk. -/
def prepare (s : Session σ) (desk : Nat) (now : Instant) : RunId × Session σ :=
  let id := RunId.next now s.sequence
  (id, { s with active := s.active ++ [{ id, home := desk }], sequence := s.sequence + 1 })

/-- Ask a run to stop at its next stage; false if it is not an active run of the desk. -/
def cancel (s : Session σ) (desk : Nat) (id : RunId) : Bool × Session σ :=
  match s.findAt? desk id with
  | some _ => (true, s.update id fun r => { r with cancelled := true })
  | none => (false, s)

/-- Give up what a run keeps at its position. -/
def release (s : Session σ) (b : Backends σ) (position : Position) : Session σ :=
  match position.outcome? with
  | some outcome => { s with resources := b.compiler.release outcome s.resources }
  | none => s

/-- Abandon a run, wherever it is. -/
def drop (s : Session σ) (b : Backends σ) (id : RunId) : Session σ :=
  match (s.find? id).bind ActiveRun.work with
  | some work => (s.release b work.position).remove id
  | none => s.remove id

/-- Forget the history. -/
def clearHistory (s : Session σ) : Session σ :=
  { s with store := s.store.clear }

/-! ### Moving a run -/

/-- The state in which a run ends. -/
def finalState : Except PipelineError Run → RunState
  | .ok run => .completed run.status
  | .error e => .failed e.stage

/-- The history after a run. Only a run that reached a verdict is recorded. -/
def record (s : Session σ) : Except PipelineError Run → Session σ
  | .ok run => { s with store := s.store.append run }
  | .error _ => s

/-- End a run that stands at a position: give up what it keeps, take it from the active runs, record
it, and announce the end. -/
def finish (s : Session σ) (b : Backends σ) (id : RunId) (desk : Nat) (position : Position)
    (result : Except PipelineError Run) : Reply × Session σ :=
  let s := (s.transition desk id (finalState result)).release b position
  (.finished result, ((s.remove id).record result).announce desk (.ended id result))

/-- Enter the stage of a position, unless the run is cancelled. -/
def enter (s : Session σ) (b : Backends σ) (id : RunId) (work : Work) : Reply × Session σ :=
  let stage := work.position.stage
  if (s.find? id).any ActiveRun.cancelled then
    s.finish b id work.desk work.position (.error (.cancelledBefore stage))
  else
    let s := s.transition work.desk id (.working stage)
    let s := s.update id fun r => { r with work := some work }
    (.working, s.announce work.desk (.entered id stage))

/-- Start a prepared run on a fragment. -/
def start (s : Session σ) (b : Backends σ) (desk : Nat) (id : RunId) (fragment : Fragment) :
    Reply × Session σ :=
  match s.find? id with
  | some { work := none, .. } => s.enter b id { desk, fragment, position := .generating }
  | _ => (.refused, s)

/-- The call that a run is waiting for returns. -/
def advance (s : Session σ) (b : Backends σ) (id : RunId) (now : Instant) : Reply × Session σ :=
  match (s.find? id).bind ActiveRun.work with
  | none => (.refused, s)
  | some work =>
    let fail := fun (s : Session σ) (cause : StageFailure) =>
      s.finish b id work.desk work.position (.error ⟨work.position.stage, cause⟩)
    match work.position with
    | .generating =>
      match b.generator.generate work.fragment s.resources with
      | (.error e, resources) => fail { s with resources } (.generation e)
      | (.ok candidate, resources) =>
        { s with resources }.enter b id { work with position := .compiling candidate }
    | .compiling candidate =>
      match b.compiler.compile candidate.source s.resources with
      | (.error e, resources) => fail { s with resources } (.compiler e)
      | (.ok outcome, resources) =>
        { s with resources }.enter b id { work with position := .verifying candidate outcome }
    | .verifying candidate outcome =>
      match b.verifier.verify work.fragment candidate.source outcome s.resources with
      | (.error e, resources) => fail { s with resources } (.verification e)
      | (.ok verdict, resources) =>
        { s with resources }.finish b id work.desk work.position
          (.ok (.assemble id now work.fragment candidate outcome verdict))

/-- Let the calls of a run return, at most so many of them, until it is over. -/
def advanceUpTo (b : Backends σ) (id : RunId) (now : Instant) :
    Nat → Session σ → Reply × Session σ
  | 0, s => (.working, s)
  | n + 1, s =>
    match s.advance b id now with
    | (.working, s) => advanceUpTo b id now n s
    | answer => answer

/-- Start a prepared run and carry it to its end: there are three calls to wait for. -/
def execute (s : Session σ) (b : Backends σ) (desk : Nat) (id : RunId) (fragment : Fragment)
    (now : Instant) : Reply × Session σ :=
  match s.start b desk id fragment with
  | (.working, s) => advanceUpTo b id now 3 s
  | answer => answer

/-- Prepare a run at a desk and carry it to its end. -/
def run (s : Session σ) (b : Backends σ) (desk : Nat) (fragment : Fragment) (now : Instant) :
    Reply × Session σ :=
  let (id, s) := s.prepare desk now
  s.execute b desk id fragment now

end Session

end MatchingDecomp
