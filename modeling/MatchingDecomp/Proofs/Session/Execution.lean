import MatchingDecomp.Proofs.Session.Minutes
import MatchingDecomp.Proofs.Session.Walk

/-!
# The outcome of an execution

An execution is a run that is started and carried to its end.  It can be asked to stop at any time:
before it starts, and while each of its three calls is in progress.  This file says what comes of
it.

A session moves a run by one command at a time and keeps where it stands.  `StopRequests.script` is
the list of these commands, with the requests to stop in their places.  Playing it is compared with
`Walk.generate`, which goes through the stages in one piece.  The comparison goes backwards through
the stages, from `concluded_verifying` to `concluded_generating`: each says what comes of the
commands that are left when the run comes to its stage, from any session.

Main statement: `execution_eq_walk`.
-/

namespace MatchingDecomp

open Minutes

variable {σ : Type}

/-! ## Asking a run to stop -/

/-- When a run is asked to stop: before it starts, and while the call of a stage is in progress. -/
structure StopRequests where
  before : Bool
  during : Stage → Bool

namespace StopRequests

/-- Nobody asks the run to stop. -/
def never : StopRequests where
  before := false
  during := fun _ => false

/-- Whether the run was asked to stop by the time it comes to a stage. -/
def upTo (stops : StopRequests) : Stage → Bool
  | .generate => stops.before
  | .compile => stops.before || stops.during .generate
  | .verify => stops.before || stops.during .generate || stops.during .compile

/-- Whether a run counts as cancelled when it comes to a stage. -/
def cancels (stops : StopRequests) (run : ActiveRun) (stage : Stage) : Bool :=
  run.cancelled || stops.upTo stage

/-- The request to stop a run, if there is one. -/
def request (home : Nat) (id : RunId) (made : Bool) : List Command :=
  if made then [.cancel home id] else []

/-- The calls of some stages return one after the other, with the requests to stop that are made
while each is in progress. -/
def awaiting (stops : StopRequests) (home : Nat) (id : RunId) (now : Instant)
    (stages : List Stage) : List Command :=
  stages.flatMap fun stage => request home id (stops.during stage) ++ [.advance id now]

theorem awaiting_cons (stops : StopRequests) (home : Nat) (id : RunId) (now : Instant)
    (stage : Stage) (rest : List Stage) :
    stops.awaiting home id now (stage :: rest) =
      request home id (stops.during stage) ++
        .advance id now :: stops.awaiting home id now rest := by
  simp [awaiting]

/-- The commands of an execution, with the requests to stop in their places. -/
def script (stops : StopRequests) (run : ActiveRun) (desk : Nat) (fragment : Fragment)
    (now : Instant) : List Command :=
  request run.home run.id stops.before ++
    .start desk run.id fragment ::
      stops.awaiting run.home run.id now [.generate, .compile, .verify]

end StopRequests

/-! ## Accounts

An account of some commands keeps what matters for one run: its results, the calls made for it, and
what is left of the resources. -/

namespace Session

/-- What comes of commands for a run. -/
def account (s : Session σ) (b : Backends σ) (id : RunId) (commands : List Command) :
    List (Except PipelineError Run) × List Call × σ :=
  (results id (s.play b commands).1, callsFor id (s.play b commands).1,
    (s.play b commands).2.resources)

theorem account_cancel (s : Session σ) (b : Backends σ) (home : Nat) (id : RunId)
    (rest : List Command) :
    s.account b id (.cancel home id :: rest) = (s.cancel home id).2.account b id rest := rfl

theorem account_moved (s : Session σ) (b : Backends σ) {id : RunId} {command : Command}
    (hmoved : command.moved? = some id) (rest : List Command) :
    s.account b id (command :: rest) =
      ((s.obey b command).1.result?.toList ++ ((s.obey b command).2.account b id rest).1,
        s.callsOf b command ++ ((s.obey b command).2.account b id rest).2.1,
        ((s.obey b command).2.account b id rest).2.2) := by
  have hcalls : callsFor id [s.entry b command] = s.callsOf b command := by
    simp [callsFor, entry, hmoved]
  simp only [account, play_cons, results_cons, resultOf?_entry s b hmoved]
  rw [← List.singleton_append, callsFor_append, hcalls]

/-- A request to stop is written down, and that is all that comes of it. -/
theorem account_request {s : Session σ} {id : RunId} {run : ActiveRun} (b : Backends σ)
    (hrun : s.find? id = some run) (made : Bool) (rest : List Command) :
    ∃ t : Session σ, t.find? id = some { run with cancelled := run.cancelled || made } ∧
      t.resources = s.resources ∧
      s.account b id (StopRequests.request run.home id made ++ rest) = t.account b id rest := by
  cases made with
  | false => exact ⟨s, by simpa using hrun, rfl, rfl⟩
  | true =>
      have hcancel : (s.cancel run.home id).2 =
          s.update id fun r => { r with cancelled := true } := by
        simp only [cancel, findAt?_eq_some_of_find? hrun]
      refine ⟨(s.cancel run.home id).2, ?_, ?_, rfl⟩
      · rw [hcancel, Bool.or_true]
        exact find?_update_self hrun fun _ => rfl
      · rw [hcancel]
        rfl

/-- Once a run is over, nothing comes of its commands any more. -/
theorem account_of_over {s : Session σ} {id : RunId} (b : Backends σ) (hover : s.find? id = none)
    (stops : StopRequests) (home : Nat) (now : Instant) (stages : List Stage) :
    s.account b id (stops.awaiting home id now stages) = ([], [], s.resources) := by
  -- neither of the two commands changes the session, so the induction stays at `s`
  have hcancel : (s.cancel home id).2 = s := by
    simp only [cancel, findAt?_eq_none_of_find? hover]
  have hadvance : s.advance b id now = (.refused, s) := by
    simp only [advance_eq, hover, Option.bind_none]
  have hcalls : s.callsOf b (.advance id now) = [] := by
    simp only [callsOf_advance, hover, Option.bind_none]
  induction stages with
  | nil => rfl
  | cons stage rest ih =>
      have hmoved : s.account b id (.advance id now :: stops.awaiting home id now rest) =
          ([], [], s.resources) := by
        rw [account_moved s b rfl]
        simp only [obey, hadvance, hcalls, ih]
        rfl
      rw [StopRequests.awaiting_cons]
      cases stops.during stage with
      | false => exact hmoved
      | true =>
          simp only [StopRequests.request, if_true, List.singleton_append, account_cancel, hcancel]
          exact hmoved

/-- What comes of a call that has returned, and of the commands after it. -/
def concluded (s : Session σ) (b : Backends σ) (id : RunId) (work : Work) (returned : Returned)
    (commands : List Command) : List (Except PipelineError Run) × List Call × σ :=
  ((s.settle b id work returned).1.result?.toList ++
      ((s.settle b id work returned).2.account b id commands).1,
    ((s.settle b id work returned).2.account b id commands).2)

/-- A call in progress: requests to stop that are made meanwhile are written down, the call returns,
and the conclusion is drawn. -/
theorem account_awaiting {s : Session σ} {id : RunId} {run : ActiveRun} {work : Work}
    (b : Backends σ) (hrun : s.find? id = some run) (hwork : run.work = some work)
    (stops : StopRequests) (now : Instant) (stage : Stage) (rest : List Stage) :
    ∃ t : Session σ,
      t.find? id = some { run with cancelled := run.cancelled || stops.during stage } ∧
      t.resources = (work.call b id now s.resources).2 ∧
      s.account b id (stops.awaiting run.home id now (stage :: rest)) =
        ((t.concluded b id work (work.call b id now s.resources).1
            (stops.awaiting run.home id now rest)).1,
          work.position.calls b work.fragment s.resources ++
            (t.concluded b id work (work.call b id now s.resources).1
              (stops.awaiting run.home id now rest)).2.1,
          (t.concluded b id work (work.call b id now s.resources).1
            (stops.awaiting run.home id now rest)).2.2) := by
  obtain ⟨t, hfound, hresources, haccount⟩ := account_request b hrun (stops.during stage)
    (.advance id now :: stops.awaiting run.home id now rest)
  refine ⟨{ t with resources := (work.call b id now s.resources).2 }, hfound, rfl, ?_⟩
  have hbind : (t.find? id).bind ActiveRun.work = some work := by
    rw [hfound]
    exact hwork
  rw [StopRequests.awaiting_cons, haccount, account_moved t b rfl]
  simp only [obey, advance_eq, callsOf_advance, hbind, hresources]
  rfl

/-- A run that ends leaves nothing to the commands after it. -/
theorem concluded_of_finish {s : Session σ} {b : Backends σ} {id : RunId} {work : Work}
    {returned : Returned} {desk : Nat} {position : Position} {result : Except PipelineError Run}
    (hfinish : s.settle b id work returned = s.finish b id desk position result)
    (stops : StopRequests) (home : Nat) (now : Instant) (stages : List Stage) :
    s.concluded b id work returned (stops.awaiting home id now stages) =
      ([result], [], (s.release b position).resources) := by
  have hover : (s.finish b id desk position result).2.find? id = none := by
    rw [find?_finish, if_pos rfl]
  simp only [concluded, hfinish, account_of_over b hover, finish_resources]
  rfl

/-- A run that was asked to stop ends where it would enter the next stage. -/
theorem concluded_onward_of_cancelled {s : Session σ} {id : RunId} {run : ActiveRun}
    (b : Backends σ) (hrun : s.find? id = some run) (hcancelled : run.cancelled = true)
    (work : Work) (position : Position) (stops : StopRequests) (home : Nat) (now : Instant)
    (stages : List Stage) :
    s.concluded b id work (.onward position) (stops.awaiting home id now stages) =
      ([.error (.cancelledBefore position.stage)], [], (s.release b position).resources) := by
  have hsettle : s.settle b id work (.onward position) =
      s.finish b id work.desk position (.error (.cancelledBefore position.stage)) := by
    simp only [settle, enter_eq, hrun, Option.any_some, hcancelled, if_true]
  exact concluded_of_finish hsettle stops home now stages

/-- A run that was not asked to stop enters the next stage and waits for its call there. -/
theorem concluded_onward {s : Session σ} {id : RunId} {run : ActiveRun} (b : Backends σ)
    (hrun : s.find? id = some run) (hcancelled : run.cancelled = false) (work after : Work)
    {position : Position} (hafter : after = { work with position }) (stops : StopRequests)
    (now : Instant) (stage : Stage) (rest : List Stage) :
    ∃ (t : Session σ) (next : ActiveRun), t.find? id = some next ∧ next.home = run.home ∧
      next.cancelled = stops.during stage ∧ t.resources = (after.call b id now s.resources).2 ∧
      s.concluded b id work (.onward position)
          (stops.awaiting run.home id now (stage :: rest)) =
        ((t.concluded b id after (after.call b id now s.resources).1
            (stops.awaiting run.home id now rest)).1,
          position.calls b work.fragment s.resources ++
            (t.concluded b id after (after.call b id now s.resources).1
              (stops.awaiting run.home id now rest)).2.1,
          (t.concluded b id after (after.call b id now s.resources).1
            (stops.awaiting run.home id now rest)).2.2) := by
  subst hafter
  have hsettle : s.settle b id work (.onward position) =
      (.working, s.entered id { work with position }) := by
    simp only [settle, enter_eq, hrun, Option.any_some, hcancelled, Bool.false_eq_true, if_false]
  obtain ⟨state, hentered⟩ := exists_find?_entered hrun { work with position }
  obtain ⟨t, hfound, hresources, haccount⟩ :=
    account_awaiting b hentered rfl stops now stage rest
  rw [entered_resources] at hresources haccount
  refine ⟨t, _, hfound, rfl, by simp [hcancelled], hresources, ?_⟩
  simp only [concluded, hsettle, haccount]
  rfl

/-! ## The session follows the walk -/

section

variable (b : Backends σ) (stops : StopRequests) {cancelled : Stage → Bool} {s : Session σ}
  {id : RunId} {run : ActiveRun} (now : Instant)

theorem concluded_verifying (hrun : s.find? id = some run)
    (hverify : run.cancelled = cancelled .verify) (work : Work) (candidate : Candidate)
    (outcome : Outcome) :
    s.concluded b id work (.onward (.verifying candidate outcome))
        (stops.awaiting run.home id now [.verify]) =
      ([(Walk.verify b id now work.fragment cancelled candidate outcome s.resources).1],
        Walk.verifyCalls b work.fragment cancelled candidate outcome s.resources,
        (Walk.verify b id now work.fragment cancelled candidate outcome s.resources).2) := by
  simp only [Walk.verify, Walk.verifyCalls, ← hverify]
  cases hcancelled : run.cancelled with
  | true =>
      rw [concluded_onward_of_cancelled b hrun hcancelled]
      rfl
  | false =>
      obtain ⟨t, next, -, -, -, hresources, haccount⟩ :=
        concluded_onward b hrun hcancelled work _ rfl stops now .verify []
      rw [haccount]
      simp only [Work.call] at hresources ⊢
      cases hanswer : b.verifier.verify work.fragment candidate.source outcome s.resources with
      | mk answer after =>
          simp only [hanswer] at hresources ⊢
          cases answer with
          | error e =>
              rw [concluded_of_finish rfl]
              simp [release, Position.outcome?, Position.stage, hresources]
          | ok verdict =>
              rw [concluded_of_finish rfl]
              simp [release, Position.outcome?, hresources]

theorem concluded_compiling (hrun : s.find? id = some run)
    (hcompile : run.cancelled = cancelled .compile)
    (hverify : cancelled .verify = (cancelled .compile || stops.during .compile)) (work : Work)
    (candidate : Candidate) :
    s.concluded b id work (.onward (.compiling candidate))
        (stops.awaiting run.home id now [.compile, .verify]) =
      ([(Walk.compile b id now work.fragment cancelled candidate s.resources).1],
        Walk.compileCalls b work.fragment cancelled candidate s.resources,
        (Walk.compile b id now work.fragment cancelled candidate s.resources).2) := by
  simp only [Walk.compile, Walk.compileCalls, ← hcompile]
  cases hcancelled : run.cancelled with
  | true =>
      rw [concluded_onward_of_cancelled b hrun hcancelled]
      rfl
  | false =>
      obtain ⟨t, next, hnext, hhome, hstopped, hresources, haccount⟩ :=
        concluded_onward b hrun hcancelled work _ rfl stops now .compile [.verify]
      -- asked to stop by the next entry means: asked to stop during this call
      have hlater : next.cancelled = cancelled .verify := by
        rw [hstopped, hverify, ← hcompile, hcancelled, Bool.false_or]
      rw [haccount]
      simp only [Work.call] at hresources ⊢
      cases hanswer : b.compiler.compile candidate.source s.resources with
      | mk answer after =>
          simp only [hanswer] at hresources ⊢
          cases answer with
          | error e =>
              rw [concluded_of_finish rfl]
              simp [release, Position.outcome?, Position.stage, hresources]
          | ok outcome =>
              rw [← hhome, concluded_verifying b stops now hnext hlater, hresources]
              rfl

theorem concluded_generating (hrun : s.find? id = some run)
    (hgenerate : run.cancelled = cancelled .generate)
    (hcompile : cancelled .compile = (cancelled .generate || stops.during .generate))
    (hverify : cancelled .verify = (cancelled .compile || stops.during .compile)) (work : Work) :
    s.concluded b id work (.onward .generating)
        (stops.awaiting run.home id now [.generate, .compile, .verify]) =
      ([(Walk.generate b id now work.fragment cancelled s.resources).1],
        Walk.generateCalls b work.fragment cancelled s.resources,
        (Walk.generate b id now work.fragment cancelled s.resources).2) := by
  simp only [Walk.generate, Walk.generateCalls, ← hgenerate]
  cases hcancelled : run.cancelled with
  | true =>
      rw [concluded_onward_of_cancelled b hrun hcancelled]
      rfl
  | false =>
      obtain ⟨t, next, hnext, hhome, hstopped, hresources, haccount⟩ :=
        concluded_onward b hrun hcancelled work _ rfl stops now .generate
          [.compile, .verify]
      have hlater : next.cancelled = cancelled .compile := by
        rw [hstopped, hcompile, ← hgenerate, hcancelled, Bool.false_or]
      rw [haccount]
      simp only [Work.call] at hresources ⊢
      cases hanswer : b.generator.generate work.fragment s.resources with
      | mk answer after =>
          simp only [hanswer] at hresources ⊢
          cases answer with
          | error e =>
              rw [concluded_of_finish rfl]
              simp [release, Position.outcome?, Position.stage, hresources]
          | ok candidate =>
              rw [← hhome, concluded_compiling b stops now hnext hlater hverify, hresources]
              rfl

end

/-! ## Carrying a run to its end without a break -/

/-- A call that returns leaves the run waiting, or ends it for good; else nothing happens. -/
theorem advance_cases (b : Backends σ) (s : Session σ) (id : RunId) (now : Instant) :
    s.advance b id now = (.refused, s) ∨ (∃ t, s.advance b id now = (.working, t)) ∨
      ∃ result t, s.advance b id now = (.finished result, t) ∧ t.find? id = none := by
  have heffect := advance_effect b s id now
  simp only [entry, obey] at heffect
  generalize s.advance b id now = moved, s.callsOf b (.advance id now) = calls at heffect
  obtain ⟨reply, after⟩ := moved
  cases heffect with
  | refused => exact .inl rfl
  | entered hrun hmoving hcancelled => exact .inr (.inl ⟨_, rfl⟩)
  | ended hrun hmoving hending =>
      cases hmoving
      exact .inr (.inr ⟨_, _, rfl, (find?_finish ..).trans (if_pos rfl)⟩)

/-- A run that cannot be moved comes to no result, however often one tries. -/
theorem play_of_refused {b : Backends σ} {s : Session σ} {id : RunId} {now : Instant}
    (hrefused : s.advance b id now = (.refused, s)) (n : Nat) :
    results id (s.play b (List.replicate n (.advance id now))).1 = [] ∧
      (s.play b (List.replicate n (.advance id now))).2 = s := by
  have hobey : s.obey b (.advance id now) = (.moved .refused, s) := by
    simp only [obey, hrefused]
  induction n with
  | zero => exact ⟨rfl, rfl⟩
  | succ n ih =>
      obtain ⟨hresults, hsession⟩ := ih
      rw [List.replicate_succ, play_cons, hobey]
      refine ⟨?_, hsession⟩
      rw [results_cons, hresults, resultOf?_entry s b rfl, hobey]
      rfl

theorem play_of_over {b : Backends σ} {s : Session σ} {id : RunId} (hover : s.find? id = none)
    (now : Instant) (n : Nat) :
    results id (s.play b (List.replicate n (.advance id now))).1 = [] ∧
      (s.play b (List.replicate n (.advance id now))).2 = s := by
  apply play_of_refused
  simp only [advance_eq, hover, Option.bind_none]

/-- Carrying a run on without a break is letting its calls return by one command each. -/
theorem advanceUpTo_eq_play (b : Backends σ) (id : RunId) (now : Instant) (n : Nat)
    (s : Session σ) :
    (advanceUpTo b id now n s).1.result?.toList =
        results id (s.play b (List.replicate n (.advance id now))).1 ∧
      (advanceUpTo b id now n s).2 = (s.play b (List.replicate n (.advance id now))).2 := by
  induction n generalizing s with
  | zero => exact ⟨rfl, rfl⟩
  | succ n ih =>
      rw [List.replicate_succ, play_cons, results_cons, resultOf?_entry s b rfl]
      simp only [advanceUpTo, obey]
      obtain hrefused | ⟨t, hworking⟩ | ⟨result, t, hfinished, hover⟩ := advance_cases b s id now
      · obtain ⟨hresults, hsession⟩ := play_of_refused hrefused n
        rw [hrefused, hresults, hsession]
        exact ⟨rfl, rfl⟩
      · rw [hworking]
        exact ih t
      · -- the steps that are left find no run
        obtain ⟨hresults, hsession⟩ := play_of_over (b := b) hover now n
        rw [hfinished, hresults, hsession]
        exact ⟨rfl, rfl⟩

/-- Carrying a run to its end at once is playing the script in which nobody asks it to stop. -/
theorem execute_eq_play (b : Backends σ) {s : Session σ} {run : ActiveRun}
    (hactive : s.find? run.id = some run) (hidle : run.work = none) (desk : Nat)
    (fragment : Fragment) (now : Instant) :
    (s.execute b desk run.id fragment now).1.result?.toList =
        results run.id (s.play b (StopRequests.never.script run desk fragment now)).1 ∧
      (s.execute b desk run.id fragment now).2 =
        (s.play b (StopRequests.never.script run desk fragment now)).2 := by
  have hscript : StopRequests.never.script run desk fragment now =
      .start desk run.id fragment :: List.replicate 3 (.advance run.id now) := rfl
  have hstart := start_of_idle hactive hidle b desk fragment
  rw [settle, enter_eq, hactive, Option.any_some] at hstart
  rw [hscript, play_cons, results_cons, resultOf?_entry s b rfl]
  simp only [execute, obey]
  cases hcancelled : run.cancelled with
  | true =>
      -- the run is over at once, and the calls that the script waits for never come
      rw [hcancelled, if_pos rfl] at hstart
      have hover : (s.start b desk run.id fragment).2.find? run.id = none := by
        rw [hstart, find?_finish, if_pos rfl]
      obtain ⟨hresults, hsession⟩ := play_of_over (b := b) hover now 3
      rw [hresults, hsession, hstart]
      exact ⟨rfl, rfl⟩
  | false =>
      rw [hcancelled, if_neg Bool.false_ne_true] at hstart
      rw [hstart]
      exact advanceUpTo_eq_play b run.id now 3 (s.entered run.id ⟨desk, fragment, .generating⟩)

/-! ## The main statement -/

/-- The script gives one result, and the result and the calls are those of the walk. -/
theorem account_script (b : Backends σ) {s : Session σ} {run : ActiveRun}
    (hactive : s.find? run.id = some run) (hidle : run.work = none) (stops : StopRequests)
    (desk : Nat) (fragment : Fragment) (now : Instant) :
    s.account b run.id (stops.script run desk fragment now) =
      ([(Walk.generate b run.id now fragment (stops.cancels run) s.resources).1],
        Walk.generateCalls b fragment (stops.cancels run) s.resources,
        (Walk.generate b run.id now fragment (stops.cancels run) s.resources).2) := by
  obtain ⟨t, hfound, hresources, haccount⟩ := account_request b hactive stops.before
    (.start desk run.id fragment ::
      stops.awaiting run.home run.id now [.generate, .compile, .verify])
  -- what is known of the run when it comes to each of the stages
  have hgenerate : (run.cancelled || stops.before) = stops.cancels run .generate := rfl
  have hcompile : stops.cancels run .compile =
      (stops.cancels run .generate || stops.during .generate) := by
    simp only [StopRequests.cancels, StopRequests.upTo, Bool.or_assoc]
  have hverify : stops.cancels run .verify =
      (stops.cancels run .compile || stops.during .compile) := by
    simp only [StopRequests.cancels, StopRequests.upTo, Bool.or_assoc]
  have hconcluded := concluded_generating b stops now hfound hgenerate hcompile hverify
    ⟨desk, fragment, .generating⟩
  rw [StopRequests.script, haccount, account_moved t b rfl]
  simp only [obey, callsOf_start, start_of_idle hfound hidle b desk fragment, List.nil_append]
  rw [← hresources]
  exact hconcluded

theorem eq_finished_of_result? {reply : Reply} {result : Except PipelineError Run}
    (hresult : reply.result?.toList = [result]) : reply = .finished result := by
  cases reply with
  | finished other =>
      obtain rfl : other = result := by simpa [Reply.result?] using hresult
      rfl
  | refused => cases hresult
  | working => cases hresult

/-- **Executions follow the walk.**  A prepared run is carried out, and it is asked to stop at any
times or at none.  It comes to exactly one result, the one of the walk.  The backends are called in
the order of the stages, each at most once, and only as the contracts permit.  And carrying out the
run at once is the same as the script in which nobody asks it to stop. -/
theorem execution_eq_walk (b : Backends σ) (s : Session σ) (run : ActiveRun)
    (hactive : s.find? run.id = some run) (hidle : run.work = none) (stops : StopRequests)
    (desk : Nat) (fragment : Fragment) (now : Instant) :
    results run.id (s.play b (stops.script run desk fragment now)).1 =
        [(Walk.generate b run.id now fragment (stops.cancels run) s.resources).1] ∧
      ((callsFor run.id (s.play b (stops.script run desk fragment now)).1).map Call.stage).Sublist
        [.generate, .compile, .verify] ∧
      (∀ call ∈ callsFor run.id (s.play b (stops.script run desk fragment now)).1,
        call.Permitted fragment
          (callsFor run.id (s.play b (stops.script run desk fragment now)).1)) ∧
      s.execute b desk run.id fragment now =
        (.finished (Walk.generate b run.id now fragment (StopRequests.never.cancels run)
            s.resources).1,
          (s.play b (StopRequests.never.script run desk fragment now)).2) := by
  have haccount := account_script b hactive hidle stops desk fragment now
  have hcalls : callsFor run.id (s.play b (stops.script run desk fragment now)).1 =
      Walk.generateCalls b fragment (stops.cancels run) s.resources :=
    congrArg (fun account => account.2.1) haccount
  rw [hcalls]
  refine ⟨congrArg Prod.fst haccount, Walk.generateCalls_stages ..,
    Walk.generateCalls_permitted b fragment _ s.resources, ?_⟩
  obtain ⟨hresult, hsession⟩ := execute_eq_play b hactive hidle desk fragment now
  have hwalk := congrArg Prod.fst
    (account_script b hactive hidle StopRequests.never desk fragment now)
  exact Prod.ext (eq_finished_of_result? (hresult.trans hwalk)) hsession

/-- A compiler that is missing is reported as such, although the run was asked to stop while it was
called. -/
theorem execution_of_missing_compiler :
    let b := Backends.answering (.ok ⟨"f()", ⟨0⟩⟩) (.error (.unavailable "cc")) (.ok .identical)
    let run : ActiveRun := { id := ⟨"a"⟩, home := 0 }
    let s : Session Unit := { (Session.opened () 1 0) with active := [run] }
    let stops : StopRequests := { before := false, during := fun stage => stage == .compile }
    s.find? run.id = some run ∧ run.work = none ∧
      results run.id (s.play b (stops.script run 0 (.ofText "jr $ra") ⟨0, 0⟩)).1 =
        [.error ⟨.compile, .compiler (.unavailable "cc")⟩] := by
  intro b run s stops
  have hactive : s.find? run.id = some run := by simp [s, find?]
  refine ⟨hactive, rfl, ?_⟩
  rw [(execution_eq_walk b s run hactive rfl stops 0 (.ofText "jr $ra") ⟨0, 0⟩).1]
  rfl

end Session

end MatchingDecomp
