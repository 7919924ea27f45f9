import FogHttpBenchmark.Library.Transition

/-!
# Cleanup of the owned processes

The parent of a lifecycle case ends its children with `reap_processes`, in a task of its own that
`finish_cleanup` awaits behind a shield. The task signals, waits and reaps; the awaiting task may be
cancelled any number of times meanwhile. `finish_cleanup_complete` states what has been done when
`finish_cleanup` ends, and how it ends.
-/

set_option autoImplicit false

namespace FogHttpBenchmark.Lifecycle

open Library

/-! ## Signals and waits -/

section Attempts

/-- A process that the run has started. -/
structure OwnedProcess where
  role : String
  pid : ℤ
  deriving DecidableEq, Repr

/-- The two signals of `reap_processes`. -/
inductive TerminationSignal where
  | sigterm
  | sigkill
  deriving DecidableEq, Repr

/-- What `group_quiescent_after_exit` meets: whether the leader exits within the timeout, and
whether the group has live members, at first and again until the deadline. An error is the text of
an `OSError` or `RuntimeError`. -/
structure Quiescence where
  exited : Bool
  first : Except String Bool
  further : List (Except String Bool)

/-- The loop of `group_quiescent_after_exit`. -/
def quiescenceLoop : Except String Bool → List (Except String Bool) → Except String Bool
  | .error error, _ => .error error
  | .ok false, _ => .ok true
  | .ok true, [] => .ok false
  | .ok true, check :: further => quiescenceLoop check further

/-- A group is quiet if its process has exited and nothing of it is left in time. -/
def groupQuiescentAfterExit (group : Quiescence) : Except String Bool :=
  if group.exited then quiescenceLoop group.first group.further else .ok false

/-- What `os.killpg` does. -/
inductive SignalOutcome where
  | delivered
  | processLookupError
  | permissionError (error : String) (group : Quiescence)
  | osError (error : String)

/-- `signal_owned_group(owned, number)`; the poll before the signal is not read. -/
def signalOwnedGroup (owned : OwnedProcess) : SignalOutcome → Option String
  | .delivered => none
  | .processLookupError => none
  | .permissionError error group =>
      match groupQuiescentAfterExit group with
      | .ok true => none
      | .ok false =>
          some ("Cannot signal owned " ++ owned.role ++ " group " ++ toString owned.pid ++ ": " ++
            error)
      | .error verificationError =>
          some ("Cannot verify owned group " ++ toString owned.pid ++ " after " ++ error ++ ": " ++
            verificationError)
  | .osError error =>
      some ("Cannot signal owned " ++ owned.role ++ " group " ++ toString owned.pid ++ ": " ++
        error)

/-- What the waits for a child meet: it is reaped in time, or it is killed and waited for again. -/
inductive WaitOutcome where
  | reaped
  | timedOut (kill second : Except String Unit)

/-- `wait_owned_child(owned)`. -/
def waitOwnedChild (owned : OwnedProcess) : WaitOutcome → Option String
  | .reaped => none
  | .timedOut kill second =>
      let failure (error : String) :=
        some ("Cannot reap owned " ++ owned.role ++ " PID " ++ toString owned.pid ++ ": " ++ error)
      match kill with
      | .error error => failure error
      | .ok () =>
          match second with
          | .error error => failure error
          | .ok () => none

/-- What is attempted on an owned process. -/
inductive Duty where
  | signal (number : TerminationSignal) (owned : OwnedProcess)
  | wait (owned : OwnedProcess)
  deriving DecidableEq, Repr

/-- An attempt with its outcome. -/
inductive Attempt where
  | signalled (number : TerminationSignal) (owned : OwnedProcess) (outcome : SignalOutcome)
  | waited (owned : OwnedProcess) (outcome : WaitOutcome)

/-- What the attempt was made for. -/
def Attempt.duty : Attempt → Duty
  | .signalled number owned _ => .signal number owned
  | .waited owned _ => .wait owned

/-- The failure that the attempt reports. -/
def Attempt.failure : Attempt → Option String
  | .signalled _ owned outcome => signalOwnedGroup owned outcome
  | .waited owned outcome => waitOwnedChild owned outcome

/-- The child was reaped, by the first wait or after it was killed. -/
def WaitOutcome.Reaped : WaitOutcome → Prop
  | .reaped => True
  | .timedOut kill second => kill = .ok () ∧ second = .ok ()

/-- The group was signalled, or there is nothing left in it. -/
def SignalOutcome.Settled : SignalOutcome → Prop
  | .delivered => True
  | .processLookupError => True
  | .permissionError _ group => groupQuiescentAfterExit group = .ok true
  | .osError _ => False

/-- A signal reports no failure exactly if it has settled its group. -/
theorem signalOwnedGroup_eq_none {owned : OwnedProcess} {outcome : SignalOutcome} :
    signalOwnedGroup owned outcome = none ↔ outcome.Settled := by
  cases outcome with
  | delivered => exact ⟨fun _ => trivial, fun _ => rfl⟩
  | processLookupError => exact ⟨fun _ => trivial, fun _ => rfl⟩
  | permissionError error group =>
      rw [signalOwnedGroup, SignalOutcome.Settled]
      cases groupQuiescentAfterExit group with
      | error verificationError => exact ⟨nofun, nofun⟩
      | ok quiescent => cases quiescent <;> simp
  | osError error => exact ⟨nofun, False.elim⟩

/-- A wait reports no failure exactly if it has reaped its process. -/
theorem waitOwnedChild_eq_none {owned : OwnedProcess} {outcome : WaitOutcome} :
    waitOwnedChild owned outcome = none ↔ outcome.Reaped := by
  cases outcome with
  | reaped => exact ⟨fun _ => trivial, fun _ => rfl⟩
  | timedOut kill second =>
      cases kill with
      | error error => exact ⟨nofun, nofun⟩
      | ok =>
          cases second with
          | error error => exact ⟨nofun, nofun⟩
          | ok => exact ⟨fun _ => ⟨rfl, rfl⟩, fun _ => rfl⟩

end Attempts

/-! ## The cleanup task -/

section Cleanup

/-- Where `reap_processes` is; the processes that it still has to signal or to wait for are a first
one and the rest. -/
inductive CleanupPhase where
  | signalling (number : TerminationSignal) (owned : OwnedProcess) (rest : List OwnedProcess)
  | waiting (number : TerminationSignal)
  | reaping (owned : OwnedProcess) (rest : List OwnedProcess)
  | done

/-- `reap_processes(processes, timeout_s)`, with the attempts that it has made. -/
structure Cleanup where
  processes : List OwnedProcess
  phase : CleanupPhase
  failures : List String
  attempts : List Attempt

/-- What happens next to the cleanup. -/
inductive CleanupStep where
  | signalled (outcome : SignalOutcome)
  /-- Before the deadline, the return codes are polled. -/
  | polled (returncode : OwnedProcess → Option ℤ)
  /-- The deadline has passed. -/
  | expired
  | waited (outcome : WaitOutcome)

/-- The loop that signals each process, after which the deadline is set. -/
def signallingPhase (number : TerminationSignal) : List OwnedProcess → CleanupPhase
  | [] => .waiting number
  | owned :: rest => .signalling number owned rest

/-- The loop that waits for each process, after which the failures are raised. -/
def reapingPhase : List OwnedProcess → CleanupPhase
  | [] => .done
  | owned :: rest => .reaping owned rest

/-- What follows the wait after a signal. -/
def afterWaiting (processes : List OwnedProcess) : TerminationSignal → CleanupPhase
  | .sigterm => signallingPhase .sigkill processes
  | .sigkill => reapingPhase processes

/-- The cleanup before its first signal. -/
def Cleanup.initial (processes : List OwnedProcess) : Cleanup where
  processes := processes
  phase := signallingPhase .sigterm processes
  failures := []
  attempts := []

/-- An attempt was made: its failure is kept. -/
def Cleanup.attempt (self : Cleanup) (attempt : Attempt) (phase : CleanupPhase) : Cleanup :=
  { self with
    phase := phase
    failures := self.failures ++ attempt.failure.toList
    attempts := self.attempts ++ [attempt] }

/-- One outcome that the cleanup has waited for. -/
def Cleanup.step (self : Cleanup) (step : CleanupStep) : Option Cleanup :=
  match self.phase, step with
  | .signalling number owned rest, .signalled outcome =>
      some (self.attempt (.signalled number owned outcome) (signallingPhase number rest))
  | .waiting number, .polled returncode =>
      if self.processes.all fun owned => (returncode owned).isSome then
        some { self with phase := afterWaiting self.processes number }
      else some self
  | .waiting number, .expired => some { self with phase := afterWaiting self.processes number }
  | .reaping owned rest, .waited outcome =>
      some (self.attempt (.waited owned outcome) (reapingPhase rest))
  | _, _ => none

/-- The result of the task, once it is done. -/
def Cleanup.result (self : Cleanup) : Option (Except String Unit) :=
  match self.phase with
  | .done =>
      some (if self.failures.isEmpty then .ok ()
        else .error (String.intercalate "; " self.failures))
  | _ => none

end Cleanup

/-! ## The awaiting task -/

section Awaiting

/-- The future that `asyncio.shield(cleanup)` returns. -/
inductive ShieldFuture where
  | pending
  | cancelled
  | settled
  deriving DecidableEq, Repr

/-- Where `finish_cleanup` is: it awaits a shield, with whether its task has a cancellation left to
deliver, or it has ended. -/
inductive FinishPhase where
  | awaiting (shield : ShieldFuture) (mustCancel : Bool)
  | returned
  | cancelledError
  | failed (message : String)
  deriving DecidableEq, Repr

/-- `finish_cleanup(processes, timeout_s)` with its task. -/
structure FinishCleanup where
  cleanup : Cleanup
  cancelled : Bool
  phase : FinishPhase

/-- What happens next on the event loop. -/
inductive LoopEvent where
  /-- The cleanup task goes on. -/
  | cleanup (step : CleanupStep)
  /-- The shield is told that the cleanup is done. -/
  | settle
  /-- The awaiting task is cancelled. -/
  | cancel
  /-- The awaiting task goes on. -/
  | wake

/-- The task is created, and the loop awaits it for the first time. -/
def FinishCleanup.initial (processes : List OwnedProcess) : FinishCleanup where
  cleanup := .initial processes
  cancelled := false
  phase := .awaiting .pending false

/-- The condition of the loop, and what follows it. -/
def FinishCleanup.loop (self : FinishCleanup) : FinishCleanup :=
  match self.cleanup.result with
  | none => { self with phase := .awaiting .pending false }
  | some (.error message) => { self with phase := .failed message }
  | some (.ok ()) => { self with phase := if self.cancelled then .cancelledError else .returned }

/-- One event of the loop in which the cleanup is awaited. -/
def FinishCleanup.step (self : FinishCleanup) (event : LoopEvent) : Option FinishCleanup :=
  match event, self.phase with
  | .cleanup step, _ =>
      (self.cleanup.step step).map fun cleanup => { self with cleanup := cleanup }
  | .settle, .awaiting .pending mustCancel =>
      if self.cleanup.result.isSome then
        some { self with phase := .awaiting .settled mustCancel }
      else none
  | .cancel, .awaiting .pending mustCancel =>
      some { self with phase := .awaiting .cancelled mustCancel }
  -- a future that is done cannot be cancelled, so the task is at its next step
  | .cancel, .awaiting shield _ => some { self with phase := .awaiting shield true }
  | .wake, .awaiting .cancelled _ => some { self with cancelled := true }.loop
  | .wake, .awaiting .settled true => some { self with cancelled := true }.loop
  | .wake, .awaiting .settled false =>
      match self.cleanup.result with
      | some (.error message) => some { self with phase := .failed message }
      | _ => some self.loop
  | _, _ => none

/-- The awaiting task after these events. -/
def FinishCleanup.run (self : FinishCleanup) (events : List LoopEvent) : Option FinishCleanup :=
  Transition.run FinishCleanup.step self events

end Awaiting

/-! ## The duties of the cleanup -/

section Duties

/-- What `reap_processes` attempts: both signals and a last wait for every process. -/
def allDuties (processes : List OwnedProcess) : List Duty :=
  processes.map (.signal .sigterm) ++ (processes.map (.signal .sigkill) ++ processes.map .wait)

/-- What is left to attempt after the wait that follows a signal. -/
def dutiesAfter (processes : List OwnedProcess) : TerminationSignal → List Duty
  | .sigterm => processes.map (.signal .sigkill) ++ processes.map .wait
  | .sigkill => processes.map .wait

/-- What a cleanup in this phase still has to do. -/
def CleanupPhase.duties (processes : List OwnedProcess) : CleanupPhase → List Duty
  | .signalling number owned rest =>
      (owned :: rest).map (.signal number) ++ dutiesAfter processes number
  | .waiting number => dutiesAfter processes number
  | .reaping owned rest => (owned :: rest).map .wait
  | .done => []

/-- The duties that are left among the signals of a number. -/
theorem duties_signallingPhase (processes : List OwnedProcess) (number : TerminationSignal)
    (rest : List OwnedProcess) : (signallingPhase number rest).duties processes =
      rest.map (.signal number) ++ dutiesAfter processes number := by
  cases rest <;> rfl

/-- The duties that are left among the waits. -/
theorem duties_reapingPhase (processes rest : List OwnedProcess) :
    (reapingPhase rest).duties processes = rest.map .wait := by
  cases rest <;> rfl

theorem duties_afterWaiting (processes : List OwnedProcess) (number : TerminationSignal) :
    (afterWaiting processes number).duties processes = dutiesAfter processes number := by
  cases number with
  | sigterm => exact duties_signallingPhase processes .sigkill processes
  | sigkill => exact duties_reapingPhase processes processes

/-- The attempts so far and the duties that are left are all duties, and every failure is kept. -/
structure Cleaning (processes : List OwnedProcess) (cleanup : Cleanup) : Prop where
  owned : cleanup.processes = processes
  attempted : cleanup.attempts.map Attempt.duty ++ cleanup.phase.duties processes =
    allDuties processes
  failures : cleanup.failures = cleanup.attempts.filterMap Attempt.failure

variable {processes : List OwnedProcess} {cleanup next : Cleanup}

/-- Nothing is done, and all is left. -/
theorem cleaning_initial (processes : List OwnedProcess) :
    Cleaning processes (.initial processes) where
  owned := rfl
  attempted := duties_signallingPhase processes .sigterm processes
  failures := rfl

/-- An attempt of the first duty that is left. -/
theorem Cleaning.attempt (h : Cleaning processes cleanup) {attempt : Attempt}
    {phase : CleanupPhase}
    (hduties : cleanup.phase.duties processes = attempt.duty :: phase.duties processes) :
    Cleaning processes (cleanup.attempt attempt phase) where
  owned := h.owned
  attempted := by
    rw [← h.attempted, hduties, Cleanup.attempt, List.map_append, List.append_assoc,
      List.map_singleton, List.singleton_append]
  failures := by
    have hlast : [attempt].filterMap Attempt.failure = attempt.failure.toList := by
      cases hfailure : attempt.failure <;> simp [hfailure]
    rw [Cleanup.attempt, h.failures, List.filterMap_append, hlast]

/-- The wait is over. -/
theorem Cleaning.waited (h : Cleaning processes cleanup) {number : TerminationSignal}
    (hphase : cleanup.phase = .waiting number) :
    Cleaning processes { cleanup with phase := afterWaiting cleanup.processes number } where
  owned := h.owned
  attempted := by
    rw [← h.attempted, hphase, h.owned]
    exact congrArg _ (duties_afterWaiting processes number)
  failures := h.failures

/-- What is done and what is left stay the whole. -/
theorem Cleaning.step (h : Cleaning processes cleanup) {step : CleanupStep}
    (hstep : cleanup.step step = some next) : Cleaning processes next := by
  rw [Cleanup.step.eq_def] at hstep
  split at hstep
  case h_1 number owned rest outcome hphase =>
    cases hstep
    apply h.attempt
    rw [hphase, duties_signallingPhase]
    rfl
  case h_2 number returncode hphase =>
    split at hstep
    case isTrue =>
      cases hstep
      exact h.waited hphase
    case isFalse =>
      cases hstep
      exact h
  case h_3 number hphase =>
    cases hstep
    exact h.waited hphase
  case h_4 owned rest outcome hphase =>
    cases hstep
    apply h.attempt
    rw [hphase, duties_reapingPhase]
    rfl
  case h_5 => exact nomatch hstep

/-- Once the task is done, every duty has been attempted, in order, and its result names every
failure. -/
theorem Cleaning.result (h : Cleaning processes cleanup) {result : Except String Unit}
    (hresult : cleanup.result = some result) :
    cleanup.attempts.map Attempt.duty = allDuties processes ∧
      result = if (cleanup.attempts.filterMap Attempt.failure).isEmpty then .ok ()
        else .error (String.intercalate "; " (cleanup.attempts.filterMap Attempt.failure)) := by
  rw [Cleanup.result] at hresult
  split at hresult
  case h_1 hphase =>
    have hduties := h.attempted
    rw [hphase, CleanupPhase.duties, List.append_nil] at hduties
    rw [← h.failures]
    exact ⟨hduties, (Option.some.inj hresult).symm⟩
  case h_2 => exact nomatch hresult

end Duties

/-! ## Runs -/

section Runs

/-- The event is a cancellation. -/
def LoopEvent.isCancel : LoopEvent → Bool
  | .cancel => true
  | _ => false

/-- What the phase of `finish_cleanup` says about the cleanup, and about whether its task was
cancelled. -/
def FinishPhase.Agrees (cleanup : Cleanup) (cancelled everCancelled : Bool) : FinishPhase → Prop
  | .awaiting shield mustCancel =>
      everCancelled = (cancelled || (shield = .cancelled || mustCancel)) ∧
        (shield = .settled → cleanup.result.isSome = true)
  | .returned => cleanup.result = some (.ok ()) ∧ everCancelled = false
  | .cancelledError => cleanup.result = some (.ok ()) ∧ everCancelled = true
  | .failed message => cleanup.result = some (.error message)

/-- The state of a run that is cleaned up, after any events. -/
structure Finishing (processes : List OwnedProcess) (everCancelled : Bool)
    (state : FinishCleanup) : Prop where
  cleaning : Cleaning processes state.cleanup
  agrees : state.phase.Agrees state.cleanup state.cancelled everCancelled

variable {processes : List OwnedProcess} {everCancelled : Bool} {state next : FinishCleanup}

theorem finishing_initial (processes : List OwnedProcess) :
    Finishing processes false (.initial processes) where
  cleaning := cleaning_initial processes
  agrees := ⟨rfl, nofun⟩

/-- A cleanup that is done takes no step. -/
theorem step_of_result {cleanup : Cleanup} (h : cleanup.result.isSome = true)
    (step : CleanupStep) : cleanup.step step = none := by
  rw [Cleanup.result] at h
  split at h
  case h_1 hphase =>
    rw [Cleanup.step.eq_def, hphase]
  case h_2 => exact nomatch h

/-- The loop goes on until the cleanup is done, and then ends with its failure or with the
cancellation. -/
theorem finishing_loop (hcleaning : Cleaning processes state.cleanup)
    (hcancelled : everCancelled = state.cancelled) :
    Finishing processes everCancelled state.loop := by
  rw [FinishCleanup.loop]
  split
  case h_1 => exact ⟨hcleaning, by simpa using hcancelled, nofun⟩
  case h_2 message hresult => exact ⟨hcleaning, hresult⟩
  case h_3 hresult =>
    refine ⟨hcleaning, ?_⟩
    change FinishPhase.Agrees state.cleanup state.cancelled everCancelled
      (if state.cancelled = true then .cancelledError else .returned)
    cases hstate : state.cancelled with
    | true => exact ⟨hresult, hcancelled.trans hstate⟩
    | false => exact ⟨hresult, hcancelled.trans hstate⟩

/-- The loop ends only with the cleanup, and remembers a cancellation. -/
theorem Finishing.step (h : Finishing processes everCancelled state) {event : LoopEvent}
    (hstep : state.step event = some next) :
    Finishing processes (everCancelled || event.isCancel) next := by
  obtain ⟨hcleaning, hagrees⟩ := h
  -- by the event and the phase in which it is taken
  rw [FinishCleanup.step.eq_def] at hstep
  split at hstep
  case h_1 step =>
    rw [Option.map_eq_some_iff] at hstep
    obtain ⟨cleanup, hcleanup, rfl⟩ := hstep
    change Finishing processes (everCancelled || false) _
    rw [Bool.or_false]
    have hrunning : state.cleanup.result = none := by
      by_contra hne
      rw [step_of_result (Option.isSome_iff_ne_none.2 hne)] at hcleanup
      exact nomatch hcleanup
    refine ⟨hcleaning.step hcleanup, ?_⟩
    -- only an awaiting task can have a cleanup that is not done
    cases hphase : state.phase with
    | awaiting shield mustCancel =>
        rw [hphase] at hagrees
        refine ⟨hagrees.1, fun hsettled => ?_⟩
        have hdone := hagrees.2 hsettled
        rw [hrunning] at hdone
        exact nomatch hdone
    | returned =>
        rw [hphase, FinishPhase.Agrees, hrunning] at hagrees
        exact nomatch hagrees.1
    | cancelledError =>
        rw [hphase, FinishPhase.Agrees, hrunning] at hagrees
        exact nomatch hagrees.1
    | failed message =>
        rw [hphase, FinishPhase.Agrees, hrunning] at hagrees
        exact nomatch hagrees
  -- the loop looks at the shielded task: done, or it goes on waiting
  case h_2 mustCancel hphase =>
    change Finishing processes (everCancelled || false) _
    rw [Bool.or_false]
    rw [hphase] at hagrees
    split at hstep
    case isTrue hdone =>
      cases hstep
      exact ⟨hcleaning, hagrees.1, fun _ => hdone⟩
    case isFalse => exact nomatch hstep
  -- a cancellation before the first await
  case h_3 mustCancel hphase =>
    cases hstep
    refine ⟨hcleaning, ?_, nofun⟩
    simp [LoopEvent.isCancel]
  -- a cancellation while it waits, which the shield keeps from the cleanup
  case h_4 shield mustCancel hphase =>
    rw [hphase] at hagrees
    cases hstep
    refine ⟨hcleaning, ?_, hagrees.2⟩
    simp [LoopEvent.isCancel]
  -- the pending cancellation is raised at the await, caught, and remembered
  case h_5 mustCancel hphase =>
    rw [hphase] at hagrees
    cases hstep
    refine finishing_loop hcleaning ?_
    rw [hagrees.1]
    simp
  -- the next round of the loop
  case h_6 hphase =>
    rw [hphase] at hagrees
    cases hstep
    refine finishing_loop hcleaning ?_
    rw [hagrees.1]
    simp
  -- the cleanup is done: its error is raised, or the loop is over
  case h_7 hphase =>
    rw [hphase] at hagrees
    change Finishing processes (everCancelled || false) _
    rw [Bool.or_false]
    split at hstep
    case h_1 message hresult =>
      cases hstep
      exact ⟨hcleaning, hresult⟩
    case h_2 =>
      cases hstep
      refine finishing_loop hcleaning ?_
      rw [hagrees.1]
      simp
  case h_8 => exact nomatch hstep

/-- The cleanup and its awaiting task after any events. -/
theorem finishing_run {events : List LoopEvent}
    (hrun : (FinishCleanup.initial processes).run events = some state) :
    Finishing processes (events.any LoopEvent.isCancel) state := by
  refine @Transition.run_invariant _ _ FinishCleanup.step (.initial processes) state
    (fun past state => Finishing processes (past.any LoopEvent.isCancel) state)
    (finishing_initial processes) ?_ events hrun
  intro past state event next h hstep
  rw [List.any_append, List.any_cons, List.any_nil, Bool.or_false]
  exact h.step hstep

end Runs

/-! ## The end of the cleanup -/

section Ends

/-- The signals and waits that are left, with one for each wait between them. -/
def CleanupPhase.stepsLeft (processes : List OwnedProcess) : CleanupPhase → ℕ
  | .signalling .sigterm _ rest => rest.length + 2 * processes.length + 3
  | .waiting .sigterm => 2 * processes.length + 2
  | .signalling .sigkill _ rest => rest.length + processes.length + 2
  | .waiting .sigkill => processes.length + 1
  | .reaping _ rest => rest.length + 1
  | .done => 0

/-- A signal leaves less to do. -/
theorem stepsLeft_signallingPhase (processes : List OwnedProcess) (number : TerminationSignal)
    (owned : OwnedProcess) (rest : List OwnedProcess) :
    (signallingPhase number rest).stepsLeft processes <
      (CleanupPhase.signalling number owned rest).stepsLeft processes := by
  cases number <;> cases rest <;>
    simp only [signallingPhase, CleanupPhase.stepsLeft, List.length_nil, List.length_cons] <;>
    omega

/-- So does a wait. -/
theorem stepsLeft_reapingPhase (processes : List OwnedProcess) (owned : OwnedProcess)
    (rest : List OwnedProcess) :
    (reapingPhase rest).stepsLeft processes <
      (CleanupPhase.reaping owned rest).stepsLeft processes := by
  cases rest <;>
    simp only [reapingPhase, CleanupPhase.stepsLeft, List.length_nil, List.length_cons] <;> omega

/-- So does the end of a grace period. -/
theorem stepsLeft_afterWaiting (processes : List OwnedProcess) (number : TerminationSignal) :
    (afterWaiting processes number).stepsLeft processes <
      (CleanupPhase.waiting number).stepsLeft processes := by
  cases number <;> cases processes <;>
    simp only [afterWaiting, signallingPhase, reapingPhase, CleanupPhase.stepsLeft,
      List.length_nil, List.length_cons] <;> omega

/-- A cleanup that is not done can always take a step towards its end. -/
theorem exists_step_of_running {cleanup : Cleanup} (h : cleanup.result = none) :
    ∃ step next, cleanup.step step = some next ∧
      next.phase.stepsLeft next.processes < cleanup.phase.stepsLeft cleanup.processes := by
  cases hphase : cleanup.phase with
  | signalling number owned rest =>
      have hstep : cleanup.step (.signalled .delivered) =
          some (cleanup.attempt (.signalled number owned .delivered)
            (signallingPhase number rest)) := by
        rw [Cleanup.step.eq_def, hphase]
      exact ⟨_, _, hstep, stepsLeft_signallingPhase cleanup.processes number owned rest⟩
  | waiting number =>
      have hstep : cleanup.step .expired =
          some { cleanup with phase := afterWaiting cleanup.processes number } := by
        rw [Cleanup.step.eq_def, hphase]
      exact ⟨_, _, hstep, stepsLeft_afterWaiting cleanup.processes number⟩
  | reaping owned rest =>
      have hstep : cleanup.step (.waited .reaped) =
          some (cleanup.attempt (.waited owned .reaped) (reapingPhase rest)) := by
        rw [Cleanup.step.eq_def, hphase]
      exact ⟨_, _, hstep, stepsLeft_reapingPhase cleanup.processes owned rest⟩
  | done =>
      rw [Cleanup.result, hphase] at h
      exact nomatch h

/-- The cleanup can be brought to its end, whatever has happened to the awaiting task. -/
theorem exists_run_to_result (state : FinishCleanup) :
    ∃ events final, state.run events = some final ∧ final.cleanup.result.isSome = true := by
  induction hsteps : state.cleanup.phase.stepsLeft state.cleanup.processes using
    Nat.strong_induction_on generalizing state with
  | _ steps ih =>
    subst hsteps
    cases hresult : state.cleanup.result with
    | some result => exact ⟨[], state, rfl, by rw [hresult]; rfl⟩
    | none =>
        obtain ⟨step, cleanup, hstep, hless⟩ := exists_step_of_running hresult
        obtain ⟨events, final, hrun, hdone⟩ := ih _ hless { state with cleanup := cleanup } rfl
        refine ⟨.cleanup step :: events, final, Transition.run_cons ?_ hrun, hdone⟩
        rw [FinishCleanup.step, hstep]
        rfl

/-- `finish_cleanup` has ended. -/
def FinishPhase.Ended : FinishPhase → Prop
  | .awaiting _ _ => False
  | _ => True

/-- A loop whose cleanup has a result ends. -/
theorem ended_loop {state : FinishCleanup} (h : state.cleanup.result.isSome = true) :
    state.loop.phase.Ended := by
  rw [FinishCleanup.loop]
  split
  case h_1 hresult =>
    rw [hresult] at h
    exact nomatch h
  case h_2 => exact trivial
  case h_3 =>
    dsimp only
    split <;> exact trivial

/-- A task that is woken after the cleanup is done ends. -/
theorem exists_wake {state : FinishCleanup} (h : state.cleanup.result.isSome = true)
    {shield : ShieldFuture} {mustCancel : Bool} (hphase : state.phase = .awaiting shield mustCancel)
    (hshield : shield ≠ .pending) :
    ∃ final, state.step .wake = some final ∧ final.phase.Ended := by
  have hcancelled : ({ state with cancelled := true } : FinishCleanup).loop.phase.Ended :=
    ended_loop h
  rw [FinishCleanup.step.eq_def, hphase]
  cases shield with
  | pending => exact absurd rfl hshield
  | cancelled => exact ⟨_, rfl, hcancelled⟩
  | settled =>
      cases mustCancel with
      | true => exact ⟨_, rfl, hcancelled⟩
      | false =>
          dsimp only
          split
          case h_1 => exact ⟨_, rfl, trivial⟩
          case h_2 => exact ⟨_, rfl, ended_loop h⟩

/-- Once the cleanup is done, the awaiting task can end. -/
theorem exists_run_to_end {state : FinishCleanup} (h : state.cleanup.result.isSome = true) :
    ∃ events final, state.run events = some final ∧ final.phase.Ended := by
  cases hphase : state.phase with
  | awaiting shield mustCancel =>
      by_cases hshield : shield = .pending
      · subst hshield
        have hsettle : state.step .settle =
            some { state with phase := .awaiting .settled mustCancel } := by
          rw [FinishCleanup.step.eq_def, hphase]
          exact if_pos h
        obtain ⟨final, hwake, hended⟩ := @exists_wake
          { state with phase := .awaiting .settled mustCancel } h .settled mustCancel rfl nofun
        exact ⟨[.settle, .wake], final, Transition.run_cons hsettle (Transition.run_cons hwake rfl),
          hended⟩
      · obtain ⟨final, hwake, hended⟩ := exists_wake h hphase hshield
        exact ⟨[.wake], final, Transition.run_cons hwake rfl, hended⟩
  | returned => exact ⟨[], state, rfl, by rw [hphase]; trivial⟩
  | cancelledError => exact ⟨[], state, rfl, by rw [hphase]; trivial⟩
  | failed message => exact ⟨[], state, rfl, by rw [hphase]; trivial⟩

end Ends

/-! ## The whole cleanup -/

section Whole

/-- The attempt has done what it is for. -/
def Attempt.Succeeded : Attempt → Prop
  | .signalled _ _ outcome => outcome.Settled
  | .waited _ outcome => outcome.Reaped

/-- An attempt reports a failure exactly if it has not succeeded. -/
theorem failure_eq_none {attempt : Attempt} : attempt.failure = none ↔ attempt.Succeeded := by
  cases attempt with
  | signalled number owned outcome => exact signalOwnedGroup_eq_none
  | waited owned outcome => exact waitOwnedChild_eq_none

/-- How `finish_cleanup` ends after these attempts. -/
def endOf (attempts : List Attempt) (everCancelled : Bool) : FinishPhase :=
  if (attempts.filterMap Attempt.failure).isEmpty then
    if everCancelled then .cancelledError else .returned
  else .failed (String.intercalate "; " (attempts.filterMap Attempt.failure))

variable {processes : List OwnedProcess} {events : List LoopEvent} {state : FinishCleanup}

/-- The end of a run, from all the attempts that were made. -/
theorem phase_of_ended (h : Finishing processes (events.any LoopEvent.isCancel) state)
    (hended : state.phase.Ended) :
    state.cleanup.attempts.map Attempt.duty = allDuties processes ∧
      state.phase = endOf state.cleanup.attempts (events.any LoopEvent.isCancel) := by
  obtain ⟨hcleaning, hagrees⟩ := h
  rw [endOf]
  cases hphase : state.phase with
  | awaiting shield mustCancel =>
      rw [hphase] at hended
      exact hended.elim
  | returned =>
      rw [hphase] at hagrees
      obtain ⟨hduties, hresult⟩ := hcleaning.result hagrees.1
      refine ⟨hduties, ?_⟩
      split at hresult
      case isTrue hnone =>
        rw [if_pos hnone, if_neg (by rw [hagrees.2]; exact Bool.false_ne_true)]
      case isFalse => exact nomatch hresult
  | cancelledError =>
      rw [hphase] at hagrees
      obtain ⟨hduties, hresult⟩ := hcleaning.result hagrees.1
      refine ⟨hduties, ?_⟩
      split at hresult
      case isTrue hnone => rw [if_pos hnone, if_pos hagrees.2]
      case isFalse => exact nomatch hresult
  | failed message =>
      rw [hphase] at hagrees
      obtain ⟨hduties, hresult⟩ := hcleaning.result hagrees
      refine ⟨hduties, ?_⟩
      split at hresult
      case isTrue => exact nomatch hresult
      case isFalse hsome =>
        rw [if_neg hsome, Except.error.inj hresult]

/-- The cleanup of any processes, with any outcomes and any cancellations of the awaiting task.
Whenever its task is done, both signals and a last wait have been attempted once on every process,
and it raises the failures of all of them, or else each attempt has succeeded. `finish_cleanup` can
always be brought to its end, and ends only then: with the failures, else with the cancellation
where there was one, else by returning. -/
theorem finish_cleanup_complete (processes : List OwnedProcess) (events : List LoopEvent)
    {state : FinishCleanup}
    (hrun : (FinishCleanup.initial processes).run events = some state) :
    (∀ result, state.cleanup.result = some result →
        state.cleanup.attempts.map Attempt.duty = allDuties processes ∧
        (result = .ok () ↔ ∀ attempt ∈ state.cleanup.attempts, attempt.Succeeded) ∧
        ∀ message, result = .error message →
          message = String.intercalate "; " (state.cleanup.attempts.filterMap Attempt.failure)) ∧
      (state.phase.Ended →
        state.cleanup.attempts.map Attempt.duty = allDuties processes ∧
        state.phase = endOf state.cleanup.attempts (events.any LoopEvent.isCancel)) ∧
      ∃ more final, state.run more = some final ∧ final.phase.Ended := by
  have h := finishing_run hrun
  refine ⟨?_, phase_of_ended h, ?_⟩
  · intro result hresult
    obtain ⟨hduties, hresult⟩ := h.cleaning.result hresult
    -- an empty list of failures is the success of every attempt
    have hnone : (state.cleanup.attempts.filterMap Attempt.failure).isEmpty = true ↔
        ∀ attempt ∈ state.cleanup.attempts, attempt.Succeeded := by
      rw [List.isEmpty_iff, List.filterMap_eq_nil_iff]
      exact forall₂_congr fun attempt _ => failure_eq_none
    refine ⟨hduties, ?_, ?_⟩
    · rw [← hnone, hresult]
      split
      case isTrue hempty => exact ⟨fun _ => hempty, fun _ => rfl⟩
      case isFalse hsome => exact ⟨nofun, fun hempty => absurd hempty hsome⟩
    · intro message hmessage
      rw [hmessage] at hresult
      split at hresult
      case isTrue => exact nomatch hresult
      case isFalse => exact Except.error.inj hresult
  -- the cleanup is brought to its result, and then the awaiting task to its end
  · obtain ⟨first, done, hfirst, hdone⟩ := exists_run_to_result state
    obtain ⟨second, final, hsecond, hended⟩ := exists_run_to_end hdone
    exact ⟨first ++ second, final, Transition.run_append hfirst hsecond, hended⟩

/-- A server that is gone and a client that cannot be reaped, with three cancellations. -/
def stubbornClient : List LoopEvent :=
  [.cleanup (.signalled .processLookupError), .cancel, .cleanup (.signalled .delivered), .wake,
    .cleanup (.polled fun owned => if owned.role = "server" then some 0 else none), .cancel,
    .cancel, .cleanup .expired, .cleanup (.signalled .processLookupError), .wake,
    .cleanup (.signalled (.permissionError "[Errno 1]" ⟨true, .ok true, [.ok false]⟩)),
    .cleanup .expired, .cleanup (.waited .reaped),
    .cleanup (.waited (.timedOut (.ok ()) (.error "timed out"))), .settle, .wake]

/-- The two processes of the example. -/
def stubbornProcesses : List OwnedProcess := [⟨"server", 7⟩, ⟨"client", 8⟩]

theorem finish_cleanup_complete_stubborn :
    ∃ state, (FinishCleanup.initial stubbornProcesses).run stubbornClient = some state ∧
      (∀ result, state.cleanup.result = some result →
        state.cleanup.attempts.map Attempt.duty = allDuties stubbornProcesses ∧
        (result = .ok () ↔ ∀ attempt ∈ state.cleanup.attempts, attempt.Succeeded) ∧
        ∀ message, result = .error message →
          message = String.intercalate "; " (state.cleanup.attempts.filterMap Attempt.failure)) ∧
      (state.phase.Ended →
        state.cleanup.attempts.map Attempt.duty = allDuties stubbornProcesses ∧
        state.phase = endOf state.cleanup.attempts (stubbornClient.any LoopEvent.isCancel)) ∧
      ∃ more final, state.run more = some final ∧ final.phase.Ended :=
  ⟨_, rfl, finish_cleanup_complete stubbornProcesses stubbornClient rfl⟩

end Whole

end FogHttpBenchmark.Lifecycle
