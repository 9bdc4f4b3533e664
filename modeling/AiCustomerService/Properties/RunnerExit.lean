import AiCustomerService.Properties.RunnerShutdown
import Mathlib.Data.List.Nodup

/-!
# How the service runner returns

`run_all_workers` returns once, after all of its tasks, and the status says why.
-/

namespace AiCustomerService

open Support

/-- The entry is the last one of a run. -/
def RunnerLog.isShutdown : RunnerLog → Bool
  | .shutdown _ _ _ _ => true
  | _ => false

namespace RunnerState

variable {config : RunnerConfig} {s s' : RunnerState}

/-! ## The status -/

theorem isPrefixOf_signal (sig : ShutdownSignal) :
    "signal:".toList.isPrefixOf sig.reason.toList = true := by
  cases sig <;> decide

/-- The runner stops on an error exactly where it was told to and one was recorded. -/
theorem finalStatus_eq_stoppedOnError_iff {status : RunnerStatus} (h : status ≠ .stoppedOnError) :
    finalStatus config s status = .stoppedOnError ↔
      config.stopOnError = true ∧ 0 < s.summary.errorsTotal := by
  unfold finalStatus
  by_cases herrors : config.stopOnError = true ∧ 0 < s.summary.errorsTotal
  · have hcond : (config.stopOnError && s.summary.errorsTotal != 0) = true := by
      simp only [herrors.1, Bool.true_and, bne_iff_ne]
      exact herrors.2.ne'
    rw [if_pos hcond]
    exact iff_of_true rfl herrors
  · have hcond : ¬(config.stopOnError && s.summary.errorsTotal != 0) = true := by
      simpa [Nat.pos_iff_ne_zero] using herrors
    rw [if_neg hcond]
    refine iff_of_false ?_ herrors
    split
    · decide
    · exact h

/-- The status is OK only for a runner that nothing has stopped. -/
theorem reason_of_finalStatus_ok {status : RunnerStatus}
    (hok : finalStatus config s status = .ok) (hs : Stopped config s)
    (hphase : ¬(s.phase = .cancelling ∨ ∃ status, s.phase = .finished status)) :
    s.shutdownReason = none := by
  unfold finalStatus at hok
  split at hok
  · cases hok
  next hcontinue =>
    split at hok
    · cases hok
    next hsignal =>
      subst hok
      cases hreason : s.shutdownReason with
      | none => rfl
      | some reason =>
          obtain ⟨-, -, hcause⟩ := hs.cause reason hreason
          cases hcause with
          | stopOnError hconfig herrors =>
              refine absurd ?_ hcontinue
              simp only [hconfig, Bool.true_and, bne_iff_ne]
              exact herrors.ne'
          | signal sig =>
              refine absurd ⟨rfl, ?_⟩ hsignal
              rw [hreason]
              exact isPrefixOf_signal sig
          | cancelled hcancelled => exact absurd hcancelled hphase

theorem finalStatus_eq_ok {status : RunnerStatus} (h : finalStatus config s status = .ok) :
    status = .ok := by
  unfold finalStatus at h
  split at h
  · cases h
  · split at h
    · cases h
    · exact h

/-! ## The end -/

/-- What holds of a runner that has returned. -/
structure Returned (config : RunnerConfig) (s : RunnerState) (status : RunnerStatus) : Prop where
  ended : ∀ worker ∈ config.enabled, (s.tasks worker).phase.isDone = true
  printed : ∃ before, (∀ entry ∈ before, entry.isShutdown = false) ∧
    s.log = before ++ [.shutdown status s.shutdownReason
      (fun worker => (s.summary.workers worker).iterations) s.summary.errorsTotal]
  onError : status = .stoppedOnError ↔ config.stopOnError = true ∧ 0 < s.summary.errorsTotal
  ok : status = .ok → s.shutdownReason = none

/-- Every task left its loop for a reason, and the runner prints its end when it returns. -/
structure Exit (config : RunnerConfig) (s : RunnerState) : Prop where
  stopped : Stopped config s
  outside : ∀ worker, worker ∉ config.enabled → (s.tasks worker).phase = .created
  left : ∀ worker, (s.tasks worker).phase = .returned →
    s.stopEvent = true ∨ exhausted config (s.tasks worker).iteration = true
  running : s.isFinished = false → ∀ entry ∈ s.log, entry.isShutdown = false
  returned : ∀ status, s.phase = .finished status → Returned config s status

theorem exit_start (config : RunnerConfig) : Exit config config.start where
  stopped := stopped_run config []
  outside _ _ := rfl
  left _ h := by cases h
  running _ entry h := by
    rw [List.mem_singleton.mp h]
    rfl
  returned _ h := by cases h

theorem isFinished_of_phase {status : RunnerStatus} (h : s.phase = .finished status) :
    s.isFinished = true := by
  unfold isFinished
  rw [h]

theorem isFinished_eq_false (h : ∀ status, s.phase ≠ .finished status) : s.isFinished = false := by
  unfold isFinished
  split
  next status hphase => exact absurd hphase (h status)
  · rfl

/-- A task that is about to move belongs to an enabled worker and has not ended. -/
theorem Exit.enabled (h : Exit config s) {worker : WorkerName}
    (hphase : (s.tasks worker).phase ≠ .created) : worker ∈ config.enabled := by
  by_contra houtside
  exact hphase (h.outside worker houtside)

/-- Nothing moves after the end. -/
theorem Exit.not_transition (h : Exit config s) {status : RunnerStatus}
    (hphase : s.phase = .finished status) : ¬Transition config s s' := by
  have hended := (h.returned status hphase).ended
  have hfinished := isFinished_of_phase hphase
  intro htransition
  cases htransition with
  | begin worker entries henabled hidle hstop hlimit hentries =>
      have hdone := hended worker henabled
      rcases hidle with hidle | hidle <;> simp [hidle, TaskPhase.isDone] at hdone
  | leave worker entries henabled hidle hstop hentries =>
      have hdone := hended worker henabled
      rcases hidle with hidle | hidle <;> simp [hidle, TaskPhase.isDone] at hdone
  | success worker result elapsed hticking =>
      have hdone := hended worker (h.enabled (by simp [hticking]))
      simp [hticking, TaskPhase.isDone] at hdone
  | failure error hticking hcontinue =>
      have hdone := hended error.worker (h.enabled (by simp [hticking]))
      simp [hticking, TaskPhase.isDone] at hdone
  | failureStops error hticking hstops =>
      have hdone := hended error.worker (h.enabled (by simp [hticking]))
      simp [hticking, TaskPhase.isDone] at hdone
  | abandon worker habandon =>
      rcases habandon with hticking | ⟨hcancelling, -⟩
      · have hdone := hended worker (h.enabled (by simp [hticking]))
        simp [hticking, TaskPhase.isDone] at hdone
      · simp [isCancelling, hphase] at hcancelling
  | signal sig hrunning hstop => simp [hfinished] at hrunning
  | drain hwatching hstop => simp [hphase] at hwatching
  | timeOut pending hdraining => simp [hphase] at hdraining
  | cancelRunner hrunning => simp [hfinished] at hrunning
  | finishOk hwaiting hpending => simp [hphase] at hwaiting
  | finishTimeout names hwaiting hpending => simp [hphase] at hwaiting
  | finishCancelled hwaiting hpending => simp [hphase] at hwaiting

/-- The tasks of a runner that goes on; `entries` is what is printed. -/
theorem Exit.goOn (h : Exit config s) (hs' : Stopped config s') {entries : List RunnerLog}
    (hentries : ∀ entry ∈ entries, entry.isShutdown = false)
    (hlog : s'.log = s.log ++ entries)
    (hrunning : ∀ status, s.phase ≠ .finished status)
    (hrunning' : ∀ status, s'.phase ≠ .finished status)
    (houtside : ∀ worker, worker ∉ config.enabled → (s'.tasks worker).phase = .created)
    (hleft : ∀ worker, (s'.tasks worker).phase = .returned →
      s'.stopEvent = true ∨ exhausted config (s'.tasks worker).iteration = true) :
    Exit config s' where
  stopped := hs'
  outside := houtside
  left := hleft
  running _ entry hmem := by
    rw [hlog] at hmem
    rcases List.mem_append.mp hmem with hmem | hmem
    · exact h.running (isFinished_eq_false hrunning) entry hmem
    · exact hentries entry hmem
  returned status hphase := absurd hphase (hrunning' status)

/-- A worker that is not enabled keeps its task. -/
theorem Exit.outside_update (h : Exit config s) {worker : WorkerName} (task : WorkerTask)
    (henabled : worker ∈ config.enabled) :
    ∀ other, other ∉ config.enabled →
      (Function.update s.tasks worker task other).phase = .created := by
  intro other houtside
  have hother : other ≠ worker := by
    rintro rfl
    exact houtside henabled
  rw [Function.update_of_ne hother]
  exact h.outside other houtside

/-- A task that moves has left its loop only for a reason. -/
theorem Exit.left_update (h : Exit config s) {worker : WorkerName} {task : WorkerTask}
    {stop : Bool} (hstop : s.stopEvent = true → stop = true)
    (htask : task.phase = .returned → stop = true ∨ exhausted config task.iteration = true) :
    ∀ other, (Function.update s.tasks worker task other).phase = .returned →
      stop = true ∨ exhausted config (Function.update s.tasks worker task other).iteration =
        true := by
  intro other
  rcases eq_or_ne other worker with rfl | hother
  · rw [Function.update_self]
    exact htask
  · rw [Function.update_of_ne hother]
    exact fun hreturned => (h.left other hreturned).imp_left hstop

theorem exhausted_of_phaseAfter {iteration : Nat} (h : phaseAfter config iteration = .returned) :
    exhausted config iteration = true := by
  unfold phaseAfter at h
  split at h
  · assumption
  · cases h

theorem isShutdown_of_mayPrintStart {entries : List RunnerLog} (h : MayPrintStart entries) :
    ∀ entry ∈ entries, entry.isShutdown = false := by
  rcases h with rfl | ⟨worker, rfl⟩
  · simp
  · simp [RunnerLog.isShutdown]

/-- The end of a runner whose tasks have ended. -/
theorem Exit.finish (h : Exit config s) {status : RunnerStatus}
    (hstatus : status ≠ .stoppedOnError) (hs' : Stopped config (finish config s status))
    (hrunning : ∀ status, s.phase ≠ .finished status)
    (hok : status = .ok → s.phase ≠ .cancelling) (hpending : s.pendingWorkers config = []) :
    Exit config (finish config s status) where
  stopped := hs'
  outside := h.outside
  left := h.left
  running hfinished := by cases hfinished
  returned final hphase := by
    obtain rfl : finalStatus config s status = final := RunnerPhase.finished.inj hphase
    constructor
    · intro worker henabled
      by_contra hgoing
      have hmem : worker ∈ s.pendingWorkers config := by
        unfold pendingWorkers
        have hpending : (s.tasks worker).phase.isDone = false := Bool.eq_false_of_not_eq_true hgoing
        exact List.mem_filter.mpr ⟨henabled, by rw [hpending]; rfl⟩
      rw [hpending] at hmem
      cases hmem
    · exact ⟨s.log, h.running (isFinished_eq_false hrunning), rfl⟩
    · exact finalStatus_eq_stoppedOnError_iff hstatus
    · intro hfinal
      refine reason_of_finalStatus_ok (s := s) hfinal h.stopped ?_
      rintro (hcancelling | ⟨other, hother⟩)
      · exact hok (finalStatus_eq_ok hfinal) hcancelling
      · exact hrunning other hother

theorem exit_transition (h : Transition config s s') (hs : Exit config s) : Exit config s' := by
  have hrunning (status : RunnerStatus) : s.phase ≠ .finished status :=
    fun hphase => hs.not_transition hphase h
  have hs' := stopped_transition h hs.stopped
  cases h with
  | begin worker entries henabled hphase hstop hlimit hentries =>
      exact hs.goOn hs' (isShutdown_of_mayPrintStart hentries) rfl hrunning hrunning
        (hs.outside_update _ henabled) (hs.left_update id (by simp))
  | leave worker entries henabled hphase hstop hentries =>
      exact hs.goOn hs' (isShutdown_of_mayPrintStart hentries) rfl hrunning hrunning
        (hs.outside_update _ henabled) (hs.left_update id fun _ => hstop)
  | success worker result elapsed hphase =>
      exact hs.goOn hs' (by simp [RunnerLog.isShutdown]) rfl hrunning hrunning
        (hs.outside_update _ (hs.enabled (by simp [hphase])))
        (hs.left_update id fun hleft => .inr (exhausted_of_phaseAfter hleft))
  | failure error hphase hcontinue =>
      exact hs.goOn hs' (by simp [RunnerLog.isShutdown]) rfl hrunning hrunning
        (hs.outside_update _ (hs.enabled (by simp [hphase])))
        (hs.left_update id fun hleft => .inr (exhausted_of_phaseAfter hleft))
  | failureStops error hphase hstops =>
      exact hs.goOn hs' (by simp [RunnerLog.isShutdown]) rfl hrunning hrunning
        (hs.outside_update _ (hs.enabled (by simp [hphase])))
        (hs.left_update (fun _ => rfl) fun _ => .inl rfl)
  | abandon worker hphase =>
      have henabled : worker ∈ config.enabled := by
        rcases hphase with hticking | hcancelling
        · exact hs.enabled (by simp [hticking])
        · exact hcancelling.2.1
      exact hs.goOn hs' (by simp) (List.append_nil _).symm hrunning hrunning
        (hs.outside_update _ henabled) (hs.left_update id (by simp))
  | signal sig hfinished hstop =>
      exact hs.goOn hs' (by simp [RunnerLog.isShutdown]) rfl hrunning hrunning hs.outside
        fun worker _ => .inl rfl
  | drain hphase hstop =>
      exact hs.goOn hs' (by simp) (List.append_nil _).symm hrunning (by simp) hs.outside hs.left
  | timeOut pending hphase =>
      exact hs.goOn hs' (by simp) (List.append_nil _).symm hrunning (by simp) hs.outside hs.left
  | cancelRunner hfinished =>
      exact hs.goOn hs' (by simp) (List.append_nil _).symm hrunning (by simp) hs.outside
        fun worker _ => .inl rfl
  | finishOk hphase hpending =>
      refine hs.finish (by simp) hs' hrunning (fun _ => ?_) hpending
      rcases hphase with hphase | ⟨pending, hphase⟩ <;> simp [hphase]
  | finishTimeout names hphase hpending =>
      have hprinted : Exit config
          (s.print (.shutdownTimeout (sortedWorkers.filter (· ∈ names)))) :=
        hs.goOn (hs.stopped.mono rfl rfl le_rfl id) (by simp [RunnerLog.isShutdown]) rfl hrunning
          hrunning hs.outside hs.left
      exact hprinted.finish (by simp) hs' hrunning (by simp) hpending
  | finishCancelled hphase hpending =>
      exact hs.finish (by simp) hs' hrunning (by simp) hpending

theorem exit_run (config : RunnerConfig) (events : List RunnerEvent) :
    Exit config (run config events) :=
  run_invariant (exit_start config) (fun _ _ h hs => exit_transition h hs) events

/-- After the end every event changes nothing. -/
theorem Exit.step_eq (h : Exit config s) {status : RunnerStatus}
    (hphase : s.phase = .finished status) (e : RunnerEvent) : step config s e = s := by
  rcases step_cases config s e with hsame | hmoves
  · exact hsame
  · exact absurd hmoves (h.not_transition hphase)

/-- When the runner returns, the tasks of all enabled workers have ended, its end is printed, for
the first time and as the last entry, with the status, and nothing happens afterwards. -/
theorem runner_returns_once (config : RunnerConfig) (events later : List RunnerEvent)
    (status : RunnerStatus) (h : (run config events).phase = .finished status) :
    Returned config (run config events) status ∧ run config (events ++ later) = run config events := by
  have hexit := exit_run config events
  refine ⟨hexit.returned status h, ?_⟩
  unfold run
  rw [runSteps_append]
  have hkeeps (s : RunnerState) (e : RunnerEvent) (hs : s = run config events) :
      step config s e = run config events := by
    subst hs
    exact hexit.step_eq h e
  exact runSteps_invariant hkeeps rfl later

/-- The exit code is 0 only where nothing has stopped the runner: every enabled worker has made as
many iterations as the limit says, unless its own tick was cancelled. -/
theorem exit_code_zero (config : RunnerConfig) (events : List RunnerEvent) (status : RunnerStatus)
    (h : (run config events).phase = .finished status) (hcode : status.exitCode = 0) :
    (run config events).stopEvent = false ∧ (run config events).shutdownReason = none ∧
      ∀ worker ∈ config.enabled, ((run config events).tasks worker).phase = .cancelled ∨
        config.maxIterations = some ((run config events).summary.workers worker).iterations := by
  obtain rfl : status = .ok := by
    cases status with
    | ok => rfl
    | _ => cases hcode
  have hexit := exit_run config events
  have hreturned := hexit.returned .ok h
  have hreason := hreturned.ok rfl
  have hstop := hexit.stopped.without hreason
  refine ⟨hstop, hreason, fun worker henabled => ?_⟩
  have hdone := hreturned.ended worker henabled
  cases hphase : ((run config events).tasks worker).phase with
  | cancelled => exact .inl rfl
  | returned =>
      right
      have hexhausted := (hexit.left worker hphase).resolve_left (by simp [hstop])
      have hcounts := (accounts_run config events).counts worker
      unfold WorkerTask.Counts at hcounts
      rw [hphase] at hcounts
      dsimp only at hcounts
      cases hlimit : config.maxIterations with
      | none => simp [exhausted, hlimit] at hexhausted
      | some limit =>
          have hwithin := withinLimit_run config events limit hlimit worker
          simp only [exhausted, hlimit, Option.any_some, decide_eq_true_eq] at hexhausted
          rw [← hcounts]
          exact congrArg some (le_antisymm hexhausted hwithin)
  | _ => simp [hphase, TaskPhase.isDone] at hdone

/-- Every worker but the polling receiver runs once. -/
def onceConfig : RunnerConfig := ⟨false, some 1, false⟩

/-- The ticks of the workers one after another, and the end. -/
def onceEvents : List RunnerEvent :=
  (onceConfig.enabled.flatMap fun worker =>
    [.resume worker, .tickDone worker (.result ∅) 5]) ++ [.wake]

theorem runner_returns_once_witness :
    Returned onceConfig (run onceConfig onceEvents) .ok ∧
      run onceConfig (onceEvents ++ [.signal .sigint]) = run onceConfig onceEvents :=
  runner_returns_once onceConfig onceEvents [.signal .sigint] .ok (by decide)

theorem exit_code_zero_once :
    ((run onceConfig onceEvents).tasks .senderWorker).phase = .cancelled ∨
      some 1 = some ((run onceConfig onceEvents).summary.workers .senderWorker).iterations :=
  (exit_code_zero onceConfig onceEvents .ok (by decide) rfl).2.2 .senderWorker (by decide)

/-! ## Stopping on an error -/

/-- A worker that has failed has left its loop. -/
def OneError (s : RunnerState) : Prop :=
  ∀ worker, (s.summary.workers worker).errors = 0 ∨
    (s.summary.workers worker).errors = 1 ∧ (s.tasks worker).phase = .returned

/-- A task that has not failed may move. -/
theorem OneError.update (h : OneError s) {worker : WorkerName} (task : WorkerTask)
    (hphase : (s.tasks worker).phase ≠ .returned) (other : WorkerName) :
    (s.summary.workers other).errors = 0 ∨
      (s.summary.workers other).errors = 1 ∧
        (Function.update s.tasks worker task other).phase = .returned := by
  rcases eq_or_ne other worker with rfl | hother
  · exact .inl ((h other).resolve_right fun hfailed => hphase hfailed.2)
  · rw [Function.update_of_ne hother]
    exact h other

theorem errors_recordSuccess (summary : RunnerSummary) (name worker : WorkerName)
    (result : JsonObject) (elapsed : Nat) :
    ((summary.recordSuccess name result elapsed).workers worker).errors =
      (summary.workers worker).errors := by
  rcases eq_or_ne worker name with rfl | hother
  · simp [RunnerSummary.recordSuccess]
  · simp [RunnerSummary.recordSuccess, hother]

theorem oneError_transition (hconfig : config.stopOnError = true) (h : Transition config s s')
    (hs : OneError s) : OneError s' := by
  cases h with
  | begin worker entries henabled hphase hstop hlimit hentries =>
      refine hs.update _ ?_
      rcases hphase with hphase | hphase <;> simp [hphase]
  | leave worker entries henabled hphase hstop hentries =>
      refine hs.update _ ?_
      rcases hphase with hphase | hphase <;> simp [hphase]
  | success worker result elapsed hphase =>
      intro other
      dsimp only
      rw [errors_recordSuccess]
      exact hs.update _ (by simp [hphase]) other
  | failure error hphase hcontinue =>
      rw [hconfig] at hcontinue
      cases hcontinue
  | failureStops error hphase hstops =>
      intro other
      rcases eq_or_ne other error.worker with rfl | hother
      · have hnone := (hs error.worker).resolve_right (by simp [hphase])
        right
        simp [RunnerSummary.recordError, hnone]
      · simpa [RunnerSummary.recordError, hother] using hs other
  | abandon worker hphase =>
      refine hs.update _ ?_
      rcases hphase with hticking | ⟨-, -, hdone⟩
      · simp [hticking]
      · intro hreturned
        simp [hreturned, TaskPhase.isDone] at hdone
  | signal sig hfinished hstop => exact hs
  | drain hphase hstop => exact hs
  | timeOut pending hphase => exact hs
  | cancelRunner hfinished => exact hs
  | finishOk hphase hpending => exact hs
  | finishTimeout names hphase hpending => exact hs
  | finishCancelled hphase hpending => exact hs

/-- Every error has stopped the runner. -/
theorem errorStops_transition (hconfig : config.stopOnError = true) (h : Transition config s s')
    (hs : 0 < s.summary.errorsTotal → s.stopEvent = true) :
    0 < s'.summary.errorsTotal → s'.stopEvent = true := by
  cases h with
  | failure error hphase hcontinue =>
      rw [hconfig] at hcontinue
      cases hcontinue
  | failureStops => exact fun _ => rfl
  | signal => exact fun _ => rfl
  | cancelRunner => exact fun _ => rfl
  | _ => exact hs

theorem mem_sortedWorkers (worker : WorkerName) : worker ∈ sortedWorkers := by
  cases worker <;> decide

/-- As many errors as workers are all retained. -/
theorem length_le_of_nodup {errors : List TickError} (h : (errors.map TickError.worker).Nodup) :
    errors.length ≤ maxRetainedErrors := by
  have hsubset : errors.map TickError.worker ⊆ sortedWorkers :=
    fun worker _ => mem_sortedWorkers worker
  have hlength := (List.subperm_of_subset h hsubset).length_le
  rw [List.length_map] at hlength
  exact hlength.trans (by decide)

/-- A runner that stops on errors lets every worker fail at most once and forgets no error; after
the first one it is stopped, and it returns with the status of an error exactly where there was
one. -/
theorem stops_on_first_error (config : RunnerConfig) (events : List RunnerEvent)
    (h : config.stopOnError = true) :
    (∀ worker, ((run config events).summary.workers worker).errors ≤ 1) ∧
      (run config events).summary.errors = loggedErrors (run config events).log ∧
      (loggedErrors (run config events).log ≠ [] → (run config events).stopEvent = true) ∧
      ∀ status, (run config events).phase = .finished status →
        (status = .stoppedOnError ↔ loggedErrors (run config events).log ≠ []) := by
  have hbooks := (accounts_run config events).books
  have hone : OneError (run config events) :=
    run_invariant (fun _ => .inl rfl) (fun _ _ => oneError_transition h) events
  have hpositive : 0 < (run config events).summary.errorsTotal ↔
      loggedErrors (run config events).log ≠ [] := by
    rw [hbooks.total, List.length_pos_iff]
  have hatMost (worker : WorkerName) :
      ((run config events).summary.workers worker).errors ≤ 1 := by
    rcases hone worker with hnone | ⟨hsingle, -⟩ <;> omega
  have hnodup : ((loggedErrors (run config events).log).map TickError.worker).Nodup := by
    refine List.nodup_iff_count_le_one.mpr fun worker => ?_
    have hcount := hatMost worker
    rw [hbooks.errors, ← List.countP_eq_length_filter] at hcount
    rw [List.count_eq_countP, List.countP_map]
    exact hcount
  refine ⟨hatMost, ?_, ?_, ?_⟩
  · rw [hbooks.retained, List.rtake,
      Nat.sub_eq_zero_of_le (length_le_of_nodup hnodup), List.drop_zero]
  · have hstops : 0 < (run config events).summary.errorsTotal →
        (run config events).stopEvent = true :=
      @run_invariant config (fun s => 0 < s.summary.errorsTotal → s.stopEvent = true)
        (fun hnone => by cases hnone) (fun _ _ => errorStops_transition h) events
    rwa [hpositive] at hstops
  · intro status hphase
    rw [((exit_run config events).returned status hphase).onError, hpositive]
    exact and_iff_right h

/-- The first tick of the sender raises. -/
theorem stops_on_first_error_sender :
    (run ⟨true, none, true⟩ [.resume .senderWorker,
      .tickDone .senderWorker (.exception "RuntimeError" "boom") 5]).stopEvent = true :=
  (stops_on_first_error ⟨true, none, true⟩ _ rfl).2.2.1 (by
    have hone : loggedErrors (run ⟨true, none, true⟩ [.resume .senderWorker,
      .tickDone .senderWorker (.exception "RuntimeError" "boom") 5]).log =
        [⟨.senderWorker, "RuntimeError", "boom", 5⟩] := rfl
    rw [hone]
    simp)

end RunnerState

end AiCustomerService
