import AiCustomerService.Workers.RunnerRuns
import Mathlib.Data.List.DropRight
import Mathlib.Data.List.Range

/-!
# What the summary of the service runner says

The summary is compared with the printed log: every tick that ended is counted once, the ticks of
a worker are numbered without a gap, and the retained errors are the last ones that were printed.
-/

namespace AiCustomerService

open Support

/-! ## Ticks in the log -/

namespace RunnerLog

/-- The error of an entry. -/
def error? : RunnerLog → Option TickError
  | .tickError error _ => some error
  | _ => none

/-- The result of a worker's tick. -/
def resultOf (worker : WorkerName) : RunnerLog → Option JsonObject
  | .tickEnd name _ _ result => if name = worker then some result else none
  | _ => none

/-- The number of a worker's tick that ended. -/
def tickOf (worker : WorkerName) : RunnerLog → Option Nat
  | .tickEnd name iteration _ _ => if name = worker then some iteration else none
  | .tickError error iteration => if error.worker = worker then some iteration else none
  | _ => none

/-- The entry is about a tick that ended. -/
def isTick : RunnerLog → Bool
  | .tickEnd _ _ _ _ => true
  | .tickError _ _ => true
  | _ => false

end RunnerLog

/-- The errors that were printed. -/
def loggedErrors (log : List RunnerLog) : List TickError := log.filterMap RunnerLog.error?

/-- The results that were printed for a worker. -/
def loggedResults (log : List RunnerLog) (worker : WorkerName) : List JsonObject :=
  log.filterMap (RunnerLog.resultOf worker)

/-- The numbers of a worker's ticks in the order in which they ended. -/
def loggedTicks (log : List RunnerLog) (worker : WorkerName) : List Nat :=
  log.filterMap (RunnerLog.tickOf worker)

section Quiet

variable {entries : List RunnerLog} (h : ∀ entry ∈ entries, entry.isTick = false)

include h

theorem loggedErrors_eq_nil : loggedErrors entries = [] := by
  refine List.filterMap_eq_nil_iff.mpr fun entry hmem => ?_
  have hquiet := h entry hmem
  cases entry with
  | tickError error iteration => cases hquiet
  | _ => rfl

theorem loggedResults_eq_nil (worker : WorkerName) : loggedResults entries worker = [] := by
  refine List.filterMap_eq_nil_iff.mpr fun entry hmem => ?_
  have hquiet := h entry hmem
  cases entry with
  | tickEnd name iteration elapsed result => cases hquiet
  | _ => rfl

theorem loggedTicks_eq_nil (worker : WorkerName) : loggedTicks entries worker = [] := by
  refine List.filterMap_eq_nil_iff.mpr fun entry hmem => ?_
  have hquiet := h entry hmem
  cases entry with
  | tickEnd name iteration elapsed result => cases hquiet
  | tickError error iteration => cases hquiet
  | _ => rfl

end Quiet

/-! ## The books -/

/-- Appending one element to what is retained of a list retains the longer list. -/
theorem retain_concat (errors : List TickError) (error : TickError) :
    RunnerSummary.retain (errors.rtake maxRetainedErrors ++ [error]) =
      (errors ++ [error]).rtake maxRetainedErrors := by
  unfold RunnerSummary.retain List.rtake
  simp only [List.length_append, List.length_drop, List.length_singleton]
  by_cases hfull : errors.length < maxRetainedErrors
  · have hfew : errors.length - maxRetainedErrors = 0 := by omega
    rw [if_neg (by omega), hfew, List.drop_zero,
      show errors.length + 1 - maxRetainedErrors = 0 by omega, List.drop_zero]
  · have hmax : maxRetainedErrors = 100 := rfl
    rw [if_pos (by omega), show errors.length - (errors.length - maxRetainedErrors) + 1 -
      maxRetainedErrors = 1 by omega, ← List.drop_append_of_le_length (by omega), List.drop_drop]
    congr 1
    omega

/-- The summary agrees with the log. -/
structure Books (summary : RunnerSummary) (log : List RunnerLog) : Prop where
  total : summary.errorsTotal = (loggedErrors log).length
  retained : summary.errors = (loggedErrors log).rtake maxRetainedErrors
  successes : ∀ worker, (summary.workers worker).successes = (loggedResults log worker).length
  errors : ∀ worker, (summary.workers worker).errors =
    ((loggedErrors log).filter fun error => error.worker = worker).length
  lastResult : ∀ worker, (summary.workers worker).lastResult = (loggedResults log worker).getLast?
  iterations : ∀ worker, (summary.workers worker).iterations =
    (summary.workers worker).successes + (summary.workers worker).errors
  numbered : ∀ worker, loggedTicks log worker =
    List.range' 1 (summary.workers worker).iterations

namespace Books

variable {summary : RunnerSummary} {log : List RunnerLog}

theorem quiet (h : Books summary log) {entries : List RunnerLog}
    (hquiet : ∀ entry ∈ entries, entry.isTick = false) : Books summary (log ++ entries) := by
  have herrors : loggedErrors (log ++ entries) = loggedErrors log := by
    rw [loggedErrors, List.filterMap_append, ← loggedErrors, ← loggedErrors,
      loggedErrors_eq_nil hquiet, List.append_nil]
  have hresults (worker) : loggedResults (log ++ entries) worker = loggedResults log worker := by
    rw [loggedResults, List.filterMap_append, ← loggedResults, ← loggedResults,
      loggedResults_eq_nil hquiet, List.append_nil]
  have hticks (worker) : loggedTicks (log ++ entries) worker = loggedTicks log worker := by
    rw [loggedTicks, List.filterMap_append, ← loggedTicks, ← loggedTicks,
      loggedTicks_eq_nil hquiet, List.append_nil]
  constructor
  · rw [herrors]
    exact h.total
  · rw [herrors]
    exact h.retained
  · intro worker
    rw [hresults]
    exact h.successes worker
  · intro worker
    rw [herrors]
    exact h.errors worker
  · intro worker
    rw [hresults]
    exact h.lastResult worker
  · exact h.iterations
  · intro worker
    rw [hticks]
    exact h.numbered worker

/-- One more tick of a worker is numbered after those before. -/
theorem range'_concat_tick (n : Nat) : List.range' 1 n ++ [n + 1] = List.range' 1 (n + 1) := by
  rw [List.range'_1_concat, Nat.add_comm 1 n]

theorem success (h : Books summary log) (worker : WorkerName) (result : JsonObject)
    (elapsed : Nat) :
    Books (summary.recordSuccess worker result elapsed)
      (log ++ [.tickEnd worker ((summary.workers worker).iterations + 1) elapsed result]) := by
  have herrors : loggedErrors
      (log ++ [.tickEnd worker ((summary.workers worker).iterations + 1) elapsed result]) =
      loggedErrors log := by
    simp [loggedErrors, RunnerLog.error?]
  constructor
  · rw [herrors]
    exact h.total
  · rw [herrors]
    exact h.retained
  · intro other
    rcases eq_or_ne worker other with rfl | hother
    · simp [RunnerSummary.recordSuccess, loggedResults, RunnerLog.resultOf, h.successes]
    · simp [RunnerSummary.recordSuccess, loggedResults, RunnerLog.resultOf, h.successes, hother,
        hother.symm]
  · intro other
    rw [herrors, ← h.errors]
    rcases eq_or_ne other worker with rfl | hother
    · simp [RunnerSummary.recordSuccess]
    · simp [RunnerSummary.recordSuccess, hother]
  · intro other
    rcases eq_or_ne worker other with rfl | hother
    · simp [RunnerSummary.recordSuccess, loggedResults, RunnerLog.resultOf]
    · simp [RunnerSummary.recordSuccess, loggedResults, RunnerLog.resultOf, h.lastResult, hother,
        hother.symm]
  · intro other
    rcases eq_or_ne other worker with rfl | hother
    · simp only [RunnerSummary.recordSuccess, Function.update_self, h.iterations]
      omega
    · simp [RunnerSummary.recordSuccess, hother, h.iterations]
  · intro other
    rcases eq_or_ne worker other with rfl | hother
    · simp only [RunnerSummary.recordSuccess, Function.update_self]
      rw [← range'_concat_tick, ← h.numbered]
      simp [loggedTicks, RunnerLog.tickOf]
    · simp only [RunnerSummary.recordSuccess, Function.update_of_ne hother.symm]
      rw [← h.numbered]
      simp [loggedTicks, RunnerLog.tickOf, hother]

theorem failure (h : Books summary log) (error : TickError) :
    Books (summary.recordError error)
      (log ++ [.tickError error ((summary.workers error.worker).iterations + 1)]) := by
  have herrors : loggedErrors
      (log ++ [.tickError error ((summary.workers error.worker).iterations + 1)]) =
      loggedErrors log ++ [error] := by
    simp [loggedErrors, RunnerLog.error?]
  have hresults (worker) : loggedResults
      (log ++ [.tickError error ((summary.workers error.worker).iterations + 1)]) worker =
      loggedResults log worker := by
    simp [loggedResults, RunnerLog.resultOf]
  constructor
  · rw [herrors, List.length_append, ← h.total]
    rfl
  · rw [herrors, ← retain_concat, ← h.retained]
    rfl
  · intro other
    rw [hresults, ← h.successes]
    rcases eq_or_ne other error.worker with rfl | hother
    · simp [RunnerSummary.recordError]
    · simp [RunnerSummary.recordError, hother]
  · intro other
    rw [herrors, List.filter_append, List.length_append, ← h.errors]
    rcases eq_or_ne other error.worker with rfl | hother
    · simp [RunnerSummary.recordError]
    · simp [RunnerSummary.recordError, hother, hother.symm]
  · intro other
    rw [hresults, ← h.lastResult]
    rcases eq_or_ne other error.worker with rfl | hother
    · simp [RunnerSummary.recordError]
    · simp [RunnerSummary.recordError, hother]
  · intro other
    rcases eq_or_ne other error.worker with rfl | hother
    · simp only [RunnerSummary.recordError, Function.update_self, h.iterations]
      omega
    · simp [RunnerSummary.recordError, hother, h.iterations]
  · intro other
    rcases eq_or_ne other error.worker with rfl | hother
    · simp only [RunnerSummary.recordError, Function.update_self]
      rw [← range'_concat_tick, ← h.numbered]
      simp [loggedTicks, RunnerLog.tickOf]
    · simp only [RunnerSummary.recordError, Function.update_of_ne hother]
      rw [← h.numbered]
      simp [loggedTicks, RunnerLog.tickOf, hother.symm]

end Books

/-! ## The loops -/

/-- The loop counter of a task whose worker has ended `ended` ticks.  A cancelled task may have
been in a tick. -/
def WorkerTask.Counts (task : WorkerTask) (ended : Nat) : Prop :=
  match task.phase with
  | .ticking => task.iteration = ended + 1
  | .cancelled => ended ≤ task.iteration ∧ task.iteration ≤ ended + 1
  | _ => task.iteration = ended

/-- The summary agrees with the log and with the loops. -/
structure Accounts (s : RunnerState) : Prop where
  books : Books s.summary s.log
  counts : ∀ worker, (s.tasks worker).Counts (s.summary.workers worker).iterations

namespace RunnerState

variable {config : RunnerConfig} {s s' : RunnerState}

theorem accounts_start (config : RunnerConfig) : Accounts config.start := by
  refine ⟨⟨rfl, rfl, fun _ => rfl, fun _ => rfl, fun _ => rfl, fun _ => rfl, fun _ => rfl⟩, ?_⟩
  intro worker
  rfl

theorem isTick_of_mayPrintStart {entries : List RunnerLog} (h : MayPrintStart entries) :
    ∀ entry ∈ entries, entry.isTick = false := by
  rcases h with rfl | ⟨worker, rfl⟩
  · simp
  · simp [RunnerLog.isTick]

/-- Where only the task of one worker moves, its counter is to be compared. -/
theorem counts_update {worker : WorkerName} {task : WorkerTask} {iterations : WorkerName → Nat}
    (h : ∀ other, (s.tasks other).Counts (iterations other))
    (htask : task.Counts (iterations worker)) :
    ∀ other, (Function.update s.tasks worker task other).Counts (iterations other) := by
  intro other
  rcases eq_or_ne other worker with rfl | hother
  · rwa [Function.update_self]
  · rw [Function.update_of_ne hother]
    exact h other

/-- A task that ended a tick counts one more. -/
theorem counts_after {task : WorkerTask} {ended : Nat} {phase : TaskPhase}
    (h : task.Counts ended) (hticking : task.phase = .ticking)
    (hphase : phase = .waiting ∨ phase = .returned) :
    WorkerTask.Counts { task with phase } (ended + 1) := by
  unfold WorkerTask.Counts at h
  rw [hticking] at h
  rcases hphase with rfl | rfl
  · exact h
  · exact h

theorem phaseAfter_cases (config : RunnerConfig) (iteration : Nat) :
    phaseAfter config iteration = .waiting ∨ phaseAfter config iteration = .returned := by
  unfold phaseAfter
  split
  · exact .inr rfl
  · exact .inl rfl

/-- Between two ticks the counter is the number of ticks that ended. -/
theorem iteration_of_idle (h : Accounts s) {worker : WorkerName}
    (hphase : (s.tasks worker).phase = .created ∨ (s.tasks worker).phase = .waiting) :
    (s.tasks worker).iteration = (s.summary.workers worker).iterations := by
  have hcounts := h.counts worker
  unfold WorkerTask.Counts at hcounts
  rcases hphase with hphase | hphase
  · rw [hphase] at hcounts
    exact hcounts
  · rw [hphase] at hcounts
    exact hcounts

/-- In a tick the counter is one ahead of the number of ticks that ended. -/
theorem iteration_of_ticking (h : Accounts s) {worker : WorkerName}
    (hphase : (s.tasks worker).phase = .ticking) :
    (s.tasks worker).iteration = (s.summary.workers worker).iterations + 1 := by
  have hcounts := h.counts worker
  unfold WorkerTask.Counts at hcounts
  rwa [hphase] at hcounts

/-- A task that has not ended, or was cancelled, is at most one ahead. -/
theorem iteration_bounds (h : Accounts s) (worker : WorkerName) :
    (s.summary.workers worker).iterations ≤ (s.tasks worker).iteration ∧
      (s.tasks worker).iteration ≤ (s.summary.workers worker).iterations + 1 := by
  have hcounts := h.counts worker
  unfold WorkerTask.Counts at hcounts
  split at hcounts <;> omega

/-- The counters after an error was recorded. -/
theorem counts_recordError (h : Accounts s) (error : TickError) {phase : TaskPhase}
    (hticking : (s.tasks error.worker).phase = .ticking)
    (hphase : phase = .waiting ∨ phase = .returned) (worker : WorkerName) :
    (Function.update s.tasks error.worker { s.tasks error.worker with phase } worker).Counts
      ((s.summary.recordError error).workers worker).iterations := by
  rcases eq_or_ne worker error.worker with rfl | hother
  · simp only [RunnerSummary.recordError, Function.update_self]
    exact counts_after (h.counts _) hticking hphase
  · simp only [RunnerSummary.recordError, Function.update_of_ne hother]
    exact h.counts worker

/-- The counters after a success was recorded. -/
theorem counts_recordSuccess (h : Accounts s) {name : WorkerName} (result : JsonObject)
    (elapsed : Nat) {phase : TaskPhase} (hticking : (s.tasks name).phase = .ticking)
    (hphase : phase = .waiting ∨ phase = .returned) (worker : WorkerName) :
    (Function.update s.tasks name { s.tasks name with phase } worker).Counts
      ((s.summary.recordSuccess name result elapsed).workers worker).iterations := by
  rcases eq_or_ne worker name with rfl | hother
  · simp only [RunnerSummary.recordSuccess, Function.update_self]
    exact counts_after (h.counts _) hticking hphase
  · simp only [RunnerSummary.recordSuccess, Function.update_of_ne hother]
    exact h.counts worker

/-- The end of the runner prints no tick. -/
theorem accounts_finish (h : Accounts s) (config : RunnerConfig) (status : RunnerStatus) :
    Accounts (finish config s status) :=
  ⟨h.books.quiet (by simp [RunnerLog.isTick]), h.counts⟩

theorem accounts_print (h : Accounts s) {entry : RunnerLog} (hquiet : entry.isTick = false) :
    Accounts (s.print entry) :=
  ⟨h.books.quiet (by simpa using hquiet), h.counts⟩

/-- Every transition keeps the accounts. -/
theorem accounts_transition (h : Transition config s s') (hs : Accounts s) : Accounts s' := by
  cases h with
  | begin worker entries henabled hphase hstop hlimit hentries =>
      refine ⟨hs.books.quiet (isTick_of_mayPrintStart hentries), counts_update hs.counts ?_⟩
      exact congrArg (· + 1) (iteration_of_idle hs hphase)
  | leave worker entries henabled hphase hstop hentries =>
      refine ⟨hs.books.quiet (isTick_of_mayPrintStart hentries), counts_update hs.counts ?_⟩
      exact iteration_of_idle hs hphase
  | success worker result elapsed hphase =>
      refine ⟨?_, counts_recordSuccess hs result elapsed hphase (phaseAfter_cases config _)⟩
      dsimp only
      rw [iteration_of_ticking hs hphase]
      exact hs.books.success worker result elapsed
  | failure error hphase hcontinue =>
      refine ⟨?_, counts_recordError hs error hphase (phaseAfter_cases config _)⟩
      dsimp only
      rw [iteration_of_ticking hs hphase]
      exact hs.books.failure error
  | failureStops error hphase hstops =>
      refine ⟨?_, counts_recordError hs error hphase (.inr rfl)⟩
      dsimp only
      rw [iteration_of_ticking hs hphase]
      exact hs.books.failure error
  | abandon worker hphase =>
      exact ⟨hs.books, counts_update hs.counts (iteration_bounds hs worker)⟩
  | signal sig hfinished hstop =>
      exact ⟨hs.books.quiet (by simp [RunnerLog.isTick]), hs.counts⟩
  | drain hphase hstop => exact ⟨hs.books, hs.counts⟩
  | timeOut pending hphase => exact ⟨hs.books, hs.counts⟩
  | cancelRunner hfinished => exact ⟨hs.books, hs.counts⟩
  | finishOk hphase hpending => exact accounts_finish hs config .ok
  | finishTimeout names hphase hpending =>
      exact accounts_finish (accounts_print hs rfl) config .shutdownTimeout
  | finishCancelled hphase hpending => exact accounts_finish hs config .cancelled

theorem accounts_run (config : RunnerConfig) (events : List RunnerEvent) :
    Accounts (run config events) :=
  run_invariant (accounts_start config) (fun _ _ h hs => accounts_transition h hs) events

/-- No loop begins an iteration beyond the limit. -/
def WithinLimit (config : RunnerConfig) (s : RunnerState) : Prop :=
  ∀ limit ∈ config.maxIterations, ∀ worker, (s.tasks worker).iteration ≤ limit

/-- A task that keeps its counter, or passes the test of the limit, stays within it. -/
theorem withinLimit_update (h : WithinLimit config s) {worker : WorkerName} {task : WorkerTask}
    (htask : task.iteration = (s.tasks worker).iteration ∨
      task.iteration = (s.tasks worker).iteration + 1 ∧
        exhausted config (s.tasks worker).iteration = false) :
    ∀ limit ∈ config.maxIterations, ∀ other,
      (Function.update s.tasks worker task other).iteration ≤ limit := by
  intro limit hlimit other
  rcases eq_or_ne other worker with rfl | hother
  · rw [Function.update_self]
    rcases htask with hsame | ⟨hnext, hexhausted⟩
    · rw [hsame]
      exact h limit hlimit other
    · rw [Option.mem_def] at hlimit
      simp only [exhausted, hlimit, Option.any_some, decide_eq_false_iff_not] at hexhausted
      omega
  · rw [Function.update_of_ne hother]
    exact h limit hlimit other

theorem withinLimit_transition (h : Transition config s s') (hs : WithinLimit config s) :
    WithinLimit config s' := by
  cases h with
  | begin worker entries henabled hphase hstop hlimit hentries =>
      exact withinLimit_update hs (.inr ⟨rfl, hlimit⟩)
  | leave worker entries henabled hphase hstop hentries => exact withinLimit_update hs (.inl rfl)
  | success worker result elapsed hphase => exact withinLimit_update hs (.inl rfl)
  | failure error hphase hcontinue => exact withinLimit_update hs (.inl rfl)
  | failureStops error hphase hstops => exact withinLimit_update hs (.inl rfl)
  | abandon worker hphase => exact withinLimit_update hs (.inl rfl)
  | signal sig hfinished hstop => exact hs
  | drain hphase hstop => exact hs
  | timeOut pending hphase => exact hs
  | cancelRunner hfinished => exact hs
  | finishOk hphase hpending => exact hs
  | finishTimeout names hphase hpending => exact hs
  | finishCancelled hphase hpending => exact hs

theorem withinLimit_run (config : RunnerConfig) (events : List RunnerEvent) :
    WithinLimit config (run config events) :=
  run_invariant (fun limit _ _ => Nat.zero_le limit) (fun _ _ h hs => withinLimit_transition h hs)
    events

/-- In every order of the events the summary says what was printed: each tick that ended is counted
once, the ticks of a worker are numbered from 1 without a gap and not beyond the limit, and the
retained errors are the last hundred of those printed, in their order.  The loop counter of a
worker is ahead of its ticks by at most the one that it is in. -/
theorem runner_summary_agrees (config : RunnerConfig) (events : List RunnerEvent) :
    Books (run config events).summary (run config events).log ∧
      ∀ worker,
        ((run config events).summary.workers worker).iterations ≤
            ((run config events).tasks worker).iteration ∧
          ((run config events).tasks worker).iteration ≤
            ((run config events).summary.workers worker).iterations + 1 ∧
          ∀ limit ∈ config.maxIterations, ((run config events).tasks worker).iteration ≤ limit := by
  have haccounts := accounts_run config events
  refine ⟨haccounts.books, fun worker => ?_⟩
  obtain ⟨hlower, hupper⟩ := iteration_bounds haccounts worker
  exact ⟨hlower, hupper, fun limit hlimit => withinLimit_run config events limit hlimit worker⟩

end RunnerState

end AiCustomerService
