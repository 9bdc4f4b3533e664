import AiCustomerService.Workers.ServiceRunner

/-!
# What one event of the service runner does

Every event that changes the state makes one of the transitions below.  The invariants of the runs
are derived from them.
-/

namespace AiCustomerService

open Support

namespace RunnerState

variable {config : RunnerConfig} {s : RunnerState}

/-! ## Updates -/

@[simp]
theorem setTask_tasks (s : RunnerState) (worker : WorkerName) (task : WorkerTask) :
    (s.setTask worker task).tasks = Function.update s.tasks worker task := rfl

/-- The shutdown reason after a reason is given. -/
def reasonAfter (s : RunnerState) (reason : String) : Option String :=
  if s.shutdownReason.getD "" = "" then some reason else s.shutdownReason

theorem giveReason_eq (s : RunnerState) (reason : String) :
    s.giveReason reason = { s with shutdownReason := s.reasonAfter reason } := by
  unfold giveReason reasonAfter
  split <;> rfl

/-! ## Transitions -/

/-- Where a task is after a tick that does not end the runner. -/
def phaseAfter (config : RunnerConfig) (iteration : Nat) : TaskPhase :=
  if exhausted config iteration then .returned else .waiting

/-- What the head of the loop may print. -/
def MayPrintStart (entries : List RunnerLog) : Prop :=
  entries = [] ∨ ∃ worker, entries = [.workerStart worker]

/-- The changes that one event can make. -/
inductive Transition (config : RunnerConfig) (s : RunnerState) : RunnerState → Prop
  | begin (worker : WorkerName) (entries : List RunnerLog) (henabled : worker ∈ config.enabled)
      (hphase : (s.tasks worker).phase = .created ∨ (s.tasks worker).phase = .waiting)
      (hstop : s.stopEvent = false) (hlimit : exhausted config (s.tasks worker).iteration = false)
      (hentries : MayPrintStart entries) :
      Transition config s
        { s.setTask worker ⟨.ticking, (s.tasks worker).iteration + 1⟩ with
          log := s.log ++ entries }
  | leave (worker : WorkerName) (entries : List RunnerLog) (henabled : worker ∈ config.enabled)
      (hphase : (s.tasks worker).phase = .created ∨ (s.tasks worker).phase = .waiting)
      (hstop : s.stopEvent = true ∨ exhausted config (s.tasks worker).iteration = true)
      (hentries : MayPrintStart entries) :
      Transition config s
        { s.setTask worker { s.tasks worker with phase := .returned } with
          log := s.log ++ entries }
  | success (worker : WorkerName) (result : JsonObject) (elapsed : Nat)
      (hphase : (s.tasks worker).phase = .ticking) :
      Transition config s
        { s.setTask worker
            { s.tasks worker with phase := phaseAfter config (s.tasks worker).iteration } with
          summary := s.summary.recordSuccess worker result elapsed
          log := s.log ++ [.tickEnd worker (s.tasks worker).iteration elapsed result] }
  | failure (error : TickError) (hphase : (s.tasks error.worker).phase = .ticking)
      (hcontinue : config.stopOnError = false) :
      Transition config s
        { s.setTask error.worker
            { s.tasks error.worker with
              phase := phaseAfter config (s.tasks error.worker).iteration } with
          summary := s.summary.recordError error
          log := s.log ++ [.tickError error (s.tasks error.worker).iteration] }
  | failureStops (error : TickError) (hphase : (s.tasks error.worker).phase = .ticking)
      (hstops : config.stopOnError = true) :
      Transition config s
        { s.setTask error.worker { s.tasks error.worker with phase := .returned } with
          summary := s.summary.recordError error
          log := s.log ++ [.tickError error (s.tasks error.worker).iteration]
          shutdownReason := s.reasonAfter "stop_on_error"
          stopEvent := true }
  | abandon (worker : WorkerName)
      (hphase : (s.tasks worker).phase = .ticking ∨
        s.isCancelling = true ∧ worker ∈ config.enabled ∧ (s.tasks worker).phase.isDone = false) :
      Transition config s (s.setTask worker { s.tasks worker with phase := .cancelled })
  | signal (sig : ShutdownSignal) (hfinished : s.isFinished = false) (hstop : s.stopEvent = false) :
      Transition config s
        { s with
          shutdownReason := s.reasonAfter sig.reason
          log := s.log ++ [.shutdownRequested (s.reasonAfter sig.reason)]
          stopEvent := true }
  | drain (hphase : s.phase = .watching) (hstop : s.stopEvent = true) :
      Transition config s { s with phase := .draining (s.pendingWorkers config) }
  | timeOut (pending : List WorkerName) (hphase : s.phase = .draining pending) :
      Transition config s { s with phase := .timedOut pending }
  | cancelRunner (hfinished : s.isFinished = false) :
      Transition config s
        { s with
          shutdownReason := s.reasonAfter "cancelled"
          stopEvent := true
          phase := .cancelling }
  | finishOk (hphase : s.phase = .watching ∨ ∃ pending, s.phase = .draining pending)
      (hpending : s.pendingWorkers config = []) : Transition config s (finish config s .ok)
  | finishTimeout (names : List WorkerName) (hphase : s.phase = .timedOut names)
      (hpending : s.pendingWorkers config = []) :
      Transition config s
        (finish config (s.print (.shutdownTimeout (sortedWorkers.filter (· ∈ names))))
          .shutdownTimeout)
  | finishCancelled (hphase : s.phase = .cancelling) (hpending : s.pendingWorkers config = []) :
      Transition config s (finish config s .cancelled)

/-- The head of the loop begins a tick or leaves the loop. -/
theorem transition_loopHead {worker : WorkerName} {entries : List RunnerLog}
    (henabled : worker ∈ config.enabled)
    (hphase : (s.tasks worker).phase = .created ∨ (s.tasks worker).phase = .waiting)
    (hentries : MayPrintStart entries) :
    Transition config s (loopHead config { s with log := s.log ++ entries } worker) := by
  unfold loopHead
  dsimp only
  split
  next hstop => exact .leave worker entries henabled hphase (.inl hstop) hentries
  next hstop =>
    rw [Bool.not_eq_true] at hstop
    split
    next hlimit => exact .leave worker entries henabled hphase (.inr hlimit) hentries
    next hlimit =>
      rw [Bool.not_eq_true] at hlimit
      exact .begin worker entries henabled hphase hstop hlimit hentries

theorem transition_tickDone {worker : WorkerName} (outcome : TickOutcome) (elapsed : Nat)
    (hphase : (s.tasks worker).phase = .ticking) :
    Transition config s (tickDone config s worker outcome elapsed) := by
  cases outcome with
  | result result =>
      have hsuccess := @Transition.success config s worker result elapsed hphase
      unfold tickDone afterTick
      unfold phaseAfter at hsuccess
      dsimp only [print]
      split <;> simp_all [setTask]
  | cancelledError => exact .abandon worker (.inl hphase)
  | exception errorType errorMessage =>
      unfold tickDone
      dsimp only
      split
      next hstops =>
        rw [giveReason_eq]
        exact .failureStops ⟨worker, errorType, errorMessage, elapsed⟩ hphase hstops
      next hstops =>
        rw [Bool.not_eq_true] at hstops
        have hfailure := @Transition.failure config s
          ⟨worker, errorType, errorMessage, elapsed⟩ hphase hstops
        unfold afterTick
        unfold phaseAfter at hfailure
        dsimp only [print]
        split <;> simp_all [setTask]

theorem transition_wake : wake config s = s ∨ Transition config s (wake config s) := by
  unfold wake
  dsimp only
  split
  next hphase =>
    split
    next hpending => exact .inr (.finishOk (.inl hphase) (List.isEmpty_iff.mp hpending))
    next =>
      split
      next hstop => exact .inr (.drain hphase hstop)
      next => exact .inl rfl
  next pending hphase =>
    split
    next hpending => exact .inr (.finishOk (.inr ⟨pending, hphase⟩) (List.isEmpty_iff.mp hpending))
    next => exact .inl rfl
  next names hphase =>
    split
    next hpending => exact .inr (.finishTimeout names hphase (List.isEmpty_iff.mp hpending))
    next => exact .inl rfl
  next hphase =>
    split
    next hpending => exact .inr (.finishCancelled hphase (List.isEmpty_iff.mp hpending))
    next => exact .inl rfl
  next => exact .inl rfl

/-- An event changes nothing or makes a transition. -/
theorem step_cases (config : RunnerConfig) (s : RunnerState) (e : RunnerEvent) :
    step config s e = s ∨ Transition config s (step config s e) := by
  cases e with
  | resume worker =>
      unfold step
      dsimp only
      split
      next => exact .inl rfl
      next henabled =>
        rw [not_not] at henabled
        split
        next hphase => exact .inr (transition_loopHead henabled (.inl hphase) (.inr ⟨worker, rfl⟩))
        next hphase =>
          have hleave := @transition_loopHead config s worker [] henabled (.inr hphase) (.inl rfl)
          rw [List.append_nil] at hleave
          exact .inr hleave
        next => exact .inl rfl
  | tickDone worker outcome elapsed =>
      unfold step
      dsimp only
      split
      next hphase => exact .inr (transition_tickDone outcome elapsed hphase)
      next => exact .inl rfl
  | cancelTask worker =>
      unfold step
      dsimp only
      split
      next h => exact .inr (.abandon worker (.inr h))
      next => exact .inl rfl
  | signal sig =>
      unfold step
      dsimp only
      split
      next => exact .inl rfl
      next hfinished =>
        rw [Bool.not_eq_true] at hfinished
        unfold requestShutdown
        split
        next => exact .inl rfl
        next hstop =>
          rw [Bool.not_eq_true] at hstop
          rw [giveReason_eq]
          exact .inr (.signal sig hfinished hstop)
  | wake => exact transition_wake
  | timeout =>
      unfold step
      dsimp only
      split
      next pending hphase =>
        split
        next => exact .inl rfl
        next => exact .inr (.timeOut pending hphase)
      next => exact .inl rfl
  | cancelRunner =>
      unfold step
      dsimp only
      split
      next => exact .inl rfl
      next hfinished =>
        rw [Bool.not_eq_true] at hfinished
        rw [giveReason_eq]
        exact .inr (.cancelRunner hfinished)

/-- What every transition keeps holds in every state of every run. -/
theorem run_invariant {Inv : RunnerState → Prop} (hstart : Inv config.start)
    (htransition : ∀ s s', Transition config s s' → Inv s → Inv s') (events : List RunnerEvent) :
    Inv (run config events) := by
  refine runSteps_invariant (fun s e h => ?_) hstart events
  rcases step_cases config s e with hsame | hmoves
  · rw [hsame]
    exact h
  · exact htransition s _ hmoves h

/-- A preorder that relates the states of every transition relates the ends of a run. -/
theorem run_related {R : RunnerState → RunnerState → Prop} (hrefl : ∀ s, R s s)
    (htrans : ∀ {s₁ s₂ s₃}, R s₁ s₂ → R s₂ s₃ → R s₁ s₃)
    (htransition : ∀ s s', Transition config s s' → R s s') (events later : List RunnerEvent) :
    R (run config events) (run config (events ++ later)) := by
  unfold run
  rw [runSteps_append]
  refine runSteps_related hrefl htrans (fun s e => ?_) _ later
  rcases step_cases config s e with hsame | hmoves
  · rw [hsame]
    exact hrefl s
  · exact htransition s _ hmoves

end RunnerState

end AiCustomerService
