import AiCustomerService.Properties.RunnerAccounts

/-!
# How the service runner stops

Whatever sets the stop event first, no worker begins a tick afterwards, the reason stays the first
one, and the runner returns once every task has ended.
-/

namespace AiCustomerService

open Support

namespace RunnerState

variable {config : RunnerConfig} {s s' : RunnerState}

/-! ## After the stop event -/

/-- What a transition keeps once the stop event is set. -/
structure KeepsStop (s s' : RunnerState) : Prop where
  stopped : s'.stopEvent = true
  reason : s.shutdownReason.getD "" ≠ "" → s'.shutdownReason = s.shutdownReason
  iteration : ∀ worker, (s'.tasks worker).iteration = (s.tasks worker).iteration
  outside : ∀ worker, (s.tasks worker).phase ≠ .ticking →
    (s'.tasks worker).phase ≠ .ticking ∧ loggedTicks s'.log worker = loggedTicks s.log worker

theorem reasonAfter_eq_of_ne (h : s.shutdownReason.getD "" ≠ "") (reason : String) :
    s.reasonAfter reason = s.shutdownReason := by
  unfold reasonAfter
  rw [if_neg h]

/-- A task that ends its tick or its loop begins none. -/
theorem outside_update {worker other : WorkerName} {phase : TaskPhase}
    (h : (s.tasks other).phase ≠ .ticking) (hphase : phase ≠ .ticking) :
    (Function.update s.tasks worker { s.tasks worker with phase } other).phase ≠ .ticking := by
  rcases eq_or_ne other worker with rfl | hother
  · rwa [Function.update_self]
  · rwa [Function.update_of_ne hother]

theorem iteration_update (s : RunnerState) (worker other : WorkerName) (phase : TaskPhase) :
    (Function.update s.tasks worker { s.tasks worker with phase } other).iteration =
      (s.tasks other).iteration := by
  rcases eq_or_ne other worker with rfl | hother
  · rw [Function.update_self]
  · rw [Function.update_of_ne hother]

theorem loggedTicks_concat_quiet {log entries : List RunnerLog}
    (h : ∀ entry ∈ entries, entry.isTick = false) (worker : WorkerName) :
    loggedTicks (log ++ entries) worker = loggedTicks log worker := by
  rw [loggedTicks, List.filterMap_append, ← loggedTicks, ← loggedTicks, loggedTicks_eq_nil h,
    List.append_nil]

theorem loggedTicks_concat_other {log : List RunnerLog} {worker other : WorkerName}
    (hother : worker ≠ other) (iteration elapsed : Nat) (result : JsonObject) :
    loggedTicks (log ++ [.tickEnd worker iteration elapsed result]) other =
      loggedTicks log other := by
  simp [loggedTicks, RunnerLog.tickOf, hother]

theorem loggedTicks_concat_error_other {log : List RunnerLog} {error : TickError}
    {other : WorkerName} (hother : error.worker ≠ other) (iteration : Nat) :
    loggedTicks (log ++ [.tickError error iteration]) other = loggedTicks log other := by
  simp [loggedTicks, RunnerLog.tickOf, hother]

theorem phaseAfter_ne_ticking (config : RunnerConfig) (iteration : Nat) :
    phaseAfter config iteration ≠ .ticking := by
  rcases phaseAfter_cases config iteration with h | h <;> simp [h]

/-- The stop event stays set and no tick begins. -/
theorem keepsStop_transition (h : Transition config s s') (hstop : s.stopEvent = true) :
    KeepsStop s s' := by
  cases h with
  | begin worker entries henabled hphase hrunning hlimit hentries =>
      rw [hstop] at hrunning
      cases hrunning
  | leave worker entries henabled hphase hleave hentries =>
      refine ⟨hstop, fun _ => rfl, fun other => iteration_update s worker other .returned,
        fun other hother => ⟨outside_update hother (by simp), ?_⟩⟩
      exact loggedTicks_concat_quiet (isTick_of_mayPrintStart hentries) other
  | success worker result elapsed hphase =>
      refine ⟨hstop, fun _ => rfl, fun other => iteration_update s worker other _,
        fun other hother => ⟨outside_update hother (phaseAfter_ne_ticking config _), ?_⟩⟩
      have hdifferent : worker ≠ other := by
        rintro rfl
        exact hother hphase
      exact loggedTicks_concat_other hdifferent _ _ _
  | failure error hphase hcontinue =>
      refine ⟨hstop, fun _ => rfl, fun other => iteration_update s error.worker other _,
        fun other hother => ⟨outside_update hother (phaseAfter_ne_ticking config _), ?_⟩⟩
      have hdifferent : error.worker ≠ other := by
        rintro rfl
        exact hother hphase
      exact loggedTicks_concat_error_other hdifferent _
  | failureStops error hphase hstops =>
      refine ⟨rfl, fun hreason => reasonAfter_eq_of_ne hreason _,
        fun other => iteration_update s error.worker other _,
        fun other hother => ⟨outside_update hother (by simp), ?_⟩⟩
      have hdifferent : error.worker ≠ other := by
        rintro rfl
        exact hother hphase
      exact loggedTicks_concat_error_other hdifferent _
  | abandon worker hphase =>
      exact ⟨hstop, fun _ => rfl, fun other => iteration_update s worker other .cancelled,
        fun other hother => ⟨outside_update hother (by simp), rfl⟩⟩
  | signal sig hfinished hrunning =>
      rw [hstop] at hrunning
      cases hrunning
  | drain hphase _ =>
      exact ⟨hstop, fun _ => rfl, fun _ => rfl, fun _ hother => ⟨hother, rfl⟩⟩
  | timeOut pending hphase =>
      exact ⟨hstop, fun _ => rfl, fun _ => rfl, fun _ hother => ⟨hother, rfl⟩⟩
  | cancelRunner hfinished =>
      exact ⟨rfl, fun hreason => reasonAfter_eq_of_ne hreason _, fun _ => rfl,
        fun _ hother => ⟨hother, rfl⟩⟩
  | finishOk hphase hpending =>
      refine ⟨hstop, fun _ => rfl, fun _ => rfl, fun other hother => ⟨hother, ?_⟩⟩
      exact loggedTicks_concat_quiet (by simp [RunnerLog.isTick]) other
  | finishTimeout names hphase hpending =>
      refine ⟨hstop, fun _ => rfl, fun _ => rfl, fun other hother => ⟨hother, ?_⟩⟩
      have hprint : loggedTicks (s.log ++ [.shutdownTimeout (sortedWorkers.filter (· ∈ names))])
          other = loggedTicks s.log other :=
        loggedTicks_concat_quiet (by simp [RunnerLog.isTick]) other
      rw [← hprint]
      exact loggedTicks_concat_quiet (by simp [RunnerLog.isTick]) other
  | finishCancelled hphase hpending =>
      refine ⟨hstop, fun _ => rfl, fun _ => rfl, fun other hother => ⟨hother, ?_⟩⟩
      exact loggedTicks_concat_quiet (by simp [RunnerLog.isTick]) other

theorem keepsStop_refl (h : s.stopEvent = true) : KeepsStop s s :=
  ⟨h, fun _ => rfl, fun _ => rfl, fun _ hother => ⟨hother, rfl⟩⟩

theorem KeepsStop.trans {s₁ s₂ s₃ : RunnerState} (h : KeepsStop s₁ s₂) (h' : KeepsStop s₂ s₃) :
    KeepsStop s₁ s₃ where
  stopped := h'.stopped
  reason := by
    intro hreason
    have hfirst := h.reason hreason
    rw [h'.reason (by rwa [hfirst]), hfirst]
  iteration worker := (h'.iteration worker).trans (h.iteration worker)
  outside worker hother := by
    obtain ⟨hphase, hticks⟩ := h.outside worker hother
    obtain ⟨hphase', hticks'⟩ := h'.outside worker hphase
    exact ⟨hphase', hticks'.trans hticks⟩

/-- What is kept from the state in which the stop event is set to the end of the run. -/
theorem keepsStop_run (events later : List RunnerEvent)
    (h : (run config events).stopEvent = true) :
    KeepsStop (run config events) (run config (events ++ later)) := by
  refine run_related (R := fun s s' => s.stopEvent = true → KeepsStop s s') ?_ ?_ ?_ events later h
  · exact fun _ hstop => keepsStop_refl hstop
  · exact fun hfirst hnext hstop => (hfirst hstop).trans (hnext (hfirst hstop).stopped)
  · exact fun _ _ htransition hstop => keepsStop_transition htransition hstop

/-! ## The cause -/

/-- Why the runner was told to stop. -/
inductive Cause (config : RunnerConfig) (s : RunnerState) : String → Prop
  | stopOnError (hconfig : config.stopOnError = true) (herrors : 0 < s.summary.errorsTotal) :
      Cause config s "stop_on_error"
  | signal (sig : ShutdownSignal) : Cause config s sig.reason
  | cancelled (hphase : s.phase = .cancelling ∨ ∃ status, s.phase = .finished status) :
      Cause config s "cancelled"

/-- The stop event is set where there is a reason, the reason has its cause, and the runner waits
for the end of all tasks only after the stop event. -/
structure Stopped (config : RunnerConfig) (s : RunnerState) : Prop where
  without : s.shutdownReason = none → s.stopEvent = false
  cause : ∀ reason, s.shutdownReason = some reason → s.stopEvent = true ∧ reason ≠ "" ∧
    Cause config s reason

theorem Cause.ne_empty {reason : String} (h : Cause config s reason) : reason ≠ "" := by
  cases h with
  | stopOnError => decide
  | signal sig => cases sig <;> decide
  | cancelled => decide

/-- The cause of a stop stays one while no error is forgotten and the phase is kept. -/
theorem Cause.mono {reason : String} (h : Cause config s reason)
    (herrors : s.summary.errorsTotal ≤ s'.summary.errorsTotal)
    (hphase : s.phase = .cancelling ∨ (∃ status, s.phase = .finished status) →
      s'.phase = .cancelling ∨ ∃ status, s'.phase = .finished status) :
    Cause config s' reason := by
  cases h with
  | stopOnError hconfig hpositive => exact .stopOnError hconfig (hpositive.trans_le herrors)
  | signal sig => exact .signal sig
  | cancelled hcancelled => exact .cancelled (hphase hcancelled)

theorem Stopped.mono (h : Stopped config s) (hreason : s'.shutdownReason = s.shutdownReason)
    (hstop : s'.stopEvent = s.stopEvent)
    (herrors : s.summary.errorsTotal ≤ s'.summary.errorsTotal)
    (hphase : s.phase = .cancelling ∨ (∃ status, s.phase = .finished status) →
      s'.phase = .cancelling ∨ ∃ status, s'.phase = .finished status) : Stopped config s' := by
  constructor
  · intro hnone
    rw [hstop]
    exact h.without (hreason.symm.trans hnone)
  · intro reason hsome
    obtain ⟨hset, hne, hcause⟩ := h.cause reason (hreason.symm.trans hsome)
    exact ⟨hstop.trans hset, hne, hcause.mono herrors hphase⟩

/-- A state with the reason that is given to it, where it has none yet. -/
theorem Stopped.give (h : Stopped config s) {reason : String}
    (hreason : s'.shutdownReason = s.reasonAfter reason) (hstop : s'.stopEvent = true)
    (hcause : Cause config s' reason)
    (herrors : s.summary.errorsTotal ≤ s'.summary.errorsTotal)
    (hphase : s.phase = .cancelling ∨ (∃ status, s.phase = .finished status) →
      s'.phase = .cancelling ∨ ∃ status, s'.phase = .finished status) : Stopped config s' := by
  cases hbefore : s.shutdownReason with
  | none =>
      have hgiven : s'.shutdownReason = some reason := by
        rw [hreason, reasonAfter, hbefore]
        rfl
      constructor
      · intro hnone
        rw [hgiven] at hnone
        cases hnone
      · intro other hother
        obtain rfl := Option.some.inj (hgiven.symm.trans hother)
        exact ⟨hstop, hcause.ne_empty, hcause⟩
  | some first =>
      obtain ⟨hset, hne, hfirst⟩ := h.cause first hbefore
      have hkept : s'.shutdownReason = s.shutdownReason := by
        rw [hreason]
        refine reasonAfter_eq_of_ne ?_ reason
        rwa [hbefore]
      exact h.mono hkept (hstop.trans hset.symm) herrors hphase

theorem stopped_transition (h : Transition config s s') (hs : Stopped config s) :
    Stopped config s' := by
  cases h with
  | begin => exact hs.mono rfl rfl le_rfl id
  | leave => exact hs.mono rfl rfl le_rfl id
  | success => exact hs.mono rfl rfl le_rfl id
  | failure => exact hs.mono rfl rfl (Nat.le_succ _) id
  | failureStops error hphase hstops =>
      exact hs.give rfl rfl (.stopOnError hstops (Nat.succ_pos _)) (Nat.le_succ _) id
  | abandon => exact hs.mono rfl rfl le_rfl id
  | signal sig hfinished hstop => exact hs.give rfl rfl (.signal sig) le_rfl id
  | drain hphase hstop => exact hs.mono rfl rfl le_rfl (by simp [hphase])
  | timeOut pending hphase => exact hs.mono rfl rfl le_rfl (by simp [hphase])
  | cancelRunner hfinished =>
      exact hs.give rfl rfl (.cancelled (.inl rfl)) le_rfl fun _ => .inl rfl
  | finishOk hphase hpending => exact hs.mono rfl rfl le_rfl fun _ => .inr ⟨_, rfl⟩
  | finishTimeout names hphase hpending => exact hs.mono rfl rfl le_rfl fun _ => .inr ⟨_, rfl⟩
  | finishCancelled hphase hpending => exact hs.mono rfl rfl le_rfl fun _ => .inr ⟨_, rfl⟩

theorem stopped_run (config : RunnerConfig) (events : List RunnerEvent) :
    Stopped config (run config events) :=
  run_invariant ⟨fun _ => rfl, fun _ h => by cases h⟩ (fun _ _ h hs => stopped_transition h hs)
    events

/-- Once the stop event is set, in whatever order the events come, it stays set with the reason that
came first, no worker begins a tick, and at most the tick that a worker is in is still counted. -/
theorem stop_is_final (config : RunnerConfig) (events later : List RunnerEvent)
    (h : (run config events).stopEvent = true) :
    (∃ reason, Cause config (run config events) reason ∧
      (run config events).shutdownReason = some reason ∧
      (run config (events ++ later)).shutdownReason = some reason) ∧
    (run config (events ++ later)).stopEvent = true ∧
    ∀ worker,
      ((run config (events ++ later)).tasks worker).iteration =
        ((run config events).tasks worker).iteration ∧
      (loggedTicks (run config (events ++ later)).log worker).length ≤
        (loggedTicks (run config events).log worker).length +
          if ((run config events).tasks worker).phase = .ticking then 1 else 0 := by
  have hkeeps := keepsStop_run events later h
  refine ⟨?_, hkeeps.stopped, fun worker => ⟨hkeeps.iteration worker, ?_⟩⟩
  · cases hreason : (run config events).shutdownReason with
    | none =>
        rw [(stopped_run config events).without hreason] at h
        cases h
    | some reason =>
        obtain ⟨-, hne, hcause⟩ := (stopped_run config events).cause reason hreason
        refine ⟨reason, hcause, rfl, ?_⟩
        rw [hkeeps.reason (by rwa [hreason]), hreason]
  · by_cases hticking : ((run config events).tasks worker).phase = .ticking
    · have hbefore := accounts_run config events
      have hafter := accounts_run config (events ++ later)
      have hahead := iteration_of_ticking hbefore hticking
      have hbound := (iteration_bounds hafter worker).1
      rw [if_pos hticking, hbefore.books.numbered, hafter.books.numbered, List.length_range',
        List.length_range']
      have hsame := hkeeps.iteration worker
      omega
    · rw [if_neg hticking, (hkeeps.outside worker hticking).2, Nat.add_zero]

/-- SIGTERM comes before the first tick of a worker. -/
theorem stop_is_final_sigterm :
    ((run ⟨false, none, false⟩ [.signal .sigterm, .resume .senderWorker]).tasks
      .senderWorker).iteration = 0 :=
  ((stop_is_final ⟨false, none, false⟩ [.signal .sigterm] [.resume .senderWorker] rfl).2.2
    .senderWorker).1

end RunnerState

end AiCustomerService
