import AiCustomerService.Python.Json
import AiCustomerService.Support.Steps
import Mathlib.Logic.Function.Basic

/-!
# The service runner

`run_all_workers` of `workers/service_runner.py` starts one task for each enabled worker, and
`run_periodic_worker` calls the worker's `tick` until the runner is told to stop.  The tasks share
the stop event, the shutdown reason and the summary; between two awaits a task is not interrupted,
so each event below is what one task does between two of them.
-/

namespace AiCustomerService

open Support

/-- `WORKER_NAMES`. -/
inductive WorkerName where
  | pollingReceiver
  | gatewayConsumer
  | senderWorker
  | externalCommandWorker
  | externalResultConsumer
  | telegramReplyConsumer
  | livechatIdleTimer
  deriving DecidableEq, Repr

/-- The workers in the order of `worker_defs`; the first one only where polling is enabled. -/
def enabledWorkers (livechatPollingEnabled : Bool) : List WorkerName :=
  (if livechatPollingEnabled then [.pollingReceiver] else []) ++
    [.gatewayConsumer, .senderWorker, .externalCommandWorker, .externalResultConsumer,
      .telegramReplyConsumer, .livechatIdleTimer]

/-- The settings that `run_all_workers` reads. -/
structure RunnerConfig where
  livechatPollingEnabled : Bool
  maxIterations : Option Nat
  stopOnError : Bool

/-- The workers that have a task. -/
def RunnerConfig.enabled (config : RunnerConfig) : List WorkerName :=
  enabledWorkers config.livechatPollingEnabled

/-- The workers in the order of their names, as `sorted` lists them. -/
def sortedWorkers : List WorkerName :=
  [.externalCommandWorker, .externalResultConsumer, .gatewayConsumer, .livechatIdleTimer,
    .pollingReceiver, .senderWorker, .telegramReplyConsumer]

/-! ## The summary -/

/-- `MAX_RETAINED_ERRORS`. -/
def maxRetainedErrors : Nat := 100

/-- `_empty_worker_summary`, with what is recorded later; times are in microseconds. -/
structure WorkerSummary where
  iterations : Nat := 0
  successes : Nat := 0
  errors : Nat := 0
  lastResult : Option JsonObject := none
  lastElapsed : Option Nat := none

/-- An entry of the list of errors. -/
structure TickError where
  worker : WorkerName
  errorType : String
  errorMessage : String
  elapsed : Nat
  deriving DecidableEq

/-- `RunnerSummary`. -/
structure RunnerSummary where
  workers : WorkerName → WorkerSummary := fun _ => {}
  errors : List TickError := []
  errorsTotal : Nat := 0

namespace RunnerSummary

/-- `record_success`. -/
def recordSuccess (summary : RunnerSummary) (name : WorkerName) (result : JsonObject)
    (elapsed : Nat) : RunnerSummary :=
  let worker := summary.workers name
  { summary with
    workers := Function.update summary.workers name
      { worker with
        iterations := worker.iterations + 1
        successes := worker.successes + 1
        lastElapsed := some elapsed
        lastResult := some result } }

/-- The oldest errors beyond the limit are deleted. -/
def retain (errors : List TickError) : List TickError :=
  if errors.length > maxRetainedErrors then errors.drop (errors.length - maxRetainedErrors)
  else errors

/-- `record_error`. -/
def recordError (summary : RunnerSummary) (error : TickError) : RunnerSummary :=
  let worker := summary.workers error.worker
  { workers := Function.update summary.workers error.worker
      { worker with
        iterations := worker.iterations + 1
        errors := worker.errors + 1
        lastElapsed := some error.elapsed }
    errors := retain (summary.errors ++ [error])
    errorsTotal := summary.errorsTotal + 1 }

end RunnerSummary

/-! ## The tasks -/

/-- Where the task of a worker is.  A task that is `waiting` awaits the stop event or the end of
its interval. -/
inductive TaskPhase where
  | created
  | ticking
  | waiting
  | returned
  | cancelled
  deriving DecidableEq, Repr

/-- The task has ended. -/
def TaskPhase.isDone : TaskPhase → Bool
  | .returned => true
  | .cancelled => true
  | _ => false

/-- A task of `run_periodic_worker`. -/
structure WorkerTask where
  phase : TaskPhase := .created
  iteration : Nat := 0

/-- How `await tick()` ends. -/
inductive TickOutcome where
  | result (result : JsonObject)
  | exception (errorType errorMessage : String)
  | cancelledError

/-- The exit status of the runner. -/
inductive RunnerStatus where
  | ok
  | shutdownTimeout
  | cancelled
  | stoppedOnError
  deriving DecidableEq, Repr

/-- What `_log_event` prints during a run. -/
inductive RunnerLog where
  | start (enabledWorkers : List WorkerName)
  | workerStart (worker : WorkerName)
  | tickEnd (worker : WorkerName) (iteration : Nat) (elapsed : Nat) (result : JsonObject)
  | tickError (error : TickError) (iteration : Nat)
  | shutdownRequested (reason : Option String)
  | shutdownTimeout (pendingWorkers : List WorkerName)
  | shutdown (status : RunnerStatus) (reason : Option String)
      (workerIterations : WorkerName → Nat) (errorsCount : Nat)

/-- Where `run_all_workers` is: it waits for a task or the stop event, gathers the pending tasks
until the timeout, waits for the tasks that the timeout or its own cancellation has cancelled, or
has returned. -/
inductive RunnerPhase where
  | watching
  | draining (pending : List WorkerName)
  | timedOut (pending : List WorkerName)
  | cancelling
  | finished (status : RunnerStatus)
  deriving DecidableEq, Repr

/-- The tasks and what they share. -/
structure RunnerState where
  tasks : WorkerName → WorkerTask := fun _ => {}
  stopEvent : Bool := false
  shutdownReason : Option String := none
  summary : RunnerSummary := {}
  phase : RunnerPhase := .watching
  log : List RunnerLog

/-- Before the first task has run. -/
def RunnerConfig.start (config : RunnerConfig) : RunnerState where
  log := [.start config.enabled]

/-- The signals that `install_signal_handlers` registers. -/
inductive ShutdownSignal where
  | sigterm
  | sigint

/-- The shutdown reason of a signal. -/
def ShutdownSignal.reason : ShutdownSignal → String
  | .sigterm => "signal:SIGTERM"
  | .sigint => "signal:SIGINT"

/-- What can happen next. -/
inductive RunnerEvent where
  | resume (worker : WorkerName)
  | tickDone (worker : WorkerName) (outcome : TickOutcome) (elapsed : Nat)
  | cancelTask (worker : WorkerName)
  | signal (sig : ShutdownSignal)
  | wake
  | timeout
  | cancelRunner

namespace RunnerState

/-- The task of a worker moves on. -/
def setTask (s : RunnerState) (worker : WorkerName) (task : WorkerTask) : RunnerState :=
  { s with tasks := Function.update s.tasks worker task }

/-- The shutdown reason is only set where there is none. -/
def giveReason (s : RunnerState) (reason : String) : RunnerState :=
  if s.shutdownReason.getD "" = "" then { s with shutdownReason := some reason } else s

def print (s : RunnerState) (entry : RunnerLog) : RunnerState :=
  { s with log := s.log ++ [entry] }

/-- The iterations are used up. -/
def exhausted (config : RunnerConfig) (iteration : Nat) : Bool :=
  config.maxIterations.any fun limit => iteration ≥ limit

/-- The head of the loop of `run_periodic_worker`, up to `await tick()`. -/
def loopHead (config : RunnerConfig) (s : RunnerState) (worker : WorkerName) : RunnerState :=
  let task := s.tasks worker
  if s.stopEvent then s.setTask worker { task with phase := .returned }
  else if exhausted config task.iteration then s.setTask worker { task with phase := .returned }
  else s.setTask worker ⟨.ticking, task.iteration + 1⟩

/-- What follows a tick that returned or whose exception was recorded. -/
def afterTick (config : RunnerConfig) (s : RunnerState) (worker : WorkerName) : RunnerState :=
  let task := s.tasks worker
  if exhausted config task.iteration then s.setTask worker { task with phase := .returned }
  else s.setTask worker { task with phase := .waiting }

/-- The rest of the loop of `run_periodic_worker` after `await tick()`. -/
def tickDone (config : RunnerConfig) (s : RunnerState) (worker : WorkerName)
    (outcome : TickOutcome) (elapsed : Nat) : RunnerState :=
  let task := s.tasks worker
  match outcome with
  | .result result =>
      afterTick config
        ({ s with summary := s.summary.recordSuccess worker result elapsed }.print
          (.tickEnd worker task.iteration elapsed result)) worker
  | .cancelledError => s.setTask worker { task with phase := .cancelled }
  | .exception errorType errorMessage =>
      let error : TickError := ⟨worker, errorType, errorMessage, elapsed⟩
      let s := { s with summary := s.summary.recordError error }.print
        (.tickError error task.iteration)
      if config.stopOnError then
        { (s.giveReason "stop_on_error") with stopEvent := true }.setTask worker
          { task with phase := .returned }
      else afterTick config s worker

/-- `_request_shutdown`, the handler of SIGTERM and SIGINT. -/
def requestShutdown (s : RunnerState) (reason : String) : RunnerState :=
  if s.stopEvent then s
  else
    let s := s.giveReason reason
    { (s.print (.shutdownRequested s.shutdownReason)) with stopEvent := true }

/-- The workers whose tasks have not ended. -/
def pendingWorkers (config : RunnerConfig) (s : RunnerState) : List WorkerName :=
  config.enabled.filter fun worker => !(s.tasks worker).phase.isDone

/-- The status that `run_all_workers` returns for the one that it has. -/
def finalStatus (config : RunnerConfig) (s : RunnerState) (status : RunnerStatus) : RunnerStatus :=
  if config.stopOnError && s.summary.errorsTotal != 0 then .stoppedOnError
  else if status = .ok ∧ "signal:".toList.isPrefixOf (s.shutdownReason.getD "").toList then
    .cancelled
  else status

/-- The end of `run_all_workers`. -/
def finish (config : RunnerConfig) (s : RunnerState) (status : RunnerStatus) : RunnerState :=
  let status := finalStatus config s status
  { s.print (.shutdown status s.shutdownReason
      (fun worker => (s.summary.workers worker).iterations) s.summary.errorsTotal) with
    phase := .finished status }

/-- `run_all_workers` goes on where the tasks that it waits for have ended. -/
def wake (config : RunnerConfig) (s : RunnerState) : RunnerState :=
  let pending := s.pendingWorkers config
  match s.phase with
  | .watching =>
      if pending.isEmpty then finish config s .ok
      else if s.stopEvent then { s with phase := .draining pending }
      else s
  | .draining _ => if pending.isEmpty then finish config s .ok else s
  | .timedOut names =>
      if pending.isEmpty then
        finish config (s.print (.shutdownTimeout (sortedWorkers.filter (· ∈ names))))
          .shutdownTimeout
      else s
  | .cancelling => if pending.isEmpty then finish config s .cancelled else s
  | .finished _ => s

/-- The tasks are cancelled. -/
def isCancelling (s : RunnerState) : Bool :=
  match s.phase with
  | .timedOut _ => true
  | .cancelling => true
  | _ => false

/-- `run_all_workers` has returned. -/
def isFinished (s : RunnerState) : Bool :=
  match s.phase with
  | .finished _ => true
  | _ => false

/-- A task that is cancelled before it runs, in its tick or in its wait ends there. -/
def cancelTask (s : RunnerState) (worker : WorkerName) : RunnerState :=
  s.setTask worker { s.tasks worker with phase := .cancelled }

/-- One event; an event that cannot happen changes nothing. -/
def step (config : RunnerConfig) (s : RunnerState) : RunnerEvent → RunnerState
  | .resume worker =>
      if worker ∉ config.enabled then s
      else
        match (s.tasks worker).phase with
        | .created => loopHead config (s.print (.workerStart worker)) worker
        | .waiting => loopHead config s worker
        | _ => s
  | .tickDone worker outcome elapsed =>
      if (s.tasks worker).phase = .ticking then tickDone config s worker outcome elapsed else s
  | .cancelTask worker =>
      if s.isCancelling ∧ worker ∈ config.enabled ∧ (s.tasks worker).phase.isDone = false then
        cancelTask s worker
      else s
  | .signal sig => if s.isFinished then s else requestShutdown s sig.reason
  | .wake => wake config s
  | .timeout =>
      match s.phase with
      | .draining pending =>
          if (s.pendingWorkers config).isEmpty then s else { s with phase := .timedOut pending }
      | _ => s
  | .cancelRunner =>
      if s.isFinished then s
      else { s.giveReason "cancelled" with stopEvent := true, phase := .cancelling }

/-- A run of the runner, in any order of its events. -/
def run (config : RunnerConfig) (events : List RunnerEvent) : RunnerState :=
  runSteps (step config) config.start events

end RunnerState

/-- The exit code of `main`. -/
def RunnerStatus.exitCode : RunnerStatus → Nat
  | .ok => 0
  | .stoppedOnError => 1
  | .cancelled => 130
  | .shutdownTimeout => 1

end AiCustomerService
