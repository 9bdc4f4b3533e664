import AiCustomerService.Db.InboundQueue
import AiCustomerService.Support.Pool

/-!
# The gateway consumers

`_process_one_row` of `workers/gateway_consumer.py`: `process_event` loads the conversation, runs
the workflow and commits, and an exception on the way releases the lease.  Any number of workers
do so against one queue, while leases expire and are recovered and new events become visible.
-/

namespace AiCustomerService

open Support

/-- The operations of a gateway worker. -/
inductive GatewayOp
  | loadConversation (event : StandardEvent)
  | runWorkflow (event : StandardEvent) (conversation : ConversationView)
  | processEvent (row : InboundEventRow) (customerMessage : Option ConversationMessage)
      (output : Option GatewayOutput)
  | releaseLease (row : InboundEventRow)

/-- What the operations return. -/
abbrev GatewayOp.Res : GatewayOp → Type
  | .loadConversation _ => ConversationView
  | .runWorkflow _ _ => Option GatewayOutput
  | .processEvent _ _ _ => TransactionResult
  | .releaseLease _ => Unit

abbrev gatewayOps : Interface := ⟨GatewayOp, GatewayOp.Res, PyError⟩

abbrev GatewayProg := Prog gatewayOps

/-- Execute an operation. -/
def GatewayOp.call (op : GatewayOp) : GatewayProg op.Res := Prog.perform (I := gatewayOps) op

/-- `process_event`. -/
def processEvent (rt : Runtime) (row : InboundEventRow) : GatewayProg TransactionResult := do
  let conversation : ConversationView ← (GatewayOp.loadConversation row.event).call
  let output : Option GatewayOutput ← (GatewayOp.runWorkflow row.event conversation).call
  let customerMessage ← Prog.ofExcept (gatewayCustomerMessage rt row.event conversation row.id)
  (GatewayOp.processEvent row customerMessage output).call

/-- `_process_one_row`. -/
def processOneRow (rt : Runtime) (row : InboundEventRow) :
    GatewayProg (Except PyError TransactionResult) :=
  (processEvent rt row >>= fun result => pure (.ok result)).tryCatch fun exc => do
    (GatewayOp.releaseLease row).call
    pure (.error exc)

/-! ## Runs -/

/-- What the schedule decides about an operation: the context of a transaction, what the workflow
answers, and whether the operation fails. -/
structure GatewayChoice where
  ctx : TxContext
  workflow : Workflow
  fault : Option (Fault PyError)

/-- A commit leaves the queue as it was when it raises. -/
def InboundQueue.afterCommit (queue : InboundQueue)
    (committed : Except PyError (InboundQueue × TransactionResult)) :
    Except PyError TransactionResult × InboundQueue :=
  match committed with
  | .ok done => (.ok done.2, done.1)
  | .error e => (.error e, queue)

/-- How an operation acts. -/
def handleGatewayOp : (op : GatewayOp) → GatewayChoice → InboundQueue →
    Except PyError op.Res × InboundQueue
  | .loadConversation event, choice, queue =>
      let loaded := loadTransactionalConversation queue.database choice.ctx event
      faulty choice.fault queue (.ok loaded.2, { queue with database := loaded.1 })
  | .runWorkflow event conversation, choice, queue =>
      faulty choice.fault queue (choice.workflow.output event conversation, queue)
  | .processEvent row customerMessage output, choice, queue =>
      faulty choice.fault queue (queue.afterCommit
        (queue.processEvent choice.ctx row.id row.event.toInboundEvent customerMessage output))
  | .releaseLease row, choice, queue =>
      faulty choice.fault queue (.ok (), queue.releaseLease row.id)

/-- What happens beside the workers. -/
inductive QueueEvent
  | elapse (microseconds : Nat)
  | arrive (id : Nat) (event : StandardEvent)
  | recoverExpiredLeases
  | write (db : Database)

/-- An event acts on the queue; the other transactions write neither the clock nor the processed
events. -/
def InboundQueue.after (queue : InboundQueue) : QueueEvent → InboundQueue
  | .elapse microseconds =>
      { queue with
        database := { queue.database with now := queue.database.now + microseconds } }
  | .arrive id event => queue.arrive id event
  | .recoverExpiredLeases => queue.recoverExpiredLeases
  | .write db =>
      { queue with
        database :=
          { db with
            now := queue.database.now
            processedInboundEvents := queue.database.processedInboundEvents } }

/-- A worker leases an event. -/
structure GatewayJob where
  id : Nat
  workerId : String
  leaseSeconds : Nat

/-- Any number of gateway workers. -/
def gatewayMachine (rt : Runtime) : Machine gatewayOps where
  World := InboundQueue
  Choice := GatewayChoice
  Env := QueueEvent
  Job := GatewayJob
  handle := handleGatewayOp
  environ e queue := queue.after e
  start job queue :=
    (queue.leaseRow? job.id job.workerId job.leaseSeconds).map fun leased =>
      (processOneRow rt leased.2 >>= fun _ => .ret (), leased.1)

/-! ## Rows in hand -/

/-- The row that a worker has in hand, until it has tried to commit it and after. -/
inductive EventHold
  | free
  | holds (row : InboundEventRow)
  | tried (row : InboundEventRow)

/-- The row that is held. -/
def EventHold.row? : EventHold → Option InboundEventRow
  | .free => none
  | .holds row => some row
  | .tried row => some row

/-- The row of a commit. -/
def GatewayOp.committed? : GatewayOp → Option InboundEventRow
  | .processEvent row _ _ => some row
  | _ => none

/-- The row whose lease the operation ends. -/
def GatewayOp.ended? : GatewayOp → Option InboundEventRow
  | .processEvent row _ _ => some row
  | .releaseLease row => some row
  | _ => none

/-- After a commit that raises the row is still in hand. -/
def triedHold {α : Type} (r : Except PyError α) (row : InboundEventRow) : EventHold :=
  match r with
  | .ok _ => .free
  | .error _ => .tried row

/-- A worker commits the row in its hand once, and releases it when something raises. -/
def EventProtocol : Protocol gatewayOps EventHold := fun hold op r hold' =>
  match op with
  | .loadConversation _ => hold' = hold
  | .runWorkflow _ _ => hold' = hold
  | .processEvent row _ _ => hold = .holds row ∧ hold' = triedHold r row
  | .releaseLease row => hold.row? = some row ∧ hold' = .free

/-- What is left after the program of a row. -/
theorem follows_processEvent (rt : Runtime) (row : InboundEventRow) :
    FollowsTo EventProtocol
      (fun hold r => match r with
        | .ok _ => hold = .free
        | .error _ => hold.row? = some row)
      (.holds row) (processEvent rt row) := by
  have hstays (op : GatewayOp) (h : op.ended? = none) :
      FollowsTo EventProtocol (fun hold _ => hold = .holds row) (.holds row) op.call := by
    apply FollowsTo.perform
    intro r
    refine ⟨.holds row, ?_, rfl⟩
    cases op with
    | loadConversation event => exact rfl
    | runWorkflow event conversation => exact rfl
    | processEvent row _ _ => cases h
    | releaseLease row => cases h
  unfold processEvent
  apply (hstays (.loadConversation row.event) rfl).bind
  · rintro hold conversation rfl
    apply (hstays (.runWorkflow row.event conversation) rfl).bind
    · rintro hold output rfl
      cases gatewayCustomerMessage rt row.event conversation row.id with
      | error e => exact rfl
      | ok customerMessage =>
          apply FollowsTo.perform
          intro r
          refine ⟨triedHold r row, ⟨rfl, rfl⟩, ?_⟩
          cases r with
          | ok result => exact rfl
          | error e => exact rfl
    · rintro hold e rfl
      exact rfl
  · rintro hold e rfl
    exact rfl

/-- A worker that has leased a row follows the protocol, and lets the row go. -/
theorem follows_processOneRow (rt : Runtime) (row : InboundEventRow) :
    Follows EventProtocol (· = .free) (.holds row)
      (processOneRow rt row >>= fun _ => .ret ()) := by
  have hrow : FollowsTo EventProtocol (fun hold _ => hold = .free) (.holds row)
      (processOneRow rt row) := by
    have hreturn : FollowsTo EventProtocol
        (fun hold r => match r with
          | .ok _ => hold = .free
          | .error _ => hold.row? = some row)
        (.holds row)
        (processEvent rt row >>= fun result =>
          (pure (.ok result) : GatewayProg (Except PyError TransactionResult))) := by
      apply (follows_processEvent rt row).bind
      · intro hold result hfree
        exact hfree
      · intro hold e hheld
        exact hheld
    unfold processOneRow
    apply hreturn.tryCatch
    · intro hold result hfree
      exact hfree
    · intro hold e hheld
      have hrelease : FollowsTo EventProtocol (fun hold _ => hold = .free) hold
          (GatewayOp.releaseLease row).call :=
        FollowsTo.perform fun r => ⟨.free, ⟨hheld, rfl⟩, rfl⟩
      apply hrelease.bind
      · rintro hold' _ rfl
        exact rfl
      · rintro hold' e rfl
        exact rfl
  apply hrow.bind
  · intro hold _ hfree
    exact hfree
  · intro hold e hfree
    exact hfree

end AiCustomerService
