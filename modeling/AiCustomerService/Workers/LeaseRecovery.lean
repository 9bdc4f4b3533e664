import AiCustomerService.Support.Observed
import AiCustomerService.Support.Throttle
import AiCustomerService.Workers.GatewayConsumer

/-!
# The recovery of expired leases

`maybe_recover_worker_leases` of `workers/service_runner.py` is called at the head of every tick
that leases rows; it calls `recover_expired_leases` of the repository at most once in an interval
for each queue.  A worker may also lease a row whose lease has expired but was not yet recovered.
-/

namespace AiCustomerService

open Support

/-! ## The calls -/

/-- A tick reaches `maybe_recover_worker_leases`; `now` is the monotonic clock, and `recovered` is
what `recover_expired_leases` returns or raises if it is called. -/
structure RecoveryTick where
  queueName : String
  now : Nat
  recovered : Except PyError Nat

/-- What the context of the runner knows of the recoveries, and the calls made so far. -/
structure RecoveryContext where
  leaseRecoveredAt : String → Option Nat := fun _ => none
  attempts : List (String × Nat) := []

/-- `maybe_recover_worker_leases`, with the number that it returns. -/
def maybeRecoverWorkerLeases (workerLeaseRecoverySeconds : Int) (context : RecoveryContext)
    (tick : RecoveryTick) : RecoveryContext × Nat :=
  let interval := workerLeaseRecoverySeconds
  if interval ≤ 0 then (context, 0)
  else
    let lastRecoveredAt := context.leaseRecoveredAt tick.queueName
    if lastRecoveredAt.any fun (t : Nat) => (tick.now : Int) - t < interval * 1000000 then
      (context, 0)
    else
      let context : RecoveryContext :=
        { leaseRecoveredAt :=
            Function.update context.leaseRecoveredAt tick.queueName (some tick.now)
          attempts := context.attempts ++ [(tick.queueName, tick.now)] }
      match tick.recovered with
      | .ok recovered => (context, recovered)
      | .error _ => (context, 0)

/-- The ticks one after another. -/
def recoveryRun (workerLeaseRecoverySeconds : Int) (ticks : List RecoveryTick) : RecoveryContext :=
  ticks.foldl (fun context tick =>
    (maybeRecoverWorkerLeases workerLeaseRecoverySeconds context tick).1) {}

/-! ## The queue -/

/-- What can happen to the queue of inbound events. -/
inductive QueueAction
  | beside (e : QueueEvent)
  | leaseUnprocessed (locked : Nat → Bool) (limit : Nat) (workerId : String) (leaseSeconds : Nat)
  | releaseLease (id : Nat)
  | processEvent (ctx : TxContext) (id : Nat) (event : InboundEvent)
      (customerMessage : Option ConversationMessage) (output : Option GatewayOutput)

/-- What a worker sees of an action. -/
inductive QueueAnswer
  | leased (rows : List InboundEventRow)
  | committed (result : Except PyError TransactionResult)

/-- An action, with its answer. -/
def InboundQueue.act (queue : InboundQueue) : QueueAction → InboundQueue × Option QueueAnswer
  | .beside e => (queue.after e, none)
  | .leaseUnprocessed locked limit workerId leaseSeconds =>
      let leased := queue.leaseUnprocessed locked limit workerId leaseSeconds
      (leased.1, some (.leased leased.2))
  | .releaseLease id => (queue.releaseLease id, none)
  | .processEvent ctx id event customerMessage output =>
      let committed := queue.afterCommit (queue.processEvent ctx id event customerMessage output)
      (committed.2, some (.committed committed.1))

/-- The action is a recovery. -/
def QueueAction.isRecovery : QueueAction → Bool
  | .beside .recoverExpiredLeases => true
  | _ => false

end AiCustomerService
