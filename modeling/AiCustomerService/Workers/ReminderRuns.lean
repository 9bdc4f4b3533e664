import AiCustomerService.Db.CaseSync
import AiCustomerService.Services.CaseReminders
import AiCustomerService.Workers.CommandRuns

/-!
# Runs on the reminders of cases

The gateway prepares and commits replies while the command workers deliver the reminders, and the
staff, the customers and the sync change the cases.
-/

namespace AiCustomerService

open Support

/-- The statuses in which `effective_follow_up_kind` sends nothing: the customer has to answer, or
the case is over. -/
def settledCaseStatuses : List String :=
  ["completed_confirmed_by_customer", "terminal_other", "waiting_customer"]

/-- `effective_follow_up_kind`. -/
def effectiveFollowUpKind (tables : PatternTables) (caseStatus rawUserInput : String) :
    Option String :=
  if caseStatus ∈ settledCaseStatuses then none
  else if caseStatus ∈ ["completed_by_staff", "completion_disputed"] then
    if tables.isMoneyCaseFollowupText rawUserInput then some "completion_dispute" else none
  else some "pending_follow_up"

/-- The case is in such a status. -/
def Database.caseSettled (db : Database) (caseId : Nat) : Bool :=
  (db.caseStatus? caseId).any (settledCaseStatuses.contains ·)

/-- The case leaves such a status. -/
def leavesSettled (before after : Database) (caseId : Nat) : Bool :=
  before.caseSettled caseId && !after.caseSettled caseId

/-- The follow-ups that were sent or may have been, by case and thread. -/
def Database.deliveredFollowups (db : Database) : List (Nat × String) :=
  (db.telegramCaseFollowups.filter fun row =>
    row.status = .sent || row.status = .deliveryUncertain).map fun row =>
      (row.telegramCaseId, row.sourceThreadId)

/-- The workers, the follow-ups that have been delivered since their case last left such a status,
and the replies that the gateway has prepared. -/
structure ReminderWorld where
  workers : CommandWorld
  sentSince : List (Nat × String)
  prepared : List PreparedReply

/-- Another database; what was delivered before a case left such a status is forgotten. -/
def ReminderWorld.write (w : ReminderWorld) (db : Database) : ReminderWorld :=
  { w with
    workers := { w.workers with db }
    sentSince := w.sentSince.filter fun key => !leavesSettled w.workers.db db key.1 }

/-- After an operation of a worker, which may have delivered a follow-up. -/
def ReminderWorld.afterWorker (w : ReminderWorld) (workers : CommandWorld) : ReminderWorld :=
  { w with
    workers := workers
    sentSince := (w.write workers.db).sentSince ++
      workers.db.deliveredFollowups.filter fun key =>
        !w.workers.db.deliveredFollowups.contains key }

/-- What happens beside the workers: time passes, leases are recovered, a human takes over, a case
changes its status, the gateway works on an event, a result is committed, or a case is synced. -/
inductive ReminderEvent
  | worker (event : CommandEvent)
  | prepare (turn : CustomerTurn) (supplement : JsonObject)
  | commit (index : Nat)
  | result (context : TxContext) (ref : ResultRef) (graphState : GraphState)
      (messages : List OutboundMessage) (commands : List ExternalCommand)
      (summary : Option ConversationMessage)
  | sync (row : ExternalResultRow)

/-- An event acts on the world; a transaction that raises is rolled back. -/
def ReminderWorld.after (settings : GraphSettings) (w : ReminderWorld) :
    ReminderEvent → ReminderWorld
  | .worker event => w.write (w.workers.after event).db
  | .prepare turn supplement =>
      let loaded := turn.load w.workers.db
      let listed := w.write (turn.withMoneyCaseCandidates settings loaded.1 loaded.2).1
      match turn.prepare settings w.workers.db supplement with
      | .ok reply => { listed with prepared := listed.prepared ++ [reply] }
      | .error _ => listed
  | .commit index =>
      match w.prepared[index]? with
      | some reply =>
          match reply.commit w.workers.db with
          | .ok (db, _) => { w.write db with prepared := w.prepared.eraseIdx index }
          | .error _ => { w with prepared := w.prepared.eraseIdx index }
      | none => w
  | .result context ref graphState messages commands summary =>
      match processResultTransactionally w.workers.db context ref graphState messages commands
          summary with
      | .ok (db, _) => w.write db
      | .error _ => w
  | .sync row =>
      match upsertFromExternalResult settings.turn.rt w.workers.db row with
      | .ok (some db) => w.write db
      | _ => w

/-- The settings of the gateway and of the workers. -/
structure ReminderSettings where
  graph : GraphSettings
  command : CommandSettings

/-- Any number of command workers beside the gateway. -/
def reminderMachine (settings : ReminderSettings) : Machine workerOps where
  World := ReminderWorld
  Choice := CommandChoice
  Env := ReminderEvent
  Job := CommandJob
  handle op choice w :=
    let done := handleWorkerOp settings.command op choice w.workers
    (done.1, w.afterWorker done.2)
  environ event w := w.after settings.graph event
  start job w :=
    (w.workers.db.leaseCommand? job.commandId job.workerId job.leaseSeconds).map fun leased =>
      (processOnePendingCommand settings.command leased.2 >>= fun _ => .ret (), w.write leased.1)

end AiCustomerService
