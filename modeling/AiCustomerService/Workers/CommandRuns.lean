import AiCustomerService.Support.Pool
import AiCustomerService.Workers.ExternalCommand

/-!
# Runs of the command workers

Any number of workers lease external commands and process them against one database.
The world also keeps what the services have seen: the transfers of LiveChat, the case
cards that Telegram accepted and the calls that send a follow-up.
-/

namespace AiCustomerService

open Support

instance : Inhabited workerOps.Err := ⟨.timeout ""⟩

/-- The database and the services, the latest call first. -/
structure CommandWorld where
  db : Database
  /-- The commands whose chat was transferred, and whether the call returned. -/
  transfers : List (Nat × Bool)
  /-- The commands whose case card was accepted. -/
  cards : List Nat
  /-- The follow-ups that were sent, and whether the call was rejected with a `429`. -/
  followups : List (Nat × Bool)

/-- What the schedule decides about an operation.  A statement of the database may fail, a
service answers what it likes, and `accepted` says whether a message whose call raised was
accepted. -/
structure CommandChoice where
  fault : Option (Fault PyError)
  answer : (op : WorkerOp) → Except ServiceError op.Res
  accepted : Bool

/-- The failure of a statement, as the worker sees it. -/
def CommandChoice.dbFault (choice : CommandChoice) : Option (Fault ServiceError) :=
  choice.fault.map fun fault => ⟨.python fault.error, fault.applied⟩

/-- A statement that changes the database. -/
def CommandChoice.execute (choice : CommandChoice) (w : CommandWorld) (db : Database) :
    Except ServiceError Unit × CommandWorld :=
  faulty choice.dbFault w (.ok (), { w with db })

/-- A statement that changes the database unless it raises. -/
def CommandChoice.executeOrRaise (choice : CommandChoice) (w : CommandWorld)
    (db : Except PyError Database) : Except ServiceError Unit × CommandWorld :=
  match db with
  | .ok db => choice.execute w db
  | .error e => (.error (.python e), w)

/-- `fetch_handoff_ack_by_event`. -/
def Database.handoffAck? (db : Database) (conversationId : String) (inboundEventId : Nat) :
    Option (Nat × QueueStatus) :=
  (db.outboundMessages.rows.find? fun row =>
    row.conversationId = some conversationId && row.inboundEventId = some inboundEventId &&
      ((getKey row.payloadJson "handoff_ack").eqText "true" ||
        (getKey row.payloadJson "handoff_ack").isTrue)).map fun row => (row.id, row.status)

/-- The conversations of the `SELECT status` of `_command_blocked_by_human_active`. -/
def Database.conversationStatus? (db : Database) (conversationId : String) :
    Option ConversationStatus :=
  (db.conversation? conversationId).map ConversationRow.status

/-- The call was rejected with a `429`. -/
def isRateLimitedCall {α : Type} : Except ServiceError α → Bool
  | .ok _ => false
  | .error exc => isRateLimited exc

/-- A call of LiveChat or Telegram that has a lasting effect. -/
def CommandWorld.called (w : CommandWorld) (choice : CommandChoice) :
    (op : WorkerOp) → Except ServiceError op.Res → CommandWorld
  | .transferChatToGroup commandId _ _, r =>
      { w with transfers := (commandId, r.isOk) :: w.transfers }
  | .sendMessage message, r =>
      match message.cardOf with
      | some commandId =>
          if r.isOk || choice.accepted then { w with cards := commandId :: w.cards } else w
      | none => w
  | .sendCaseFollowup followupId _ _, r =>
      { w with followups := (followupId, isRateLimitedCall r) :: w.followups }
  | _, _ => w

/-- Execute an operation. -/
def handleWorkerOp (settings : CommandSettings) :
    (op : WorkerOp) → CommandChoice → CommandWorld → Except ServiceError op.Res × CommandWorld
  | .conversationStatus conversationId, choice, w =>
      faulty choice.dbFault w (.ok (w.db.conversationStatus? conversationId), w)
  | .fetchHandoffAck conversationId inboundEventId, choice, w =>
      faulty choice.dbFault w (.ok (w.db.handoffAck? conversationId inboundEventId), w)
  | .releaseLease commandId, choice, w => choice.execute w (releaseCommandLease w.db commandId)
  | .recordHandoffFailure conversationId failure, choice, w =>
      choice.execute w (recordHandoffFailure w.db conversationId failure).1
  | .mergePayload commandId patch, choice, w =>
      choice.execute w (mergePayloadJson w.db commandId patch)
  | .updateWorkflowState conversationId graphState, choice, w =>
      choice.execute w (w.db.updateGraphState conversationId graphState)
  | .insertResult result, choice, w =>
      let inserted := insertExternalResult w.db result
      faulty choice.dbFault w (.ok inserted.2, { w with db := inserted.1 })
  | .markSent commandId, choice, w => choice.execute w (markCommandSent w.db commandId)
  | .markDryRunDone commandId, choice, w => choice.execute w (markCommandDryRunDone w.db commandId)
  | .markStatus commandId status error, choice, w =>
      choice.execute w (markCommandStatus w.db commandId status error)
  | .markProcessingFailed commandId error, choice, w =>
      choice.execute w (markCommandProcessingFailed w.db commandId error settings.maxRetries)
  | .commandStatus commandId, choice, w =>
      faulty choice.dbFault w (.ok (w.db.commandStatus? commandId), w)
  | .reserveFollowup request, choice, w =>
      match reserveFollowup w.db request with
      | .ok (db, reservation) => faulty choice.dbFault w (.ok reservation, { w with db })
      | .error e => (.error (.python e), w)
  | .markFollowupSending followupId, choice, w =>
      choice.executeOrRaise w (markFollowupSending w.db followupId)
  | .recordFollowupSent followupId delivery customerUpdateEn, choice, w =>
      choice.executeOrRaise w (recordFollowupSent w.db followupId delivery.messageId
        delivery.attachmentMessageIds customerUpdateEn)
  | .markFollowupDeliveryUncertain followupId error, choice, w =>
      choice.execute w (markFollowupDeliveryUncertain w.db followupId error)
  | .markFollowupRetryable followupId error, choice, w =>
      choice.execute w (markFollowupRetryable w.db followupId error)
  | .cancelFollowup followupId reason, choice, w =>
      choice.execute w (cancelFollowup w.db followupId reason)
  | op, choice, w => (choice.answer op, w.called choice op (choice.answer op))

/-- What happens next to the workers. -/
inductive CommandEvent
  | elapse (microseconds : Nat)
  | recoverExpiredLeases
  | takeover (event : InboundEvent)
  | updateCaseStatus (update : TelegramCaseUpdate)

/-- The events. -/
def CommandWorld.after (w : CommandWorld) : CommandEvent → CommandWorld
  | .elapse microseconds => { w with db := { w.db with now := w.db.now + microseconds } }
  | .recoverExpiredLeases => { w with db := recoverExpiredCommandLeases w.db }
  | .takeover event => { w with db := markHumanActiveOnConnection w.db event }
  | .updateCaseStatus update => { w with db := AiCustomerService.updateCaseStatus w.db update }

/-- A worker leases a command. -/
structure CommandJob where
  commandId : Nat
  workerId : String
  leaseSeconds : Nat

/-- Any number of workers lease the commands and process them. -/
def commandMachine (settings : CommandSettings) : Machine workerOps where
  World := CommandWorld
  Choice := CommandChoice
  Env := CommandEvent
  Job := CommandJob
  handle := handleWorkerOp settings
  environ event w := w.after event
  start job w :=
    (w.db.leaseCommand? job.commandId job.workerId job.leaseSeconds).map fun leased =>
      (processOnePendingCommand settings leased.2 >>= fun _ => .ret (), { w with db := leased.1 })

/-- Settings with which every command is executed. -/
def CommandSettings.plain : CommandSettings where
  runtime := .plain
  dryRun := false
  emitResult := true
  hasConversationRepository := false
  hasOutboundRepository := false
  maxRetries := 5
  executePendingReplyLookup := true
  handoffBlockReason _ := none
  telegramBlockReason _ := none
  backendBlockReason := none
  handoffTargetGroupId _ := 7
  ignoreAgentsAvailability := false
  ignoreRequesterPresence := false
  telegramTarget _ := ⟨some "-100", none, "config"⟩
  caseCard _ _ := ⟨"-100", none, "card", [⟨"https://files/receipt.png", "receipt.png"⟩]⟩
  caseAppend _ text _ := ⟨"-100", none, text, []⟩
  appendMessageId _ := 1
  effectiveFollowUpKind _ _ := some "pending_follow_up"
  caseFollowup _ _ _ text _ := ⟨"-100", none, text, []⟩
  customerUpdate text _ _ := text
  mockResult _ := ("mock", ∅)

/-- A pending command. -/
def pendingCommand (id : Nat) (commandType : String) (payloadJson : JsonObject) :
    ExternalCommandRow where
  id := id
  tenantId := "default"
  conversationId := "livechat:C1:T1"
  chatId := "C1"
  threadId := some "T1"
  inboundEventId := some 1
  commandType := commandType
  payloadJson := payloadJson
  status := .pending
  retryCount := 0
  lastError := none
  lease := .none
  dedupKey := commandType
  createdAt := 0

/-- The database with one command. -/
def databaseWith (command : ExternalCommandRow) : Database :=
  { Database.empty with externalCommands := ⟨[command], by simp⟩ }

/-- The services answer, and nothing fails. -/
def CommandChoice.good : CommandChoice where
  fault := none
  answer
    | .transferChatToGroup _ _ _ => .ok .null
    | .sendMessage _ => .ok 1
    | .sendPhoto _ _ _ => .ok ∅
    | .editMessageText _ _ => .ok none
    | .executeBackendQuery _ => .ok (.ofList [("status", .str "success")])
    | .lookupPendingReply _ _ _ => .ok ∅
    | .translate text => .ok text
    | .utcNow => .ok "2026-01-01T00:00:00+00:00"
    | .sendCaseFollowup _ _ _ => .ok ⟨1, [], []⟩
    | _ => .error (.other "")
  accepted := true

/-- Every service answers with an error. -/
def CommandChoice.serviceError (error : ServiceError) : CommandChoice where
  fault := none
  answer _ := .error error
  accepted := false

/-- A statement raises without an effect. -/
def CommandChoice.lost : CommandChoice :=
  { CommandChoice.good with fault := some ⟨.databaseError "connection lost", false⟩ }

/-- The workers are idle, and no service has been called. -/
def commandStart (settings : CommandSettings) (T : Type) (db : Database) :
    Machine.Config (commandMachine settings) T :=
  @Machine.idle workerOps (commandMachine settings) T ⟨db, [], [], []⟩

/-- The world that a schedule leads to. -/
def commandWorld {settings : CommandSettings} {T : Type} [DecidableEq T] (db : Database)
    (labels : List (Machine.Label (commandMachine settings) T)) : CommandWorld :=
  (Machine.run (commandStart settings T db) labels).world

instance decidableCommandSteps {settings : CommandSettings} {T : Type} [DecidableEq T]
    (cond : CommandWorld → WorkerOp → CommandChoice → Prop)
    [instCond : ∀ w op choice, Decidable (cond w op choice)]
    (c : Machine.Config (commandMachine settings) T)
    (labels : List (Machine.Label (commandMachine settings) T)) :
    Decidable (Machine.AllSteps (Machine.Executes cond) c labels) :=
  @Machine.decidableAllSteps _ _ _ _ _
    (fun c l => @Machine.decidableExecutes _ _ _ cond instCond c l) c labels

end AiCustomerService
