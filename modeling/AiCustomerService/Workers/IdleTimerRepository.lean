import AiCustomerService.Db.Transactions

/-!
# Statements of the idle timer

`LiveChatIdleTimerRepository`: the timer reads the conversations whose last
message is its own and later writes to them by `conversation_id`.
-/

namespace AiCustomerService

open Support

/-- A row of `fetch_candidates`. -/
structure IdleCandidate where
  conversationId : String
  tenantId : String
  channelType : String
  chatId : String
  threadId : Option String
  status : ConversationStatus
  activeWorkflow : Option String
  slotMemory : JsonObject
  latestMessageId : Nat
  latestSenderRole : String
  latestCreatedAt : Nat

/-- `ORDER BY created_at DESC, id DESC LIMIT 1`. -/
def laterMessage (best : Option ConversationMessageRow) (row : ConversationMessageRow) :
    Option ConversationMessageRow :=
  match best with
  | none => some row
  | some old =>
      if old.createdAt < row.createdAt ∨
          (old.createdAt = row.createdAt ∧ old.id < row.id) then some row
      else some old

/-- `fetch_latest_message`. -/
def fetchLatestMessage (db : Database) (conversationId : String) :
    Option ConversationMessageRow :=
  (db.conversationMessages.filter (·.conversationId = conversationId)).foldl laterMessage none

/-- `has_unfinished_work`. -/
def hasUnfinishedWork (db : Database) (conversationId : String) : Bool :=
  db.externalCommands.rows.any (fun row =>
      row.conversationId = conversationId && row.status.isOpen) ||
    db.externalCommandResults.rows.any (fun row =>
      row.conversationId = conversationId && row.status.isOpen) ||
    db.outboundMessages.rows.any fun row =>
      row.conversationId = some conversationId && row.status.isOpen

/-- The `WHERE` clause of `fetch_candidates` for one conversation and its latest
message. -/
def isIdleCandidate (db : Database) (row : ConversationRow)
    (latest : ConversationMessageRow) : Bool :=
  row.channelType = "livechat" &&
    (row.status = .aiActive || row.status = .waitingExternal) &&
    decide (row.activeWorkflow.getD "" ≠ "human_handoff") &&
    latest.senderRole = "assistant" &&
    (row.status ≠ .waitingExternal || !hasUnfinishedWork db row.conversationId)

/-- The joined row of one conversation. -/
def idleCandidate? (db : Database) (row : ConversationRow) : Option IdleCandidate :=
  match fetchLatestMessage db row.conversationId with
  | none => none
  | some latest =>
      if isIdleCandidate db row latest then
        some
          { conversationId := row.conversationId
            tenantId := row.tenantId
            channelType := row.channelType
            chatId := row.chatId
            threadId := row.currentThreadId
            status := row.status
            activeWorkflow := row.activeWorkflow
            slotMemory := row.slotMemory
            latestMessageId := latest.id
            latestSenderRole := latest.senderRole
            latestCreatedAt := latest.createdAt }
      else none

/-- `_parse_datetime` of a JSON value. -/
def parseDatetime (rt : Runtime) (value : Json) : Option Nat :=
  if value.truthy then rt.fromIsoFormat (value.pyStr rt) else none

/-- `DEFAULT_FAILURE_BACKOFF_SECONDS`. -/
def defaultFailureBackoffSeconds : Nat := 600

/-- `_idle_failure_backoff_active`. -/
def idleFailureBackoffActive (rt : Runtime) (slotMemory : JsonObject) (now : Nat) : Bool :=
  match parseDatetime rt (getKey slotMemory "idle_last_failed_at") with
  | none => false
  | some failedAt => decide ((now : Int) - failedAt < seconds defaultFailureBackoffSeconds)

/-- `fetch_candidates`. -/
def fetchCandidates (rt : Runtime) (db : Database) (limit now : Nat) : List IdleCandidate :=
  let queryLimit := max ((if limit = 0 then 20 else limit) * 5) (if limit = 0 then 20 else limit)
  let joined := (db.conversationStates.rows.filterMap (idleCandidate? db)).insertionSort
    fun a b =>
      a.latestCreatedAt < b.latestCreatedAt ∨
        (a.latestCreatedAt = b.latestCreatedAt ∧ a.latestMessageId ≤ b.latestMessageId)
  ((joined.take queryLimit).filter fun candidate =>
    !idleFailureBackoffActive rt candidate.slotMemory now).take limit

/-- `update_slot_memory`. -/
def updateSlotMemory (db : Database) (conversationId : String) (slotMemory : JsonObject) :
    Database :=
  db.updateConversation conversationId (fun row => { row with slotMemory }) fun _ => rfl

/-- `mark_closed`. -/
def markClosed (db : Database) (conversationId : String) (slotMemory : JsonObject) :
    Database :=
  db.updateConversation conversationId
    (fun row => { row with status := .closed, slotMemory }) fun _ => rfl

/-- `insert_assistant_message`. -/
def insertAssistantMessage (db : Database) (candidate : IdleCandidate) (text : String)
    (now : Nat) : Database × Nat :=
  let nextId := db.conversationMessages.length + 1
  let row : ConversationMessageRow :=
    { id := nextId
      conversationId := candidate.conversationId
      tenantId := textOr candidate.tenantId "default"
      channelType := textOr candidate.channelType "livechat"
      chatId := candidate.chatId
      threadId := candidate.threadId
      inboundEventId := none
      outboundMessageId := none
      externalCommandResultId := none
      senderRole := "assistant"
      messageType := "text"
      textContent := text
      source := "livechat_idle_timer"
      createdAt := now }
  ({ db with conversationMessages := db.conversationMessages ++ [row] }, nextId)

/-! ## Handing a failed conversation over -/

/-- `AI_FAILURE_HANDOFF_OPERATION`. -/
def aiFailureHandoffOperation : String := "livechat_idle_ai_failure_handoff"

/-- `AI_FAILURE_HANDOFF_ELIGIBLE_STATUSES`. -/
def aiFailureHandoffEligibleStatuses : List ConversationStatus := [.aiActive, .waitingExternal]

/-- The command inserted by `request_ai_failure_handoff`. -/
def aiFailureHandoffCommand (candidate : IdleCandidate) (reason : String) :
    ExternalCommand :=
  let tenantId := textOr candidate.tenantId "default"
  { tenantId := tenantId
    conversationId := candidate.conversationId
    chatId := candidate.chatId
    threadId := candidate.threadId
    inboundEventId := none
    commandType := "human_handoff.requested"
    payloadJson := .ofList [
      ("reason", .str "ai_service_failure"),
      ("source", .str "livechat_idle_timer"),
      ("failure_reason", .str reason),
      ("operation", .str aiFailureHandoffOperation),
      ("handoff_ack_mode", .str "direct_notice")]
    status := .pending
    dedupKey :=
      buildExternalCommandDedupKey tenantId candidate.conversationId none
        "human_handoff.requested" (.ofList [("operation", .str aiFailureHandoffOperation)]) }

/-- The row may be handed over: it is still handled by the automation. -/
def aiFailureHandoffEligible (rt : Runtime) (row : ConversationRow) : Bool :=
  decide (row.status ∈ aiFailureHandoffEligibleStatuses) &&
    decide (rt.lower (textOr row.activeWorkflow "") ≠ "human_handoff")

/-- The assignments of `request_ai_failure_handoff`. -/
def ConversationRow.handedOver (row : ConversationRow) (slotMemory : JsonObject) :
    ConversationRow :=
  { row with
    status := .handoffRequested
    activeWorkflow := some "human_handoff"
    workflowStage := some "handoff_requested"
    slotMemory }

/-- `request_ai_failure_handoff`. -/
def requestAiFailureHandoff (rt : Runtime) (db : Database) (candidate : IdleCandidate)
    (now : Nat) (reason : String) : Except PyError (Database × Bool) :=
  match db.conversation? candidate.conversationId with
  | none => .ok (db, false)
  | some row =>
      if !aiFailureHandoffEligible rt row then .ok (db, false)
      else do
        let slotMemory := row.slotMemory.merge (.ofList [
          ("ai_service_failure_handoff_at", .str (rt.isoFormat now)),
          ("ai_service_failure_reason", .str reason),
          ("ai_service_failure_source", .str "livechat_idle_timer")])
        let updated := db.updateConversation candidate.conversationId
          (fun row => row.handedOver slotMemory) fun _ => rfl
        let inserted ← insertExternalCommand updated (aiFailureHandoffCommand candidate reason)
        pure (inserted.1, true)

end AiCustomerService
