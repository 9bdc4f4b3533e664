import AiCustomerService.Db.Schema

/-!
# Conversation rows

`ConversationRepository`: the row of a conversation is created on first use,
inherits what an unfinished earlier thread of the same chat left behind, and is
rewritten by the workflow, by a failed handoff and by a human takeover.
-/

namespace AiCustomerService

open Support

/-- What a transaction reads from rows it does not own: the row that
`previous_sql` selects among the other threads of the chat, and whether the
`UPDATE` of the workflow state assigned values that were already stored. -/
structure TxContext where
  previous : Option ConversationRow
  unchanged : Bool

/-- `conversation_id_for_chat`. -/
def conversationIdForChat (chatId threadId : Option String) : String :=
  let chat := textOr chatId "unknown"
  let thread := strip (textOr threadId "")
  if thread ≠ "" then "livechat:" ++ chat ++ ":" ++ thread else "livechat:" ++ chat

/-- The row that `insert_sql` creates, with the defaults of the schema. -/
def ConversationRow.fresh (id : Nat) (conversationId chatId : String)
    (threadId : Option String) : ConversationRow where
  id := id
  conversationId := conversationId
  tenantId := "default"
  channelType := "livechat"
  chatId := chatId
  currentThreadId := threadId
  status := .aiActive
  activeWorkflow := none
  workflowStage := none
  slotMemory := ∅
  handoffState := none

/-- Rewrite the row of one conversation. -/
def Database.updateConversation (db : Database) (conversationId : String)
    (assign : ConversationRow → ConversationRow)
    (hkey : ∀ row, (assign row).conversationId = row.conversationId) : Database :=
  { db with
    conversationStates :=
      db.conversationStates.updateWhere
        (fun row => row.conversationId = conversationId) assign hkey }

/-- The row of a conversation. -/
def Database.conversation? (db : Database) (conversationId : String) :
    Option ConversationRow :=
  db.conversationStates.find? conversationId

/-- `INSERT INTO conversation_states ... ON DUPLICATE KEY UPDATE
current_thread_id = route`, where `route` combines the stored and the new value. -/
def Database.insertConversation (db : Database) (conversationId chatId : String)
    (threadId : Option String)
    (route : Option String → Option String) : Database :=
  if db.conversationStates.hasKey conversationId then
    db.updateConversation conversationId
      (fun row => { row with currentThreadId := route row.currentThreadId }) fun _ => rfl
  else
    { db with
      conversationStates :=
        (db.conversationStates.insertIdempotent
          (.fresh (db.conversationStates.rows.length + 1) conversationId chatId
            threadId)).1 }

/-! ## Looking rows up after an update -/

theorem conversationId_of_conversation? {db : Database} {conversationId : String}
    {row : ConversationRow} (h : db.conversation? conversationId = some row) :
    row.conversationId = conversationId :=
  Table.key_of_find? h

/-- An update with a condition on the row changes the row of one conversation,
if it meets the condition. -/
theorem find?_updateWhere_conversation (db : Database) (conversationId id : String)
    (select : ConversationRow → Bool) (assign : ConversationRow → ConversationRow)
    (hkey : ∀ row, (assign row).conversationId = row.conversationId) :
    (db.conversationStates.updateWhere
        (fun row => row.conversationId = conversationId && select row) assign hkey).find? id =
      (db.conversation? id).map fun row =>
        if id = conversationId ∧ select row = true then assign row else row := by
  rw [Table.find?_updateWhere]
  change (db.conversation? id).map _ = _
  cases hrow : db.conversation? id with
  | none => rfl
  | some row =>
      have hid := conversationId_of_conversation? hrow
      simp [hid]

theorem conversation?_updateConversation (db : Database) (conversationId id : String)
    (assign : ConversationRow → ConversationRow)
    (hkey : ∀ row, (assign row).conversationId = row.conversationId) :
    (db.updateConversation conversationId assign hkey).conversation? id =
      (db.conversation? id).map fun row =>
        if id = conversationId then assign row else row := by
  have hfind :=
    find?_updateWhere_conversation db conversationId id (fun _ => true) assign hkey
  simpa [Database.conversation?, Database.updateConversation] using hfind

/-- The row that an insert leaves under its key. -/
def Database.rowAfterInsert (db : Database) (conversationId chatId : String)
    (threadId : Option String) (route : Option String → Option String) :
    ConversationRow :=
  match db.conversation? conversationId with
  | some row => { row with currentThreadId := route row.currentThreadId }
  | none =>
      .fresh (db.conversationStates.rows.length + 1) conversationId chatId threadId

theorem conversation?_insertConversation (db : Database)
    (conversationId chatId : String) (threadId : Option String)
    (route : Option String → Option String) (id : String) :
    (db.insertConversation conversationId chatId threadId route).conversation? id =
      if id = conversationId then
        some (db.rowAfterInsert conversationId chatId threadId route)
      else db.conversation? id := by
  unfold Database.insertConversation Database.rowAfterInsert
  by_cases hkey : db.conversationStates.hasKey conversationId
  · rw [if_pos hkey, conversation?_updateConversation]
    cases hrow : db.conversation? conversationId with
    | none =>
        have hnone := (Table.find?_eq_none_iff _ _).mp hrow
        exact absurd hkey hnone
    | some row =>
        by_cases hid : id = conversationId
        · simp [hid, hrow]
        · simp [hid]
  · rw [if_neg hkey]
    have hnone : db.conversation? conversationId = none :=
      (Table.find?_eq_none_iff _ _).mpr hkey
    rw [hnone]
    by_cases hid : id = conversationId
    · subst hid
      rw [if_pos rfl]
      exact Table.find?_insertIdempotent_self hkey
    · rw [if_neg hid]
      exact Table.find?_insertIdempotent_of_ne fun heq => hid heq.symm

/-! ## Unfinished threads -/

/-- `_is_fresh_ai_state`. -/
def isFreshAiState (conversation : ConversationRow) : Bool :=
  conversation.status = .aiActive && !hasText conversation.activeWorkflow &&
    !hasText conversation.workflowStage && conversation.slotMemory.isEmpty

/-- `THREAD_CONTINUABLE_WORKFLOW_STAGES`. -/
def threadContinuableWorkflowStages : List String :=
  ["collecting_slots", "waiting_backend", "backend_querying", "lookup_pending_reply"]

/-- `THREAD_CONTINUABLE_STATUSES`. -/
def threadContinuableStatuses : List ConversationStatus := [.waitingExternal]

/-- `_is_continuable_previous_thread`. -/
def isContinuablePreviousThread (conversation : ConversationRow) : Bool :=
  let workflowStage := textOr conversation.workflowStage ""
  if conversation.status ∈ [.closed, .humanActive, .handoffRequested] then false
  else if workflowStage = "completed" ∨
      (getKey conversation.slotMemory "telegram_case_resolved_at").truthy then false
  else
    decide (conversation.status ∈ threadContinuableStatuses) ||
      decide (workflowStage ∈ threadContinuableWorkflowStages)

/-- `_inherit_unfinished_thread_state`. -/
def inheritUnfinishedThreadState (current previous : ConversationRow) :
    ConversationRow :=
  if !isFreshAiState current then current
  else if !isContinuablePreviousThread previous then current
  else
    { current with
      status := previous.status
      activeWorkflow := previous.activeWorkflow
      workflowStage := previous.workflowStage
      slotMemory :=
        previous.slotMemory.set "previous_thread_continuation"
          (.obj (.ofList [
            ("conversation_id", .str previous.conversationId),
            ("thread_id", .ofText? previous.currentThreadId),
            ("active_workflow", .ofText? previous.activeWorkflow),
            ("workflow_stage", .ofText? previous.workflowStage),
            ("status", .str previous.status.text)])) }

/-- What `get_or_create_on_connection` returns. -/
structure ConversationView extends ConversationRow where
  previousThreadState : Option ConversationRow

/-- The view of a stored row next to the previous thread, if there is one. -/
def viewOf (row : ConversationRow) : Option ConversationRow → ConversationView
  | some previous => ⟨inheritUnfinishedThreadState row previous, some previous⟩
  | none => ⟨row, none⟩

/-- `get_or_create_on_connection`; the previous thread is only looked up for an
event that has a thread. -/
def getOrCreateOnConnection (db : Database) (ctx : TxContext) (chatId : String)
    (threadId : Option String) : Database × ConversationView :=
  let conversationId := conversationIdForChat (some chatId) threadId
  let db := db.insertConversation conversationId chatId threadId fun _ => threadId
  let previous := if hasText threadId then ctx.previous else none
  match db.conversation? conversationId with
  | some row => (db, viewOf row previous)
  | none => (db, ⟨.fresh 0 conversationId chatId threadId, none⟩)

/-- The row of the conversation once `get_or_create_on_connection` has run. -/
def Database.ensuredRow (db : Database) (chatId : String) (threadId : Option String) :
    ConversationRow :=
  db.rowAfterInsert (conversationIdForChat (some chatId) threadId) chatId threadId
    fun _ => threadId

theorem getOrCreateOnConnection_eq (db : Database) (ctx : TxContext) (chatId : String)
    (threadId : Option String) :
    getOrCreateOnConnection db ctx chatId threadId =
      (db.insertConversation (conversationIdForChat (some chatId) threadId) chatId
          threadId fun _ => threadId,
        viewOf (db.ensuredRow chatId threadId)
          (if hasText threadId then ctx.previous else none)) := by
  simp [getOrCreateOnConnection, conversation?_insertConversation, Database.ensuredRow]

theorem ensuredRow_conversationId (db : Database) (chatId : String)
    (threadId : Option String) :
    (db.ensuredRow chatId threadId).conversationId =
      conversationIdForChat (some chatId) threadId := by
  unfold Database.ensuredRow Database.rowAfterInsert
  split
  · next row hrow =>
      have hid := conversationId_of_conversation? hrow
      exact hid
  · rfl

/-- The inherited state belongs to the same conversation. -/
theorem viewOf_conversationId (row : ConversationRow)
    (previous : Option ConversationRow) :
    (viewOf row previous).conversationId = row.conversationId := by
  cases previous with
  | none => rfl
  | some previous =>
      change (inheritUnfinishedThreadState row previous).conversationId = _
      unfold inheritUnfinishedThreadState
      split
      · rfl
      · split
        · rfl
        · rfl

/-- Neither a fresh row nor a thread that is continued is locked, so the view is
locked exactly when the stored row is. -/
theorem viewOf_isLocked (row : ConversationRow) (previous : Option ConversationRow) :
    (viewOf row previous).status.isLocked = row.status.isLocked := by
  cases previous with
  | none => rfl
  | some previous =>
      change (inheritUnfinishedThreadState row previous).status.isLocked = _
      unfold inheritUnfinishedThreadState
      by_cases hfresh : isFreshAiState row = true
      · by_cases hcont : isContinuablePreviousThread previous = true
        · have hrow : row.status = .aiActive := by
            simp only [isFreshAiState, Bool.and_eq_true, decide_eq_true_eq] at hfresh
            exact hfresh.1.1.1
          have hprevious : previous.status.isLocked = false := by
            cases hstatus : previous.status with
            | aiActive => rfl
            | waitingExternal => rfl
            | closed => rfl
            | handoffRequested => simp [isContinuablePreviousThread, hstatus] at hcont
            | humanActive => simp [isContinuablePreviousThread, hstatus] at hcont
          have haiActive : row.status.isLocked = false := by rw [hrow]; rfl
          simp [hfresh, hcont, hprevious, haiActive]
        · simp [hfresh, hcont]
      · simp [hfresh]

/-- A conversation that remembers something is viewed as it is stored. -/
theorem viewOf_slotMemory {row : ConversationRow} {key : String} {value : Json}
    (previous : Option ConversationRow) (h : row.slotMemory.get? key = some value) :
    (viewOf row previous).slotMemory = row.slotMemory := by
  cases previous with
  | none => rfl
  | some previous =>
      have hfresh : isFreshAiState row = false := by
        simp [isFreshAiState, Dict.isEmpty_eq_false_of_get? h]
      change (inheritUnfinishedThreadState row previous).slotMemory = _
      simp [inheritUnfinishedThreadState, hfresh]

/-! ## Workflow state -/

/-- `graph_state["telegram_case_update"]`. -/
structure TelegramCaseUpdate where
  telegramCaseId : Nat
  status : String

/-- The fields of a graph state that a transaction persists. -/
structure GraphState where
  status : Option ConversationStatus
  activeWorkflow : Option String
  workflowStage : Option String
  slotMemory : Option JsonObject
  handoffState : Option JsonObject
  deleteSlotMemoryKeys : List String
  telegramCaseUpdate : Option TelegramCaseUpdate

/-- `%s IN ('HANDOFF_REQUESTED', 'HUMAN_ACTIVE')`; `NULL` is in no list. -/
def statusIsLocked (status : Option ConversationStatus) : Bool :=
  status.any ConversationStatus.isLocked

/-- The assignments of `update_workflow_state_on_connection`. -/
def ConversationRow.withGraphState (row : ConversationRow) (graphState : GraphState) :
    ConversationRow :=
  { row with
    status := graphState.status.getD row.status
    activeWorkflow := graphState.activeWorkflow
    workflowStage := graphState.workflowStage
    slotMemory := graphState.slotMemory.getD ∅
    handoffState := graphState.handoffState.or row.handoffState }

/-- The `WHERE` clause of `update_workflow_state_on_connection`. -/
def ConversationRow.acceptsGraphState (row : ConversationRow) (graphState : GraphState) :
    Bool :=
  !row.status.isLocked || statusIsLocked graphState.status

/-- The `UPDATE` statement of `update_workflow_state_on_connection`. -/
def Database.updateGraphState (db : Database) (conversationId : String)
    (graphState : GraphState) : Database :=
  { db with
    conversationStates :=
      db.conversationStates.updateWhere
        (fun row => row.conversationId = conversationId && row.acceptsGraphState graphState)
        (fun row => row.withGraphState graphState) fun _ => rfl }

/-- `update_workflow_state_on_connection`.  The driver counts changed rows, so
an accepted update of equal values also goes through the second read. -/
def updateWorkflowStateOnConnection (db : Database) (ctx : TxContext)
    (conversationId : String) (graphState : GraphState) : Database × Bool :=
  let updated := db.updateGraphState conversationId graphState
  let accepted := (db.conversation? conversationId).any (·.acceptsGraphState graphState)
  (updated,
    if accepted && !ctx.unchanged then true
    else
      match updated.conversation? conversationId with
      | some row => !row.status.isLocked || statusIsLocked graphState.status
      | none => false)

theorem conversation?_updateGraphState (db : Database) (conversationId : String)
    (graphState : GraphState) (id : String) :
    (db.updateGraphState conversationId graphState).conversation? id =
      (db.conversation? id).map fun row =>
        if id = conversationId ∧ row.acceptsGraphState graphState = true then
          row.withGraphState graphState
        else row :=
  find?_updateWhere_conversation db conversationId id
    (fun row => row.acceptsGraphState graphState)
    (fun row => row.withGraphState graphState) fun _ => rfl

theorem accepts_withGraphState {row : ConversationRow} {graphState : GraphState}
    (haccepts : row.acceptsGraphState graphState = true) :
    (row.withGraphState graphState).acceptsGraphState graphState = true := by
  cases hstatus : graphState.status with
  | none =>
      simpa [ConversationRow.acceptsGraphState, ConversationRow.withGraphState, hstatus]
        using haccepts
  | some status =>
      cases hlock : status.isLocked with
      | true =>
          simp [ConversationRow.acceptsGraphState, hstatus, statusIsLocked, hlock]
      | false =>
          simp [ConversationRow.acceptsGraphState, ConversationRow.withGraphState,
            hstatus, hlock]

/-- Whatever the driver counts, the call reports success exactly when the row
exists and its status admits the graph state. -/
theorem updateWorkflowState_applied (db : Database) (ctx : TxContext)
    (conversationId : String) (graphState : GraphState) :
    (updateWorkflowStateOnConnection db ctx conversationId graphState).2 =
      (db.conversation? conversationId).any (·.acceptsGraphState graphState) := by
  simp only [updateWorkflowStateOnConnection, conversation?_updateGraphState]
  cases hrow : db.conversation? conversationId with
  | none => simp
  | some row =>
      by_cases haccepts : row.acceptsGraphState graphState = true
      · have hagain := accepts_withGraphState haccepts
        rw [ConversationRow.acceptsGraphState] at hagain
        simp [haccepts, hagain]
      · have hrefused := haccepts
        rw [ConversationRow.acceptsGraphState] at hrefused
        simp only [Bool.not_eq_true] at haccepts hrefused
        simp [haccepts, hrefused]

/-! ## Handoff failure and human takeover -/

/-- `record_handoff_failure`. -/
def recordHandoffFailure (db : Database) (conversationId : String)
    (failure : JsonObject) : Database × Bool :=
  match db.conversation? conversationId with
  | none => (db, false)
  | some row =>
      if row.status = .humanActive then (db, false)
      else
        let handoffState := (row.handoffState.getD ∅).set "failure" (.obj failure)
        ({ db with
            conversationStates :=
              db.conversationStates.updateWhere
                (fun row =>
                  row.conversationId = conversationId && decide (row.status ≠ .humanActive))
                (fun row =>
                  { row with
                    status := .handoffRequested
                    activeWorkflow := some "human_handoff"
                    workflowStage := some "handoff_requested"
                    handoffState := some handoffState })
                fun _ => rfl }, true)

/-- The fields of an `InboundEvent` that the transactions read. -/
structure InboundEvent where
  chatId : Option String
  threadId : Option String
  eventId : Option String
  authorId : Option String
  occurredAt : Option String
  payloadJson : JsonObject

/-- `payload.get(key) or fallback` for a fallback that may be `None`. -/
def payloadOr (payload : JsonObject) (key : String) (fallback : Option String) : Json :=
  (getKey payload key).orElse (.ofText? fallback)

/-- Close the open outbound messages of a conversation. -/
def Database.cancelOutbound (db : Database) (conversationId : String) : Database :=
  { db with
    outboundMessages :=
      db.outboundMessages.updateWhere
        (fun row => row.conversationId = some conversationId && row.status.isOpen)
        (fun row =>
          { row with
            status := .skippedHumanActive
            lastError := some "conversation is HUMAN_ACTIVE; outbound skipped"
            lease := .none })
        fun _ => rfl }

/-- Close the open commands of a conversation. -/
def Database.cancelCommands (db : Database) (conversationId : String) : Database :=
  { db with
    externalCommands :=
      db.externalCommands.updateWhere
        (fun row => row.conversationId = conversationId && row.status.isOpen)
        (fun row =>
          { row with
            status := .skippedHumanActive
            lastError := some "conversation is HUMAN_ACTIVE; external command skipped"
            lease := .none })
        fun _ => rfl }

/-- Close the open results of a conversation. -/
def Database.cancelResults (db : Database) (conversationId : String) : Database :=
  { db with
    externalCommandResults :=
      db.externalCommandResults.updateWhere
        (fun row => row.conversationId = conversationId && row.status.isOpen)
        (fun row =>
          { row with
            status := .skippedHumanActive
            lastError := some "conversation is HUMAN_ACTIVE; external result skipped"
            lease := .none })
        fun _ => rfl }

/-- The cancellation of the queued rows of a conversation. -/
def Database.cancelQueued (db : Database) (conversationId : String) : Database :=
  ((db.cancelOutbound conversationId).cancelCommands conversationId).cancelResults conversationId

theorem cancelQueued_conversationStates (db : Database) (conversationId : String) :
    (db.cancelQueued conversationId).conversationStates = db.conversationStates := rfl

/-- The keys that the takeover adds to `handoff_state`. -/
def humanAgentDetected (event : InboundEvent) : JsonObject :=
  .ofList [
    ("human_agent_detected", .bool true),
    ("agent_id", payloadOr event.payloadJson "human_agent_id" event.authorId),
    ("first_agent_event_id", payloadOr event.payloadJson "human_agent_event_id" event.eventId),
    ("detected_at", .ofText? event.occurredAt),
    ("source", .str "livechat_agent_public_reply")]

/-- The assignments of the takeover. -/
def ConversationRow.takenOver (row : ConversationRow) (event : InboundEvent) :
    ConversationRow :=
  { row with
    status := .humanActive
    workflowStage := some "human_active"
    handoffState := some ((row.handoffState.getD ∅).merge (humanAgentDetected event)) }

/-- `mark_human_active_on_connection`. -/
def markHumanActiveOnConnection (db : Database) (event : InboundEvent) : Database :=
  let conversationId := conversationIdForChat event.chatId event.threadId
  let inserted := db.insertConversation conversationId (textOr event.chatId "unknown")
    event.threadId fun stored => event.threadId.or stored
  let updated := inserted.updateConversation conversationId
    (fun row => row.takenOver event) fun _ => rfl
  updated.cancelQueued conversationId

end AiCustomerService
