import AiCustomerService.Db.Queues

/-!
# The two committing transactions

`ExternalResultTransactionRepository.process_result_transactionally` and
`GatewayTransactionRepository.process_event_transactionally`.  Each of them
creates the conversation row if needed, gives up when a human owns the
conversation, writes the workflow state and enqueues what follows from it.  An
exception rolls everything back, so a transaction either returns the new
database or raises and leaves the old one.
-/

namespace AiCustomerService

open Support

/-- What both transactions return. -/
structure TransactionResult where
  conversation : ConversationView
  messageInsert : Option InsertReport
  assistantMessageInserts : List InsertReport
  outboundInserts : List InsertReport
  externalCommandInserts : List InsertReport
  humanActiveSkipped : Bool

/-- The fields of a result that its transaction reads. -/
structure ResultRef where
  id : Nat
  chatId : String
  threadId : Option String

/-- The result row as the transaction refers to it. -/
def ExternalResultRow.ref (row : ExternalResultRow) : ResultRef :=
  ⟨row.id, row.chatId, row.threadId⟩

/-- The early return of a transaction that finds the conversation locked. -/
def TransactionResult.skipped (conversation : ConversationView)
    (messageInsert : Option InsertReport) : TransactionResult :=
  ⟨conversation, messageInsert, [], [], [], true⟩

/-- `{**conversation, "status": "HUMAN_ACTIVE"}`. -/
def ConversationView.asHumanActive (conversation : ConversationView) : ConversationView :=
  { conversation with status := .humanActive }

/-- The graph state whose slot memory is merged over the stored one, without the
keys that the handler asked to delete. -/
def GraphState.mergedOver (graphState : GraphState) (stored : JsonObject) : GraphState :=
  match graphState.slotMemory with
  | some slotMemory =>
      { graphState with
        slotMemory :=
          some ((stored.merge slotMemory).eraseAll graphState.deleteSlotMemoryKeys)
        deleteSlotMemoryKeys := [] }
  | none => graphState

/-- `case_update`, when there is one. -/
def applyCaseUpdate (db : Database) : Option TelegramCaseUpdate → Database
  | some update => updateCaseStatus db update
  | none => db

/-- Insert a message of the conversation, when there is one. -/
def insertMessageFor (db : Database) (conversationId : String) :
    Option ConversationMessage → Database × Option InsertReport
  | some message =>
      let inserted := insertConversationMessage db { message with conversationId }
      (inserted.1, some inserted.2)
  | none => (db, none)

/-- Insert several messages of the conversation. -/
def insertMessagesFor (db : Database) (conversationId : String) :
    List ConversationMessage → Database × List InsertReport
  | [] => (db, [])
  | message :: rest =>
      let first := insertConversationMessage db { message with conversationId }
      let others := insertMessagesFor first.1 conversationId rest
      (others.1, first.2 :: others.2)

/-- Enqueue outbound messages and external commands of the conversation. -/
def enqueue (db : Database) (conversationId : String)
    (outboundMessages : List OutboundMessage) (externalCommands : List ExternalCommand) :
    Except PyError (Database × List InsertReport × List InsertReport) := do
  let outbound ← insertEach insertOutbound db
    (outboundMessages.map fun message => { message with conversationId := some conversationId })
  let commands ← insertEach insertExternalCommand outbound.1
    (externalCommands.map fun command => { command with conversationId })
  pure (commands.1, outbound.2, commands.2)

/-- `process_result_transactionally`. -/
def processResultTransactionally (db : Database) (ctx : TxContext) (result : ResultRef)
    (graphState : GraphState) (outboundMessages : List OutboundMessage)
    (externalCommands : List ExternalCommand)
    (summaryMessage : Option ConversationMessage) :
    Except PyError (Database × TransactionResult) :=
  let loaded := getOrCreateOnConnection db ctx result.chatId result.threadId
  let conversation := loaded.2
  if conversation.status.isLocked then
    .ok (markResultProcessed loaded.1 result.id, .skipped conversation none)
  else
    let graphState := graphState.mergedOver conversation.slotMemory
    let db := applyCaseUpdate loaded.1 graphState.telegramCaseUpdate
    let state := updateWorkflowStateOnConnection db ctx conversation.conversationId graphState
    if state.2 = false then
      .ok (markResultProcessed state.1 result.id, .skipped conversation.asHumanActive none)
    else do
      let message := insertMessageFor state.1 conversation.conversationId summaryMessage
      let queued ← enqueue message.1 conversation.conversationId outboundMessages externalCommands
      pure (markResultProcessed queued.1 result.id,
        ⟨conversation, message.2, [], queued.2.1, queued.2.2, false⟩)

/-- `process_event_transactionally`. -/
def processEventTransactionally (db : Database) (ctx : TxContext) (inboundEventId : Nat)
    (event : InboundEvent) (customerMessage : Option ConversationMessage)
    (outboundMessages : List OutboundMessage) (externalCommands : List ExternalCommand)
    (graphState : Option GraphState) (assistantMessages : List ConversationMessage) :
    Except PyError (Database × TransactionResult) :=
  let loaded := getOrCreateOnConnection db ctx (textOr event.chatId "unknown") event.threadId
  let conversation := loaded.2
  let conversationId := conversation.conversationId
  let skip (db : Database) (conversation : ConversationView) :
      Except PyError (Database × TransactionResult) :=
    let message := insertMessageFor db conversationId customerMessage
    .ok (markEventProcessed message.1 inboundEventId, .skipped conversation message.2)
  let proceed (db : Database) : Except PyError (Database × TransactionResult) := do
    let message := insertMessageFor db conversationId customerMessage
    let assistant := insertMessagesFor message.1 conversationId assistantMessages
    let queued ← enqueue assistant.1 conversationId outboundMessages externalCommands
    pure (markEventProcessed queued.1 inboundEventId,
      ⟨conversation, message.2, assistant.2, queued.2.1, queued.2.2, false⟩)
  if conversation.status.isLocked then skip loaded.1 conversation
  else
    match graphState with
    | none => proceed loaded.1
    | some graphState =>
        let db := applyCaseUpdate loaded.1 graphState.telegramCaseUpdate
        let state := updateWorkflowStateOnConnection db ctx conversationId graphState
        if state.2 = false then skip state.1 conversation.asHumanActive
        else proceed state.1

/-! ## What the auxiliary writes leave alone -/

/-- The conversation rows and the three queues are the same. -/
structure SameQueues (db db' : Database) : Prop where
  conversationStates : db'.conversationStates = db.conversationStates
  outboundMessages : db'.outboundMessages = db.outboundMessages
  externalCommands : db'.externalCommands = db.externalCommands
  externalCommandResults : db'.externalCommandResults = db.externalCommandResults

theorem SameQueues.refl (db : Database) : SameQueues db db := ⟨rfl, rfl, rfl, rfl⟩

theorem SameQueues.trans {a b c : Database} (hab : SameQueues a b) (hbc : SameQueues b c) :
    SameQueues a c :=
  ⟨hbc.1.trans hab.1, hbc.2.trans hab.2, hbc.3.trans hab.3, hbc.4.trans hab.4⟩

theorem sameQueues_insertConversationMessage (db : Database)
    (message : ConversationMessage) :
    SameQueues db (insertConversationMessage db message).1 := by
  simp only [insertConversationMessage]
  split
  · exact .refl db
  · exact ⟨rfl, rfl, rfl, rfl⟩

theorem sameQueues_insertMessageFor (db : Database) (conversationId : String)
    (message : Option ConversationMessage) :
    SameQueues db (insertMessageFor db conversationId message).1 := by
  cases message with
  | none => exact .refl db
  | some message => exact sameQueues_insertConversationMessage db _

theorem sameQueues_insertMessagesFor (db : Database) (conversationId : String)
    (messages : List ConversationMessage) :
    SameQueues db (insertMessagesFor db conversationId messages).1 := by
  induction messages generalizing db with
  | nil => exact .refl db
  | cons message rest ih =>
      exact (sameQueues_insertConversationMessage db _).trans (ih _)

theorem sameQueues_applyCaseUpdate (db : Database) (update : Option TelegramCaseUpdate) :
    SameQueues db (applyCaseUpdate db update) := by
  cases update with
  | none => exact .refl db
  | some update => exact ⟨rfl, rfl, rfl, rfl⟩

/-- What a batch of queue inserts does: conversations and results stay, and the
inserts of each queue are those of its own list. -/
theorem enqueue_ok {db db' : Database} {conversationId : String}
    {messages : List OutboundMessage} {commands : List ExternalCommand}
    {outbound inserted : List InsertReport}
    (h : enqueue db conversationId messages commands = .ok (db', outbound, inserted)) :
    ∃ mid,
      insertEach insertOutbound db
          (messages.map fun message => { message with conversationId := some conversationId }) =
        .ok (mid, outbound) ∧
      insertEach insertExternalCommand mid
          (commands.map fun command => { command with conversationId }) =
        .ok (db', inserted) := by
  obtain ⟨⟨mid, first⟩, houtbound, hrest⟩ := bind_eq_ok.mp h
  obtain ⟨⟨last, second⟩, hcommands, hpure⟩ := bind_eq_ok.mp hrest
  cases hpure
  exact ⟨mid, houtbound, hcommands⟩

theorem enqueue_conversationStates {db db' : Database} {conversationId : String}
    {messages : List OutboundMessage} {commands : List ExternalCommand}
    {reports : List InsertReport × List InsertReport}
    (h : enqueue db conversationId messages commands = .ok (db', reports)) :
    db'.conversationStates = db.conversationStates := by
  obtain ⟨mid, houtbound, hcommands⟩ := enqueue_ok h
  rw [insertExternalCommands_frame hcommands, insertOutbounds_frame houtbound]

/-! ## What a transaction can do -/

/-- The database once the conversation row of a transaction exists. -/
abbrev Database.entered (db : Database) (chatId : String) (threadId : Option String) :
    Database :=
  db.insertConversation (conversationIdForChat (some chatId) threadId) chatId threadId
    fun _ => threadId

theorem sameQueues_entered (db : Database) (chatId : String) (threadId : Option String) :
    (db.entered chatId threadId).outboundMessages = db.outboundMessages ∧
      (db.entered chatId threadId).externalCommands = db.externalCommands := by
  unfold Database.entered Database.insertConversation
  split
  · exact ⟨rfl, rfl⟩
  · exact ⟨rfl, rfl⟩

theorem conversation?_entered (db : Database) (chatId : String) (threadId : Option String)
    (id : String) :
    (db.entered chatId threadId).conversation? id =
      if id = conversationIdForChat (some chatId) threadId then
        some (db.ensuredRow chatId threadId)
      else db.conversation? id :=
  conversation?_insertConversation db _ chatId threadId _ id

/-- The view of the conversation inside a transaction. -/
abbrev Database.viewed (db : Database) (ctx : TxContext) (chatId : String)
    (threadId : Option String) : ConversationView :=
  viewOf (db.ensuredRow chatId threadId) (if hasText threadId then ctx.previous else none)

/-- A transaction that found the conversation locked wrote no queue row. -/
structure Skipped (db : Database) (chatId : String) (threadId : Option String)
    (db' : Database) (result : TransactionResult) : Prop where
  locked : (db.ensuredRow chatId threadId).status.isLocked = true
  states : db'.conversationStates = (db.entered chatId threadId).conversationStates
  outbound : db'.outboundMessages = db.outboundMessages
  commands : db'.externalCommands = db.externalCommands
  skipped : result.humanActiveSkipped = true

/-- A transaction that went through left the conversation rows `states` and
enqueued its messages and commands. -/
structure Enqueued (db : Database) (chatId : String) (threadId : Option String)
    (states : Table String ConversationRow ConversationRow.conversationId)
    (messages : List OutboundMessage) (commands : List ExternalCommand)
    (db' : Database) (result : TransactionResult) : Prop where
  free : (db.ensuredRow chatId threadId).status.isLocked = false
  states : db'.conversationStates = states
  queued : ∃ base queued, base.outboundMessages = db.outboundMessages ∧
    base.externalCommands = db.externalCommands ∧
    enqueue base (conversationIdForChat (some chatId) threadId) messages commands =
      .ok (queued, result.outboundInserts, result.externalCommandInserts) ∧
    db'.outboundMessages = queued.outboundMessages ∧
    db'.externalCommands = queued.externalCommands
  notSkipped : result.humanActiveSkipped = false

/-- An unlocked conversation accepts every graph state, so the second check of
a transaction never fails after the first one has passed. -/
theorem updateWorkflowState_applied_of_free {db : Database} {chatId : String}
    {threadId : Option String} (ctx : TxContext) (graphState : GraphState)
    (update : Option TelegramCaseUpdate)
    (hfree : (db.ensuredRow chatId threadId).status.isLocked = false) :
    (updateWorkflowStateOnConnection (applyCaseUpdate (db.entered chatId threadId) update)
      ctx (conversationIdForChat (some chatId) threadId) graphState).2 = true := by
  have hsame := sameQueues_applyCaseUpdate (db.entered chatId threadId) update
  rw [updateWorkflowState_applied, Database.conversation?, hsame.conversationStates]
  change ((db.entered chatId threadId).conversation? _).any _ = true
  rw [conversation?_entered, if_pos rfl]
  change (db.ensuredRow chatId threadId).acceptsGraphState graphState = true
  simp [ConversationRow.acceptsGraphState, hfree]

theorem viewed_conversationId (db : Database) (ctx : TxContext) (chatId : String)
    (threadId : Option String) :
    (db.viewed ctx chatId threadId).conversationId =
      conversationIdForChat (some chatId) threadId := by
  rw [Database.viewed, viewOf_conversationId, ensuredRow_conversationId]

theorem updateGraphState_conversationStates {a b : Database} (conversationId : String)
    (graphState : GraphState) (h : a.conversationStates = b.conversationStates) :
    (a.updateGraphState conversationId graphState).conversationStates =
      (b.updateGraphState conversationId graphState).conversationStates := by
  simp only [Database.updateGraphState, h]

/-- The state update writes the conversation row and no queue. -/
theorem updatedState_queues (db : Database) (ctx : TxContext) (chatId : String)
    (threadId : Option String) (update : Option TelegramCaseUpdate) (conversationId : String)
    (graphState : GraphState) {state : Database}
    (hstate : state = (updateWorkflowStateOnConnection
      (applyCaseUpdate (db.entered chatId threadId) update) ctx conversationId graphState).1) :
    state.conversationStates =
        ((db.entered chatId threadId).updateGraphState conversationId
          graphState).conversationStates ∧
      state.outboundMessages = db.outboundMessages ∧
      state.externalCommands = db.externalCommands := by
  have hcase := sameQueues_applyCaseUpdate (db.entered chatId threadId) update
  have hentered := sameQueues_entered db chatId threadId
  subst hstate
  refine ⟨?_, ?_, ?_⟩
  · exact updateGraphState_conversationStates _ _ hcase.conversationStates
  · exact hcase.outboundMessages.trans hentered.1
  · exact hcase.externalCommands.trans hentered.2

/-- Assemble a transaction that went through from its parts. -/
theorem Enqueued.intro {db state base queued db' : Database} {chatId : String}
    {threadId : Option String}
    {states : Table String ConversationRow ConversationRow.conversationId}
    {messages : List OutboundMessage} {commands : List ExternalCommand}
    {result : TransactionResult}
    (hfree : (db.ensuredRow chatId threadId).status.isLocked = false)
    (hstate : state.conversationStates = states ∧
      state.outboundMessages = db.outboundMessages ∧
      state.externalCommands = db.externalCommands)
    (hbase : SameQueues state base)
    (henqueue : enqueue base (conversationIdForChat (some chatId) threadId) messages
      commands = .ok (queued, result.outboundInserts, result.externalCommandInserts))
    (hdb' : db'.conversationStates = queued.conversationStates ∧
      db'.outboundMessages = queued.outboundMessages ∧
      db'.externalCommands = queued.externalCommands)
    (hskip : result.humanActiveSkipped = false) :
    Enqueued db chatId threadId states messages commands db' result where
  free := hfree
  states := by
    rw [hdb'.1, enqueue_conversationStates henqueue, hbase.conversationStates, hstate.1]
  queued :=
    ⟨base, queued, hbase.outboundMessages.trans hstate.2.1,
      hbase.externalCommands.trans hstate.2.2, henqueue, hdb'.2.1, hdb'.2.2⟩
  notSkipped := hskip

/-- The inversion of `process_result_transactionally`. -/
theorem processResult_cases {db db' : Database} {ctx : TxContext} {ref : ResultRef}
    {graphState : GraphState} {messages : List OutboundMessage}
    {commands : List ExternalCommand} {summary : Option ConversationMessage}
    {result : TransactionResult}
    (h : processResultTransactionally db ctx ref graphState messages commands summary =
      .ok (db', result)) :
    Skipped db ref.chatId ref.threadId db' result ∨
      Enqueued db ref.chatId ref.threadId
        ((db.entered ref.chatId ref.threadId).updateGraphState
          (conversationIdForChat (some ref.chatId) ref.threadId)
          (graphState.mergedOver
            (db.viewed ctx ref.chatId ref.threadId).slotMemory)).conversationStates
        messages commands db' result := by
  unfold processResultTransactionally at h
  simp only [getOrCreateOnConnection_eq] at h
  cases hlock : (db.ensuredRow ref.chatId ref.threadId).status.isLocked with
  | true =>
      rw [if_pos (by rw [viewOf_isLocked]; exact hlock)] at h
      simp only [Except.ok.injEq, Prod.mk.injEq] at h
      obtain ⟨rfl, rfl⟩ := h
      have hqueues := sameQueues_entered db ref.chatId ref.threadId
      exact Or.inl ⟨hlock, rfl, hqueues.1, hqueues.2, rfl⟩
  | false =>
      rw [if_neg (by rw [viewOf_isLocked, hlock]; simp)] at h
      have hid := viewed_conversationId db ctx ref.chatId ref.threadId
      simp only [hid] at h
      rw [if_neg (by
        rw [updateWorkflowState_applied_of_free ctx _ _ hlock]
        simp)] at h
      obtain ⟨⟨queued, outbound, inserted⟩, henqueue, hpure⟩ := bind_eq_ok.mp h
      cases hpure
      exact Or.inr (Enqueued.intro hlock
        (updatedState_queues db ctx ref.chatId ref.threadId _ _ _ rfl)
        (sameQueues_insertMessageFor _ _ _) henqueue ⟨rfl, rfl, rfl⟩ rfl)

/-- Entering a transaction twice finds the same row. -/
theorem ensuredRow_entered (db : Database) (chatId : String) (threadId : Option String) :
    (db.entered chatId threadId).ensuredRow chatId threadId =
      db.ensuredRow chatId threadId := by
  have hentered := conversation?_entered db chatId threadId
    (conversationIdForChat (some chatId) threadId)
  rw [if_pos rfl] at hentered
  have hroute : (db.ensuredRow chatId threadId).currentThreadId = threadId := by
    unfold Database.ensuredRow Database.rowAfterInsert
    split
    · rfl
    · rfl
  have hagain : (db.entered chatId threadId).ensuredRow chatId threadId =
      { db.ensuredRow chatId threadId with currentThreadId := threadId } := by
    rw [Database.ensuredRow, Database.rowAfterInsert, hentered]
  generalize db.ensuredRow chatId threadId = row at hroute hagain
  cases row
  subst hroute
  exact hagain

/-- The conversation row that `process_result_transactionally` leaves behind when
it goes through. -/
theorem processResult_conversation? {db db' : Database} {ctx : TxContext} {ref : ResultRef}
    {graphState : GraphState} {messages : List OutboundMessage}
    {commands : List ExternalCommand} {summary : Option ConversationMessage}
    {result : TransactionResult}
    (h : processResultTransactionally db ctx ref graphState messages commands summary =
      .ok (db', result))
    (hskip : result.humanActiveSkipped = false) :
    db'.conversation? (conversationIdForChat (some ref.chatId) ref.threadId) =
      some ((db.ensuredRow ref.chatId ref.threadId).withGraphState
        (graphState.mergedOver (db.viewed ctx ref.chatId ref.threadId).slotMemory)) := by
  rcases processResult_cases h with hskipped | henqueued
  · rw [hskipped.skipped] at hskip
    cases hskip
  · have hupdate := conversation?_updateGraphState (db.entered ref.chatId ref.threadId)
      (conversationIdForChat (some ref.chatId) ref.threadId)
      (graphState.mergedOver (db.viewed ctx ref.chatId ref.threadId).slotMemory)
      (conversationIdForChat (some ref.chatId) ref.threadId)
    have haccepts : (db.ensuredRow ref.chatId ref.threadId).acceptsGraphState
        (graphState.mergedOver (db.viewed ctx ref.chatId ref.threadId).slotMemory) = true := by
      simp [ConversationRow.acceptsGraphState, henqueued.free]
    rw [conversation?_entered, if_pos rfl, Option.map_some, if_pos ⟨rfl, haccepts⟩] at hupdate
    rw [← hupdate, Database.conversation?, henqueued.states]
    rfl

/-- The conversation rows that `process_event_transactionally` leaves behind. -/
def Database.afterEvent (db : Database) (chatId : String) (threadId : Option String)
    (graphState : Option GraphState) :
    Table String ConversationRow ConversationRow.conversationId :=
  match graphState with
  | none => (db.entered chatId threadId).conversationStates
  | some graphState =>
      ((db.entered chatId threadId).updateGraphState
        (conversationIdForChat (some chatId) threadId) graphState).conversationStates

/-- The inversion of `process_event_transactionally`. -/
theorem processEvent_cases {db db' : Database} {ctx : TxContext} {inboundEventId : Nat}
    {event : InboundEvent} {customer : Option ConversationMessage}
    {messages : List OutboundMessage} {commands : List ExternalCommand}
    {graphState : Option GraphState} {assistant : List ConversationMessage}
    {result : TransactionResult}
    (h : processEventTransactionally db ctx inboundEventId event customer messages commands
      graphState assistant = .ok (db', result)) :
    Skipped db (textOr event.chatId "unknown") event.threadId db' result ∨
      Enqueued db (textOr event.chatId "unknown") event.threadId
        (db.afterEvent (textOr event.chatId "unknown") event.threadId graphState)
        messages commands db' result := by
  unfold processEventTransactionally at h
  generalize textOr event.chatId "unknown" = chatId at h ⊢
  simp only [getOrCreateOnConnection_eq] at h
  have hid := viewed_conversationId db ctx chatId event.threadId
  have hentered := sameQueues_entered db chatId event.threadId
  cases hlock : (db.ensuredRow chatId event.threadId).status.isLocked with
  | true =>
      rw [if_pos (by rw [viewOf_isLocked]; exact hlock)] at h
      simp only [Except.ok.injEq, Prod.mk.injEq] at h
      obtain ⟨rfl, rfl⟩ := h
      have hmessage := sameQueues_insertMessageFor (db.entered chatId event.threadId)
        (db.viewed ctx chatId event.threadId).conversationId customer
      exact Or.inl ⟨hlock, hmessage.conversationStates,
        hmessage.outboundMessages.trans hentered.1,
        hmessage.externalCommands.trans hentered.2, rfl⟩
  | false =>
      rw [if_neg (by rw [viewOf_isLocked, hlock]; simp)] at h
      simp only [hid] at h
      cases graphState with
      | none =>
          obtain ⟨⟨queued, outbound, inserted⟩, henqueue, hpure⟩ := bind_eq_ok.mp h
          cases hpure
          exact Or.inr (Enqueued.intro hlock ⟨rfl, hentered.1, hentered.2⟩
            ((sameQueues_insertMessageFor _ _ _).trans (sameQueues_insertMessagesFor _ _ _))
            henqueue ⟨rfl, rfl, rfl⟩ rfl)
      | some graphState =>
          simp only at h
          rw [if_neg (by
            rw [updateWorkflowState_applied_of_free ctx _ _ hlock]
            simp)] at h
          obtain ⟨⟨queued, outbound, inserted⟩, henqueue, hpure⟩ := bind_eq_ok.mp h
          cases hpure
          exact Or.inr (Enqueued.intro hlock
            (updatedState_queues db ctx chatId event.threadId _ _ _ rfl)
            ((sameQueues_insertMessageFor _ _ _).trans (sameQueues_insertMessagesFor _ _ _))
            henqueue ⟨rfl, rfl, rfl⟩ rfl)

/-- The conversation row behind an event that wrote a graph state. -/
theorem Enqueued.conversation?_afterEvent {db db' : Database} {chatId : String}
    {threadId : Option String} {graphState : GraphState} {messages : List OutboundMessage}
    {commands : List ExternalCommand} {result : TransactionResult}
    (h : Enqueued db chatId threadId (db.afterEvent chatId threadId (some graphState)) messages
      commands db' result) :
    db'.conversation? (conversationIdForChat (some chatId) threadId) =
      some ((db.ensuredRow chatId threadId).withGraphState graphState) := by
  have haccepts : (db.ensuredRow chatId threadId).acceptsGraphState graphState = true := by
    simp [ConversationRow.acceptsGraphState, h.free]
  have hupdate := conversation?_updateGraphState (db.entered chatId threadId)
    (conversationIdForChat (some chatId) threadId) graphState
    (conversationIdForChat (some chatId) threadId)
  rw [conversation?_entered, if_pos rfl, Option.map_some, if_pos ⟨rfl, haccepts⟩] at hupdate
  rw [← hupdate, Database.conversation?, h.states]
  rfl

/-! ## When the transaction of a result goes through -/

/-- A batch of inserts that always go through goes through. -/
theorem insertEach_total {α : Type}
    {insert : Database → α → Except PyError (Database × InsertReport)} {items : List α}
    (hinsert : ∀ item ∈ items, ∀ db, ∃ done, insert db item = .ok done) (db : Database) :
    ∃ done, insertEach insert db items = .ok done := by
  induction items generalizing db with
  | nil => exact ⟨(db, []), rfl⟩
  | cons item rest ih =>
      obtain ⟨⟨mid, report⟩, hfirst⟩ := hinsert item List.mem_cons_self db
      obtain ⟨⟨last, others⟩, hothers⟩ :=
        ih (fun other hother => hinsert other (List.mem_cons_of_mem _ hother)) mid
      exact ⟨(last, report :: others),
        insertEach_cons.mpr ⟨mid, report, others, hfirst, hothers, rfl⟩⟩

/-- Messages and commands with a chat can always be enqueued. -/
theorem enqueue_total {messages : List OutboundMessage} {commands : List ExternalCommand}
    (hmessages : ∀ message ∈ messages, message.chatId.isSome)
    (hcommands : ∀ command ∈ commands, command.chatId.isSome) (db : Database)
    (conversationId : String) : ∃ done, enqueue db conversationId messages commands = .ok done := by
  have houtbound : ∀ routed ∈ messages.map fun message =>
      { message with conversationId := some conversationId },
      ∀ db, ∃ done, insertOutbound db routed = .ok done := by
    intro routed hmem db
    obtain ⟨message, hmessage, rfl⟩ := List.mem_map.mp hmem
    obtain ⟨chatId, hchat⟩ := Option.isSome_iff_exists.mp (hmessages message hmessage)
    exact ⟨_, by rw [insertOutbound, hchat]; rfl⟩
  have hexternal : ∀ routed ∈ commands.map fun command => { command with conversationId },
      ∀ db, ∃ done, insertExternalCommand db routed = .ok done := by
    intro routed hmem db
    obtain ⟨command, hcommand, rfl⟩ := List.mem_map.mp hmem
    obtain ⟨chatId, hchat⟩ := Option.isSome_iff_exists.mp (hcommands command hcommand)
    exact ⟨_, by rw [insertExternalCommand, hchat]; rfl⟩
  obtain ⟨outbound, hfirst⟩ := insertEach_total houtbound db
  obtain ⟨inserted, hsecond⟩ := insertEach_total hexternal outbound.1
  exact ⟨(inserted.1, outbound.2, inserted.2), by rw [enqueue, hfirst]; simp [bind, Except.bind, hsecond]; rfl⟩

theorem processResult_of_chatId {messages : List OutboundMessage}
    {commands : List ExternalCommand}
    (hmessages : ∀ message ∈ messages, message.chatId.isSome)
    (hcommands : ∀ command ∈ commands, command.chatId.isSome) (db : Database) (ctx : TxContext)
    (ref : ResultRef) (graphState : GraphState) (summary : Option ConversationMessage) :
    ∃ db' result, processResultTransactionally db ctx ref graphState messages commands summary =
      .ok (db', result) := by
  unfold processResultTransactionally
  simp only
  split
  · exact ⟨_, _, rfl⟩
  · split
    · exact ⟨_, _, rfl⟩
    · generalize insertMessageFor _ _ summary = message
      generalize (getOrCreateOnConnection db ctx ref.chatId ref.threadId).2 = view
      obtain ⟨done, hdone⟩ := enqueue_total hmessages hcommands message.1 view.conversationId
      rw [hdone]
      exact ⟨_, _, rfl⟩

end AiCustomerService
