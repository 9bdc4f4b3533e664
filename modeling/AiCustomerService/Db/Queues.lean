import AiCustomerService.Db.Conversations
import AiCustomerService.Python.Digest

/-!
# Queue tables

`OutboundMessageRepository`, `ExternalCommandRepository` and
`ExternalCommandResultRepository`: how their rows are keyed, inserted, leased
and finished.
-/

namespace AiCustomerService

open Support

/-! ## Deduplication keys -/

/-- An outbound message before it is inserted. -/
structure OutboundMessage where
  chatId : Option String
  threadId : Option String
  actionType : String
  messageType : String
  payloadJson : JsonObject
  status : QueueStatus
  inboundEventId : Option Nat
  conversationId : Option String
  tenantId : Option String
  dedupKey : Option String
  blockIndex : Option Int
  messageKind : Option String
  commandType : Option String

/-- `f"{inbound_event_id or ''}"`. -/
def eventIdOrEmpty : Option Nat → String
  | some 0 => ""
  | some n => toString n
  | none => ""

/-- `f"{inbound_event_id}"`. -/
def eventIdText : Option Nat → String
  | some n => toString n
  | none => "None"

/-- The text `f"{a}:{b}:{c}:{d}"` of the keys. -/
def keyOf (tenantId conversationId eventId action : String) : String :=
  tenantId ++ ":" ++ conversationId ++ ":" ++ eventId ++ ":" ++ action

/-- `_outbound_dedup_key`. -/
def outboundDedupKey (message : OutboundMessage) : String :=
  if hasText message.dedupKey then textOr message.dedupKey ""
  else
    keyOf (textOr message.tenantId "default") (textOr message.conversationId "")
      (eventIdOrEmpty message.inboundEventId) message.actionType

/-- An external command before it is inserted. -/
structure ExternalCommand where
  tenantId : Option String
  conversationId : String
  chatId : Option String
  threadId : Option String
  inboundEventId : Option Nat
  commandType : String
  payloadJson : JsonObject
  status : QueueStatus
  dedupKey : Option String

/-- `build_external_command_dedup_key`. -/
def buildExternalCommandDedupKey (tenantId conversationId : String)
    (inboundEventId : Option Nat) (commandType : String) (payload : JsonObject) : String :=
  keyOf tenantId conversationId (eventIdText inboundEventId) commandType ++ ":" ++
    sha256Hex (dumpsSorted (.obj payload))

/-- The key under which a command is inserted. -/
def externalCommandDedupKey (command : ExternalCommand) : String :=
  if hasText command.dedupKey then textOr command.dedupKey ""
  else
    buildExternalCommandDedupKey (textOr command.tenantId "default")
      command.conversationId command.inboundEventId command.commandType
      command.payloadJson

/-- An external command result before it is inserted. -/
structure ExternalResult where
  externalCommandId : Nat
  tenantId : Option String
  conversationId : String
  chatId : String
  threadId : Option String
  inboundEventId : Option Nat
  commandType : String
  resultType : String
  resultJson : JsonObject
  status : Option QueueStatus
  lastError : Option String
  dedupKey : Option String

/-- `build_external_command_result_dedup_key`. -/
def buildExternalCommandResultDedupKey (tenantId conversationId : String)
    (externalCommandId : Nat) (commandType resultType : String) (result : JsonObject) :
    String :=
  keyOf tenantId conversationId (toString externalCommandId) commandType ++ ":" ++
    resultType ++ ":" ++ sha256Hex (dumpsSorted (.obj result))

/-- The key under which a result is inserted. -/
def externalResultDedupKey (result : ExternalResult) : String :=
  if hasText result.dedupKey then textOr result.dedupKey ""
  else
    buildExternalCommandResultDedupKey (textOr result.tenantId "default")
      result.conversationId result.externalCommandId result.commandType
      result.resultType result.resultJson

/-! ## Idempotent inserts -/

/-- `chat_id` is `NOT NULL` in the queue tables. -/
def requireChatId : Option String → Except PyError String
  | some chatId => .ok chatId
  | none => .error (.databaseError "Column 'chat_id' cannot be null")

/-- The row stored for a message. -/
def OutboundMessage.row (message : OutboundMessage) (id now : Nat) (chatId : String) :
    OutboundRow where
  id := id
  chatId := chatId
  threadId := message.threadId
  actionType := message.actionType
  messageType := message.messageType
  payloadJson := message.payloadJson
  status := message.status
  retryCount := 0
  lastError := none
  inboundEventId := message.inboundEventId
  conversationId := message.conversationId
  dedupKey := outboundDedupKey message
  blockIndex := message.blockIndex
  messageKind := textOr message.messageKind message.messageType
  commandType := textOr message.commandType message.actionType
  lease := .none
  createdAt := now

/-- `OutboundMessageRepository.insert_idempotent_on_connection`. -/
def insertOutbound (db : Database) (message : OutboundMessage) :
    Except PyError (Database × InsertReport) := do
  let chatId ← requireChatId message.chatId
  let nextId := db.outboundMessages.rows.length + 1
  let inserted := db.outboundMessages.insertIdempotent (message.row nextId db.now chatId)
  pure ({ db with outboundMessages := inserted.1 }, .of inserted.2 nextId)

/-- The row stored for a command. -/
def ExternalCommand.row (command : ExternalCommand) (id now : Nat) (chatId : String) :
    ExternalCommandRow where
  id := id
  tenantId := textOr command.tenantId "default"
  conversationId := command.conversationId
  chatId := chatId
  threadId := command.threadId
  inboundEventId := command.inboundEventId
  commandType := command.commandType
  payloadJson := command.payloadJson
  status := command.status
  retryCount := 0
  lastError := none
  lease := .none
  dedupKey := externalCommandDedupKey command
  createdAt := now

/-- `ExternalCommandRepository.insert_idempotent_on_connection`. -/
def insertExternalCommand (db : Database) (command : ExternalCommand) :
    Except PyError (Database × InsertReport) := do
  let chatId ← requireChatId command.chatId
  let nextId := db.externalCommands.rows.length + 1
  let inserted := db.externalCommands.insertIdempotent (command.row nextId db.now chatId)
  pure ({ db with externalCommands := inserted.1 }, .of inserted.2 nextId)

/-- The row stored for a result. -/
def ExternalResult.row (result : ExternalResult) (id now : Nat) : ExternalResultRow where
  id := id
  externalCommandId := result.externalCommandId
  tenantId := textOr result.tenantId "default"
  conversationId := result.conversationId
  chatId := result.chatId
  threadId := result.threadId
  inboundEventId := result.inboundEventId
  commandType := result.commandType
  resultType := result.resultType
  resultJson := result.resultJson
  status := result.status.getD .pending
  retryCount := 0
  lastError := result.lastError
  lease := .none
  dedupKey := externalResultDedupKey result
  createdAt := now

/-- `ExternalCommandResultRepository.insert_idempotent`. -/
def insertExternalResult (db : Database) (result : ExternalResult) :
    Database × InsertReport :=
  let nextId := db.externalCommandResults.rows.length + 1
  let inserted := db.externalCommandResults.insertIdempotent (result.row nextId db.now)
  ({ db with externalCommandResults := inserted.1 }, .of inserted.2 nextId)

/-- Insert the items of a list one after another. -/
def insertEach {α : Type} (insert : Database → α → Except PyError (Database × InsertReport)) :
    Database → List α → Except PyError (Database × List InsertReport)
  | db, [] => .ok (db, [])
  | db, item :: rest => do
      let first ← insert db item
      let others ← insertEach insert first.1 rest
      pure (others.1, first.2 :: others.2)

/-- A message of the conversation history before it is inserted. -/
structure ConversationMessage where
  conversationId : String
  tenantId : Option String
  channelType : Option String
  chatId : Option String
  threadId : Option String
  inboundEventId : Option Nat
  outboundMessageId : Option Nat
  externalCommandResultId : Option Nat
  senderRole : String
  messageType : Option String
  textContent : Option String
  source : String

/-- Two history rows collide on one of the three unique indexes; `NULL` collides
with nothing. -/
def ConversationMessageRow.collides (old new : ConversationMessageRow) : Bool :=
  let sameRole := decide (old.senderRole = new.senderRole ∧ old.messageType = new.messageType)
  (new.inboundEventId.isSome && decide (old.inboundEventId = new.inboundEventId) && sameRole) ||
    (new.outboundMessageId.isSome &&
      decide (old.outboundMessageId = new.outboundMessageId)) ||
    (new.externalCommandResultId.isSome &&
      decide (old.externalCommandResultId = new.externalCommandResultId) && sameRole)

/-- `ConversationMessageRepository.insert_idempotent_on_connection`. -/
def insertConversationMessage (db : Database) (message : ConversationMessage) :
    Database × InsertReport :=
  let nextId := db.conversationMessages.length + 1
  let row : ConversationMessageRow :=
    { id := nextId
      conversationId := message.conversationId
      tenantId := textOr message.tenantId "default"
      channelType := textOr message.channelType "livechat"
      chatId := message.chatId
      threadId := message.threadId
      inboundEventId := message.inboundEventId
      outboundMessageId := message.outboundMessageId
      externalCommandResultId := message.externalCommandResultId
      senderRole := message.senderRole
      messageType := textOr message.messageType "text"
      textContent := message.textContent
      source := message.source
      createdAt := db.now }
  if db.conversationMessages.any (·.collides row) then (db, .of false nextId)
  else ({ db with conversationMessages := db.conversationMessages ++ [row] }, .of true nextId)

/-! ## Finishing rows -/

/-- Rewrite the result row with a given id. -/
def Database.updateResult (db : Database) (resultId : Nat)
    (assign : ExternalResultRow → ExternalResultRow)
    (hkey : ∀ row, (assign row).dedupKey = row.dedupKey) : Database :=
  { db with
    externalCommandResults :=
      db.externalCommandResults.updateWhere (fun row => row.id = resultId) assign hkey }

theorem hasKey_updateResult (db : Database) (resultId : Nat)
    (assign : ExternalResultRow → ExternalResultRow)
    (hkey : ∀ row, (assign row).dedupKey = row.dedupKey) (key : String) :
    (db.updateResult resultId assign hkey).externalCommandResults.hasKey key ↔
      db.externalCommandResults.hasKey key :=
  Table.hasKey_updateWhere db.externalCommandResults _ assign hkey key

/-- `ExternalCommandResultRepository.mark_processed_on_connection`. -/
def markResultProcessed (db : Database) (resultId : Nat) : Database :=
  db.updateResult resultId
    (fun row => { row with status := .processed, lease := .none, lastError := none })
    fun _ => rfl

/-- `ExternalCommandResultRepository.mark_failed`. -/
def markResultFailed (db : Database) (resultId : Nat) (error : String) : Database :=
  db.updateResult resultId
    (fun row => { row with status := .failed, lastError := some error, lease := .none })
    fun _ => rfl

/-- `ExternalCommandResultRepository.mark_processing_failed`.  The assignments are made from
left to right, so the `CASE` counts from the retry count that was just increased. -/
def markResultProcessingFailed (db : Database) (resultId : Nat) (error : String)
    (maxRetries : Nat) : Database :=
  db.updateResult resultId
    (fun row =>
      let retryCount := row.retryCount + 1
      { row with
        retryCount
        status := if maxRetries ≤ retryCount + 1 then .failed else .retryable
        lastError := some error
        lease := .none })
    fun _ => rfl

/-- `lease_pending_by_id`, and `lease_pending` for each of its rows: `none` when the row
cannot be leased. -/
def Database.leaseResult? (db : Database) (resultId : Nat) (workerId : String)
    (leaseSeconds : Nat) : Option Database :=
  if db.externalCommandResults.rows.any fun row =>
      row.id = resultId && row.status.isOpen && row.lease.isFree db.now then
    some (db.updateResult resultId
      (fun row => { row with lease := .taken workerId db.now leaseSeconds }) fun _ => rfl)
  else none

/-- `InboundEventRepository.mark_processed_on_connection`. -/
def markEventProcessed (db : Database) (inboundEventId : Nat) : Database :=
  { db with processedInboundEvents := inboundEventId :: db.processedInboundEvents }

/-- `TelegramCaseRepository.update_case_status_on_connection`. -/
def updateCaseStatus (db : Database) (update : TelegramCaseUpdate) : Database :=
  { db with
    telegramCases :=
      db.telegramCases.map fun row =>
        if row.id = update.telegramCaseId then { row with status := update.status } else row }

/-! ## What the inserts do -/

theorem insertOutbound_ok {db db' : Database} {message : OutboundMessage}
    {report : InsertReport} (h : insertOutbound db message = .ok (db', report)) :
    db' = { db with outboundMessages := db'.outboundMessages } ∧
      (report.inserted = true ↔ ¬db.outboundMessages.hasKey (outboundDedupKey message)) ∧
      ∀ key, db'.outboundMessages.hasKey key ↔
        db.outboundMessages.hasKey key ∨ key = outboundDedupKey message := by
  unfold insertOutbound at h
  cases hchat : message.chatId with
  | none => simp [hchat, requireChatId, bind, Except.bind] at h
  | some chatId =>
      simp only [hchat, requireChatId, bind, Except.bind, pure, Except.pure,
        Except.ok.injEq, Prod.mk.injEq] at h
      obtain ⟨rfl, rfl⟩ := h
      refine ⟨rfl, ?_, ?_⟩
      · exact Table.insertIdempotent_inserted_iff db.outboundMessages _
      · intro key
        exact Table.hasKey_insertIdempotent db.outboundMessages _ key

theorem insertExternalCommand_ok {db db' : Database} {command : ExternalCommand}
    {report : InsertReport} (h : insertExternalCommand db command = .ok (db', report)) :
    db' = { db with externalCommands := db'.externalCommands } ∧
      (report.inserted = true ↔
        ¬db.externalCommands.hasKey (externalCommandDedupKey command)) ∧
      ∀ key, db'.externalCommands.hasKey key ↔
        db.externalCommands.hasKey key ∨ key = externalCommandDedupKey command := by
  unfold insertExternalCommand at h
  cases hchat : command.chatId with
  | none => simp [hchat, requireChatId, bind, Except.bind] at h
  | some chatId =>
      simp only [hchat, requireChatId, bind, Except.bind, pure, Except.pure,
        Except.ok.injEq, Prod.mk.injEq] at h
      obtain ⟨rfl, rfl⟩ := h
      refine ⟨rfl, ?_, ?_⟩
      · exact Table.insertIdempotent_inserted_iff db.externalCommands _
      · intro key
        exact Table.hasKey_insertIdempotent db.externalCommands _ key

section InsertEach

variable {α : Type} {insert : Database → α → Except PyError (Database × InsertReport)}

/-- A batch that goes through consists of inserts that go through. -/
theorem insertEach_cons {db db' : Database} {item : α} {rest : List α}
    {reports : List InsertReport} :
    insertEach insert db (item :: rest) = .ok (db', reports) ↔
      ∃ mid first others, insert db item = .ok (mid, first) ∧
        insertEach insert mid rest = .ok (db', others) ∧ reports = first :: others := by
  rw [insertEach, bind_eq_ok]
  constructor
  · rintro ⟨⟨mid, first⟩, hfirst, hrest⟩
    obtain ⟨⟨last, others⟩, hothers, hpure⟩ := bind_eq_ok.mp hrest
    cases hpure
    exact ⟨mid, first, others, hfirst, hothers, rfl⟩
  · rintro ⟨mid, first, others, hfirst, hothers, rfl⟩
    exact ⟨(mid, first), hfirst, bind_eq_ok.mpr ⟨(db', others), hothers, rfl⟩⟩

/-- A relation that every insert respects and that composes holds for a batch. -/
theorem insertEach_induction {R : Database → Database → Prop}
    (hrefl : ∀ db, R db db) (htrans : ∀ {a b c}, R a b → R b c → R a c)
    (hinsert : ∀ {db db' item report}, insert db item = .ok (db', report) → R db db')
    {db db' : Database} {items : List α} {reports : List InsertReport}
    (h : insertEach insert db items = .ok (db', reports)) : R db db' := by
  induction items generalizing db reports with
  | nil =>
      simp only [insertEach, Except.ok.injEq, Prod.mk.injEq] at h
      exact h.1 ▸ hrefl db
  | cons item rest ih =>
      obtain ⟨mid, first, others, hfirst, hothers, -⟩ := insertEach_cons.mp h
      exact htrans (hinsert hfirst) (ih hothers)

end InsertEach

theorem insertOutbounds_frame {db db' : Database} {messages : List OutboundMessage}
    {reports : List InsertReport}
    (h : insertEach insertOutbound db messages = .ok (db', reports)) :
    db' = { db with outboundMessages := db'.outboundMessages } := by
  refine insertEach_induction
    (R := fun db db' => db' = { db with outboundMessages := db'.outboundMessages })
    (fun _ => rfl) ?_ (fun hinsert => (insertOutbound_ok hinsert).1) h
  intro a b c hab hbc
  rw [hbc, hab]

theorem insertExternalCommands_frame {db db' : Database}
    {commands : List ExternalCommand} {reports : List InsertReport}
    (h : insertEach insertExternalCommand db commands = .ok (db', reports)) :
    db' = { db with externalCommands := db'.externalCommands } := by
  refine insertEach_induction
    (R := fun db db' => db' = { db with externalCommands := db'.externalCommands })
    (fun _ => rfl) ?_ (fun hinsert => (insertExternalCommand_ok hinsert).1) h
  intro a b c hab hbc
  rw [hbc, hab]

/-- The keys after a batch of messages are the old ones and those of the batch. -/
theorem hasKey_insertOutbounds {db db' : Database} {messages : List OutboundMessage}
    {reports : List InsertReport}
    (h : insertEach insertOutbound db messages = .ok (db', reports)) (key : String) :
    db'.outboundMessages.hasKey key ↔
      db.outboundMessages.hasKey key ∨ key ∈ messages.map outboundDedupKey := by
  induction messages generalizing db reports with
  | nil =>
      simp only [insertEach, Except.ok.injEq, Prod.mk.injEq] at h
      simp [h.1]
  | cons message rest ih =>
      obtain ⟨mid, first, others, hfirst, hothers, -⟩ := insertEach_cons.mp h
      rw [ih hothers, (insertOutbound_ok hfirst).2.2, List.map_cons, List.mem_cons, or_assoc]

end AiCustomerService
