import AiCustomerService.Services.Gateway
import AiCustomerService.Services.TelegramCaseCard
import AiCustomerService.Support.Steps
import AiCustomerService.Workers.ResultHandlers

/-!
# Runs on the card of a case

The gateway appends supplements to a case, the command worker edits the card, and the result
consumer brings the new text of the card back into the conversation.
-/

namespace AiCustomerService

open Support

/-! ## The gateway -/

/-- An event whose supplement, if there is one, is appended to the case; `plan` is what the
dialogue planner makes of the memory. -/
structure SupplementTurn where
  context : TxContext
  inboundEventId : Nat
  event : StandardEvent
  activeWorkflow : String
  platform : Json
  livechatGroupId : Json
  supplement : Option JsonObject
  plan : JsonObject → JsonObject
  rest : GatewayOutput

/-- `build_sop_command` for `telegram.append_to_case`. -/
def buildAppendCommand (turn : SupplementTurn) (conversationId : String) (slotMemory : JsonObject)
    (supplement : JsonObject) : WorkflowCommand where
  type := .telegramAppendToCase
  payload := .ofList [
    ("intent", .str turn.activeWorkflow),
    ("active_workflow", .str turn.activeWorkflow),
    ("conversation_id", .str conversationId),
    ("chat_id", .ofText? turn.event.chatId),
    ("thread_id", .ofText? turn.event.threadId),
    ("inbound_event_id", .int turn.inboundEventId),
    ("platform", turn.platform.orElse (getKey slotMemory "platform")),
    ("livechat_group_id", turn.livechatGroupId.orElse (getKey slotMemory "livechat_group_id")),
    ("slot_memory", .obj slotMemory),
    ("telegram_case_id", getKey slotMemory "telegram_case_id"),
    ("telegram_message_id", getKey slotMemory "telegram_message_id"),
    ("telegram_target_chat_id", getKey slotMemory "telegram_target_chat_id"),
    ("telegram_message_thread_id", getKey slotMemory "telegram_message_thread_id"),
    ("supplement", .obj supplement)]
  dedupKey := none
  blockIndex := none

/-- A reply between its two transactions, with the memory that it has loaded. -/
structure LoadedTurn where
  turn : SupplementTurn
  conversation : ConversationView

/-- The memory after the dialogue planner. -/
def LoadedTurn.slotMemory (loaded : LoadedTurn) : JsonObject :=
  loaded.turn.plan loaded.conversation.slotMemory

/-- The command, and what the rest of the graph asks for. -/
def LoadedTurn.externalCommands (loaded : LoadedTurn) : List ExternalCommand :=
  let turn := loaded.turn
  (turn.supplement.map fun supplement =>
    buildExternalCommandRecord (textOr (some loaded.conversation.tenantId) "default")
      turn.event.chatId turn.event.threadId loaded.conversation.conversationId
      (some turn.inboundEventId)
      (buildAppendCommand turn loaded.conversation.conversationId loaded.slotMemory
        supplement)).toList ++ turn.rest.externalCommands

/-- The commit writes the memory that was loaded. -/
def LoadedTurn.commit (loaded : LoadedTurn) (db : Database) :
    Except PyError (Database × TransactionResult) :=
  let turn := loaded.turn
  processEventTransactionally db turn.context turn.inboundEventId turn.event.toInboundEvent none
    turn.rest.outboundMessages loaded.externalCommands
    (some { turn.rest.graphState with
      workflowStage := some "waiting_backend"
      slotMemory := some loaded.slotMemory }) turn.rest.assistantMessages

/-! ## The worker -/

/-- An edit of a card: the message, its new text and the supplement. -/
structure CardEdit where
  root : Option String × Int
  text : String
  supplement : String

/-- The database, the edits, the latest first, and the replies that are being prepared. -/
structure CardWorld where
  db : Database
  edits : List CardEdit
  loaded : List LoadedTurn

/-- A pending append command. -/
def Database.appendCommand? (db : Database) (commandId : Nat) : Option ExternalCommandRow :=
  db.externalCommands.rows.find? fun row =>
    row.id = commandId && row.commandType = CommandType.telegramAppendToCase.text

/-- The edit that the worker makes for the command. -/
def cardEdit (settings : CardSettings) (command : ExternalCommandRow) (translated : Option String)
    (now : String) : Except PyError CardEdit := do
  let messageId ← appendRootMessage settings.runtime command
  let supplement := translateAppendSupplementText settings
    (getKey command.payloadJson "supplement").dictOrEmpty translated
  pure
    { root := ((settings.telegramTarget command).chatId, messageId)
      text := buildTelegramCaseAppend settings command supplement now
      supplement := supplementText settings supplement }

/-- The result of an append. -/
def appendResult (settings : CardSettings) (command : ExternalCommandRow) (edit : CardEdit) :
    ExternalResult :=
  let target := settings.telegramTarget command
  buildResultRecord command "telegram.append_to_case.result"
    (.ofList [("status", .str "edited"), ("telegram_message_id", .int edit.root.2),
      ("reply_to_message_id", .int edit.root.2), ("target_chat_id", .ofText? target.chatId),
      ("message_thread_id", threadJson target.messageThreadId),
      ("target_source", .str target.targetSource), ("attachment_results", .arr []),
      ("card_text", .str edit.text), ("intent", commandIntent command.payloadJson),
      ("active_workflow", (getKey command.payloadJson "active_workflow").orElse
        (commandIntent command.payloadJson))]) none

/-- The worker executes the command; without a message to edit it raises. -/
def CardWorld.execute (settings : CardSettings) (w : CardWorld) (commandId : Nat)
    (translated : Option String) (now : String) : CardWorld :=
  match w.db.appendCommand? commandId with
  | none => w
  | some command =>
      match cardEdit settings command translated now with
      | .error _ => w
      | .ok edit =>
          { w with
            db := markCommandSent (insertExternalResult w.db (appendResult settings command edit)).1
              command.id
            edits := edit :: w.edits }

/-! ## Runs -/

/-- What happens: an event is loaded, its reply is committed, a command is executed, a result is
merged into the conversation, or another result is committed. -/
inductive CardStep
  | load (turn : SupplementTurn)
  | commit (index : Nat)
  | execute (commandId : Nat) (translated : Option String) (now : String)
  | merge (context : TxContext) (row : ExternalResultRow) (recordedAt : String)
      (messages : List OutboundMessage)
  | result (context : TxContext) (ref : ResultRef) (graphState : GraphState)
      (messages : List OutboundMessage) (commands : List ExternalCommand)
      (summary : Option ConversationMessage)

/-- A transaction that raises is rolled back. -/
def CardWorld.committed (w : CardWorld) (done : Except PyError (Database × TransactionResult)) :
    CardWorld :=
  match done with
  | .ok (db, _) => { w with db }
  | .error _ => w

/-- The consumer's transaction for a result. -/
def mergeResult (settings : CardSettings) (render : Renderer) (db : Database) (context : TxContext)
    (row : ExternalResultRow) (recordedAt : String) (messages : List OutboundMessage) :
    Except PyError (Database × TransactionResult) := do
  let conversation := (getOrCreateOnConnection db context row.chatId row.threadId).2
  let handler ← buildResultHandler settings.runtime render row conversation.slotMemory recordedAt
  processResultTransactionally db context row.ref handler.graphState messages
    handler.externalCommands (some (buildExternalResultSummaryMessage row handler))

/-- The world after a step. -/
def CardWorld.after (settings : CardSettings) (render : Renderer) (w : CardWorld) :
    CardStep → CardWorld
  | .load turn =>
      let loaded := loadTransactionalConversation w.db turn.context turn.event
      { w with db := loaded.1, loaded := w.loaded ++ [⟨turn, loaded.2⟩] }
  | .commit index =>
      match w.loaded[index]? with
      | some loaded =>
          { w with loaded := w.loaded.eraseIdx index }.committed (loaded.commit w.db)
      | none => w
  | .execute commandId translated now => w.execute settings commandId translated now
  | .merge context row recordedAt messages =>
      w.committed (mergeResult settings render w.db context row recordedAt messages)
  | .result context ref graphState messages commands summary =>
      w.committed (processResultTransactionally w.db context ref graphState messages commands
        summary)

end AiCustomerService
