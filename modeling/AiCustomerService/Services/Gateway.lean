import AiCustomerService.Db.Transactions

/-!
# The gateway

`GatewayService.process_event` loads the conversation in one transaction, runs
the workflow on what it loaded, and commits the outcome in another.
-/

namespace AiCustomerService

open Support

/-- An inbound event with the fields that the gateway itself reads. -/
structure StandardEvent extends InboundEvent where
  organizationId : Option String
  standardEventType : String
  ignored : Bool

/-- `should_enqueue_reply`. -/
def shouldEnqueueReply (event : StandardEvent) : Bool :=
  event.standardEventType = "MESSAGE_CREATED" && !event.ignored

/-- `_is_automation_suspended`. -/
def isAutomationSuspended (conversation : ConversationView) : Bool :=
  conversation.status.isLocked

/-- `_is_human_agent_public_reply`. -/
def isHumanAgentPublicReply (event : StandardEvent) : Bool :=
  (getKey event.payloadJson "human_agent_public_reply").truthy

/-- `_build_human_active_state`. -/
def buildHumanActiveState (event : StandardEvent) (conversation : ConversationView) :
    GraphState where
  status := some .humanActive
  activeWorkflow := conversation.activeWorkflow
  workflowStage := some "human_active"
  slotMemory := some conversation.slotMemory
  handoffState :=
    some ((conversation.handoffState.getD ∅).merge (humanAgentDetected event.toInboundEvent))
  deleteSlotMemoryKeys := []
  telegramCaseUpdate := none

/-- `_reopen_closed_conversation_for_customer_event`. -/
def reopenClosedConversation (conversation : ConversationView) (event : StandardEvent) :
    ConversationView :=
  if conversation.status ≠ .closed then conversation
  else if event.standardEventType ∉ ["MESSAGE_CREATED", "FILE_RECEIVED"] then conversation
  else if event.ignored then conversation
  else { conversation with status := .aiActive }

/-- `_extract_text`. -/
def extractText (rt : Runtime) (payload : JsonObject) : Except PyError (Option String) := do
  let event ← (getKey payload "event").mappingOrEmpty
  let text := (getKey event "text").orElse
    ((getKey payload "text").orElse (getKey payload "message"))
  pure (text.columnText rt)

/-- `build_customer_message_from_inbound`. -/
def buildCustomerMessage (rt : Runtime) (event : StandardEvent)
    (conversation : ConversationView) (inboundEventId : Nat) :
    Except PyError ConversationMessage := do
  let textContent ← extractText rt event.payloadJson
  pure
    { conversationId := conversation.conversationId
      tenantId := some (textOr (some conversation.tenantId) (textOr event.organizationId "default"))
      channelType := some (textOr (some conversation.channelType) "livechat")
      chatId := event.chatId
      threadId := event.threadId
      inboundEventId := some inboundEventId
      outboundMessageId := none
      externalCommandResultId := none
      senderRole := "customer"
      messageType := some (if event.standardEventType = "FILE_RECEIVED" then "file" else "text")
      textContent
      source := "inbound_event" }

/-- What the gateway commits for an event. -/
structure GatewayOutput where
  graphState : GraphState
  outboundMessages : List OutboundMessage
  externalCommands : List ExternalCommand
  assistantMessages : List ConversationMessage

/-- The two ways to a graph state, each followed by the final reply, the handoff of
a failed reply and the building of the rows: the buttons that the gateway answers
itself, and the workflow graph with its model calls. -/
structure Workflow where
  preGraph : StandardEvent → ConversationView → Except PyError (Option GatewayOutput)
  runGraph : StandardEvent → ConversationView → Except PyError GatewayOutput

/-- The state and the rows that `process_event` commits; `none` when there is no
graph state. -/
def Workflow.output (workflow : Workflow) (event : StandardEvent)
    (conversation : ConversationView) : Except PyError (Option GatewayOutput) :=
  if isHumanAgentPublicReply event then
    .ok (some ⟨buildHumanActiveState event conversation, [], [], []⟩)
  else
    let conversation := reopenClosedConversation conversation event
    if isAutomationSuspended conversation then .ok none
    else do
      match ← workflow.preGraph event conversation with
      | some output => pure (some output)
      | none =>
          if shouldEnqueueReply event || event.standardEventType = "FILE_RECEIVED" then
            some <$> workflow.runGraph event conversation
          else pure none

/-- The message of the customer, except for an agent's reply. -/
def gatewayCustomerMessage (rt : Runtime) (event : StandardEvent)
    (conversation : ConversationView) (inboundEventId : Nat) :
    Except PyError (Option ConversationMessage) :=
  if isHumanAgentPublicReply event then .ok none
  else if !event.ignored &&
      decide (event.standardEventType ∈ ["MESSAGE_CREATED", "FILE_RECEIVED"]) then
    some <$> buildCustomerMessage rt event conversation inboundEventId
  else .ok none

/-- `_load_transactional_conversation`. -/
def loadTransactionalConversation (db : Database) (ctx : TxContext) (event : StandardEvent) :
    Database × ConversationView :=
  getOrCreateOnConnection db ctx (textOr event.chatId "unknown") event.threadId

/-- The part of `process_event` after the conversation was loaded. -/
def commitEvent (rt : Runtime) (workflow : Workflow) (db : Database) (ctx : TxContext)
    (inboundEventId : Nat) (event : StandardEvent) (conversation : ConversationView) :
    Except PyError (Database × TransactionResult) := do
  let output ← workflow.output event conversation
  let customerMessage ← gatewayCustomerMessage rt event conversation inboundEventId
  processEventTransactionally db ctx inboundEventId event.toInboundEvent customerMessage
    ((output.map GatewayOutput.outboundMessages).getD [])
    ((output.map GatewayOutput.externalCommands).getD [])
    (output.map GatewayOutput.graphState)
    ((output.map GatewayOutput.assistantMessages).getD [])

end AiCustomerService
