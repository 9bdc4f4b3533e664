import AiCustomerService.Channels.Errors
import AiCustomerService.Support.Program
import AiCustomerService.Workers.ResultHandlers

/-!
# The consumer of external results

`process_one` of `workers/external_result_consumer.py`: the conversation is read in
one transaction, the handler and the model work on what was read, and another
transaction commits the outcome.  A batch runs `process_one` for all its rows at once.
-/

namespace AiCustomerService

open Support

/-- The operations of the consumer.  `processResult` also says which conversation its
handler was built from; the transaction does not look at it. -/
inductive ConsumerOp
  | getOrCreate (chatId : String) (threadId : Option String)
  | markProcessed (resultId : Nat)
  | fetchRecent (conversationId : String)
  | compose (fallbackText : String)
  | finalizeUserVisibleText (fallbackText : String)
  | processResult (row : ExternalResultRow) (loaded : ConversationView) (handler : ResultHandler)
      (outboundMessages : List OutboundMessage)
  | markProcessingFailed (resultId : Nat) (error : String)

/-- What the operations return. -/
abbrev ConsumerOp.Res : ConsumerOp → Type
  | .getOrCreate _ _ => ConversationView
  | .markProcessed _ => Unit
  | .fetchRecent _ => Unit
  | .compose _ => String
  | .finalizeUserVisibleText _ => String
  | .processResult _ _ _ _ => Unit
  | .markProcessingFailed _ _ => Unit

abbrev consumerOps : Interface := ⟨ConsumerOp, ConsumerOp.Res, ServiceError⟩

abbrev ConsumerProg := Prog consumerOps

/-- Execute an operation. -/
def ConsumerOp.call (op : ConsumerOp) : ConsumerProg op.Res :=
  Prog.perform (I := consumerOps) op

/-- Execute an operation and catch its exception. -/
def ConsumerOp.tryCall (op : ConsumerOp) : ConsumerProg (Except ServiceError op.Res) :=
  Prog.attempt (I := consumerOps) (Prog.perform (I := consumerOps) op)

/-- The settings of the consumer; `recordedAt` is the time of a backend conclusion. -/
structure ConsumerSettings where
  runtime : Runtime
  render : Renderer
  recordedAt : String
  llmFinalReplyEnabled : Bool
  maxRetries : Nat

/-- The report on a row. -/
structure ResultReport where
  id : Nat
  status : String
  error : Option String

/-- `_has_human_handoff_command`. -/
def hasHumanHandoffCommand (handler : ResultHandler) : Bool :=
  handler.externalCommands.any fun command =>
    command.commandType = CommandType.humanHandoffRequested.text

/-- Continue with the value of a pure computation, or raise its exception. -/
def ConsumerProg.lift {α : Type} : Except PyError α → ConsumerProg α
  | .ok a => .ret a
  | .error e => .raise (.python e)

/-- The text of a composed reply; without a model, or when it fails, the fallback. -/
def composeBackendReply (settings : ConsumerSettings) (fallbackText : String) :
    ConsumerProg String :=
  if !settings.llmFinalReplyEnabled then pure fallbackText
  else do
    match ← (ConsumerOp.compose fallbackText).tryCall with
    | .error _ => pure fallbackText
    | .ok finalText =>
        if strip finalText = "" then pure fallbackText else pure (strip finalText)

/-- `_apply_backend_final_reply`: only the text of the handler changes. -/
def applyBackendFinalReply (settings : ConsumerSettings) (row : ExternalResultRow)
    (handler : ResultHandler) : ConsumerProg ResultHandler :=
  let fallbackText := strip handler.text
  if row.resultType = "pending_reply.lookup.result" then
    if fallbackText = "" then pure handler
    else do
      let text : String ← (ConsumerOp.finalizeUserVisibleText fallbackText).call
      pure { handler with text }
  else if row.resultType ≠ "backend.query.result" then pure handler
  else if fallbackText = "" ∨ hasHumanHandoffCommand handler then pure handler
  else do
    let text ← composeBackendReply settings fallbackText
    pure { handler with text }

/-- `_load_recent_messages`, when the model is asked at all. -/
def loadRecentMessages (settings : ConsumerSettings) (row : ExternalResultRow) :
    ConsumerProg Unit :=
  if settings.llmFinalReplyEnabled ∧ row.resultType = "backend.query.result" ∧
      row.conversationId ≠ "" then
    (ConsumerOp.fetchRecent row.conversationId).call
  else pure ()

/-- The handler of a row and its commit. -/
def handleResult (settings : ConsumerSettings) (row : ExternalResultRow)
    (loaded : ConversationView) : ConsumerProg ResultReport := do
  let handler ← ConsumerProg.lift
    (buildResultHandler settings.runtime settings.render row loaded.slotMemory
      settings.recordedAt)
  loadRecentMessages settings row
  let handler ← applyBackendFinalReply settings row handler
  let outbound := buildResultOutbox row handler.text
    (handler.graphState.status = some .handoffRequested)
  (ConsumerOp.processResult row loaded handler [outbound]).call
  pure ⟨row.id, "PROCESSED", none⟩

/-- The body of `process_one`. -/
def processRow (settings : ConsumerSettings) (row : ExternalResultRow) :
    ConsumerProg ResultReport := do
  let conversation : ConversationView ← (ConsumerOp.getOrCreate row.chatId row.threadId).call
  if conversation.status.isLocked then
    (ConsumerOp.markProcessed row.id).call
    pure ⟨row.id, "SKIPPED_HUMAN_ACTIVE", none⟩
  else handleResult settings row conversation

/-- `process_one`. -/
def processOne (settings : ConsumerSettings) (row : ExternalResultRow) :
    ConsumerProg ResultReport :=
  (processRow settings row).tryCatch fun exc => do
    let error := exc.text settings.runtime
    (ConsumerOp.markProcessingFailed row.id error).call
    pure ⟨row.id, "FAILED", some error⟩

end AiCustomerService
