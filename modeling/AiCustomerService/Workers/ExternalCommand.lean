import AiCustomerService.Channels.Errors
import AiCustomerService.Db.Commands
import AiCustomerService.Db.Followups
import AiCustomerService.Services.Outbox
import AiCustomerService.Support.Program

/-!
# The worker of external commands

`_process_one_pending_command` of `workers/external_command_worker.py` with the commands
that it really executes.  A leased row is processed from the snapshot that the lease
returned; every statement of the worker is an operation of its own and may raise.
-/

namespace AiCustomerService

open Support

/-- A message for a Telegram chat.  `cardOf` tells which command's case card it is, when it
is the main message of one; Telegram does not see it. -/
structure TelegramPost where
  chatId : String
  text : String
  messageThreadId : Option Int
  replyToMessageId : Option Int
  cardOf : Option Nat

/-- An attachment of a card, of a supplement or of a follow-up. -/
structure TelegramAttachment where
  url : String
  name : String

/-- `build_telegram_case_card` or `build_telegram_case_append`: where to send which text. -/
structure TelegramCard where
  chatId : String
  threadId : Option Int
  text : String
  attachments : List TelegramAttachment

/-- The target of a command. -/
structure TelegramTarget where
  chatId : Option String
  messageThreadId : Option Int
  targetSource : String

/-- What `send_case_followup` returns. -/
structure FollowupDelivery where
  messageId : Int
  attachmentMessageIds : List Int
  attachmentErrors : List Json

/-- The operations of the worker.  `transferChatToGroup` also names the command, which
LiveChat does not see. -/
inductive WorkerOp
  | conversationStatus (conversationId : String)
  | fetchHandoffAck (conversationId : String) (inboundEventId : Nat)
  | releaseLease (commandId : Nat)
  | recordHandoffFailure (conversationId : String) (failure : JsonObject)
  | mergePayload (commandId : Nat) (patch : JsonObject)
  | transferChatToGroup (commandId : Nat) (chatId : String) (groupId : Int)
  | updateWorkflowState (conversationId : String) (graphState : GraphState)
  | insertResult (result : ExternalResult)
  | markSent (commandId : Nat)
  | markDryRunDone (commandId : Nat)
  | markStatus (commandId : Nat) (status : QueueStatus) (error : Option String)
  | markProcessingFailed (commandId : Nat) (error : String)
  | commandStatus (commandId : Nat)
  | utcNow
  | translate (text : String)
  | sendMessage (message : TelegramPost)
  | sendPhoto (attachment : TelegramAttachment) (card : TelegramCard) (replyToMessageId : Int)
  | editMessageText (card : TelegramCard) (messageId : Int)
  | executeBackendQuery (payload : JsonObject)
  | lookupPendingReply (identity : Json) (tenantId conversationId : String)
  | reserveFollowup (request : FollowupRequest)
  | markFollowupSending (followupId : Nat)
  | sendCaseFollowup (followupId : Nat) (card : TelegramCard) (rootMessageId : Int)
  | recordFollowupSent (followupId : Nat) (delivery : FollowupDelivery) (customerUpdateEn : String)
  | markFollowupDeliveryUncertain (followupId : Nat) (error : String)
  | markFollowupRetryable (followupId : Nat) (error : String)
  | cancelFollowup (followupId : Nat) (reason : String)

/-- What the operations return. -/
abbrev WorkerOp.Res : WorkerOp → Type
  | .conversationStatus _ => Option ConversationStatus
  | .fetchHandoffAck _ _ => Option (Nat × QueueStatus)
  | .transferChatToGroup _ _ _ => Json
  | .insertResult _ => InsertReport
  | .commandStatus _ => Option QueueStatus
  | .utcNow => String
  | .translate _ => String
  | .sendMessage _ => Int
  | .sendPhoto _ _ _ => JsonObject
  | .editMessageText _ _ => Option Int
  | .executeBackendQuery _ => JsonObject
  | .lookupPendingReply _ _ _ => JsonObject
  | .reserveFollowup _ => Reservation
  | .sendCaseFollowup _ _ _ => FollowupDelivery
  | _ => Unit

abbrev workerOps : Interface := ⟨WorkerOp, WorkerOp.Res, ServiceError⟩

abbrev WorkerProg := Prog workerOps

/-- Execute an operation. -/
def WorkerOp.call (op : WorkerOp) : WorkerProg op.Res := Prog.perform (I := workerOps) op

/-- Execute an operation and catch its exception. -/
def WorkerOp.tryCall (op : WorkerOp) : WorkerProg (Except ServiceError op.Res) :=
  Prog.attempt (I := workerOps) (Prog.perform (I := workerOps) op)

/-- What the settings, the flags of the command line and the text builders decide. -/
structure CommandSettings where
  runtime : Runtime
  dryRun : Bool
  emitResult : Bool
  hasConversationRepository : Bool
  hasOutboundRepository : Bool
  maxRetries : Nat
  executePendingReplyLookup : Bool
  handoffBlockReason : ExternalCommandRow → Option (QueueStatus × String)
  telegramBlockReason : ExternalCommandRow → Option (QueueStatus × String)
  backendBlockReason : Option String
  handoffTargetGroupId : ExternalCommandRow → Int
  ignoreAgentsAvailability : Bool
  ignoreRequesterPresence : Bool
  telegramTarget : ExternalCommandRow → TelegramTarget
  caseCard : ExternalCommandRow → String → TelegramCard
  caseAppend : ExternalCommandRow → String → String → TelegramCard
  appendMessageId : ExternalCommandRow → Int
  effectiveFollowUpKind : String → String → Option String
  caseFollowup : ExternalCommandRow → TelegramCaseRow → FollowupRow → String → String → TelegramCard
  customerUpdate : String → String → Option String → String
  mockResult : ExternalCommandRow → String × JsonObject

/-- `SUPPORTED_COMMAND_TYPES`. -/
def supportedCommandTypes : List String :=
  ["telegram.send_case_card", "telegram.append_to_case", "telegram.remind_case", "backend.query",
    "pending_reply.lookup", "human_handoff.requested", "rag.placeholder"]

/-- The report on a command. -/
structure CommandReport where
  id : Nat
  status : String
  error : Option String

/-- `_build_result_record`. -/
def buildResultRecord (command : ExternalCommandRow) (resultType : String)
    (resultJson : JsonObject) (status : Option QueueStatus) : ExternalResult where
  externalCommandId := command.id
  tenantId := some command.tenantId
  conversationId := command.conversationId
  chatId := command.chatId
  threadId := command.threadId
  inboundEventId := command.inboundEventId
  commandType := command.commandType
  resultType := resultType
  resultJson := resultJson
  status := status
  lastError := none
  dedupKey := none

/-- `_mark_command_status`: a retryable failure is counted, any other status is stored. -/
def markCommand (commandId : Nat) (status : QueueStatus) (error : Option String) :
    WorkerProg Unit :=
  if status = .retryable then do
    (WorkerOp.markProcessingFailed commandId (textOr error "RETRYABLE")).call
    let _ ← (WorkerOp.commandStatus commandId).call
    pure ()
  else (WorkerOp.markStatus commandId status error).call

/-- Insert the result, when results are emitted. -/
def emitResult (settings : CommandSettings) (result : ExternalResult) : WorkerProg Unit :=
  if settings.emitResult then do
    let _ ← (WorkerOp.insertResult result).call
    pure ()
  else pure ()

/-- Store a status and report it. -/
def finishWith (command : ExternalCommandRow) (status : QueueStatus) (report : String)
    (error : String) : WorkerProg CommandReport := do
  markCommand command.id status (some error)
  pure ⟨command.id, report, some error⟩

/-! ## Handing a chat over -/

/-- `classify_handoff_error`. -/
def classifyHandoffError (rt : Runtime) : ServiceError → QueueStatus
  | .livechatApi status data =>
      if status ∈ [401, 403] then .failedConfig
      else if status ∈ [429, 500, 502, 503, 504] then .retryable
      else if containsAny (rt.lower (dumpsSorted (.obj data)))
          ["inactive", "not active", "closed", "not found", "requester presence",
            "group access"] then .failedBusiness
      else .failedUnknown
  | .timeout _ => .retryable
  | exc =>
      if containsAny (rt.lower (exc.text rt)) ["timed out", "timeout"] then .retryable
      else .failedUnknown

/-- `_record_handoff_stage`. -/
def recordHandoffStage (commandId : Nat) (stage : JsonObject) : WorkerProg Unit :=
  (WorkerOp.mergePayload commandId (.ofList [("human_handoff_stage", .obj stage)])).call

/-- `waiting for handoff ack ...` and `handoff ack ... is not sendable ...`. -/
def handoffAckReason (ack : Nat × QueueStatus) : String :=
  if ack.2.isOpen then
    "waiting for handoff ack outbound_message_id=" ++ toString ack.1 ++ " status=" ++ ack.2.text
  else
    "handoff ack outbound_message_id=" ++ toString ack.1 ++ " is not sendable: status=" ++
      ack.2.text

/-- The failure that is recorded on the conversation. -/
def handoffAckFailure (command : ExternalCommandRow) (ack : Option (Nat × QueueStatus))
    (reason recordedAt : String) : JsonObject :=
  .ofList [("stage", .str "handoff_ack"), ("command_id", .int command.id),
    ("outbound_message_id", match ack with
      | some ack => .int ack.1
      | none => .null),
    ("status", .str "FAILED_DEPENDENCY"), ("error", .str reason), ("recorded_at", .str recordedAt)]

/-- The command can never be executed: its acknowledgement will not be sent. -/
def failHandoffAck (settings : CommandSettings) (command : ExternalCommandRow)
    (ack : Option (Nat × QueueStatus)) (reason : String) : WorkerProg CommandReport := do
  markCommand command.id .failedDependency (some reason)
  if settings.hasConversationRepository then
    let now : String ← WorkerOp.utcNow.call
    (WorkerOp.recordHandoffFailure command.conversationId
      (handoffAckFailure command ack reason now)).call
  pure ⟨command.id, "FAILED_DEPENDENCY", some reason⟩

/-- The dependency on an acknowledgement that was looked up. -/
def checkHandoffAck (settings : CommandSettings) (command : ExternalCommandRow) :
    Option (Nat × QueueStatus) → WorkerProg (Option CommandReport)
  | none => some <$> failHandoffAck settings command none "handoff ack outbound message is missing"
  | some ack =>
      if ack.2 = .sent then pure none
      else if ack.2.isOpen then do
        (WorkerOp.releaseLease command.id).call
        pure (some ⟨command.id, "WAITING_DEPENDENCY", some (handoffAckReason ack)⟩)
      else some <$> failHandoffAck settings command (some ack) (handoffAckReason ack)

/-- `_handoff_ack_dependency_status`: the report when the command cannot be executed yet. -/
def handoffAckDependency (settings : CommandSettings) (command : ExternalCommandRow) :
    WorkerProg (Option CommandReport) :=
  if !settings.hasOutboundRepository ||
      (getKey command.payloadJson "handoff_ack_mode").eqText "direct_notice" then pure none
  else
    match command.inboundEventId with
    | none => .raise (.python (.typeError "int() argument must not be None"))
    | some inboundEventId => do
        let ack : Option (Nat × QueueStatus) ←
          (WorkerOp.fetchHandoffAck command.conversationId inboundEventId).call
        checkHandoffAck settings command ack

/-- The graph state of a conversation that has been transferred. -/
def transferredState : GraphState where
  status := some .humanActive
  activeWorkflow := some "human_handoff"
  workflowStage := some "transferred"
  slotMemory := some ∅
  handoffState := none
  deleteSlotMemoryKeys := []
  telegramCaseUpdate := none

/-- The audit record of a transfer. -/
def transferResult (settings : CommandSettings) (command : ExternalCommandRow)
    (livechatResponse : Json) : ExternalResult :=
  buildResultRecord command "human_handoff.transfer_chat.result"
    (.ofList [("status", .str "TRANSFERRED"), ("chat_id", .str command.chatId),
      ("target_group_id", .int (settings.handoffTargetGroupId command)),
      ("ignore_agents_availability", .bool settings.ignoreAgentsAvailability),
      ("ignore_requester_presence", .bool settings.ignoreRequesterPresence),
      ("livechat_response", livechatResponse)]) (some .processed)

/-- What follows a transfer: the stage, the conversation, the audit row and the status. -/
def completeHandoff (settings : CommandSettings) (command : ExternalCommandRow)
    (stage : JsonObject) (livechatResponse : Json) : WorkerProg Unit := do
  let stage := stage.set "transfer_succeeded" (.bool true)
  recordHandoffStage command.id stage
  if settings.hasConversationRepository then
    (WorkerOp.updateWorkflowState command.conversationId transferredState).call
  let stage := stage.set "conversation_state_updated" (.bool true)
  recordHandoffStage command.id stage
  emitResult settings (transferResult settings command livechatResponse)
  recordHandoffStage command.id (stage.set "result_emitted" (.bool settings.emitResult))
  (WorkerOp.markSent command.id).call

/-- The transfer call, with the stage that is recorded before it. -/
def attemptTransfer (settings : CommandSettings) (command : ExternalCommandRow)
    (stage : JsonObject) : WorkerProg Json := do
  recordHandoffStage command.id stage
  (WorkerOp.transferChatToGroup command.id command.chatId
    (settings.handoffTargetGroupId command)).call

/-- The two `try` statements around the transfer. -/
def transferAndComplete (settings : CommandSettings) (command : ExternalCommandRow)
    (stage : JsonObject) : WorkerProg CommandReport := do
  let stage := stage.set "transfer_attempted" (.bool true)
  match ← (attemptTransfer settings command stage).attempt with
  | .error exc =>
      finishWith command (classifyHandoffError settings.runtime exc) "FAILED"
        (exc.text settings.runtime)
  | .ok livechatResponse => do
      match ← (completeHandoff settings command stage livechatResponse).attempt with
      | .error exc =>
          finishWith command .failedAfterExternalSuccess "FAILED_AFTER_EXTERNAL_SUCCESS"
            ("LiveChat transfer may have succeeded; local handoff completion failed and manual verification is required: " ++
              exc.text settings.runtime)
      | .ok () => pure ⟨command.id, "SENT", none⟩

/-- Continue with the value of a pure computation, or raise its exception. -/
def WorkerProg.lift {α : Type} : Except PyError α → WorkerProg α
  | .ok a => .ret a
  | .error e => .raise (.python e)

/-- The handoff of a command whose dependencies are met. -/
def transferFromStage (settings : CommandSettings) (command : ExternalCommandRow) :
    WorkerProg CommandReport := do
  let stage ← WorkerProg.lift (getKey command.payloadJson "human_handoff_stage").mappingOrEmpty
  if (getKey stage "transfer_succeeded").truthy then
    finishWith command .failedAfterExternalSuccess "FAILED_AFTER_EXTERNAL_SUCCESS"
      "LiveChat transfer may have succeeded before local completion; manual verification required before retry"
  else transferAndComplete settings command stage

/-- `_process_real_command` for `human_handoff.requested`. -/
def processHandoffCommand (settings : CommandSettings) (command : ExternalCommandRow) :
    WorkerProg CommandReport :=
  match settings.handoffBlockReason command with
  | some (status, reason) => finishWith command status "BLOCKED" reason
  | none => do
      match ← handoffAckDependency settings command with
      | some report => pure report
      | none => transferFromStage settings command

/-! ## Cards and supplements -/

/-- `_should_raise_retryable`. -/
def shouldRaiseRetryable (status errorCode : Option Int) (retryable : Bool) : Bool :=
  retryable || status.any (· ∈ [429, 500, 502, 503, 504]) ||
    errorCode.any (· ∈ [429, 500, 502, 503, 504])

/-- `classify_telegram_error`. -/
def classifyTelegramError (rt : Runtime) : ServiceError → QueueStatus
  | .telegramApi description status errorCode data retryable =>
      if status.any (· ∈ [401, 403]) || errorCode.any (· ∈ [401, 403]) then .failedConfig
      else if status.any (· ∈ [429, 500, 502, 503, 504]) || retryable then .retryable
      else if containsAny
          (rt.lower (dumpsSorted (.obj (data.getD (.ofList [("description", .str description)])))))
          ["chat not found", "bot was blocked", "not enough rights", "message thread not found",
            "thread not found"] then .failedBusiness
      else .failedUnknown
  | .timeout _ => .retryable
  | exc =>
      if containsAny (rt.lower (exc.text rt)) ["timed out", "timeout"] then .retryable
      else .failedUnknown

/-- `_send_attachment_fallback`. -/
def sendAttachmentFallback (attachment : TelegramAttachment) (card : TelegramCard)
    (replyToMessageId : Int) (reason : String) : WorkerProg JsonObject := do
  let messageId : Int ← (WorkerOp.sendMessage
    { chatId := card.chatId
      text := "[Attachment fallback]\n" ++ attachment.name ++ "\n" ++ attachment.url ++
        "\nReason: " ++ reason
      messageThreadId := card.threadId
      replyToMessageId := some replyToMessageId
      cardOf := none }).call
  pure (.ofList [("message_id", .int messageId), ("fallback", .bool true),
    ("fallback_reason", .str reason)])

/-- `send_photo_from_url`: an error of Telegram that is not retryable leads to a message. -/
def sendPhotoFromUrl (attachment : TelegramAttachment) (card : TelegramCard)
    (replyToMessageId : Int) : WorkerProg JsonObject := do
  match ← (WorkerOp.sendPhoto attachment card replyToMessageId).tryCall with
  | .ok (result : JsonObject) => pure (Dict.set result "fallback" (.bool false))
  | .error exc =>
      match exc with
      | .telegramApi description status errorCode _ retryable =>
          if shouldRaiseRetryable status errorCode retryable then .raise exc
          else sendAttachmentFallback attachment card replyToMessageId description
      | _ => .raise exc

/-- The attachments of a card, one after the other. -/
def sendAttachments (card : TelegramCard) (replyToMessageId : Int) :
    WorkerProg (List JsonObject) :=
  card.attachments.mapM fun attachment => sendPhotoFromUrl attachment card replyToMessageId

/-- `send_case_card`: the id of the main message and the results of the attachments. -/
def sendCaseCard (commandId : Nat) (card : TelegramCard) :
    WorkerProg (Int × List JsonObject) := do
  let messageId : Int ← (WorkerOp.sendMessage
    ⟨card.chatId, card.text, card.threadId, none, some commandId⟩).call
  let attachmentResults ← sendAttachments card messageId
  pure (messageId, attachmentResults)

/-- `payload.get("intent") or payload.get("active_workflow")`. -/
def commandIntent (payload : JsonObject) : Json :=
  (getKey payload "intent").orElse (getKey payload "active_workflow")

/-- The thread of a message as JSON. -/
def threadJson : Option Int → Json
  | some threadId => .int threadId
  | none => .null

/-- The result of a delivered card. -/
def caseCreatedResult (settings : CommandSettings) (command : ExternalCommandRow)
    (card : TelegramCard) (delivery : Int × List JsonObject) : ExternalResult :=
  let target := settings.telegramTarget command
  buildResultRecord command "telegram.case.created"
    (.ofList [("status", .str "created"), ("case_id", .str ("tg:" ++ toString delivery.1)),
      ("telegram_message_id", .int delivery.1), ("target_chat_id", .ofText? target.chatId),
      ("message_thread_id", threadJson target.messageThreadId),
      ("target_source", .str target.targetSource),
      ("delivery_mode", .str "text_with_attachments"),
      ("attachment_results", .arr (delivery.2.map .obj)), ("card_text", .str card.text),
      ("intent", commandIntent command.payloadJson),
      ("active_workflow", (getKey command.payloadJson "active_workflow").orElse
        (commandIntent command.payloadJson))]) none

/-- The delivery of a case card. -/
def deliverCaseCard (settings : CommandSettings) (command : ExternalCommandRow) :
    WorkerProg ExternalResult := do
  let now : String ← WorkerOp.utcNow.call
  let card := settings.caseCard command now
  let delivery ← sendCaseCard command.id card
  pure (caseCreatedResult settings command card delivery)

/-- `_translate_append_supplement_text`; without a translation the text is kept. -/
def translateSupplement (text : String) : WorkerProg String := do
  match ← (WorkerOp.translate text).tryCall with
  | .ok translated =>
      let translated : String := translated
      if strip translated = "" then pure text else pure translated
  | .error _ => pure text

/-- The delivery of a supplement: the card is edited and the attachments follow. -/
def deliverAppend (settings : CommandSettings) (command : ExternalCommandRow) :
    WorkerProg ExternalResult := do
  let supplement := (getKey command.payloadJson "supplement").dictOrEmpty
  let text ← translateSupplement ((getKey supplement "text").textOrEmpty settings.runtime)
  let now : String ← WorkerOp.utcNow.call
  let card := settings.caseAppend command text now
  let edited : Option Int ←
    (WorkerOp.editMessageText card (settings.appendMessageId command)).call
  let messageId := edited.getD (settings.appendMessageId command)
  let attachmentResults ← sendAttachments card (settings.appendMessageId command)
  let target := settings.telegramTarget command
  pure (buildResultRecord command "telegram.append_to_case.result"
    (.ofList [("status", .str "edited"), ("telegram_message_id", .int messageId),
      ("reply_to_message_id", .int (settings.appendMessageId command)),
      ("target_chat_id", .ofText? target.chatId),
      ("message_thread_id", threadJson target.messageThreadId),
      ("target_source", .str target.targetSource),
      ("attachment_results", .arr (attachmentResults.map .obj)), ("card_text", .str card.text),
      ("intent", commandIntent command.payloadJson),
      ("active_workflow", (getKey command.payloadJson "active_workflow").orElse
        (commandIntent command.payloadJson))]) none)

/-- The `try` statement around a delivery to Telegram. -/
def deliverTelegram (settings : CommandSettings) (command : ExternalCommandRow) :
    WorkerProg ExternalResult :=
  if command.commandType = "telegram.send_case_card" then deliverCaseCard settings command
  else deliverAppend settings command

/-- `_process_real_telegram_command`. -/
def processTelegramCommand (settings : CommandSettings) (command : ExternalCommandRow) :
    WorkerProg CommandReport :=
  match settings.telegramBlockReason command with
  | some (status, reason) => finishWith command status "BLOCKED" reason
  | none => do
      match ← (deliverTelegram settings command).attempt with
      | .error exc =>
          finishWith command (classifyTelegramError settings.runtime exc) "FAILED"
            (exc.text settings.runtime)
      | .ok result => do
          emitResult settings result
          (WorkerOp.markSent command.id).call
          pure ⟨command.id, "SENT", none⟩

/-! ## Follow-ups -/

/-- A `429` of Telegram. -/
def isRateLimited : ServiceError → Bool
  | .telegramApi _ status errorCode _ _ => decide (status = some 429) || decide (errorCode = some 429)
  | _ => false

/-- The call of Telegram and the record of its success. -/
def deliverFollowup (settings : CommandSettings) (command : ExternalCommandRow)
    (reservation : Reservation) (kind customerUpdate now : String) :
    WorkerProg FollowupDelivery := do
  let delivery : FollowupDelivery ← (WorkerOp.sendCaseFollowup reservation.followup.id
    (settings.caseFollowup command reservation.case
      { reservation.followup with followUpKind := kind } customerUpdate now)
    reservation.case.rootMessageId).call
  (WorkerOp.recordFollowupSent reservation.followup.id delivery customerUpdate).call
  pure delivery

/-- The `except` clause of the delivery. -/
def followupFailed (settings : CommandSettings) (command : ExternalCommandRow)
    (followupId : Nat) (exc : ServiceError) : WorkerProg CommandReport :=
  if isRateLimited exc then do
    (WorkerOp.markFollowupRetryable followupId (exc.text settings.runtime)).call
    finishWith command .retryable "RETRYABLE" (exc.text settings.runtime)
  else do
    (WorkerOp.markFollowupDeliveryUncertain followupId (exc.text settings.runtime)).call
    finishWith command .failedDeliveryUncertain "FAILED_DELIVERY_UNCERTAIN"
      (exc.text settings.runtime)

/-- The record of a follow-up that has been sent. -/
def followupResult (command : ExternalCommandRow) (reservation : Reservation) (kind : String)
    (delivery : FollowupDelivery) : ExternalResult :=
  buildResultRecord command "telegram.case.reminded"
    (.ofList [("status", .str "sent"), ("followup_id", .int reservation.followup.id),
      ("telegram_case_id", .int reservation.case.id),
      ("telegram_message_id", .int delivery.messageId),
      ("follow_up_number", .int reservation.followup.followUpNumber),
      ("follow_up_kind", .str kind), ("attachment_errors", .arr delivery.attachmentErrors)])
    (some .processed)

/-- The reservation is being delivered, or has been. -/
def FollowupStatus.isUnderway : FollowupStatus → Bool
  | .sending => true
  | .sent => true
  | .deliveryUncertain => true
  | _ => false

/-- The translation of the latest update, which may fail. -/
def translateUpdate (text : String) : WorkerProg (Option String) := do
  match ← (WorkerOp.translate text).tryCall with
  | .ok translated => pure (some translated)
  | .error _ => pure none

/-- Mark the follow-up, send it and finish the command. -/
def sendFollowup (settings : CommandSettings) (command : ExternalCommandRow)
    (reservation : Reservation) (kind : String) : WorkerProg CommandReport := do
  let rawUserInput := (getKey command.payloadJson "raw_user_input").textOrEmpty settings.runtime
  let translated ← translateUpdate rawUserInput
  let customerUpdate := settings.customerUpdate rawUserInput (textOr reservation.case.intent "")
    translated
  let now : String ← WorkerOp.utcNow.call
  (WorkerOp.markFollowupSending reservation.followup.id).call
  match ← (deliverFollowup settings command reservation kind customerUpdate now).attempt with
  | .error exc => followupFailed settings command reservation.followup.id exc
  | .ok delivery => do
      emitResult settings (followupResult command reservation kind delivery)
      (WorkerOp.markSent command.id).call
      pure ⟨command.id, "SENT", none⟩

/-- What follows the reservation. -/
def continueFollowup (settings : CommandSettings) (command : ExternalCommandRow)
    (reservation : Reservation) : WorkerProg CommandReport :=
  if reservation.duplicate && reservation.followup.status.isUnderway then do
    (WorkerOp.markSent command.id).call
    pure ⟨command.id, "DUPLICATE_SENT", none⟩
  else if reservation.duplicate && decide (reservation.followup.externalCommandId ≠ command.id)
  then do
    (WorkerOp.markSent command.id).call
    pure ⟨command.id, "DUPLICATE_RESERVED", none⟩
  else
    match settings.effectiveFollowUpKind reservation.case.status
        ((getKey command.payloadJson "raw_user_input").textOrEmpty settings.runtime) with
    | none => do
        (WorkerOp.cancelFollowup reservation.followup.id
          ("stale case status: " ++ reservation.case.status)).call
        (WorkerOp.markSent command.id).call
        pure ⟨command.id, "CANCELED_STALE", none⟩
    | some kind => sendFollowup settings command reservation kind

/-- The arguments of the reservation. -/
def followupRequest (rt : Runtime) (command : ExternalCommandRow) :
    Except PyError FollowupRequest := do
  let telegramCaseId ← (getKey command.payloadJson "telegram_case_id").toInt rt
  pure
    { externalCommandId := command.id
      telegramCaseId := telegramCaseId.toNat
      sourceConversationId := command.conversationId
      sourceThreadId := textOr command.threadId ""
      followUpKind :=
        ((getKey command.payloadJson "follow_up_kind").orElse (.str "pending_follow_up")).pyStr rt
      previousStatus :=
        ((getKey command.payloadJson "previous_status").orElse (.str "under_review")).pyStr rt }

/-- `_process_real_telegram_followup_command`. -/
def processFollowupCommand (settings : CommandSettings) (command : ExternalCommandRow) :
    WorkerProg CommandReport :=
  match settings.telegramBlockReason command with
  | some (status, reason) => finishWith command status "BLOCKED" reason
  | none => do
      let request ← WorkerProg.lift (followupRequest settings.runtime command)
      let reservation : Reservation ← (WorkerOp.reserveFollowup request).call
      continueFollowup settings command reservation

/-! ## Queries -/

/-- `_copy_user_visible_context_to_result` and `_copy_backend_context_to_result`: the keys of
the payload that are not `None`. -/
def copyContext (keys : List String) (payload result : JsonObject) : JsonObject :=
  keys.foldl (fun result key =>
    if (getKey payload key).isNull then result else result.set key (getKey payload key)) result

/-- The keys of `_copy_user_visible_context_to_result`. -/
def userVisibleKeys : List String :=
  ["reply_language", "conversation_language", "detected_language", "raw_user_input",
    "rewritten_question", "identity_source"]

/-- `_copy_backend_context_to_result`. -/
def copyBackendContext (payload result : JsonObject) : JsonObject :=
  copyContext userVisibleKeys payload
    (copyContext (["livechat_group_id", "platform"].filter fun key => (getKey result key).isNull)
      payload result)

/-- `_process_real_backend_query_command`. -/
def processBackendQueryCommand (settings : CommandSettings) (command : ExternalCommandRow) :
    WorkerProg CommandReport :=
  match settings.backendBlockReason with
  | some reason => do
      emitResult settings (buildResultRecord command "backend.query.result"
        (copyBackendContext command.payloadJson (.ofList [("status", .str "failed"),
          ("error_code", .str "FAILED_CONFIG"), ("error_message", .str reason)])) none)
      finishWith command .failedConfig "FAILED_CONFIG" reason
  | none => do
      let answer : JsonObject ← (WorkerOp.executeBackendQuery command.payloadJson).call
      let resultJson := copyBackendContext command.payloadJson answer
      emitResult settings (buildResultRecord command "backend.query.result" resultJson none)
      if (getKey resultJson "status").eqText "success" then do
        (WorkerOp.markSent command.id).call
        pure ⟨command.id, "SENT", none⟩
      else do
        let status := ((getKey resultJson "error_code").orElse (.str "FAILED_BACKEND_QUERY")).pyStr
          settings.runtime
        markCommand command.id (.ofText status)
          ((getKey resultJson "error_message").columnText settings.runtime)
        pure ⟨command.id, status, (getKey resultJson "error_message").columnText settings.runtime⟩

/-- `_process_real_pending_reply_lookup_command`. -/
def processPendingReplyLookupCommand (settings : CommandSettings)
    (command : ExternalCommandRow) : WorkerProg CommandReport :=
  if !settings.executePendingReplyLookup then
    finishWith command .skippedDisabled "SKIPPED_DISABLED"
      "--execute-pending-reply-lookup is required"
  else do
    let slotMemory ← WorkerProg.lift (getKey command.payloadJson "slot_memory").mappingOrEmpty
    let identity := (getKey command.payloadJson "pending_reply_identity").orElse
      (getKey slotMemory "pending_reply_identity")
    let answer : JsonObject ←
      (WorkerOp.lookupPendingReply identity command.tenantId command.conversationId).call
    emitResult settings (buildResultRecord command "pending_reply.lookup.result"
      (copyContext userVisibleKeys command.payloadJson answer) none)
    (WorkerOp.markSent command.id).call
    pure ⟨command.id, "SENT", none⟩

/-! ## One command -/

/-- `_process_dry_run_command`. -/
def processDryRunCommand (settings : CommandSettings) (command : ExternalCommandRow) :
    WorkerProg CommandReport := do
  let mock := settings.mockResult command
  emitResult settings (buildResultRecord command mock.1 mock.2 none)
  (WorkerOp.markDryRunDone command.id).call
  pure ⟨command.id, "DRY_RUN_DONE", none⟩

/-- `_process_real_command`. -/
def processRealCommand (settings : CommandSettings) (command : ExternalCommandRow) :
    WorkerProg CommandReport :=
  if command.commandType = "telegram.remind_case" then processFollowupCommand settings command
  else if command.commandType = "telegram.send_case_card" ∨
      command.commandType = "telegram.append_to_case" then processTelegramCommand settings command
  else if command.commandType = "backend.query" then processBackendQueryCommand settings command
  else if command.commandType = "pending_reply.lookup" then
    processPendingReplyLookupCommand settings command
  else if command.commandType = "human_handoff.requested" then
    processHandoffCommand settings command
  else
    finishWith command .failedUnsupported "FAILED_UNSUPPORTED"
      ("real execution unsupported for command_type: " ++ command.commandType)

/-- `_command_blocked_by_human_active`. -/
def commandBlockedByHumanActive (settings : CommandSettings) (command : ExternalCommandRow) :
    WorkerProg Bool :=
  if !settings.hasConversationRepository || command.conversationId = "" then pure false
  else do
    let status : Option ConversationStatus ←
      (WorkerOp.conversationStatus command.conversationId).call
    pure (decide (status = some .humanActive))

/-- The body of `_process_one_pending_command`. -/
def processCommand (settings : CommandSettings) (command : ExternalCommandRow) :
    WorkerProg CommandReport := do
  let blocked ← commandBlockedByHumanActive settings command
  if blocked then
    finishWith command .skippedHumanActive "SKIPPED_HUMAN_ACTIVE"
      "conversation is HUMAN_ACTIVE; external command skipped"
  else if command.commandType ∉ supportedCommandTypes then
    .raise (.python (.valueError ("unsupported command_type: " ++ command.commandType)))
  else if settings.dryRun then processDryRunCommand settings command
  else processRealCommand settings command

/-- `_process_one_pending_command`. -/
def processOnePendingCommand (settings : CommandSettings) (command : ExternalCommandRow) :
    WorkerProg CommandReport :=
  (processCommand settings command).tryCatch fun exc => do
    (WorkerOp.markProcessingFailed command.id (exc.text settings.runtime)).call
    pure ⟨command.id, "FAILED", some (exc.text settings.runtime)⟩

end AiCustomerService
