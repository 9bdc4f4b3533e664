import AiCustomerService.Channels.Errors
import AiCustomerService.Db.TelegramCases
import AiCustomerService.Support.Program
import AiCustomerService.Workers.ResultHandlers

/-!
# Replies of the staff group

`workers/telegram_reply_consumer.py`: a poll asks Telegram for the updates after
the saved offset and turns each reply to a case into a result row, a state of the
conversation and messages for the customer.
-/

namespace AiCustomerService

open Support

/-! ## Updates -/

/-- `message["from"]`. -/
structure TelegramUser where
  id : Option Int
  username : Option String
  firstName : Option String
  lastName : Option String
  deriving DecidableEq

/-- `message["reply_to_message"]`. -/
structure TelegramReplyTo where
  messageId : Option Int
  messageThreadId : Option Int
  deriving DecidableEq

/-- A message with the fields that the consumer reads; `photos` are the file ids. -/
structure TelegramMessage where
  messageId : Option Int
  chatId : Option Int
  sender : TelegramUser
  replyTo : TelegramReplyTo
  messageThreadId : Option Int
  text : Option String
  caption : Option String
  photos : List (Option String)
  deriving DecidableEq

/-- An update of the bot. -/
structure TelegramUpdate where
  updateId : Int
  message : Option TelegramMessage
  deriving DecidableEq

/-- `value or fallback` of a number that may be missing. -/
def intOr (value fallback : Option Int) : Option Int :=
  match value with
  | some 0 => fallback
  | some n => some n
  | none => fallback

/-- `str(chat.get("id") or "")`. -/
def TelegramMessage.telegramChatId (message : TelegramMessage) : String :=
  match intOr message.chatId none with
  | some chatId => toString chatId
  | none => ""

/-- The thread of the message, or of the message that it answers. -/
def TelegramMessage.threadId (message : TelegramMessage) : Option Int :=
  intOr message.messageThreadId message.replyTo.messageThreadId

/-- `_message_text`. -/
def messageText (message : TelegramMessage) : String :=
  strip (textOr message.text (textOr message.caption ""))

/-- `[largest_photo_file_id] if largest_photo_file_id else []`. -/
def attachmentFileIds (message : TelegramMessage) : List String :=
  match (message.photos.filter hasText).getLast? with
  | some (some fileId) => [fileId]
  | _ => []

/-- `_sender_name`. -/
def senderName (sender : TelegramUser) : Option String :=
  let parts := [sender.firstName, sender.lastName].filterMap fun part =>
    let part := strip (textOr part "")
    if part = "" then none else some part
  if parts.isEmpty then none else some (" ".intercalate parts)

/-- `build_telegram_staff_reply_dedup_key`. -/
def buildTelegramStaffReplyDedupKey (update : TelegramUpdate) (caseId : Nat) : String :=
  let messageId : Json := match update.message.bind TelegramMessage.messageId with
    | some messageId => .int messageId
    | none => .null
  let raw := dumpsSorted (.obj (.ofList [
    ("telegram_case_id", .int caseId),
    ("telegram_update_id", .int update.updateId),
    ("telegram_message_id", messageId)]))
  "telegram.staff_reply:" ++ ((sha256Hex raw).take 24).toString

/-! ## Handlers -/

/-- What `StaffReplyProcessor.process` returns. -/
structure PolishedReply where
  type : String
  text : String
  source : String

/-- The text analysis behind a staff reply: the language table, the polishing of
`StaffReplyProcessor` and the patterns of `telegram_case_status.py`. -/
structure StaffReplyServices where
  normalizeLanguageCode : Option String → String
  process : String → String → PolishedReply
  asksCustomer : String → Bool
  asksToWait : String → Bool
  matchesCompletion : String → String → Bool
  isTerminalOther : String → Bool
  formatDatetime : Nat → String

/-- `_case_reply_language` and `_result_reply_language`. -/
def replyLanguageOf (services : StaffReplyServices) (language : Option String) : String :=
  let code := services.normalizeLanguageCode language
  if code ≠ "unknown" then code else "zh-Hans"

/-- `classify_money_case_status`. -/
def classifyMoneyCaseStatus (services : StaffReplyServices) (intent rawReply currentStatus : String) :
    String :=
  let text := strip rawReply
  if intent ∉ ["deposit_missing", "withdrawal_missing"] then
    textOr (some currentStatus) "under_review"
  else if currentStatus ∈ ["completion_disputed", "completed_confirmed_by_customer"] then
    currentStatus
  else if services.asksCustomer text then "waiting_customer"
  else if services.asksToWait text then "under_review"
  else if services.matchesCompletion intent text then "completed_by_staff"
  else if services.isTerminalOther text then "terminal_other"
  else "under_review"

/-- The `result_json` of a staff reply. -/
structure StaffReply where
  telegramCaseId : Nat
  telegramUpdateId : Int
  telegramMessageId : Option Int
  replyToMessageId : Int
  sender : TelegramUser
  rawText : String
  caption : Option String
  attachmentFileIds : List String
  telegramChatId : String
  messageThreadId : Option Int
  intent : Option String
  activeWorkflow : Option String
  telegramCaseStatus : String
  language : String

/-- `None` or a number. -/
def Json.ofInt? : Option Int → Json
  | some n => .int n
  | none => .null

/-- The object that is stored. -/
def StaffReply.json (reply : StaffReply) : JsonObject :=
  .ofList [
    ("status", .str "received"),
    ("telegram_case_id", .int reply.telegramCaseId),
    ("telegram_update_id", .int reply.telegramUpdateId),
    ("telegram_message_id", .ofInt? reply.telegramMessageId),
    ("reply_to_message_id", .int reply.replyToMessageId),
    ("staff_user_id", .ofInt? reply.sender.id),
    ("staff_username", .ofText? reply.sender.username),
    ("staff_name", .ofText? (senderName reply.sender)),
    ("raw_text", .str reply.rawText),
    ("caption", .ofText? reply.caption),
    ("attachment_file_ids", .arr (reply.attachmentFileIds.map .str)),
    ("telegram_chat_id", .str reply.telegramChatId),
    ("telegram_message_thread_id", .ofInt? reply.messageThreadId),
    ("intent", .ofText? reply.intent),
    ("active_workflow", .ofText? reply.activeWorkflow),
    ("telegram_case_status", .str reply.telegramCaseStatus),
    ("language", .str reply.language)]

/-- `value or fallback` of two texts that may be `None`. -/
def textOr? (text fallback : Option String) : Option String :=
  if hasText text then text else fallback

/-- The reply to a case, as `_build_result_row` collects it. -/
def staffReplyOf (services : StaffReplyServices) (update : TelegramUpdate)
    (message : TelegramMessage) (replyToMessageId : Int) (case : FoundCase) : StaffReply where
  telegramCaseId := case.id
  telegramUpdateId := update.updateId
  telegramMessageId := message.messageId
  replyToMessageId := replyToMessageId
  sender := message.sender
  rawText := messageText message
  caption := message.caption
  attachmentFileIds := attachmentFileIds message
  telegramChatId := message.telegramChatId
  messageThreadId := message.threadId
  intent := case.intent
  activeWorkflow := textOr? case.activeWorkflow case.intent
  telegramCaseStatus := case.status
  language := replyLanguageOf services case.replyLanguage

/-- `_build_result_row`. -/
def buildResultRow (update : TelegramUpdate) (case : FoundCase) (reply : StaffReply) :
    ExternalResult where
  externalCommandId := case.externalCommandId
  tenantId := some (textOr (some case.tenantId) "default")
  conversationId := case.conversationId
  chatId := case.chatId
  threadId := case.threadId
  inboundEventId := case.inboundEventId
  commandType := "telegram.staff_reply"
  resultType := "telegram.staff_reply.received"
  resultJson := reply.json
  status := some .pending
  lastError := none
  dedupKey := some (buildTelegramStaffReplyDedupKey update case.id)

/-- `ACTIVE_TELEGRAM_CASE_SLOT_KEYS`, sorted. -/
def activeTelegramCaseSlotKeys : List String :=
  ["last_telegram_append_message_id", "last_telegram_staff_reply_message_id",
    "last_telegram_staff_reply_type", "telegram_append_status", "telegram_case_id",
    "telegram_case_status", "telegram_message_id", "telegram_staff_reply_status"]

/-- `result_json.get("raw_text") or result_json.get("caption") or ""`. -/
def StaffReply.rawReply (reply : StaffReply) : String :=
  textOr (some reply.rawText) (textOr reply.caption "")

/-- The slot memory of a case that stays open. -/
def openCaseSlotMemory (reply : StaffReply) (type source : String) : JsonObject :=
  .ofList [
    ("telegram_staff_reply_status", .str "received"),
    ("last_telegram_staff_reply_message_id", .ofInt? reply.telegramMessageId),
    ("last_telegram_staff_reply_type", .str type),
    ("last_telegram_staff_reply_source", .str source)]

/-- The graph state that follows from the status of the case. -/
def staffReplyState (services : StaffReplyServices) (now : Nat) (reply : StaffReply)
    (polished : PolishedReply) (caseStatus : String) : GraphState :=
  let activeWorkflow := textOr? reply.activeWorkflow reply.intent
  let update : TelegramCaseUpdate := ⟨reply.telegramCaseId, caseStatus⟩
  let openMemory := openCaseSlotMemory reply polished.type polished.source
  if caseStatus ∈ ["awaiting_review", "under_review", "completion_disputed"] then
    ⟨some .waitingExternal, activeWorkflow, some "waiting_backend", some openMemory, none, [],
      some update⟩
  else if caseStatus = "waiting_customer" then
    ⟨some .waitingExternal, activeWorkflow, some "waiting_customer_supplement",
      some openMemory, none, [], some update⟩
  else
    ⟨some .aiActive, none, some "completed",
      some (.ofList [
        ("telegram_case_resolved_at", .str (services.formatDatetime now)),
        ("telegram_case_resolution_text", .str (strip reply.rawReply)),
        ("telegram_case_resolution_type", .str polished.type),
        ("telegram_case_resolution_source", .str polished.source),
        ("telegram_case_resolution_workflow", .ofText? activeWorkflow),
        ("customer_confirmed_resolved", .bool false)]),
      none, activeTelegramCaseSlotKeys, some update⟩

/-- `build_staff_reply_handler`. -/
def buildStaffReplyHandler (services : StaffReplyServices) (now : Nat) (reply : StaffReply) :
    ResultHandler :=
  let polished := services.process reply.rawReply
    (replyLanguageOf services (some reply.language))
  let activeWorkflow := textOr? reply.activeWorkflow reply.intent
  let caseStatus := classifyMoneyCaseStatus services (textOr activeWorkflow "") reply.rawReply
    reply.telegramCaseStatus
  { text := polished.text
    summarySenderRole := "telegram"
    summaryText := "Telegram 人工客服回复已润色并准备回写用户。"
    graphState := staffReplyState services now reply polished caseStatus
    externalCommands := [] }

/-- `_build_photo_only_handler`. -/
def buildPhotoOnlyHandler (reply : StaffReply) : ResultHandler where
  text := ""
  summarySenderRole := "telegram"
  summaryText := "Telegram 人工客服提供了图片附件并准备回写用户。"
  graphState :=
    ⟨some .waitingExternal, textOr? reply.activeWorkflow reply.intent, some "waiting_backend",
      some (openCaseSlotMemory reply "attachment" "telegram_photo"), none, [], none⟩
  externalCommands := []

/-- `_build_telegram_photo_outbox`. -/
def buildTelegramPhotoOutbox (row : ExternalResultRow) (fileId : String) : OutboundMessage where
  chatId := some row.chatId
  threadId := row.threadId
  actionType := "livechat.send_image"
  messageType := "image"
  payloadJson := .ofList [
    ("asset_source", .str "telegram"),
    ("telegram_file_id", .str fileId),
    ("caption", .str "")]
  status := .pending
  inboundEventId := row.inboundEventId
  conversationId := some row.conversationId
  tenantId := none
  dedupKey := some (row.dedupKey ++ ":outbound:image")
  blockIndex := some 0
  messageKind := some "telegram_staff_reply_image"
  commandType := some "livechat.send_image"

/-- The messages for the customer. -/
def staffReplyOutbounds (row : ExternalResultRow) (reply : StaffReply) (text : String) :
    List OutboundMessage :=
  let outbound := buildTextOutbox (some row.chatId) row.threadId row.conversationId
    row.inboundEventId text
  match reply.attachmentFileIds with
  | fileId :: _ =>
      let image := buildTelegramPhotoOutbox row fileId
      if reply.rawText ≠ "" ∧ text ≠ "" then
        [image,
          { outbound with
            dedupKey := some (row.dedupKey ++ ":outbound:caption")
            blockIndex := some 1
            commandType := some "telegram.staff_reply"
            messageKind := some "telegram_staff_reply_caption" }]
      else [image]
  | [] =>
      [{ outbound with
          dedupKey := some (row.dedupKey ++ ":outbound")
          commandType := some "telegram.staff_reply"
          messageKind := some "telegram_staff_reply" }]

/-! ## Operations -/

/-- The operations of the consumer. -/
inductive ReplyOp
  | getOffset (offsetKey : String)
  | getUpdates (offset : Option Int) (limit : Nat)
  | findByReplyMessage (telegramChatId : String) (replyToMessageId : Int)
      (messageThreadId : Option Int)
  | isHumanActive (conversationId : String)
  | insertResult (result : ExternalResult)
  | compose (rawText fallbackText : String)
  | processResult (row : ExternalResultRow) (graphState : GraphState)
      (outboundMessages : List OutboundMessage) (summaryMessage : ConversationMessage)
  | markResultFailed (resultId : Nat) (error : String)
  | recordStaffReplyMessage (telegramCaseId : Nat) (telegramChatId : String)
      (messageId : Int) (messageThreadId : Option Int)
  | saveOffset (offsetKey : String) (updateId : Int)

/-- What the operations return. -/
abbrev ReplyOp.Res : ReplyOp → Type
  | .getOffset _ => Int
  | .getUpdates _ _ => List TelegramUpdate
  | .findByReplyMessage _ _ _ => Option FoundCase
  | .isHumanActive _ => Bool
  | .insertResult _ => InsertReport
  | .compose _ _ => String
  | .processResult _ _ _ _ => Unit
  | .markResultFailed _ _ => Unit
  | .recordStaffReplyMessage _ _ _ _ => Unit
  | .saveOffset _ _ => Unit

abbrev replyOps : Interface := ⟨ReplyOp, ReplyOp.Res, ServiceError⟩

abbrev ReplyProg := Prog replyOps

/-- Execute an operation. -/
def ReplyOp.call (op : ReplyOp) : ReplyProg op.Res := Prog.perform (I := replyOps) op

/-- Execute an operation and catch its exception. -/
def ReplyOp.tryCall (op : ReplyOp) : ReplyProg (Except ServiceError op.Res) :=
  Prog.attempt (I := replyOps) (Prog.perform (I := replyOps) op)

/-! ## The consumer -/

/-- The settings of the consumer. -/
structure ReplySettings where
  services : StaffReplyServices
  runtime : Runtime
  offsetKey : String
  targetChatIds : List String
  limit : Nat
  llmFinalReplyEnabled : Bool

/-- What a poll finds out before it reads updates: the id of the bot, unless
`get_me` fails, and the time. -/
structure PollContext where
  botUserId : Option Int
  now : Nat

/-- The report on an update. -/
structure UpdateReport where
  updateId : Int
  status : String
  reason : Option String
  telegramCaseId : Option Nat
  error : Option String

def UpdateReport.ignored (update : TelegramUpdate) (reason : String) : UpdateReport :=
  ⟨update.updateId, "IGNORED", some reason, none, none⟩

/-- `finalize_staff_reply_handler`. -/
def finalizeStaffReplyHandler (settings : ReplySettings) (reply : StaffReply)
    (handler : ResultHandler) : ReplyProg ResultHandler :=
  let rawText := strip reply.rawReply
  let fallbackText := strip handler.text
  if !settings.llmFinalReplyEnabled then pure handler
  else if rawText = "" ∨ fallbackText = "" then pure handler
  else do
    match ← (ReplyOp.compose rawText fallbackText).tryCall with
    | .error _ => pure handler
    | .ok finalText =>
        if strip finalText = "" then pure handler
        else pure { handler with text := strip finalText }

/-- The handler stays as it is, or the model is asked for another text. -/
theorem finalizeStaffReplyHandler_cases (settings : ReplySettings) (reply : StaffReply)
    (handler : ResultHandler) :
    finalizeStaffReplyHandler settings reply handler = .ret handler ∨
      ∃ final : Except ServiceError String → ResultHandler,
        (∀ composed, ∃ text, final composed = { handler with text }) ∧
          finalizeStaffReplyHandler settings reply handler =
            (ReplyOp.compose (strip reply.rawReply) (strip handler.text)).tryCall >>=
              fun composed => .ret (final composed) := by
  unfold finalizeStaffReplyHandler
  dsimp only
  split
  · exact Or.inl rfl
  split
  · exact Or.inl rfl
  right
  -- a call that fails, or an empty text, leaves the text of the handler
  refine ⟨fun composed => { handler with
    text := composed.toOption.elim handler.text fun text =>
      if strip text = "" then handler.text else strip text }, fun composed => ⟨_, rfl⟩, ?_⟩
  congr 1
  funext composed
  cases composed with
  | error e => rfl
  | ok text =>
      by_cases htext : strip text = ""
      · simp [Except.toOption, htext]
      · simp [Except.toOption, htext]

/-- The handler of a reply. -/
def staffReplyHandler (settings : ReplySettings) (now : Nat) (reply : StaffReply) :
    ReplyProg ResultHandler :=
  if reply.rawText ≠ "" then
    finalizeStaffReplyHandler settings reply
      (buildStaffReplyHandler settings.services now reply)
  else pure (buildPhotoOnlyHandler reply)

/-- Commit a reply; a failure is noted on the result row and raised again. -/
def commitStaffReply (settings : ReplySettings) (row : ExternalResultRow) (reply : StaffReply)
    (handler : ResultHandler) : ReplyProg Unit :=
  (ReplyOp.processResult row handler.graphState (staffReplyOutbounds row reply handler.text)
    (buildExternalResultSummaryMessage row handler)).call.tryCatch fun exc => do
      (ReplyOp.markResultFailed row.id (exc.text settings.runtime)).call
      Prog.raise exc

/-- Remember the message of the staff, if it has an id. -/
def recordMessage (message : TelegramMessage) (case : FoundCase) : ReplyProg Unit :=
  match message.messageId with
  | none => pure ()
  | some messageId =>
      (ReplyOp.recordStaffReplyMessage case.id message.telegramChatId messageId
        message.threadId).call

/-- The part of `process_single_update` after the checks. -/
def recordStaffReply (settings : ReplySettings) (now : Nat) (update : TelegramUpdate)
    (message : TelegramMessage) (replyToMessageId : Int) (case : FoundCase) :
    ReplyProg UpdateReport := do
  let reply := staffReplyOf settings.services update message replyToMessageId case
  let result := buildResultRow update case reply
  let insert : InsertReport ← (ReplyOp.insertResult result).call
  if !insert.inserted then
    pure ⟨update.updateId, "DUPLICATE", none, some case.id, none⟩
  else
    let row := result.row (insert.id.getD 0) now
    let handler ← staffReplyHandler settings now reply
    commitStaffReply settings row reply handler
    recordMessage message case
    pure ⟨update.updateId, "RECORDED", none, some case.id, none⟩

/-- The part of `process_single_update` that knows the case. -/
def processCaseReply (settings : ReplySettings) (now : Nat) (update : TelegramUpdate)
    (message : TelegramMessage) (replyToMessageId : Int) (case : FoundCase) :
    ReplyProg UpdateReport := do
  let humanActive : Bool ← (ReplyOp.isHumanActive case.conversationId).call
  if humanActive then
    pure ⟨update.updateId, "IGNORED", some "conversation_human_active", some case.id, none⟩
  else if messageText message = "" ∧ attachmentFileIds message = [] then
    pure (.ignored update "empty_staff_reply")
  else recordStaffReply settings now update message replyToMessageId case

/-- `process_single_update`. -/
def processSingleUpdate (settings : ReplySettings) (poll : PollContext)
    (update : TelegramUpdate) : ReplyProg UpdateReport :=
  match update.message with
  | none => pure (.ignored update "missing_message")
  | some message =>
      if settings.targetChatIds ≠ [] ∧ message.telegramChatId ∉ settings.targetChatIds then
        pure (.ignored update "non_target_chat")
      else if poll.botUserId ≠ none ∧ message.sender.id = poll.botUserId then
        pure (.ignored update "self_message")
      else
        match message.replyTo.messageId with
        | none => pure (.ignored update "not_reply_to_case")
        | some replyToMessageId => do
            match ← (ReplyOp.findByReplyMessage message.telegramChatId replyToMessageId
                message.threadId).call with
            | none => pure (.ignored update "case_not_found")
            | some case =>
                processCaseReply settings poll.now update message replyToMessageId case

/-- Acknowledge an update. -/
def acknowledge (settings : ReplySettings) (update : TelegramUpdate) : ReplyProg Unit :=
  if settings.offsetKey ≠ "" ∧ update.updateId ≠ 0 then
    (ReplyOp.saveOffset settings.offsetKey update.updateId).call
  else pure ()

/-- `process_telegram_updates`; the first failure ends the batch. -/
def processTelegramUpdates (settings : ReplySettings) (poll : PollContext) :
    List TelegramUpdate → ReplyProg (List UpdateReport)
  | [] => pure []
  | update :: rest => do
      match ← (processSingleUpdate settings poll update).attempt with
      | .error exc =>
          pure [⟨update.updateId, "FAILED", none, none, some (exc.text settings.runtime)⟩]
      | .ok report =>
          acknowledge settings update
          let others ← processTelegramUpdates settings poll rest
          pure (report :: others)

/-- `last_update_id + 1 if last_update_id else None`. -/
def requestOffset (lastUpdateId : Int) : Option Int :=
  if lastUpdateId = 0 then none else some (lastUpdateId + 1)

/-- `process_telegram_updates_once`. -/
def processTelegramUpdatesOnce (settings : ReplySettings) (poll : PollContext) :
    ReplyProg (List UpdateReport) := do
  let lastUpdateId : Int ← (ReplyOp.getOffset settings.offsetKey).call
  let updates : List TelegramUpdate ←
    (ReplyOp.getUpdates (requestOffset lastUpdateId) settings.limit).call
  processTelegramUpdates settings poll updates

end AiCustomerService
