import AiCustomerService.Channels.Errors
import AiCustomerService.Db.Outbound
import AiCustomerService.Support.Program

/-!
# The sender worker

`workers/sender_worker.py`: a worker leases groups of outbound messages and sends the messages
of a group in order, up to the first one that is not sent.  Statements and calls of LiveChat
and Telegram are operations.
-/

namespace AiCustomerService

open Support

/-- What is sent to the customer. -/
inductive SendRequest
  | text (chatId : String) (threadId : Option String) (text : String) (customId : Option String)
  | buttons (chatId : String) (threadId : Option String) (menu : JsonObject)
  | image (chatId : String) (threadId : Option String) (assetRef : String)
  | imageContent (chatId : String) (threadId : Option String) (file : JsonObject)

/-- The operations of a sender worker. -/
inductive SenderOp
  | leasePendingGroups (limit : Nat) (workerId : String) (leaseSeconds : Nat)
  | isConversationHumanActive (conversationId : String)
  | downloadFile (telegramFileId : String)
  | send (request : SendRequest)
  | markSentWithMessage (outboundMessageId : Nat) (message : ConversationMessage)
      (lastError : Option String)
  | markFailed (outboundMessageId : Nat) (status : QueueStatus) (error : String)
      (retryable : Bool)
  | releaseLease (outboundMessageId : Nat)

/-- What the operations return. -/
abbrev SenderOp.Res : SenderOp → Type
  | .leasePendingGroups _ _ _ => List (List LeasedMessage)
  | .isConversationHumanActive _ => Bool
  | .downloadFile _ => JsonObject
  | .send _ => JsonObject
  | .markSentWithMessage _ _ _ => Unit
  | .markFailed _ _ _ _ => Unit
  | .releaseLease _ => Unit

abbrev senderOps : Interface := ⟨SenderOp, SenderOp.Res, ServiceError⟩

abbrev SenderProg := Prog senderOps

/-- Execute an operation. -/
def SenderOp.call (op : SenderOp) : SenderProg op.Res := Prog.perform (I := senderOps) op

/-- The arguments and the environment of a worker.  `menuForPayload`, `fallbackText` and
`assistantMessage` are `_menu_for_payload`, `fallback_text` and
`build_assistant_message_from_outbound`. -/
structure SenderSettings where
  runtime : Runtime
  limit : Nat
  workerId : String
  leaseSeconds : Nat
  maxPerConversation : Nat
  periods : OutboundPeriods
  maxRetries : Int
  imageTextFallback : Bool
  menuForPayload : JsonObject → Except String JsonObject
  fallbackText : JsonObject → String
  assistantMessage : OutboundRow → JsonObject → ConversationMessage

/-- The result of a message. -/
structure SendResult where
  status : QueueStatus
  lastError : Option String
  retryable : Bool

/-- A result that is not retried. -/
def SendResult.final (status : QueueStatus) (lastError : Option String) : SendResult :=
  ⟨status, lastError, false⟩

/-! ## Classification -/

/-- `BUSINESS_ERROR_MARKERS`. -/
def businessErrorMarkers : List String :=
  ["chat is closed", "chat closed", "chat not active", "thread not found",
    "thread does not exist", "cannot send", "can't send", "unable to send"]

/-- `classify_send_result`. -/
def classifySendResult (rt : Runtime) (response : JsonObject) : SendResult :=
  if (getKey response "success").truthy || (getKey response "event_id").truthy then
    .final .sent none
  else
    .final .failedUnknown
      (some ("send_event returned no event_id: " ++ rt.reprContainer (.obj response)))

/-- `_retry_limit_reached`. -/
def retryLimitReached (maxRetries : Int) (retryCount : Nat) : Bool :=
  decide (0 < maxRetries) && decide (maxRetries ≤ retryCount + 1)

/-- `classify_send_error`. -/
def classifySendError (settings : SenderSettings) (exc : ServiceError) (retryCount : Nat) :
    SendResult :=
  let message := exc.text settings.runtime
  match exc with
  | .telegramApi _ _ _ _ retryable =>
      if retryable then ⟨.retryable, some message, true⟩ else .final .failedBusiness (some message)
  | .livechatApi status _ =>
      if status ∈ [401, 403] then .final .failedConfig (some message)
      else if status ∈ [429, 500, 502, 503, 504] then
        if retryLimitReached settings.maxRetries retryCount then
          .final .failedBusiness (some (message ++ " (retry limit reached)"))
        else ⟨.retryable, some message, true⟩
      else if containsAny (settings.runtime.lower message) businessErrorMarkers then
        .final .failedBusiness (some message)
      else .final .failedUnknown (some message)
  | .timeout _ => ⟨.retryable, some message, true⟩
  | .connection _ => ⟨.retryable, some message, true⟩
  | _ => .final .failedUnknown (some message)

/-- `_is_human_active_conversation`. -/
def LeasedMessage.isHumanActive (message : LeasedMessage) : Bool :=
  let inHandoff := decide (message.conversationActiveWorkflow = some "human_handoff")
  let isPendingHandoffAck :=
    decide (message.conversationStatus = some .handoffRequested) && inHandoff &&
      (getKey message.row.payloadJson "handoff_ack").isTrue
  decide (message.conversationStatus = some .humanActive) || (inHandoff && !isPendingHandoffAck)

/-- `message.get("message_type") or message.get("message_kind") or "text"`. -/
def LeasedMessage.type (message : LeasedMessage) : String :=
  if message.row.messageType ≠ "" then message.row.messageType
  else if message.row.messageKind ≠ "" then message.row.messageKind
  else "text"

/-- `_final_send_custom_id`. -/
def finalSendCustomId (rt : Runtime) (payload : JsonObject) : Option String :=
  let customId := strip ((getKey payload "custom_id").textOrEmpty rt)
  if ["preview:", "preview-", "final:", "final-"].any fun p => p.toList.isPrefixOf customId.toList
  then none
  else if customId = "" then none
  else some customId

/-- `_image_asset_ref`. -/
def imageAssetRef (rt : Runtime) (payload : JsonObject) : String :=
  let assetRef := strip ((getKey payload "asset_ref").textOrEmpty rt)
  if assetRef ≠ "" then assetRef else strip ((getKey payload "asset_key").textOrEmpty rt)

/-- `_image_mvp_fallback_text`. -/
def imageMvpFallbackText (rt : Runtime) (payload : JsonObject) : String :=
  let assetRef :=
    strip (((getKey payload "asset_ref").orElse (getKey payload "asset_key")).textOrEmpty rt)
  let caption := strip ((getKey payload "caption").textOrEmpty rt)
  let text := if assetRef ≠ "" then "图片：" ++ assetRef else "图片："
  if caption ≠ "" then text ++ "\n" ++ caption else text

/-! ## One message -/

section Message

variable (settings : SenderSettings)

/-- Record a result other than `SENT`. -/
def markResult (message : LeasedMessage) (result : SendResult) : SenderProg SendResult := do
  let _ ← (SenderOp.markFailed message.row.id result.status (textOr result.lastError "")
    result.retryable).call
  return result

/-- Record the exception of a call. -/
def markError (message : LeasedMessage) (exc : ServiceError) : SenderProg SendResult :=
  markResult message (classifySendError settings exc message.row.retryCount)

/-- Record the response of a call; `history` is the payload that the history keeps. -/
def markResponse (message : LeasedMessage) (history response : JsonObject)
    (lastError : Option String) : SenderProg SendResult := do
  let result := classifySendResult settings.runtime response
  if result.status = .sent then
    let _ ← (SenderOp.markSentWithMessage message.row.id
      (settings.assistantMessage message.row history) lastError).call
    return { result with lastError }
  else markResult message result

/-- `_send_image_caption_if_present`; its outcome is only reported. -/
def sendImageCaption (message : LeasedMessage) : SenderProg Unit := do
  let caption := strip ((getKey message.row.payloadJson "caption").textOrEmpty settings.runtime)
  if caption = "" then return ()
  let _ ← (SenderOp.send (.text message.row.chatId message.row.threadId caption none)).call.attempt
  return ()

/-- The call of an image: a file of Telegram, or an asset. -/
def sendImage (message : LeasedMessage) : SenderProg JsonObject := do
  let payload := message.row.payloadJson
  let response ←
    if (getKey payload "asset_source").eqText "telegram" then do
      let file : JsonObject ← (SenderOp.downloadFile
        ((getKey payload "telegram_file_id").textOrEmpty settings.runtime)).call
      (SenderOp.send (.imageContent message.row.chatId message.row.threadId file)).call
    else
      (SenderOp.send (.image message.row.chatId message.row.threadId
        (imageAssetRef settings.runtime payload))).call
  sendImageCaption settings message
  return response

/-- The call of a text. -/
def sendText (message : LeasedMessage) : SenderProg JsonObject :=
  match message.row.payloadJson.get? "text" with
  | none => .raise (.python (.keyError "text"))
  | some text =>
      (SenderOp.send (.text message.row.chatId message.row.threadId
        (text.pyStr settings.runtime)
        (finalSendCustomId settings.runtime message.row.payloadJson))).call

/-- The branch for menus: a text is sent where the menu is refused. -/
def processButtons (message : LeasedMessage) : SenderProg SendResult :=
  match settings.menuForPayload message.row.payloadJson with
  | .error text => markResult message (.final .failedUnknown (some text))
  | .ok menu => do
      let history : JsonObject := .ofList [
        ("text", .str (settings.fallbackText menu)), ("menu_key", getKey menu "menu_key")]
      let sent ← (SenderOp.send
        (.buttons message.row.chatId message.row.threadId menu)).call.attempt
      match sent with
      | .ok response => markResponse settings message history response none
      | .error exc =>
          let fallback ← (SenderOp.send (.text message.row.chatId message.row.threadId
            (settings.fallbackText menu) none)).call.attempt
          match fallback with
          | .error _ => markError settings message exc
          | .ok response =>
              markResponse settings message history response
                (some ("delivery_mode=buttons_text_fallback; original_error=" ++
                  ((exc.text settings.runtime).take 900).toString))

/-- The payload of an image or of a text in the history. -/
def historyPayload (message : LeasedMessage) : JsonObject :=
  if message.type = "image" then
    .ofList [("text",
      .str ((getKey message.row.payloadJson "caption").textOrEmpty settings.runtime))]
  else message.row.payloadJson

/-- The branch for texts and images. -/
def processTextOrImage (message : LeasedMessage) : SenderProg SendResult := do
  let isImage := decide (message.type = "image")
  let isTelegram := (getKey message.row.payloadJson "asset_source").eqText "telegram"
  let sent ← (if isImage then sendImage settings message else sendText settings message).attempt
  match sent with
  | .ok response => markResponse settings message (historyPayload settings message) response none
  | .error exc =>
      if isImage && !isTelegram && settings.imageTextFallback then
        let text := imageMvpFallbackText settings.runtime message.row.payloadJson
        let fallback ← (SenderOp.send
          (.text message.row.chatId message.row.threadId text none)).call.attempt
        match fallback with
        | .error _ => markError settings message exc
        | .ok response =>
            markResponse settings message (.ofList [("text", .str text)])
              (response.set "_delivery_mode" (.str "mvp_text_fallback")) none
      else markError settings message exc

/-- `process_pending_message`. -/
def processPendingMessage (message : LeasedMessage) : SenderProg SendResult := do
  let freshHumanActive : Bool ←
    if hasText message.row.conversationId then
      (SenderOp.isConversationHumanActive (textOr message.row.conversationId "")).call
    else pure false
  if message.isHumanActive || freshHumanActive then
    markResult message (.final .skippedHumanActive
      (some "conversation is HUMAN_ACTIVE or human_handoff; bot outbound skipped"))
  else if message.type = "buttons" then processButtons settings message
  else if message.type = "text" ∨ message.type = "image" then processTextOrImage settings message
  else
    markResult message (.final .skippedUnsupported
      (some ("unsupported outbound message_type: " ++ message.type)))

/-- Release the leases of the messages that are left. -/
def releaseRemaining : List LeasedMessage → SenderProg Unit
  | [] => return ()
  | message :: rest => do
      let _ ← (SenderOp.releaseLease message.row.id).call
      releaseRemaining rest

/-- One message of a group; an exception releases its lease. -/
def processOrRelease (message : LeasedMessage) : SenderProg SendResult := do
  let outcome ← (processPendingMessage settings message).attempt
  match outcome with
  | .ok result => return result
  | .error exc =>
      let _ ← (SenderOp.releaseLease message.row.id).call
      return .final .failedUnknown (some (exc.text settings.runtime))

/-- `process_message_group`: up to the first message that is not sent. -/
def processMessageGroup : List LeasedMessage → SenderProg Unit
  | [] => return ()
  | message :: rest => do
      let result ← processOrRelease settings message
      if result.status = .sent then processMessageGroup rest else releaseRemaining rest

/-- `process_next_batch` up to its lease.  The groups that are leased are processed
concurrently, each by a task of its own. -/
def processNextBatch : SenderProg Unit := do
  let _ ← (SenderOp.leasePendingGroups settings.limit settings.workerId
    settings.leaseSeconds).call
  return ()

end Message

end AiCustomerService
