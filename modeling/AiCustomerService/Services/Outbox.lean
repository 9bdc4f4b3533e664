import AiCustomerService.Db.Queues

/-!
# Outbox rows

`services/outbox.py` turns the commands of a workflow into outbound messages
and external commands.
-/

namespace AiCustomerService

open Support

/-- `CommandType`. -/
inductive CommandType
  | livechatSendText
  | livechatSendImage
  | livechatSendButtons
  | telegramSendCaseCard
  | telegramAppendToCase
  | telegramRemindCase
  | backendQuery
  | pendingReplyLookup
  | humanHandoffRequested
  | ragPlaceholder
  deriving DecidableEq

/-- `str(command_type)`. -/
def CommandType.text : CommandType → String
  | .livechatSendText => "livechat.send_text"
  | .livechatSendImage => "livechat.send_image"
  | .livechatSendButtons => "livechat.send_buttons"
  | .telegramSendCaseCard => "telegram.send_case_card"
  | .telegramAppendToCase => "telegram.append_to_case"
  | .telegramRemindCase => "telegram.remind_case"
  | .backendQuery => "backend.query"
  | .pendingReplyLookup => "pending_reply.lookup"
  | .humanHandoffRequested => "human_handoff.requested"
  | .ragPlaceholder => "rag.placeholder"

/-- A command of the workflow graph. -/
structure WorkflowCommand where
  type : CommandType
  payload : JsonObject
  dedupKey : Option String
  blockIndex : Option Int

/-- `build_text_outbox`. -/
def buildTextOutbox (chatId threadId : Option String) (conversationId : String)
    (inboundEventId : Option Nat) (text : String) : OutboundMessage where
  chatId := chatId
  threadId := threadId
  actionType := "send_event"
  messageType := "text"
  payloadJson := .ofList [("type", .str "message"), ("text", .str text)]
  status := .pending
  inboundEventId := inboundEventId
  conversationId := some conversationId
  tenantId := none
  dedupKey := none
  blockIndex := none
  messageKind := none
  commandType := none

/-- `_strip_internal_payload_fields`. -/
def stripInternalPayloadFields (payload : JsonObject) : JsonObject :=
  payload.eraseAll ["final_reply_target", "final_reply_exempt"]

/-- `_with_command_metadata`. -/
def withCommandMetadata (row : OutboundMessage) (command : WorkflowCommand) :
    OutboundMessage :=
  let row :=
    if hasText command.dedupKey then { row with dedupKey := command.dedupKey } else row
  match command.blockIndex with
  | none => row
  | some blockIndex =>
      let row := { row with blockIndex := some blockIndex }
      if hasText row.dedupKey then row
      else
        let commandType := textOr row.commandType row.actionType
        { row with
          dedupKey := some
            (keyOf (textOr row.tenantId "default") (textOr row.conversationId "")
              (eventIdOrEmpty row.inboundEventId) commandType ++ ":" ++ toString blockIndex) }

/-- `build_command_outbox`. -/
def buildCommandOutbox (rt : Runtime) (chatId threadId : Option String)
    (conversationId : String) (inboundEventId : Nat) (command : WorkflowCommand) :
    Except PyError OutboundMessage :=
  let field (key : String) : Json := .str ((getKey command.payload key).textOrEmpty rt)
  match command.type with
  | .livechatSendText =>
      let payload := stripInternalPayloadFields (command.payload.set "text" (field "text"))
      let row := buildTextOutbox chatId threadId conversationId (some inboundEventId)
        ((getKey payload "text").pyStr rt)
      .ok (withCommandMetadata
        { row with
          commandType := some command.type.text
          messageKind := some "text"
          payloadJson := (Dict.ofList [("type", .str "message")]).merge payload } command)
  | .livechatSendImage =>
      let position := (getKey command.payload "position").orElse (.str "after")
      let payload := stripInternalPayloadFields
        ((((command.payload.set "asset_key" (field "asset_key")).set "asset_ref"
          (getKey command.payload "asset_ref")).set "caption" (field "caption")).set
            "position" (.str (position.pyStr rt)))
      .ok (withCommandMetadata
        { buildTextOutbox chatId threadId conversationId (some inboundEventId) "" with
          actionType := command.type.text
          commandType := some command.type.text
          messageType := "image"
          messageKind := some "image"
          payloadJson := payload } command)
  | .livechatSendButtons =>
      let payload := stripInternalPayloadFields
        (command.payload.set "menu_key" (field "menu_key"))
      .ok (withCommandMetadata
        { buildTextOutbox chatId threadId conversationId (some inboundEventId) "" with
          actionType := command.type.text
          commandType := some command.type.text
          messageType := "buttons"
          messageKind := some "buttons"
          payloadJson := payload } command)
  | other => .error (.valueError ("Unsupported outbound command type: " ++ other.text))

/-- `build_external_command_record`. -/
def buildExternalCommandRecord (tenantId : String) (chatId threadId : Option String)
    (conversationId : String) (inboundEventId : Option Nat) (command : WorkflowCommand) :
    ExternalCommand where
  tenantId := some tenantId
  conversationId := conversationId
  chatId := chatId
  threadId := threadId
  inboundEventId := inboundEventId
  commandType := command.type.text
  payloadJson := command.payload
  status := .pending
  dedupKey := if hasText command.dedupKey then command.dedupKey else none

end AiCustomerService
