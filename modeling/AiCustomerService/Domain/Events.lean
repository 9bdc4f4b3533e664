import Mathlib.Data.Finset.Card
import AiCustomerService.Domain.Contracts

/-!
# Event envelopes

`app_v2/domain/events.py`: an event is a record of one of nine types, and the message of a customer
comes with the messages before it.
-/

namespace AiCustomerService

open Support

/-! ## Messages -/

/-- `content_type`. -/
inductive ContentType
  | text
  | image
  | video
  | audio
  deriving DecidableEq

/-- The texts of `content_type`. -/
def contentTypes : List (String × ContentType) :=
  [("text", .text), ("image", .image), ("video", .video), ("audio", .audio)]

/-- `ContentPart`. -/
structure ContentPart where
  contentType : ContentType
  content : NonEmptyText

/-- `SenderRole`. -/
inductive SenderRole
  | customer
  | aiAssistant
  | humanAgent
  | system
  deriving DecidableEq

/-- The texts of `SenderRole`. -/
def senderRoles : List (String × SenderRole) :=
  [("customer", .customer), ("ai_assistant", .aiAssistant), ("human_agent", .humanAgent),
    ("system", .system)]

/-- `ConversationMessage` of an event. -/
structure HistoryMessage where
  messageId : NonEmptyText
  senderRole : SenderRole
  contentPart : ContentPart
  sentAt : PyDatetime

/-- `UserMessagePayload`. -/
structure UserMessagePayload where
  message : HistoryMessage
  historySnapshot : List HistoryMessage

/-- The times of the history against each other and against that of the current message. -/
def checkSentTimes (current : PyDatetime) (sentTimes : List PyDatetime) : Except PyError Unit :=
  match sortChecked PyDatetime.lt sentTimes with
  | .error e => .error e
  | .ok sorted =>
      if sentTimes.isEqv sorted PyDatetime.eq = false then
        .error (.valueError "history_snapshot must be ordered by sent_at ascending")
      else
        match sentTimes.getLast? with
        | none => .ok ()
        | some last =>
            match current.lt last with
            | .error e => .error e
            | .ok true =>
                .error (.valueError
                  "history_snapshot must only contain messages before the current message")
            | .ok false => .ok ()

/-- `validate_history_snapshot`. -/
def validateHistorySnapshot (payload : UserMessagePayload) : Except PyError Unit :=
  let messageIds := payload.historySnapshot.map HistoryMessage.messageId
  if payload.message.messageId ∈ messageIds then
    .error (.valueError "history_snapshot must not contain the current message")
  else if messageIds.length ≠ messageIds.toFinset.card then
    .error (.valueError "history_snapshot message_id values must be unique")
  else checkSentTimes payload.message.sentAt (payload.historySnapshot.map HistoryMessage.sentAt)

/-! ## Other payloads -/

/-- `ControlOutcome`. -/
inductive ControlOutcome
  | succeeded
  | alreadySucceeded
  | rejectedStale
  | failedRetryable
  | failedFinal
  | unknownAfterExternalSuccess
  deriving DecidableEq

/-- The texts of `ControlOutcome`. -/
def controlOutcomes : List (String × ControlOutcome) :=
  [("SUCCEEDED", .succeeded), ("ALREADY_SUCCEEDED", .alreadySucceeded),
    ("REJECTED_STALE", .rejectedStale), ("FAILED_RETRYABLE", .failedRetryable),
    ("FAILED_FINAL", .failedFinal),
    ("UNKNOWN_AFTER_EXTERNAL_SUCCESS", .unknownAfterExternalSuccess)]

/-- `ControlDirectiveResultPayload`. -/
structure ControlDirectiveResultPayload where
  directiveId : NonEmptyText
  outcome : ControlOutcome
  completedStages : List String
  errorCode : Option String

/-- `ConversationStatusUpdatePayload`. -/
structure ConversationStatusUpdatePayload where
  previousStatus : NonEmptyText
  newStatus : NonEmptyText
  reason : NonEmptyText
  effectiveAt : PyDatetime

/-- `AssistantMessagePayload`. -/
structure AssistantMessagePayload where
  text : NonEmptyText
  replyLanguage : NonEmptyText
  responseKind : NonEmptyText
  inReplyToEventIds : List String

/-- `ControlDirective`; its type is always `handoff.requested`. -/
structure ControlDirective where
  directiveId : NonEmptyText
  customerNotice : NonEmptyText

/-- `ServiceErrorPayload`. -/
structure ServiceErrorPayload where
  errorCode : NonEmptyText
  retryable : Bool
  relatedEventId : Option String
  safeMessage : NonEmptyText

/-- The outcome of a capability. -/
inductive CapabilityOutcome
  | succeeded
  | failed
  | expired
  | canceled
  deriving DecidableEq

/-- The texts of the outcome. -/
def capabilityOutcomes : List (String × CapabilityOutcome) :=
  [("SUCCEEDED", .succeeded), ("FAILED", .failed), ("EXPIRED", .expired),
    ("CANCELED", .canceled)]

/-- `CapabilityResultEventPayload`. -/
structure CapabilityResultEventPayload (Value : Type) where
  queryRequestId : NonEmptyText
  workflowInstanceId : NonEmptyText
  outcome : CapabilityOutcome
  result : Option (Dict String Value)
  errorCode : Option String

/-- `CapabilityPendingDueEventPayload`. -/
structure CapabilityPendingDueEventPayload where
  queryRequestId : NonEmptyText
  workflowInstanceId : NonEmptyText

/-- `ResumeDeferredMessagesEventPayload`. -/
structure ResumeDeferredMessagesEventPayload where
  handoffDirectiveId : NonEmptyText
  deferredEventIds : {ids : List String // ids ≠ []}

/-! ## Envelopes -/

/-- `BaseEventEnvelope` with a payload; `event_type` is the type of the event. -/
structure Event (Payload : Type) where
  eventId : NonEmptyText
  tenantId : NonEmptyText
  agentId : NonEmptyText
  conversationId : NonEmptyText
  conversationSequence : {n : ℤ // 1 ≤ n}
  occurredAt : PyDatetime
  payload : Payload

/-- `UserMessageEvent`. -/
abbrev UserMessageEvent := Event UserMessagePayload

/-- `validate_current_message`. -/
def validateCurrentMessage (event : UserMessageEvent) : Except PyError Unit :=
  if event.payload.message.senderRole ≠ .customer then
    .error (.valueError "UserMessage payload.message.sender_role must be customer")
  else if event.occurredAt.eq event.payload.message.sentAt = false then
    .error (.valueError "UserMessage occurred_at must equal message.sent_at")
  else .ok ()

/-- `EventEnvelope`. -/
inductive EventEnvelope (Value : Type)
  | userMessage (event : UserMessageEvent)
  | controlDirectiveResult (event : Event ControlDirectiveResultPayload)
  | conversationStatusUpdate (event : Event ConversationStatusUpdatePayload)
  | assistantMessage (event : Event AssistantMessagePayload)
  | controlDirective (event : Event ControlDirective)
  | serviceError (event : Event ServiceErrorPayload)
  | capabilityResult (event : Event (CapabilityResultEventPayload Value))
  | capabilityPendingDue (event : Event CapabilityPendingDueEventPayload)
  | resumeDeferredMessages (event : Event ResumeDeferredMessagesEventPayload)

/-! ## Validation -/

namespace Pydantic

variable {Value : Type} (py : Pydantic Value)

/-- A text without a constraint. -/
def anyText (value : Value) : Validated PyError String := ofRead (py.text value)

/-- A text with `min_length=1`. -/
def someText (value : Value) : Validated PyError NonEmptyText := nonEmptyText py.text value

/-- A datetime. -/
def anyDatetime (value : Value) : Validated PyError PyDatetime := ofRead (py.datetime value)

def contentPart : Value → Validated PyError ContentPart :=
  py.model ["content_type", "content"] fun fields =>
    ContentPart.mk <$> requiredField fields "content_type" (py.oneOf contentTypes) <*>
      requiredField fields "content" (nonEmptyText py.strictText)

def historyMessage : Value → Validated PyError HistoryMessage :=
  py.model ["message_id", "sender_role", "content_part", "sent_at"] fun fields =>
    HistoryMessage.mk <$> requiredField fields "message_id" py.someText <*>
      requiredField fields "sender_role" (py.oneOf senderRoles) <*>
      requiredField fields "content_part" py.contentPart <*>
      requiredField fields "sent_at" py.anyDatetime

/-- The fields of `UserMessagePayload`. -/
def userMessageFields : Value → Validated PyError UserMessagePayload :=
  py.model ["message", "history_snapshot"] fun fields =>
    UserMessagePayload.mk <$> requiredField fields "message" py.historyMessage <*>
      requiredField fields "history_snapshot" (py.listOf py.historyMessage)

def userMessagePayload (value : Value) : Validated PyError UserMessagePayload :=
  (py.userMessageFields value).after rejectionText? validateHistorySnapshot

def controlDirectiveResultPayload : Value → Validated PyError ControlDirectiveResultPayload :=
  py.model ["directive_id", "outcome", "completed_stages", "error_code"] fun fields =>
    ControlDirectiveResultPayload.mk <$> requiredField fields "directive_id" py.someText <*>
      requiredField fields "outcome" (py.oneOf controlOutcomes) <*>
      requiredField fields "completed_stages" (py.listOf py.anyText) <*>
      optionalField fields "error_code" (py.nullable py.anyText)

def conversationStatusUpdatePayload :
    Value → Validated PyError ConversationStatusUpdatePayload :=
  py.model ["previous_status", "new_status", "reason", "effective_at"] fun fields =>
    ConversationStatusUpdatePayload.mk <$> requiredField fields "previous_status" py.someText <*>
      requiredField fields "new_status" py.someText <*>
      requiredField fields "reason" py.someText <*>
      requiredField fields "effective_at" py.anyDatetime

def assistantMessagePayload : Value → Validated PyError AssistantMessagePayload :=
  py.model ["text", "reply_language", "response_kind", "in_reply_to_event_ids"] fun fields =>
    AssistantMessagePayload.mk <$> requiredField fields "text" py.someText <*>
      requiredField fields "reply_language" py.someText <*>
      requiredField fields "response_kind" py.someText <*>
      requiredField fields "in_reply_to_event_ids" (py.listOf py.anyText)

def controlDirective : Value → Validated PyError ControlDirective :=
  py.model ["directive_id", "directive_type", "customer_notice"] fun fields =>
    (fun directiveId _ customerNotice => ControlDirective.mk directiveId customerNotice) <$>
      requiredField fields "directive_id" py.someText <*>
      requiredField fields "directive_type" (py.oneOf [("handoff.requested", ())]) <*>
      requiredField fields "customer_notice" py.someText

def serviceErrorPayload : Value → Validated PyError ServiceErrorPayload :=
  py.model ["error_code", "retryable", "related_event_id", "safe_message"] fun fields =>
    ServiceErrorPayload.mk <$> requiredField fields "error_code" py.someText <*>
      requiredField fields "retryable" (fun value => ofRead (py.boolean value)) <*>
      optionalField fields "related_event_id" (py.nullable py.anyText) <*>
      requiredField fields "safe_message" py.someText

def capabilityResultEventPayload : Value → Validated PyError (CapabilityResultEventPayload Value) :=
  py.model ["query_request_id", "workflow_instance_id", "outcome", "result", "error_code"]
    fun fields =>
      CapabilityResultEventPayload.mk <$> requiredField fields "query_request_id" py.someText <*>
        requiredField fields "workflow_instance_id" py.someText <*>
        requiredField fields "outcome" (py.oneOf capabilityOutcomes) <*>
        optionalField fields "result" (py.nullable fun value => ofRead (py.mapping value)) <*>
        optionalField fields "error_code" (py.nullable py.anyText)

def capabilityPendingDueEventPayload :
    Value → Validated PyError CapabilityPendingDueEventPayload :=
  py.model ["query_request_id", "workflow_instance_id"] fun fields =>
    CapabilityPendingDueEventPayload.mk <$>
      requiredField fields "query_request_id" py.someText <*>
      requiredField fields "workflow_instance_id" py.someText

def resumeDeferredMessagesEventPayload :
    Value → Validated PyError ResumeDeferredMessagesEventPayload :=
  py.model ["handoff_directive_id", "deferred_event_ids"] fun fields =>
    ResumeDeferredMessagesEventPayload.mk <$>
      requiredField fields "handoff_directive_id" py.someText <*>
      requiredField fields "deferred_event_ids" (py.nonEmptyListOf py.anyText)

/-- The fields of `BaseEventEnvelope`, with the `Literal` of one type. -/
def baseFields {Payload : Type} (eventType : String) (fields : Dict String Value) :
    Validated PyError (Payload → Event Payload) :=
  (fun eventId _ => Event.mk eventId) <$> requiredField fields "event_id" py.someText <*>
    requiredField fields "event_type" (py.oneOf [(eventType, ())]) <*>
    requiredField fields "tenant_id" py.someText <*>
    requiredField fields "agent_id" py.someText <*>
    requiredField fields "conversation_id" py.someText <*>
    requiredField fields "conversation_sequence" py.positiveInteger <*>
    requiredField fields "occurred_at" py.anyDatetime

/-- An envelope of one type. -/
def event {Payload : Type} (eventType : String) (payload : Value → Validated PyError Payload) :
    Value → Validated PyError (Event Payload) :=
  py.model ["event_id", "event_type", "tenant_id", "agent_id", "conversation_id",
    "conversation_sequence", "occurred_at", "payload"] fun fields =>
      py.baseFields eventType fields <*> requiredField fields "payload" payload

/-- `UserMessageEvent`. -/
def userMessageEvent (value : Value) : Validated PyError UserMessageEvent :=
  (py.event "UserMessage" py.userMessagePayload value).after rejectionText? validateCurrentMessage

/-- The member of the union that an event type names. -/
def member (value : Value) : String → Option (Validated PyError (EventEnvelope Value))
  | "UserMessage" => some (.userMessage <$> py.userMessageEvent value)
  | "ControlDirectiveResult" =>
      some (.controlDirectiveResult <$>
        py.event "ControlDirectiveResult" py.controlDirectiveResultPayload value)
  | "ConversationStatusUpdate" =>
      some (.conversationStatusUpdate <$>
        py.event "ConversationStatusUpdate" py.conversationStatusUpdatePayload value)
  | "AssistantMessage" =>
      some (.assistantMessage <$> py.event "AssistantMessage" py.assistantMessagePayload value)
  | "ControlDirective" =>
      some (.controlDirective <$> py.event "ControlDirective" py.controlDirective value)
  | "ServiceError" =>
      some (.serviceError <$> py.event "ServiceError" py.serviceErrorPayload value)
  | "CapabilityResultEvent" =>
      some (.capabilityResult <$>
        py.event "CapabilityResultEvent" py.capabilityResultEventPayload value)
  | "CapabilityPendingDueEvent" =>
      some (.capabilityPendingDue <$>
        py.event "CapabilityPendingDueEvent" py.capabilityPendingDueEventPayload value)
  | "ResumeDeferredMessagesEvent" =>
      some (.resumeDeferredMessages <$>
        py.event "ResumeDeferredMessagesEvent" py.resumeDeferredMessagesEventPayload value)
  | _ => none

/-- `validate_event_envelope`: the union is discriminated by `event_type`. -/
def validateEventEnvelope (value : Value) : Validated PyError (EventEnvelope Value) :=
  (ofRead (py.mapping value)).andThen fun fields =>
    match fields.get? "event_type" with
    | none => .fail "union_tag_not_found"
    | some tag =>
        match py.literal tag with
        | none => .fail "union_tag_invalid"
        | some eventType =>
            match py.member value eventType with
            | none => .fail "union_tag_invalid"
            | some result => result.within (.key eventType)

/-! ## What raises nothing -/

section Quiet

variable {py}

theorem quiet_anyText (value : Value) : (py.anyText value).Quiet := quiet_ofRead _

theorem quiet_someText (value : Value) : (py.someText value).Quiet := quiet_nonEmptyText _ value

theorem quiet_anyDatetime (value : Value) : (py.anyDatetime value).Quiet := quiet_ofRead _

theorem quiet_contentPart (value : Value) : (py.contentPart value).Quiet :=
  quiet_model (fun _ =>
    ((quiet_requiredField (quiet_oneOf contentTypes) _ _).map _).seq
      (quiet_requiredField (quiet_nonEmptyText _) _ _)) value

theorem quiet_historyMessage (value : Value) : (py.historyMessage value).Quiet :=
  quiet_model (fun _ =>
    ((((quiet_requiredField quiet_someText _ _).map _).seq
      (quiet_requiredField (quiet_oneOf senderRoles) _ _)).seq
      (quiet_requiredField quiet_contentPart _ _)).seq
      (quiet_requiredField quiet_anyDatetime _ _)) value

theorem quiet_userMessageFields (value : Value) : (py.userMessageFields value).Quiet :=
  quiet_model (fun _ =>
    ((quiet_requiredField quiet_historyMessage _ _).map _).seq
      (quiet_requiredField (quiet_listOf quiet_historyMessage) _ _)) value

theorem quiet_controlDirectiveResultPayload (value : Value) :
    (py.controlDirectiveResultPayload value).Quiet :=
  quiet_model (fun _ =>
    ((((quiet_requiredField quiet_someText _ _).map _).seq
      (quiet_requiredField (quiet_oneOf controlOutcomes) _ _)).seq
      (quiet_requiredField (quiet_listOf quiet_anyText) _ _)).seq
      (quiet_optionalField (quiet_nullable quiet_anyText) _ _)) value

theorem quiet_conversationStatusUpdatePayload (value : Value) :
    (py.conversationStatusUpdatePayload value).Quiet :=
  quiet_model (fun _ =>
    ((((quiet_requiredField quiet_someText _ _).map _).seq
      (quiet_requiredField quiet_someText _ _)).seq
      (quiet_requiredField quiet_someText _ _)).seq
      (quiet_requiredField quiet_anyDatetime _ _)) value

theorem quiet_assistantMessagePayload (value : Value) :
    (py.assistantMessagePayload value).Quiet :=
  quiet_model (fun _ =>
    ((((quiet_requiredField quiet_someText _ _).map _).seq
      (quiet_requiredField quiet_someText _ _)).seq
      (quiet_requiredField quiet_someText _ _)).seq
      (quiet_requiredField (quiet_listOf quiet_anyText) _ _)) value

theorem quiet_controlDirective (value : Value) : (py.controlDirective value).Quiet :=
  quiet_model (fun _ =>
    (((quiet_requiredField quiet_someText _ _).map _).seq
      (quiet_requiredField (quiet_oneOf _) _ _)).seq
      (quiet_requiredField quiet_someText _ _)) value

theorem quiet_serviceErrorPayload (value : Value) : (py.serviceErrorPayload value).Quiet :=
  quiet_model (fun _ =>
    ((((quiet_requiredField quiet_someText _ _).map _).seq
      (quiet_requiredField (fun _ => quiet_ofRead _) _ _)).seq
      (quiet_optionalField (quiet_nullable quiet_anyText) _ _)).seq
      (quiet_requiredField quiet_someText _ _)) value

theorem quiet_capabilityResultEventPayload (value : Value) :
    (py.capabilityResultEventPayload value).Quiet :=
  quiet_model (fun _ =>
    (((((quiet_requiredField quiet_someText _ _).map _).seq
      (quiet_requiredField quiet_someText _ _)).seq
      (quiet_requiredField (quiet_oneOf capabilityOutcomes) _ _)).seq
      (quiet_optionalField (quiet_nullable fun _ => quiet_ofRead _) _ _)).seq
      (quiet_optionalField (quiet_nullable quiet_anyText) _ _)) value

theorem quiet_capabilityPendingDueEventPayload (value : Value) :
    (py.capabilityPendingDueEventPayload value).Quiet :=
  quiet_model (fun _ =>
    ((quiet_requiredField quiet_someText _ _).map _).seq
      (quiet_requiredField quiet_someText _ _)) value

theorem quiet_resumeDeferredMessagesEventPayload (value : Value) :
    (py.resumeDeferredMessagesEventPayload value).Quiet :=
  quiet_model (fun _ =>
    ((quiet_requiredField quiet_someText _ _).map _).seq
      (quiet_requiredField (quiet_nonEmptyListOf quiet_anyText) _ _)) value

theorem quiet_baseFields {Payload : Type} (eventType : String) (fields : Dict String Value) :
    (py.baseFields eventType fields : Validated PyError (Payload → Event Payload)).Quiet :=
  (((((((quiet_requiredField quiet_someText _ _).map _).seq
    (quiet_requiredField (quiet_oneOf _) _ _)).seq
    (quiet_requiredField quiet_someText _ _)).seq
    (quiet_requiredField quiet_someText _ _)).seq
    (quiet_requiredField quiet_someText _ _)).seq
    (quiet_requiredField quiet_positiveInteger _ _)).seq
    (quiet_requiredField quiet_anyDatetime _ _)

theorem quiet_event {Payload : Type} {payload : Value → Validated PyError Payload}
    (h : ∀ value, (payload value).Quiet) (eventType : String) (value : Value) :
    (py.event eventType payload value).Quiet :=
  quiet_model (fun fields =>
    (quiet_baseFields eventType fields).seq (quiet_requiredField h fields "payload")) value

end Quiet

end Pydantic

end AiCustomerService
