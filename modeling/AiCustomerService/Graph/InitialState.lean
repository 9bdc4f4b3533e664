import AiCustomerService.Graph.Nodes
import AiCustomerService.Services.Gateway

/-!
# The state that the graph starts from

`build_graph_state_from_event`: the input of a run, for an event of a conversation.
-/

namespace AiCustomerService

open Support

/-- The arguments of `build_graph_state_from_event`, with the money cases that were listed for
the conversation. -/
structure GraphInput where
  event : StandardEvent
  conversation : ConversationView
  recentMessages : List JsonObject
  previousThreadMemory : List JsonObject
  telegramMoneyCaseCandidates : List MoneyCase

/-- `_sanitize_attachment`. -/
def sanitizeAttachment (item : JsonObject) : Option JsonObject :=
  let url := ((getKey item "url").orElse (getKey item "content_url")).orElse
    (getKey item "thumbnail_url")
  let contentType := (getKey item "content_type").orElse (getKey item "mime_type")
  if !url.truthy then none
  else
    let attachment : List (String × Json) := [("url", url),
      ("name", (getKey item "name").orElse (getKey item "filename")),
      ("mime_type", (getKey item "mime_type").orElse contentType),
      ("content_type", contentType.orElse (getKey item "mime_type"))] ++
      ["image_analysis_status", "image_candidate_id", "image_analysis",
        "verified_receipt_attachment", "receipt_kind"].map fun key => (key, getKey item key)
    some ⟨attachment.filter fun entry => !entry.2.isNull⟩

/-- `_extract_attachments`. -/
def extractAttachments (payload : JsonObject) (eventType : String) : List JsonObject :=
  let listed := match getKey payload "attachments" with
    | .arr items => items.filterMap Json.dict?
    | _ => []
  let event := (getKey payload "event").dictOrEmpty
  let file := if eventType = "FILE_RECEIVED" then [(getKey event "file").dict?.getD event] else []
  (listed ++ file).filterMap sanitizeAttachment

/-- `_extract_image_analysis`. -/
def extractImageAnalysis (payload : JsonObject) (attachments : List JsonObject) :
    Option JsonObject :=
  let candidates := [getKey payload "image_analysis",
    getKey (getKey payload "event").dictOrEmpty "image_analysis"] ++
    attachments.map fun attachment => getKey attachment "image_analysis"
  ((candidates.filterMap Json.dict?).find? fun candidate => !candidate.isEmpty).map
    fun candidate =>
      let attachment := attachments.headD ∅
      let setDefault (result : JsonObject) (key : String) (value : Json) : JsonObject :=
        if (result.get? key).isSome then result else result.set key value
      setDefault (setDefault candidate "attachment_url" (getKey attachment "url")) "content_type"
        ((getKey attachment "content_type").orElse (getKey attachment "mime_type"))

namespace GraphInput

variable (rt : Runtime) (input : GraphInput)

/-- The slot memory of the conversation, with the origin of the event. -/
def slotMemory : JsonObject :=
  let payload := input.event.payloadJson
  let memory := input.conversation.slotMemory
  let memory := if (getKey payload "platform").truthy then
      memory.set "platform" (getKey payload "platform")
    else memory
  if (getKey payload "livechat_group_id").isNull then memory
  else memory.set "livechat_group_id" (getKey payload "livechat_group_id")

/-- The attachments of the event. -/
def attachments : List JsonObject :=
  extractAttachments input.event.payloadJson input.event.standardEventType

/-- The analysis of its image. -/
def imageAnalysis : Json :=
  ((extractImageAnalysis input.event.payloadJson input.attachments).map Json.obj).getD .null

/-- The event is an image that came alone. -/
def imageCandidateOnly : Bool :=
  input.event.standardEventType = "FILE_RECEIVED" &&
    payloadText rt input.event.payloadJson = "" &&
    !(Json.ofText? input.conversation.activeWorkflow).truthy && !input.imageAnalysis.isNull

/-- The values of `build_graph_state_from_event`, in its order. -/
def values : List (String × Json) :=
  let event := input.event
  let conversation := input.conversation
  [("tenant_id", .str (textOr (some conversation.tenantId)
      (textOr event.organizationId "default"))),
    ("channel_type", .str (textOr (some conversation.channelType) "livechat")),
    ("conversation_id", .str (textOr (some conversation.conversationId)
      ("livechat:" ++ textOr event.chatId "unknown"))),
    ("chat_id", .str (textOr event.chatId "unknown")),
    ("thread_id", Json.ofText? event.threadId), ("event_id", Json.ofText? event.eventId),
    ("payload_json", .obj event.payloadJson),
    ("raw_user_input", .str (payloadText rt event.payloadJson)),
    ("rewritten_question", .null), ("detected_language", .null), ("language_confidence", .null),
    ("language_source", .null), ("conversation_language", .null), ("reply_language", .null),
    ("supported_languages", .arr []), ("language_result", .null),
    ("event_type", .str event.standardEventType),
    ("occurred_at", Json.ofText? event.occurredAt),
    ("attachments", .arr (input.attachments.map .obj)), ("image_analysis", input.imageAnalysis),
    ("image_candidate_only", .bool (input.imageCandidateOnly rt)),
    ("pending_image_confirmation",
      if input.imageCandidateOnly rt then input.imageAnalysis else .null),
    ("verified_receipt_attachments", .arr []),
    ("status", .str conversation.status.text),
    ("active_workflow", Json.ofText? conversation.activeWorkflow),
    ("workflow_stage", Json.ofText? conversation.workflowStage),
    ("slot_memory", .obj input.slotMemory), ("llm_rewrite_result", .null),
    ("llm_router_result", .null), ("intent_result", .null), ("llm_intent_result", .null),
    ("route", .null), ("route_source", .str "deterministic"), ("route_locked", .bool false),
    ("rewrite_source", .str "deterministic"), ("rag_context", .null), ("rag_result", .null),
    ("node_reply_template", .null), ("node_facts", .null),
    ("recent_messages", .arr (input.recentMessages.map .obj)),
    ("previous_thread_memory", .arr (input.previousThreadMemory.map .obj)),
    ("reply_plan", .null), ("customer_reply", .null), ("response_text_fallback", .null),
    ("final_response_text", .null), ("final_reply_result", .null), ("response_text", .null),
    ("errors", .arr [])]

/-- `build_graph_state_from_event`. -/
def buildGraphState : NodeState where
  values := .ofList (input.values rt)
  commands := []
  telegramMoneyCaseCandidates := input.telegramMoneyCaseCandidates
  matchedTelegramMoneyCase := none

theorem get_activeWorkflow :
    (input.buildGraphState rt).get "active_workflow" =
      Json.ofText? input.conversation.activeWorkflow := by
  simp [buildGraphState, values, Dict.ofList, NodeState.get, getKey_set]

theorem get_workflowStage :
    (input.buildGraphState rt).get "workflow_stage" =
      Json.ofText? input.conversation.workflowStage := by
  simp [buildGraphState, values, Dict.ofList, NodeState.get, getKey_set]

theorem get_route : (input.buildGraphState rt).get "route" = .null := by
  simp [buildGraphState, values, Dict.ofList, NodeState.get, getKey_set]

/-- The same event at another time. -/
def withTime (occurredAt : Option String) : GraphInput :=
  { input with event := { input.event with occurredAt } }

/-- The time of the event is one of the values, and no other value depends on it. -/
theorem values_withTime (occurredAt : Option String) :
    (input.withTime occurredAt).values rt = (input.values rt).take 17 ++
      ("occurred_at", Json.ofText? occurredAt) :: (input.values rt).drop 18 := rfl

end GraphInput

/-! ## Examples -/

/-- Services for evaluating examples: no language model answers, and the texts are short. -/
def GraphServices.plain : GraphServices where
  toRouterSettings := .plain
  planSopReply := fun _ _ _ => "please send the receipt"
  renderCustomerReply := fun _ _ _ => "please send your account"
  detectLanguage := fun _ => ("es", .float 1 "1.0", "rules")
  detectButton := fun _ _ _ => none
  menuLanguage := fun _ => "es"
  rewrite := fun _ => .missingProvider
  minRewriteConfidence := 0
  languagePolicy := fun _ => ⟨"es", .float 1 "1.0", .str "rules", "es", "es", ["es"], none⟩
  persistLanguage := false
  route := fun _ => .missingProvider
  limits := ⟨0, true⟩
  slots := ⟨false, 0, fun _ => .missingMethod, fun _ => .missingMethod⟩
  ragContext := fun _ => .obj ∅
  ragAnswer := fun _ => .ofList [("answer", .str "open the menu")]
  compose := none
  finalReplyEnabled := false
  streamingEnabled := true

/-- A text in a conversation of the default tenant. -/
def GraphInput.plain (text : String) (activeWorkflow workflowStage : Option String)
    (slotMemory : JsonObject) : GraphInput where
  event :=
    { chatId := some "C1"
      threadId := some "T1"
      eventId := some "E1"
      authorId := none
      occurredAt := none
      payloadJson := .ofList [("text", .str text)]
      organizationId := none
      standardEventType := "MESSAGE_CREATED"
      ignored := false }
  conversation :=
    { id := 1
      conversationId := "livechat:C1:T1"
      tenantId := "default"
      channelType := "livechat"
      chatId := "C1"
      currentThreadId := some "T1"
      status := .waitingExternal
      activeWorkflow := activeWorkflow
      workflowStage := workflowStage
      slotMemory := slotMemory
      handoffState := none
      previousThreadState := none }
  recentMessages := []
  previousThreadMemory := []
  telegramMoneyCaseCandidates := []

end AiCustomerService
