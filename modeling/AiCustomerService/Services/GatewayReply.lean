import AiCustomerService.Graph.InitialState

/-!
# The replies of the gateway

What `GatewayService.process_event` does around the graph: the buttons that it answers itself, the
final reply and the handoff of a reply that failed, and the outbound rows.
-/

namespace AiCustomerService

open Support

/-- The services of the gateway, beside those of the graph: the texts of its menus and notices,
the rows of the knowledge base, and what the language models make of a reply. -/
structure ReplyServices extends GraphServices where
  detectMenuLabel : String → Json → Json → Option String
  fastMenuLanguage : JsonObject → String
  defaultReplyLanguage : String
  failureNotice : Json → String
  faqRows : NodeState → List OutboundMessage
  isMissingSlotReply : NodeState → Bool
  adaptChineseScript : String → Json → String
  safeFaqFallbackText : String → Json → Json → String
  composeReply : Option (NodeState → ComposedReply)
  preview : NodeState → Option ComposedReply
  streamReply : Option (NodeState → Option ComposedReply)

namespace ReplyServices

variable (services : ReplyServices)

/-! ## Buttons that the gateway answers -/

/-- `_extract_livechat_button_id`. -/
def extractLivechatButtonId (event : StandardEvent) (slotMemory : JsonObject) : Option String :=
  match extractButtonId services.rt event.payloadJson with
  | some buttonId => some buttonId
  | none =>
      let menu := (getKey slotMemory "livechat_menu").dictOrEmpty
      let text := normalizeText services.rt
        (getKey (getKey event.payloadJson "event").dictOrEmpty "text")
      if text = "" then none
      else services.detectMenuLabel text (getKey menu "context")
        (getKey slotMemory "last_reply_language")

/-- `_base_pre_graph_state`. -/
def basePreGraphState (input : GraphInput) (slotMemory : JsonObject) (language : String) :
    NodeState :=
  let payload := input.event.payloadJson
  let text := normalizeText services.rt ((getKey payload "text").orElse
    (getKey (getKey payload "event").dictOrEmpty "text"))
  { values := .ofList [
      ("conversation_id", .str input.conversation.conversationId),
      ("tenant_id", .str (textOr (some input.conversation.tenantId) "default")),
      ("channel_type", .str (textOr (some input.conversation.channelType) "livechat")),
      ("chat_id", Json.ofText? input.event.chatId),
      ("thread_id", Json.ofText? input.event.threadId),
      ("event_type", .str input.event.standardEventType), ("payload_json", .obj payload),
      ("raw_user_input", .str text), ("rewritten_question", .str text), ("attachments", .arr []),
      ("recent_messages", .arr []),
      ("active_workflow", Json.ofText? input.conversation.activeWorkflow),
      ("workflow_stage", Json.ofText? input.conversation.workflowStage),
      ("slot_memory", .obj { input with conversation :=
        { input.conversation with slotMemory } }.slotMemory),
      ("detected_language", .str language), ("conversation_language", .str language),
      ("reply_language", .str language),
      ("language_result", .obj (.ofList [("detected_language", .str language),
        ("conversation_language", .str language), ("reply_language", .str language),
        ("language_source", .str "livechat_fast_path")])),
      ("rewrite_result", .obj (.ofList [("rewritten_question", .str text),
        ("language", .str language), ("detected_language", .str language),
        ("language_confidence", .float 1 "1.0"), ("language_source", .str "livechat_fast_path"),
        ("mentioned_entities", .obj ∅), ("notes", .arr [])])),
      ("rewrite_source", .str "livechat_fast_path"),
      ("route_locked", .bool true), ("final_reply_result", .null)]
    commands := []
    telegramMoneyCaseCandidates := []
    matchedTelegramMoneyCase := none }

/-- The state that shows a menu. -/
def menuState (input : GraphInput) (menu : JsonObject) (menuKey source reason : String) :
    NodeState :=
  let memory := input.conversation.slotMemory.set "livechat_menu" (.obj menu)
  let language := services.fastMenuLanguage memory
  let base := services.basePreGraphState input
    (memory.set "last_reply_language" (.str language)) language
  (((base.set "route" (.str "final_reply")).set "route_source" (.str source)).set "intent_result"
    (.obj (.ofList [("intent", .str "menu_navigation"), ("route", .str "final_reply"),
      ("confidence", .float 1 "1.0"), ("reason", .str reason), ("menu_key", .str menuKey)]))
    ).withCommands [SopSettings.command .livechatSendButtons (.ofList [("menu_key", .str menuKey),
      ("language", .str language)])]

/-- `_mark_intro_sent`. -/
def markIntroSent (rt : Runtime) (menu : JsonObject) (threadId : Option String) : JsonObject :=
  let known := match getKey menu "intro_sent_threads" with
    | .arr items => (items.map (Json.pyStr rt)).filter fun thread => strip thread ≠ ""
    | _ => []
  let threads := (known ++ threadId.toList.filter fun thread => thread ≠ "").eraseDups
  ((menu.set "intro_sent" (.bool true)).set "intro_thread_id"
    (if hasText threadId then Json.ofText? threadId else getKey menu "intro_thread_id")).set
    "intro_sent_threads" (.arr ((threads.mergeSort fun a b => a ≤ b).map .str))

/-- `_build_intro_menu_state`. -/
def buildIntroMenuState (input : GraphInput) : NodeState :=
  let menu := (getKey input.conversation.slotMemory "livechat_menu").dictOrEmpty
  services.menuState input
    ((markIntroSent services.rt menu input.event.threadId).set "context" (.str "main")) "main"
    "livechat_intro" "LiveChat thread started; send intro menu."

/-- `_build_nav_button_state`. -/
def buildNavButtonState (input : GraphInput) (buttonId : String) : NodeState :=
  let menu := (getKey input.conversation.slotMemory "livechat_menu").dictOrEmpty
  services.menuState input
    (nextMenuMemory services.rt menu ((getKey menu "context").orElse (.str "main")) buttonId)
    ((navigationMenuKey services.rt buttonId menu).getD "main") "livechat_button"
    ("LiveChat menu navigation button " ++ buttonId ++ ".")

/-- The state of a handoff that the gateway requests itself, with its acknowledgement. -/
def acknowledgedHandoff (s : NodeState) (reason text : String) : NodeState :=
  ((SopSettings.atStage ((s.set "status" (.str "HANDOFF_REQUESTED")).set "route"
    (.str "human_handoff")) "human_handoff" "handoff_requested").withReply text).withCommands
    [SopSettings.command .livechatSendText (.ofList [("text", .str text),
      ("handoff_ack", .bool true)]),
     SopSettings.command .humanHandoffRequested (.ofList [("reason", .str reason)])]

/-- `_build_fast_handoff_state`. -/
def buildFastHandoffState (input : GraphInput) (buttonId : String) : NodeState :=
  let memory := input.conversation.slotMemory
  let language := services.fastMenuLanguage memory
  ((acknowledgedHandoff (services.basePreGraphState input memory language)
    "explicit_human_request" "我会为你转接真人客服继续协助。").set "route_source"
    (.str "livechat_button")).set "intent_result" (.obj (.ofList [
      ("intent", .str "explicit_human_request"), ("route", .str "human_handoff"),
      ("confidence", .float 1 "1.0"), ("reason", .str ("LiveChat button " ++ buttonId ++ "."))]))

/-- `_business_button_menu_memory`. -/
def businessButtonMenuMemory (rt : Runtime) (menu : JsonObject) (buttonId : String) : JsonObject :=
  let current := textOr (some ((getKey menu "context").textOrEmpty rt)) "main"
  let context := match buttonId with
    | "main_deposito" | "deposit_howto" => "deposit"
    | "main_retiro" | "withdrawal_blocked" | "withdrawal_howto" => "withdrawal"
    | "main_pending_reply" => "main"
    | "forgot_password" => "other"
    | _ => current
  let kept : JsonObject := ⟨menu.entries.filter fun entry =>
    ["intro_sent", "intro_thread_id", "intro_sent_threads"].contains entry.1⟩
  ((kept.set "context" (.str context)).set "previous_context" (.str current)).set "intro_sent"
    ((menu.get? "intro_sent").getD (.bool true))

/-- `_with_fast_path_text_command`. -/
def withFastPathTextCommand (s : NodeState) : NodeState :=
  let text := normalizeText services.rt
    ((s.get "response_text").orElse (s.get "response_text_fallback"))
  if s.commands.any (fun command =>
      [CommandType.livechatSendText, .livechatSendImage, .livechatSendButtons].contains
        command.type) || text = "" then s
  else s.withCommands (s.commands ++ [SopSettings.command .livechatSendText
    (.ofList [("text", .str text), ("final_reply_target", .bool true)])])

/-- `_build_business_button_faq_state`. -/
def buildBusinessButtonFaqState (s : NodeState) : NodeState :=
  let s := s.set "rag_context" (services.ragContext s)
  let answer := services.ragAnswer s
  let next :=
    if (getKey s.intentResult "intent").eqText "forgot_password_howto" then
      SopSettings.atStage s "forgot_password_howto" "awaiting_password_reset_result"
    else if (s.get "active_workflow").truthy then
      (s.set "active_workflow" .null).set "workflow_stage" .null
    else s
  (((next.set "rag_result" (.obj answer)).set "response_text" (getKey answer "answer")).set
    "response_text_fallback" (getKey answer "answer")).withCommands []

/-- `_business_button_intent_result`. -/
def businessButtonIntentResult (conversation : ConversationView) (buttonId : String) :
    String × String × Option String → JsonObject
  | (intent, route, query) =>
      let isRepeat := route = "sop" ∧ conversation.activeWorkflow = some intent ∧
        conversation.workflowStage = some "collecting_slots"
      let result : JsonObject := .ofList [("intent", .str intent), ("route", .str route),
        ("confidence", .float 1 "1.0"),
        ("reason", .str (if isRepeat then
            "Repeated LiveChat button " ++ buttonId ++ " for active SOP."
          else "LiveChat button " ++ buttonId ++ " handled by gateway fast path.")),
        ("sop_name", if route = "sop" then .str intent else .null),
        ("faq_query", Json.ofText? query)]
      let result := if route = "faq" then result.set "faq_trigger_source" (.str "livechat_button")
        else result
      if isRepeat then
        (result.set "workflow_relation" (.str "current_workflow_supplement")).set
          "preserve_active_workflow" (.bool true)
      else result

/-- `_build_business_button_state`. -/
def buildBusinessButtonState (input : GraphInput) (buttonId : String)
    (target : String × String × Option String) : Except PyError NodeState :=
  let route := target.2.1
  if route = "human_handoff" then .ok (services.buildFastHandoffState input buttonId)
  else
    let memory := input.conversation.slotMemory.set "livechat_menu" (.obj
      (businessButtonMenuMemory services.rt
        (getKey input.conversation.slotMemory "livechat_menu").dictOrEmpty buttonId))
    let language := services.fastMenuLanguage memory
    let base := services.basePreGraphState input
      (memory.set "last_reply_language" (.str language)) language
    let state := ((base.set "route" (.str route)).set "route_source"
      (.str "livechat_button_fast_path")).set "intent_result"
      (.obj (businessButtonIntentResult input.conversation buttonId target))
    if route = "sop" then services.withFastPathTextCommand <$> services.runSop state
    else if route = "faq" then .ok (services.buildBusinessButtonFaqState state)
    else .ok state

/-- `_build_pre_graph_state`. -/
def buildPreGraphState (input : GraphInput) : Except PyError (Option NodeState) :=
  if ["CHAT_STARTED", "THREAD_STARTED"].contains input.event.standardEventType then
    .ok (some (services.buildIntroMenuState input))
  else if input.event.standardEventType ≠ "MESSAGE_CREATED" then .ok none
  else
    match services.extractLivechatButtonId input.event input.conversation.slotMemory with
    | none => .ok none
    | some buttonId =>
        if (menuByNavButton buttonId).isSome ∨ buttonId = "route_main" ∨
            buttonId = "route_previous" then
          .ok (some (services.buildNavButtonState input buttonId))
        else
          match businessButtonRoute buttonId with
          | some target => some <$> services.buildBusinessButtonState input buttonId target
          | none => .ok none

/-! ## The final reply -/

/-- `terminal_ai_failure_reason(result) is not None`. -/
def isTerminalFailure (rt : Runtime) (result : JsonObject) : Bool :=
  (getKey result "status").eqText "fallback" &&
    ["timeout", "exception", "provider_failure"].contains
      ((getKey result "fallback_reason").textOrEmpty rt)

/-- `_should_handoff_for_final_reply_failure`. -/
def shouldHandoffForFailure (s : NodeState) : Bool :=
  (s.get "channel_type").eqText "livechat" &&
    isTerminalFailure services.rt (s.get "final_reply_result").dictOrEmpty

/-- `graph_state.get("reply_language") or self._default_reply_language()`. -/
def replyLanguage (s : NodeState) : Json :=
  (s.get "reply_language").orElse (.str services.defaultReplyLanguage)

/-- `_build_ai_service_failure_handoff_state`. -/
def buildAiServiceFailureHandoffState (s : NodeState) : NodeState :=
  let text := services.failureNotice (services.replyLanguage s)
  let result := (s.get "final_reply_result").dictOrEmpty
  let memory := ((s.slotMemory.set "ai_service_failure_handoff_at"
    (((s.get "occurred_at").orElse (s.get "created_at")).orElse (.str "now"))).set
    "ai_service_failure_reason" ((getKey result "fallback_reason").orElse
      (.str "final_reply_failure"))).set "ai_service_failure_source" (.str "final_reply")
  let intent := (((s.intentResult.set "route" (.str "human_handoff")).set "intent"
    (.str "ai_service_failure")).set "requires_human" (.bool true)).set "reason"
    (.str "Final reply LLM failed; request human handoff.")
  (((acknowledgedHandoff (s.withSlotMemory memory) "ai_service_failure" text).set "route_source"
    (.str "ai_service_failure")).set "final_response_text" (.str text)).set "intent_result"
    (.obj intent)

/-- `_apply_final_reply_failure_handoff`. -/
def applyFinalReplyFailureHandoff (s : NodeState) : NodeState :=
  if services.shouldHandoffForFailure s then services.buildAiServiceFailureHandoffState s else s

/-- `_text_claims_backend_query_started`. -/
def claimsBackendQuery (rt : Runtime) (text : String) : Bool :=
  let lower := rt.lower (strip text)
  containsAny lower ["查询", "核实", "核查", "正在查", "checking", "query", "consultando",
      "verificando"] &&
    containsAny lower ["已收到", "收到", "provided", "recibido", "received"] &&
    containsAny lower ["账号", "手机号", "account", "phone", "提款", "提现", "withdraw", "rollover",
      "流水"]

/-- The keys that a composed reply sets. -/
def withComposed (s : NodeState) (reply : ComposedReply) : NodeState :=
  ((s.set "response_text_fallback" reply.fallbackText).set "final_response_text"
    reply.finalText).set "final_reply_result" reply.result

/-- `_guard_final_reply_state`. -/
def guardFinalReplyState (s : NodeState) (reply : ComposedReply) : NodeState :=
  let text := normalizeText services.rt reply.finalText
  if !services.isMissingSlotReply s || text = "" || !claimsBackendQuery services.rt text then
    withComposed s reply
  else if (getKey reply.result.dictOrEmpty "status").eqText "fallback" then
    withComposed s ⟨reply.fallbackText.orElse (s.get "response_text_fallback"), .null, reply.result⟩
  else (s.set "final_response_text" .null).set "final_reply_result"
    (RouterSettings.routerResult "fallback" (some "sop_missing_slots_final_reply_guard"))

/-- `_run_final_reply`. -/
def runFinalReply (s : NodeState) : NodeState :=
  if !(s.get "response_text").truthy then s
  else
    match services.composeReply with
    | some compose => services.applyFinalReplyFailureHandoff
        (services.guardFinalReplyState s (compose s))
    | none =>
        if !services.finalReplyEnabled then s
        else withComposed s ⟨(s.get "response_text_fallback").orElse (s.get "response_text"),
          s.get "response_text", RouterSettings.routerResult "fallback" (some "missing_service")⟩

/-- `_maybe_stream_final_reply_preview`. -/
def withPreview (s : NodeState) : NodeState :=
  if services.streamingEnabled then s
  else
    match services.preview s with
    | some reply => withComposed s reply
    | none => s

/-! ## Outbound rows -/

/-- `_has_handoff_ack_command`. -/
def hasHandoffAckCommand (s : NodeState) : Bool :=
  s.commands.any (GraphServices.isTextWith "handoff_ack")

/-- `_command_with_final_text`. -/
def commandWithFinalText (s : NodeState) (command : WorkflowCommand) : WorkflowCommand :=
  let text := s.get "final_response_text"
  let hasTarget := s.commands.any (GraphServices.isTextWith "final_reply_target")
  if services.isMissingSlotReply s && claimsBackendQuery services.rt (text.textOrEmpty services.rt)
  then command
  else if !text.truthy || decide (command.type ≠ .livechatSendText) then command
  else if hasTarget && !(getKey command.payload "final_reply_target").isTrue then command
  else if (getKey command.payload "final_reply_exempt").isTrue then command
  else { command with payload := command.payload.set "text" text }

/-- The types of the commands that become outbound messages. -/
def outboundTypes : List CommandType :=
  [.livechatSendText, .livechatSendImage, .livechatSendButtons]

/-- The text of a row, without the blanks around it. -/
def rowText (row : OutboundMessage) : String :=
  normalizeText services.rt (getKey row.payloadJson "text")

/-- A row with a text. -/
def isTextRow (row : OutboundMessage) : Bool :=
  decide (row.messageType = "text") && decide (services.rowText row ≠ "")

/-- `{**row, "payload_json": {**payload, "text": text}}`. -/
def withRowText (row : OutboundMessage) (text : String) : OutboundMessage :=
  { row with payloadJson := row.payloadJson.set "text" (.str text) }

/-- `value or fallback`, for texts. -/
def adaptedOr (text : String) (language : Json) (fallback : String) : String :=
  textOr (some (strip (services.adaptChineseScript text language))) fallback

/-- `_finalize_faq_text_block`. -/
def finalizeFaqTextBlock (s : NodeState) (text : String) : String :=
  let language := services.replyLanguage s
  let fallback := strip (services.adaptChineseScript text language)
  match services.composeReply with
  | none => services.safeFaqFallbackText fallback language .null
  | some compose =>
      if !services.finalReplyEnabled then
        services.safeFaqFallbackText fallback language .null
      else
        let reply := compose ((((s.set "response_text" (.str fallback)).set
          "response_text_fallback" (.str fallback)).set "final_response_text" .null).set
          "final_reply_result" .null)
        if (getKey reply.result.dictOrEmpty "status").eqText "fallback" then
          services.safeFaqFallbackText fallback language reply.result
        else
          services.adaptedOr (textOr (some (normalizeText services.rt reply.finalText)) fallback)
            language fallback

/-- `_finalize_faq_text_rows`. -/
def finalizeFaqTextRows (s : NodeState) (rows : List OutboundMessage) : List OutboundMessage :=
  let language := services.replyLanguage s
  let result := s.get "final_reply_result"
  let composed := normalizeText services.rt (s.get "final_response_text")
  let text := if (getKey result.dictOrEmpty "status").eqText "fallback" then
      services.safeFaqFallbackText composed language result
    else composed
  if text ≠ "" ∧ (rows.filter services.isTextRow).length = 1 then
    rows.map fun row =>
      if services.isTextRow row then withRowText row (services.adaptedOr text language text)
      else row
  else
    rows.map fun row =>
      if services.isTextRow row then
        withRowText row (services.finalizeFaqTextBlock s (services.rowText row))
      else row

/-- The rows of the commands of a state. -/
def commandRows (input : GraphInput) (inboundEventId : Nat) (s : NodeState) :
    Except PyError (List OutboundMessage) :=
  (s.commands.filter fun command => outboundTypes.contains command.type).mapM fun command =>
    buildCommandOutbox services.rt input.event.chatId input.event.threadId
      input.conversation.conversationId inboundEventId (services.commandWithFinalText s command)

/-- `_build_outbound_messages`. -/
def buildOutboundMessages (input : GraphInput) (inboundEventId : Nat) (s : NodeState) :
    Except PyError (List OutboundMessage) :=
  if (s.get "route").eqText "human_handoff" && !hasHandoffAckCommand s then .ok []
  else
    let faq := if (s.get "route").eqText "faq" && (s.get "rag_context").truthy then
        services.faqRows s
      else []
    if faq.isEmpty then services.commandRows input inboundEventId s
    else .ok (services.finalizeFaqTextRows s faq)

/-- `_maybe_stream_official_livechat_text`: the single text of the rows may be streamed. -/
def maybeStreamOfficialLivechatText (s : NodeState) (rows : List OutboundMessage) :
    NodeState × List OutboundMessage :=
  if !services.streamingEnabled || !(s.get "channel_type").eqText "livechat" then (s, rows)
  else if !rows.isEmpty then (s, rows)
  else
    match services.streamReply, rows.filter services.isTextRow with
    | some stream, [row] =>
        let text := services.rowText row
        match stream (((s.set "response_text" (.str text)).set "response_text_fallback"
            ((s.get "response_text_fallback").orElse (.str text))).set "final_response_text"
            .null) with
        | none => (s, rows)
        | some reply =>
            let streamed := normalizeText services.rt reply.finalText
            if streamed = "" then (s, rows)
            else (withComposed s reply, rows.map fun row =>
              if services.isTextRow row then withRowText row streamed else row)
    | _, _ => (s, rows)

/-- The graph state of an event: that of a button which the gateway answers, or that of the
graph. -/
def graphState (input : GraphInput) : Except PyError NodeState := do
  match ← services.buildPreGraphState input with
  | some state => pure (services.applyFinalReplyFailureHandoff (services.runFinalReply state))
  | none => do
      let result ← services.runGraph (input.buildGraphState services.rt)
      pure (services.applyFinalReplyFailureHandoff (services.withPreview result))

/-- What `process_event` commits: the graph state and the outbound rows. -/
def processed (input : GraphInput) (inboundEventId : Nat) :
    Except PyError (NodeState × List OutboundMessage) := do
  let state ← services.graphState input
  let rows ← services.buildOutboundMessages input inboundEventId state
  pure (services.maybeStreamOfficialLivechatText state rows)

/-! ## Examples -/

/-- Services for evaluating examples: no language model answers. -/
def plain : ReplyServices where
  toGraphServices := .plain
  detectMenuLabel := fun _ _ _ => none
  fastMenuLanguage := fun _ => "es"
  defaultReplyLanguage := "es"
  failureNotice := fun _ => "a colleague will help you"
  faqRows := fun _ => []
  isMissingSlotReply := fun _ => false
  adaptChineseScript := fun text _ => text
  safeFaqFallbackText := fun text _ _ => text
  composeReply := none
  preview := fun _ => none
  streamReply := none

end ReplyServices

end AiCustomerService
