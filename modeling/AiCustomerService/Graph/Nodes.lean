import AiCustomerService.Graph.Router
import AiCustomerService.Graph.SopNode

/-!
# The workflow graph

The other nodes of `app/graph/nodes.py`, the graph of `app/graph/builder.py`, and its runs.
Between two nodes the graph keeps the keys that the schema declares.
-/

namespace AiCustomerService

open Support

/-! ## Services -/

/-- What `resolve_language_policy` decides. -/
structure LanguagePolicy where
  detectedLanguage : String
  languageConfidence : Json
  languageSource : Json
  conversationLanguage : String
  replyLanguage : String
  supportedLanguages : List String
  userLanguage : Option String

/-- The part of the state that `FinalReplyService.compose` sets. -/
structure ComposedReply where
  fallbackText : Json
  finalText : Json
  result : Json

/-- The services and settings of the graph.  The texts of the knowledge base, the detection of a
language and of a button, and what the language models answer come from outside. -/
structure GraphServices extends SopSettings where
  detectLanguage : String → String × Json × String
  detectButton : String → Json → Json → Option String
  menuLanguage : NodeState → String
  rewrite : NodeState → RouterSettings.RouterAnswer
  minRewriteConfidence : ℚ
  languagePolicy : NodeState → LanguagePolicy
  persistLanguage : Bool
  route : NodeState → RouterSettings.RouterAnswer
  limits : RouterSettings.RouterLimits
  slots : SlotService
  ragContext : NodeState → Json
  ragAnswer : NodeState → JsonObject
  compose : Option (NodeState → ComposedReply)
  finalReplyEnabled : Bool
  streamingEnabled : Bool

/-! ## Buttons -/

/-- `BUSINESS_BUTTON_ROUTES`: the intent, the route and the query of a button. -/
def businessButtonRoute : String → Option (String × String × Option String)
  | "main_deposito" => some ("deposit_missing", "sop", none)
  | "main_retiro" => some ("withdrawal_missing", "sop", none)
  | "withdrawal_blocked" => some ("withdrawal_blocked_or_rollover", "sop", none)
  | "main_pending_reply" => some ("pending_reply_lookup", "sop", none)
  | "deposit_howto" => some ("deposit_howto", "faq", some "how to deposit")
  | "withdrawal_howto" => some ("withdrawal_howto", "faq", some "how to withdraw")
  | "forgot_password" => some ("forgot_password_howto", "faq", some "forgot password")
  | "global_human" => some ("explicit_human_request", "human_handoff", none)
  | _ => none

/-- `MENU_BY_NAV_BUTTON`. -/
def menuByNavButton : String → Option String
  | "deposit_menu" => some "deposit"
  | "withdrawal_menu" => some "withdrawal"
  | "other_menu" => some "other"
  | _ => none

/-- `_navigation_menu_key`. -/
def navigationMenuKey (rt : Runtime) (buttonId : String) (menu : JsonObject) : Option String :=
  match menuByNavButton buttonId with
  | some key => some key
  | none =>
      if buttonId = "route_main" then some "main"
      else if buttonId = "route_previous" then
        some (textOr (some ((getKey menu "previous_context").textOrEmpty rt)) "main")
      else none

/-- `_next_menu_memory`. -/
def nextMenuMemory (rt : Runtime) (menu : JsonObject) (context : Json) (buttonId : String) :
    JsonObject :=
  let introSent := (menu.get? "intro_sent").getD (.bool true)
  match navigationMenuKey rt buttonId menu with
  | none => (menu.set "context" context).set "intro_sent" introSent
  | some key =>
      let kept : JsonObject := ⟨menu.entries.filter fun entry =>
        ["intro_sent", "intro_thread_id", "intro_sent_threads"].contains entry.1⟩
      ((kept.set "context" (.str key)).set "previous_context"
        (if buttonId = "route_previous" then .str "main" else context)).set "intro_sent" introSent

/-- `_extract_text`. -/
def payloadText (rt : Runtime) (payload : JsonObject) : String :=
  normalizeText rt (((getKey (getKey payload "event").dictOrEmpty "text").orElse
    (getKey payload "text")).orElse (getKey payload "message"))

/-- `_extract_button_id`. -/
def extractButtonId (rt : Runtime) (payload : JsonObject) : Option String :=
  let event := (getKey payload "event").dictOrEmpty
  ([getKey payload "button_id", getKey payload "postback_id", getKey event "button_id",
    getKey event "postback_id", getKey (getKey event "postback").dictOrEmpty "id"].map
      (normalizeText rt)).find? fun value => value ≠ ""

namespace GraphServices

variable (services : GraphServices)

/-- The button that a message stands for. -/
def pressedButton (s : NodeState) : Option String :=
  let payload := (s.get "payload_json").dictOrEmpty
  match extractButtonId services.rt payload with
  | some buttonId => some buttonId
  | none =>
      let context := getKey (getKey s.slotMemory "livechat_menu").dictOrEmpty "context"
      if context.truthy then
        services.detectButton
          (normalizeText services.rt ((s.get "raw_user_input").orElse
            (.str (payloadText services.rt payload)))) context
          ((s.get "reply_language").orElse (getKey s.slotMemory "last_reply_language"))
      else none

/-- The state of a business button. -/
def businessButtonState (s base : NodeState) (buttonId : String) :
    String × String × Option String → NodeState
  | (intent, route, query) =>
      let isRepeat := route = "sop" ∧ (s.get "active_workflow").eqText intent = true ∧
        (s.get "workflow_stage").eqText "collecting_slots" = true
      let result : JsonObject := .ofList [("intent", .str intent), ("route", .str route),
        ("confidence", .float 1 "1.0"),
        ("reason", .str (if isRepeat then
            "Repeated LiveChat button " ++ buttonId ++ " for active SOP."
          else "LiveChat button " ++ buttonId ++ ".")),
        ("sop_name", if route = "sop" then .str intent else .null),
        ("faq_query", Json.ofText? query)]
      let result := if route = "faq" then result.set "faq_trigger_source" (.str "livechat_button")
        else result
      let result := if isRepeat then
          (result.set "workflow_relation" (.str "current_workflow_supplement")).set
            "preserve_active_workflow" (.bool true)
        else result
      ((base.set "route" (.str route)).set "route_source" (.str "livechat_button")).set
        "intent_result" (.obj result)

/-- `_apply_menu_button_route`. -/
def applyMenuButtonRoute (s : NodeState) : Option NodeState :=
  (services.pressedButton s).bind fun buttonId =>
    let menu := (getKey s.slotMemory "livechat_menu").dictOrEmpty
    let context := (getKey menu "context").orElse (.str "main")
    let rawText := normalizeText services.rt ((s.get "raw_user_input").orElse
      (.str (payloadText services.rt (s.get "payload_json").dictOrEmpty)))
    let base := ((((s.withSlotMemory (s.slotMemory.set "livechat_menu"
      (.obj (nextMenuMemory services.rt menu context buttonId)))).set "rewritten_question"
      (.str rawText)).set "rewrite_result" (.obj (.ofList [("rewritten_question", .str rawText),
        ("language", .str "unknown"), ("detected_language", .str "unknown"),
        ("language_confidence", .float 0 "0.0"), ("language_source", .str "livechat_button"),
        ("mentioned_entities", .obj ∅),
        ("notes", .arr [.str ("livechat_button_id:" ++ buttonId)])]))).set "rewrite_source"
      (.str "livechat_button")).set "route_locked" (.bool true)
    match navigationMenuKey services.rt buttonId menu with
    | some key =>
        some ((((base.set "route" (.str "final_reply")).set "route_source"
          (.str "livechat_button")).set "intent_result" (.obj (.ofList [
            ("intent", .str "menu_navigation"), ("route", .str "final_reply"),
            ("confidence", .float 1 "1.0"),
            ("reason", .str ("LiveChat menu navigation button " ++ buttonId ++ ".")),
            ("menu_key", .str key)]))).withCommands
          [SopSettings.command .livechatSendButtons (.ofList [("menu_key", .str key),
            ("language", .str (services.menuLanguage base))])])
    | none => (businessButtonRoute buttonId).map (businessButtonState s base buttonId)

/-! ## Rewriting and languages -/

/-- The question was rewritten before. -/
def isRewritten (s : NodeState) : Bool :=
  (s.get "rewritten_question").truthy && ((s.get "route_locked").truthy ||
    RouterSettings.llmAuthoritativeSources.any (s.get "rewrite_source").eqText)

/-- The deterministic rewriting of `rewrite_question_node`. -/
def deterministicRewrite (s : NodeState) : NodeState :=
  let raw := normalizeText services.rt (s.get "raw_user_input")
  let (language, confidence, source) := services.detectLanguage raw
  let entities : JsonObject := .ofList [
    ("account_or_phone", Json.ofText? ((extractIdentity services.rt services.tables raw).map
      ExtractedIdentity.value)),
    ("transaction_ref", .null), ("amount", Json.ofText? (extractAmount services.tables raw)),
    ("date", .null)]
  (s.set "rewritten_question" (.str raw)).set "rewrite_result" (.obj (.ofList [
    ("rewritten_question", .str raw), ("language", .str language),
    ("detected_language", .str language), ("language_confidence", confidence),
    ("language_source", .str source), ("mentioned_entities", .obj entities),
    ("notes", .arr [])]))

/-- `rewrite_question_node`. -/
def rewriteQuestionNode (s : NodeState) : NodeState :=
  match services.applyMenuButtonRoute s with
  | some routed => routed
  | none => if isRewritten s then s else services.deterministicRewrite s

/-- `_deterministic_rewrite_fallback`. -/
def rewriteFallback (s : NodeState) (reason : String) : NodeState :=
  ((services.rewriteQuestionNode s).set "llm_rewrite_result"
    (RouterSettings.routerResult "fallback" (some reason))).set "rewrite_source"
    (.str "deterministic_fallback")

/-- The state after an answer of the language model. -/
def acceptedRewrite (s : NodeState) (result : JsonObject) : Except PyError NodeState := do
  let confidence ← pyFloat services.rt (((getKey result "confidence").orElse
    (getKey result "language_confidence")).orElse (.int 0))
  if confidence < services.minRewriteConfidence then
    pure (services.rewriteFallback s "low_confidence")
  else do
    let rewritten := normalizeText services.rt ((getKey result "rewritten_question").orElse
      (s.get "raw_user_input"))
    let language := ((getKey result "detected_language").orElse (getKey result "language")).orElse
      (.str "unknown")
    let languageConfidence ← pyFloat services.rt
      ((getKey result "language_confidence").orElse (.int 0))
    let number (value : ℚ) : Json := .float value (services.rt.reprFloat value)
    pure ((((s.set "rewritten_question" (.str rewritten)).set "rewrite_result" (.obj (.ofList [
      ("rewritten_question", .str rewritten),
      ("normalized_query", .str (normalizeText services.rt
        ((getKey result "normalized_query").orElse (.str rewritten)))),
      ("detected_language", language), ("language", language),
      ("language_confidence", number languageConfidence),
      ("language_source", .str "llm_rewrite"), ("confidence", number confidence),
      ("reason", getKey result "reason"),
      ("source", .str "llm_rewrite_authoritative")]))).set "llm_rewrite_result"
      (.obj (result.set "status" ((getKey result "status").orElse (.str "accepted"))))).set
      "rewrite_source" (.str "llm_rewrite_authoritative"))

/-- The node of `make_rewrite_question_node`. -/
def llmRewriteQuestionNode (s : NodeState) : NodeState :=
  match services.applyMenuButtonRoute s with
  | some routed => routed
  | none =>
      if isRewritten s then s
      else
        match services.rewrite s with
        | .missingProvider => services.rewriteQuestionNode s
        | .raised => services.rewriteFallback s "exception"
        | .answered result =>
            (services.acceptedRewrite s result).toOption.getD
              (services.rewriteFallback s "exception")

/-- The slot memory of `language_policy_node`. -/
def languageMemory (slotMemory : JsonObject) (policy : LanguagePolicy) : JsonObject :=
  if services.persistLanguage then
    (setText slotMemory "last_user_language" policy.userLanguage).set "last_reply_language"
      (.str policy.replyLanguage)
  else slotMemory

/-- `language_policy_node`. -/
def languagePolicyNode (s : NodeState) : NodeState :=
  let policy := services.languagePolicy s
  ((((((s.withSlotMemory (services.languageMemory s.slotMemory policy)).set "detected_language"
    (.str policy.detectedLanguage)).set "language_confidence" policy.languageConfidence).set
    "language_source" policy.languageSource).set "conversation_language"
    (.str policy.conversationLanguage)).set "reply_language" (.str policy.replyLanguage)).set
    "supported_languages" (.arr (policy.supportedLanguages.map .str))

/-! ## Answers -/

/-- `_faq_intent_from_state`. -/
def faqIntent (s : NodeState) : Json :=
  (getKey s.intentResult "faq_intent").orElse (getKey s.intentResult "intent")

/-- `rag_node`, behind the retrieval of `make_rag_node`. -/
def ragNode (s : NodeState) : NodeState :=
  let s := if (s.get "rag_context").isNull then s.set "rag_context" (services.ragContext s) else s
  let answer := services.ragAnswer s
  let next :=
    if (faqIntent s).eqText "forgot_password_howto" then
      SopSettings.atStage s "forgot_password_howto" "awaiting_password_reset_result"
    else if (s.get "active_workflow").truthy then
      (s.set "active_workflow" .null).set "workflow_stage" .null
    else s
  (((next.set "rag_result" (.obj answer)).set "response_text" (getKey answer "answer")).set
    "response_text_fallback" (getKey answer "answer")).withCommands []

/-- The text of `human_handoff_node`. -/
def handoffText (s : NodeState) : String :=
  if (getKey s.intentResult "intent").eqText "forgot_password_followup_failed" then
    if (s.get "attachments").truthy then
      "收到，我会为你转接真人客服。客服可以查看当前聊天中的错误截图和操作记录，请稍候。"
    else "收到，我会为你转接真人客服。客服可以查看当前聊天记录，请稍候。"
  else "我会为你转接真人客服继续协助。"

/-- `human_handoff_node`. -/
def humanHandoffNode (s : NodeState) : NodeState :=
  let reason := (getKey s.intentResult "intent").orElse (.str "explicit_human_request")
  ((SopSettings.atStage (s.set "status" (.str "HANDOFF_REQUESTED")) "human_handoff"
    "handoff_requested").withReply (handoffText s)).withCommands
    [SopSettings.command .livechatSendText (.ofList [("text", .str (handoffText s)),
      ("handoff_ack", .bool true)]),
     SopSettings.command .humanHandoffRequested (.ofList [("reason", reason)])]

/-- `emotion_care_node`. -/
def emotionCareNode (s : NodeState) : NodeState :=
  s.withReply
    "我理解你现在很着急。我会先尽力说明处理方式；如果你愿意，也可以直接告诉我需要转接真人客服。"

/-- The node of `make_final_reply_node`. -/
def finalReplyNode (s : NodeState) : NodeState :=
  let fallback := (s.get "response_text_fallback").orElse (s.get "response_text")
  if services.streamingEnabled && (s.get "channel_type").eqText "livechat" then
    ((s.set "response_text_fallback" fallback).set "final_response_text" .null).set
      "final_reply_result"
      (.obj (.ofList [("status", .str "skipped"), ("reason", .str "streaming_enabled")]))
  else
    match services.compose with
    | some compose =>
        let reply := compose s
        ((s.set "response_text_fallback" reply.fallbackText).set "final_response_text"
          reply.finalText).set "final_reply_result" reply.result
    | none =>
        if services.finalReplyEnabled && (s.get "response_text").truthy then
          ((s.set "response_text_fallback" fallback).set "final_response_text" fallback).set
            "final_reply_result" (RouterSettings.routerResult "fallback" (some "missing_service"))
        else s

/-- `command_type == LIVECHAT_SEND_TEXT` and the flag of its payload is `True`. -/
def isTextWith (flag : String) (command : WorkflowCommand) : Bool :=
  decide (command.type = .livechatSendText) && (getKey command.payload flag).isTrue

/-- `payload["text"] = text`, in the first command of a kind. -/
def withText (isTarget : WorkflowCommand → Bool) (text : Json) :
    List WorkflowCommand → List WorkflowCommand
  | [] => []
  | command :: rest =>
      if isTarget command then { command with payload := command.payload.set "text" text } :: rest
      else command :: withText isTarget text rest

/-- A text that is not exempt from the final reply. -/
def isRewritableText (command : WorkflowCommand) : Bool :=
  decide (command.type = .livechatSendText) &&
    !(getKey command.payload "final_reply_exempt").isTrue

/-- The commands of `command_planner_node`. -/
def plannedCommands (commands : List WorkflowCommand) (text : Json) : List WorkflowCommand :=
  if !text.truthy then commands
  else if commands.any (isTextWith "final_reply_target") then
    withText (isTextWith "final_reply_target") text commands
  else if commands.any isRewritableText then withText isRewritableText text commands
  else SopSettings.command .livechatSendText (.ofList [("text", text)]) :: commands

/-- `command_planner_node`. -/
def commandPlannerNode (s : NodeState) : NodeState :=
  s.withCommands
    (plannedCommands s.commands ((s.get "final_response_text").orElse (s.get "response_text")))

/-! ## The graph -/

/-- `route_condition`, and the node of the route; a final reply has no node of its own. -/
def routeNode (s : NodeState) : Except PyError NodeState :=
  match (s.get "route").str? with
  | some "faq" => .ok (services.ragNode s)
  | some "sop" => services.llmSopNode services.slots s
  | some "emotion_care" => .ok (emotionCareNode s)
  | some "human_handoff" => .ok (humanHandoffNode s)
  | _ => .ok s

/-- The router of the graph. -/
def routerNode (s : NodeState) : Except PyError NodeState :=
  services.llmIntentRouterNode services.limits (services.route s) s

/-- The state that reaches the router. -/
def beforeRouter (input : NodeState) : NodeState :=
  (services.languagePolicyNode (services.llmRewriteQuestionNode input.declared).declared).declared

/-- The state that the router hands on. -/
def routedState (input : NodeState) : Except PyError NodeState := do
  let rewritten := (services.llmRewriteQuestionNode input.declared).declared
  let routed ← services.routerNode (services.languagePolicyNode rewritten).declared
  pure routed.declared

/-- The nodes after the router. -/
def handledState (routed : NodeState) : Except PyError NodeState := do
  let handled ← services.routeNode routed
  let replied := (services.finalReplyNode handled.declared).declared
  pure (commandPlannerNode replied).declared

/-- The graph: every node finds the declared keys only. -/
def runGraph (input : NodeState) : Except PyError NodeState := do
  let routed ← services.routedState input
  services.handledState routed

end GraphServices

end AiCustomerService
