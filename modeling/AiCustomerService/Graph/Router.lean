import AiCustomerService.Llm.Guardrails
import AiCustomerService.Services.StaffReplyProcessor

/-!
# The intent router

`intent_router_node` of `app/graph/nodes.py`, and the node that `make_intent_router_node` builds
around a language model.
-/

namespace AiCustomerService

open Support

/-- Settings for evaluating examples on plain texts, with the analysis of staff replies that runs
in production. -/
def RouterSettings.plain : RouterSettings where
  rt := .plain
  tables := .plain
  services := productionServices .plain .plain (fun _ => [])
    (fun language => language.getD "unknown") toString

/-! ## Problems for a human -/

/-- A predicate on the text in lower case, and where the text goes under it. -/
structure TextRule where
  holds : String → Bool
  decision : RouteDecision

/-- A route to a human. -/
def handoffDecision (intent reason : String) (confidence : Json) : RouteDecision where
  intent := intent
  route := "human_handoff"
  reason := reason
  confidence := confidence

/-- The tests of `_auto_handoff_route` on the text alone. -/
def autoHandoffRules : List TextRule := [
  ⟨RouteText.isScreenshotUploadFailed, handoffDecision "screenshot_upload_failed"
    "Customer cannot upload or continue with a required screenshot or attachment."
    (.float (9 / 10) "0.9")⟩,
  ⟨RouteText.isWalletIdentityRisk, handoffDecision "wallet_identity_risk"
    ("Wallet, bank card, receiving account, identity, or KYC issue requires manual " ++
      "support.") (.float (9 / 10) "0.9")⟩,
  ⟨RouteText.isAccountVerificationIssue, handoffDecision "account_verification_issue"
    ("Verification code, SIM, phone, or email verification issue requires manual " ++
      "support.") (.float (9 / 10) "0.9")⟩,
  ⟨RouteText.isPromoRefundUnsupported, handoffDecision "promo_refund_unsupported"
    ("Promotion, bonus, registration, refund, or unsupported commercial issue is outside " ++
      "FAQ/SOP scope.") (.float (88 / 100) "0.88")⟩,
  ⟨RouteText.isUnsupportedConcreteIssue, handoffDecision "game_technical_issue"
    "Technical/game-specific issues are out of FAQ/SOP scope." (.float (88 / 100) "0.88")⟩,
  ⟨RouteText.isAbuseOrFraudRisk, { handoffDecision "abuse_or_fraud_risk"
    "Fraud, fund-safety, or severe abuse concern requires manual support."
    (.float (9 / 10) "0.9") with emotion := some "distressed", riskLevel := some "high" }⟩,
  ⟨RouteText.isTutorialFailedAftercare, handoffDecision "tutorial_failed_aftercare"
    "Customer reports the FAQ/tutorial was followed but still failed."
    (.float (86 / 100) "0.86")⟩]

/-- The decision of the first rule whose predicate holds. -/
def firstRule (rules : List TextRule) (lower : String) : Option RouteDecision :=
  (rules.find? fun rule => rule.holds lower).map TextRule.decision

/-- The keys of the data that a customer gave to a workflow. -/
def collectedDataKeys : List String :=
  ["account_or_phone", "phone", "amount", "order_id", "payment_channel", "deposit_screenshot",
    "withdrawal_screenshot", "receipt_screenshot", "telegram_case_id", "telegram_message_id"]

/-! ## Classification -/

/-- A route of the classification to the handler of a workflow. -/
def sopDecision (intent reason : String) : RouteDecision where
  intent := intent
  route := "sop"
  reason := reason
  sopName := some intent

/-- A route of the classification to the knowledge base. -/
def faqDecision (text intent reason : String) : RouteDecision where
  intent := intent
  route := "faq"
  reason := reason
  faqQuery := some text

/-- The tests of `intent_router_node` that take the emotion of the text along. -/
def topicRules (text : String) : List TextRule := [
  ⟨RouteText.isPendingReplyLookup,
    sopDecision "pending_reply_lookup" "Previous case lookup requires SOP handling."⟩,
  ⟨RouteText.isDepositMissing,
    sopDecision "deposit_missing" "Deposit-not-arrived issues require SOP handling."⟩,
  ⟨RouteText.isWithdrawalMissing,
    sopDecision "withdrawal_missing" "Withdrawal-not-arrived issues require SOP handling."⟩,
  ⟨RouteText.isWithdrawalBlockedOrRollover, sopDecision "withdrawal_blocked_or_rollover"
    "Withdrawal restriction or rollover questions require SOP handling."⟩,
  ⟨RouteText.isDepositHowto,
    faqDecision text "deposit_howto" "Deposit how-to is a FAQ/manual question."⟩,
  ⟨RouteText.isWithdrawalHowto,
    faqDecision text "withdrawal_howto" "Withdrawal how-to is a FAQ/manual question."⟩,
  ⟨RouteText.isForgotPasswordHowto, faqDecision text "forgot_password_howto"
    "Forgot-password instructions are FAQ/manual content."⟩,
  ⟨RouteText.isScreenshotUploadHowto, faqDecision text "screenshot_upload_howto"
    "Screenshot upload instructions are FAQ/manual content."⟩,
  ⟨RouteText.isAccountAccessIssue, handoffDecision "account_access_issue"
    "Account access problems require manual support." (.float (9 / 10) "0.9")⟩,
  ⟨RouteText.isAccountProfileOrWalletChange, handoffDecision "account_profile_or_wallet_change"
    "Profile or wallet changes require manual support." (.float (9 / 10) "0.9")⟩]

/-- `_emotion_context`. -/
def emotionContext (lower : String) : Option String × Option String :=
  if RouteText.isAbusiveOrEmotional lower then (some "distressed", some "high")
  else if RouteText.isServiceFrustration lower then (some "frustrated", some "elevated")
  else (none, none)

/-- The two routes of a text that is about its emotion. -/
def emotionRules : List TextRule := [
  ⟨RouteText.isServiceFrustration, {
    intent := "service_frustration"
    route := "emotion_care"
    reason := "Repeated service frustration is the primary issue."
    emotion := some "frustrated"
    riskLevel := some "elevated" }⟩,
  ⟨RouteText.isAbusiveOrEmotional, {
    intent := "abusive_or_emotional"
    route := "emotion_care"
    reason := "High-emotion language should receive a calming response first."
    emotion := some "distressed"
    riskLevel := some "high" }⟩]

/-- What the text of a message is about. -/
def classifyText (text lower : String) : Option RouteDecision :=
  match firstRule (topicRules text) lower with
  | some decision =>
      some { decision with
        emotion := (emotionContext lower).1
        riskLevel := (emotionContext lower).2 }
  | none => firstRule emotionRules lower

/-- `_increment_slot_counter` of the menu, and the count. -/
def menuStuck (rt : Runtime) (s : NodeState) : Except PyError (NodeState × Int) := do
  let counters := (getKey s.slotMemory "handoff_counters").dictOrEmpty
  let count ← (getKey counters "menu_stuck_count").intOrZero rt
  pure (s.withSlotMemory (s.slotMemory.set "handoff_counters"
    (.obj (counters.set "menu_stuck_count" (.int (count + 1))))), count + 1)

namespace RouterSettings

variable (settings : RouterSettings)

/-- `_is_cross_workflow_business_object`. -/
def isCrossWorkflowBusinessObject (s : NodeState) : Bool :=
  RouteText.conflictsWith (s.activeWorkflow settings.rt) (s.lowerText settings.rt)

/-- `_active_workflow_conflict_has_data`. -/
def activeWorkflowConflictHasData (s : NodeState) : Bool :=
  (RouteText.independentFaq (s.lowerText settings.rt)).isNone &&
    settings.isCrossWorkflowBusinessObject s &&
    ((s.get "attachments").truthy ||
      collectedDataKeys.any fun key => (getKey s.slotMemory key).truthy)

/-- `_auto_handoff_route`. -/
def autoHandoffRoute (s : NodeState) : Option NodeState :=
  if isGuardedWorkflow s && settings.activeWorkflowConflictHasData s then
    some (s.withRoute settings.rt { handoffDecision "active_workflow_conflict_with_data"
      "Message conflicts with the active SOP after customer data was already collected."
      (.float (88 / 100) "0.88") with
        workflowRelation := some "human_escalation"
        preserveActiveWorkflow := some true })
  else (firstRule autoHandoffRules (s.lowerText settings.rt)).map (s.withRoute settings.rt)

/-- `_is_acknowledgement`. -/
def isAcknowledgementText (s : NodeState) : Bool :=
  let normalized := (s.lowerText settings.rt).toList.filter fun c =>
    !(isPySpace c || ".!?。！？…".toList.contains c)
  ["ok", "okay", "好的", "好", "谢谢", "謝謝", "明白", "了解", "收到", "知道了", "thanks", "thankyou",
    "gracias", "vale", "bueno", "listo"].any fun word => word.toList = normalized

/-- `_is_casual_chat`. -/
def isCasualChat (s : NodeState) : Bool :=
  !(s.get "active_workflow").truthy && !(s.get "workflow_stage").truthy &&
    (settings.isAcknowledgementText s ||
      settings.tables.greetingPattern.matchesAll
        (squeeze ",，.!?。！？…" (s.lowerText settings.rt)).toList)

/-- The patterns of a customer who offers a name. -/
def offersName (s : NodeState) : Bool :=
  let tables := settings.tables
  let anything : Regex Char := .many PatternTables.anyChar
  let name := tables.literals ["姓名", "名字"]
  (Regex.oneOf [
    tables.wholeWords (tables.literal "may i provide my name"),
    tables.wholeWords (tables.literal "can i provide my name"),
    tables.wholeWords (.seq [tables.literal "can i give ",
      .optional (tables.literal "you "), tables.literal "my name"]),
    tables.wholeWords (tables.literal "would my name"),
    tables.wholeWords (.seq [tables.literal "name ",
      tables.literals ["instead", "enough", "ok", "okay"]]),
    .seq [tables.literal "可以", anything, name],
    .seq [name, anything, tables.literal "可以"]]).found (s.lowerText settings.rt).toList

/-- `_is_contextual_followup`. -/
def isContextualFollowup (s : NodeState) : Bool :=
  s.lowerText settings.rt ≠ "" &&
    (isConversationMemoryLookup settings.rt settings.tables s || settings.offersName s)

/-- `_is_current_workflow_supplement`. -/
def isCurrentWorkflowSupplement (s : NodeState) : Bool :=
  let active := s.activeWorkflow settings.rt
  let text := strip (s.inputText settings.rt)
  let lower := settings.rt.lower text
  (s.get "attachments").truthy && ["deposit_missing", "withdrawal_missing"].contains active ||
    settings.hasSopKeyMaterial text ||
    decide (lower.toList.length ≤ 32) && lower.toList.any settings.tables.isDigit ||
    containsAny lower (RouteText.supplementTokens active)

/-- `_is_new_workflow_request`. -/
def isNewWorkflowRequest (s : NodeState) : Bool :=
  (RouteText.newWorkflow? (s.lowerText settings.rt)).any fun candidate =>
    decide (candidate ≠ s.activeWorkflow settings.rt)

/-- The relation of a final reply that leaves the active workflow alone. -/
def keepingRoute (s : NodeState) (intent relation reason : String) (confidence : Json)
    (kind : FinalReplyKind) : NodeState :=
  settings.finalReplyRoute s {
    intent := intent
    route := "final_reply"
    reason := reason
    confidence := confidence
    workflowRelation := some relation
    preserveActiveWorkflow := some true } kind

/-- `_active_workflow_deterministic_route`. -/
def activeWorkflowDeterministicRoute (s : NodeState) : NodeState :=
  let active := s.activeWorkflow settings.rt
  if settings.isAcknowledgementText s then
    settings.keepingRoute s "acknowledgement" "acknowledgement"
      ("Customer acknowledged the previous message; preserve active workflow without SOP side " ++
        "effects.") (.float (88 / 100) "0.88") .acknowledgement
  else if settings.isContextualFollowup s then
    settings.keepingRoute s "contextual_followup" "contextual_followup"
      "Customer asks a context-dependent follow-up about the active workflow requirements."
      (.float (86 / 100) "0.86") .contextualFollowup
  else if RouteText.isRolloverExplanation (s.lowerText settings.rt) then
    settings.keepingRoute s "contextual_followup" "contextual_followup"
      ("Rollover explanation is outside canonical FAQ and should be handled as a contextual " ++
        "final reply.") (.float (78 / 100) "0.78") .contextualFollowup
  else
    match RouteText.independentFaq (s.lowerText settings.rt) with
    | some (intent, query) =>
        s.withRoute settings.rt {
          intent := intent
          route := "faq"
          reason := "Independent FAQ during active workflow; clear the previous SOP state after " ++
            "answering."
          confidence := .float (86 / 100) "0.86"
          faqQuery := some query
          workflowRelation := some "independent_faq"
          preserveActiveWorkflow := some false }
    | none =>
        if settings.isCrossWorkflowBusinessObject s then
          settings.keepingRoute s "clarification_needed" "new_workflow_request"
            ("Message mentions a different business object than the active workflow; ask before " ++
              "changing state.") (.float (78 / 100) "0.78") .clarification
        else if settings.isNewWorkflowRequest s then
          settings.keepingRoute s "clarification_needed" "new_workflow_request"
            ("New SOP-like request during active workflow; ask whether to switch workflow " ++
              "before changing state.") (.float (78 / 100) "0.78") .clarification
        else if settings.isCurrentWorkflowSupplement s then
          s.withRoute settings.rt { sopDecision active
            "Message appears to supplement the active SOP workflow." with
              confidence := .float (86 / 100) "0.86"
              workflowRelation := some "current_workflow_supplement"
              preserveActiveWorkflow := some true }
        else
          settings.keepingRoute s "clarification_needed" "unclear"
            "Message relation to the active workflow is unclear." (.float (55 / 100) "0.55")
            .clarification

/-- The branches of `intent_router_node` after the active workflow; the recall of a message was
caught before them. -/
def classifiedRoute (s : NodeState) : Except PyError NodeState := do
  let text := strip (s.inputText settings.rt)
  let lower := s.lowerText settings.rt
  let clarification (s : NodeState) (reason : String) (confidence : Json) : NodeState :=
    settings.finalReplyRoute s {
      intent := "clarification_needed"
      route := "final_reply"
      reason := reason
      confidence := confidence } .clarification
  match classifyText text lower with
  | some decision => pure (s.withRoute settings.rt decision)
  | none =>
      if RouteText.isMenuHelp lower then do
        let (stuck, count) ← menuStuck settings.rt s
        if 2 ≤ count then
          pure (stuck.withRoute settings.rt (handoffDecision "menu_stuck_repeated"
            "Customer cannot see or use the menu after repeated attempts."
            (.float (88 / 100) "0.88")))
        else
          pure (clarification stuck "Menu recovery is outside canonical FAQ."
            (.float (9 / 10) "0.9"))
      else if (s.get "event_type").eqText "FILE_RECEIVED" then
        pure (clarification s "File upload without a clear issue needs clarification."
          (.float (9 / 10) "0.9"))
      else if settings.isCasualChat s then
        pure (settings.finalReplyRoute s {
          intent := "casual_chat"
          route := "final_reply"
          reason := "Non-business greeting or small talk."
          confidence := .float (82 / 100) "0.82" } .casualChat)
      else if text ≠ "" then
        pure (clarification s "Question is outside canonical FAQ targets."
          (.float (55 / 100) "0.55"))
      else
        pure (clarification s "No clear question content provided." (.float (2 / 10) "0.2"))

/-- The route of a customer who asks for a human. -/
def explicitHumanRoute (s : NodeState) : NodeState :=
  s.withRoute settings.rt (handoffDecision "explicit_human_request"
    "Customer explicitly requested a human agent." (.float (9 / 10) "0.9"))

/-- The route of a customer who asks what was said before. -/
def memoryLookupRoute (s : NodeState) : NodeState :=
  settings.finalReplyRoute s {
    intent := "conversation_memory_lookup"
    route := "final_reply"
    reason := "Customer asks to recall current conversation context."
    workflowRelation := some "contextual_followup"
    preserveActiveWorkflow := some (s.get "active_workflow").truthy } .contextualFollowup

/-- The branches of `intent_router_node` after the explicit request for a human. -/
def ordinaryRoute (s : NodeState) : Except PyError NodeState :=
  let text := strip (s.inputText settings.rt)
  match settings.crossThreadMoneyCaseRoute s text with
  | some routed => .ok routed
  | none =>
      match settings.promotePendingImageCandidateRoute s text with
      | some routed => .ok routed
      | none =>
          match settings.imageCandidateOnlyRoute s with
          | some routed => .ok routed
          | none =>
              match settings.autoHandoffRoute s with
              | some routed => .ok routed
              | none =>
                  if isConversationMemoryLookup settings.rt settings.tables s then
                    .ok (settings.memoryLookupRoute s)
                  else if isGuardedWorkflow s then
                    .ok (settings.activeWorkflowDeterministicRoute s)
                  else settings.classifiedRoute s

/-- `LLM_AUTHORITATIVE_SOURCES`. -/
def llmAuthoritativeSources : List String :=
  ["llm_guarded_authoritative", "llm_guarded_authoritative_post_guard",
    "llm_rewrite_authoritative"]

/-- The state carries the route of a language model, or of a guard of the backend. -/
def hasAuthoritativeRoute (s : NodeState) : Bool :=
  (s.get "route").truthy && (llmAuthoritativeSources.any (s.get "route_source").eqText ||
    (getKey (s.get "llm_router_result").dictOrEmpty "hard_guard").eqText "backend_fact")

/-- The route of the state is fixed already. -/
def isRouteLocked (s : NodeState) : Bool := (s.get "route_locked").truthy && (s.get "route").truthy

/-- The branches of `intent_router_node` after those for a disputed conclusion. -/
def undisputedRoute (s : NodeState) : Except PyError NodeState :=
  if hasAuthoritativeRoute s then .ok s
  else
    match settings.recentAuthoritativeResultDisputeRoute s with
    | some routed => .ok routed
    | none =>
        if isExplicitHumanRequest settings.tables (s.inputText settings.rt) then
          .ok (settings.explicitHumanRoute s)
        else settings.ordinaryRoute s

/-- `intent_router_node`. -/
def intentRouterNode (s : NodeState) : Except PyError NodeState :=
  if isRouteLocked s then .ok s
  else
    match settings.forgotPasswordFollowupRoute s with
    | some routed => .ok routed
    | none => do
        let s := settings.clearBackendDisputeOnAcceptance s
        match ← settings.recentBackendResultDisputeRoute s with
        | some routed => pure routed
        | none => settings.undisputedRoute s

/-! ## The node around the language model -/

/-- What the language model's service does on a call. -/
inductive RouterAnswer
  | missingProvider
  | raised
  | answered (output : JsonObject)

/-- `llm_intent_min_confidence` and `llm_intent_fallback_to_deterministic`. -/
structure RouterLimits where
  minConfidence : ℚ
  fallbackToDeterministic : Bool

/-- The outcome that `_router_result_summary` records. -/
def routerResult (status : String) (fallbackReason : Option String) : Json :=
  .obj (setText (.ofList [("status", .str status)]) "fallback_reason" fallbackReason)

/-- `next_state["llm_router_result"]` of a guard. -/
def guardedBy (routed : NodeState) (reason : String) : NodeState :=
  routed.set "llm_router_result" (routerResult "fallback" (some reason))

/-- `_router_fallback_state`. -/
def routerFallbackState (limits : RouterLimits) (s : NodeState) (reason : String) :
    Except PyError NodeState := do
  if limits.fallbackToDeterministic then
    let routed ← settings.intentRouterNode s
    pure (guardedBy routed reason)
  else
    let result : JsonObject := .ofList [("intent", .str "clarification_needed"),
      ("route", .str "final_reply"), ("confidence", .float 0 "0.0"),
      ("reason",
        .str "LLM intent classifier failed and deterministic fallback is disabled.")]
    let routed := ((s.set "intent_result" (.obj result)).set "route" (.str "final_reply")).set
      "route_source" (.str "llm_guarded_authoritative")
    pure (guardedBy (settings.prepareFinalReplyState routed .clarification) reason)

/-- The `intent_result` of an accepted answer. -/
def acceptedIntentResult (rt : Runtime) (output : RouterOutput) : JsonObject :=
  .ofList [("intent", .str output.intent), ("route", .str output.route),
    ("confidence", .float output.confidence (rt.reprFloat output.confidence)),
    ("reason", .str output.reason),
    ("sop_name", Json.ofText? output.sopName), ("faq_query", Json.ofText? output.faqQuery),
    ("faq_intent", if output.route = "faq" then .str output.intent else .null),
    ("retrieval_query", Json.ofText? output.faqQuery),
    ("risk_level", Json.ofText? output.riskLevel), ("requires_human", .bool output.requiresHuman),
    ("requires_backend", .bool output.requiresBackend),
    ("missing_slots", .arr (output.missingSlots.map .str)),
    ("workflow_relation", Json.ofText? output.workflowRelation),
    ("preserve_active_workflow", .bool output.preserveActiveWorkflow)]

/-- The kind of an accepted final reply. -/
def acceptedReplyKind (output : RouterOutput) : FinalReplyKind :=
  if output.workflowRelation = some "acknowledgement" then .acknowledgement
  else if output.workflowRelation = some "contextual_followup" then .contextualFollowup
  else if output.intent = "casual_chat" then .casualChat
  else if output.intent = "conversation_memory_lookup" then .contextualFollowup
  else .clarification

/-- The state after an accepted answer. -/
def acceptedRoute (s : NodeState) (output : RouterOutput) : NodeState :=
  let routed := (((s.set "intent_result" (.obj (acceptedIntentResult settings.rt output))).set
    "llm_router_result" (routerResult "accepted" none)).set "route" (.str output.route)).set
    "route_source" (.str "llm_guarded_authoritative")
  if output.route = "final_reply" then
    settings.prepareFinalReplyState routed (acceptedReplyKind output)
  else routed

/-- The part of `_build_llm_router_payload` that the guardrails read. -/
def routerPayload (s : NodeState) : RouterPayload :=
  ⟨s.get "active_workflow", s.get "rewritten_question", s.get "raw_user_input"⟩

/-- The branches of the node after the language model answered. -/
def answeredRoute (limits : RouterLimits) (s : NodeState) :
    RouterAnswer → Except PyError NodeState
  | .missingProvider => settings.routerFallbackState limits s "missing_provider"
  | .raised => settings.routerFallbackState limits s "exception"
  | .answered output =>
      match validateIntentClassificationOutput settings.rt (routerPayload s) output with
      | .error (.valueError _) => settings.routerFallbackState limits s "validation_error"
      | .error _ => settings.routerFallbackState limits s "exception"
      | .ok output =>
          if output.confidence < limits.minConfidence then
            settings.routerFallbackState limits s "low_confidence"
          else .ok (settings.acceptedRoute s output)

/-- The node of `make_intent_router_node`. -/
def llmIntentRouterNode (limits : RouterLimits) (answer : RouterAnswer) (s : NodeState) :
    Except PyError NodeState :=
  if isRouteLocked s then .ok s
  else do
    let s := settings.clearBackendDisputeOnAcceptance s
    match ← settings.recentBackendResultDisputeRoute s with
    | some routed => pure (guardedBy routed "backend_conclusion_disputed_guard")
    | none =>
        match settings.recentAuthoritativeResultDisputeRoute s with
        | some routed => pure (guardedBy routed "authoritative_result_disputed_guard")
        | none =>
            let raw := normalizeText settings.rt (s.get "raw_user_input")
            if isExplicitHumanRequest settings.tables raw then
              pure (guardedBy (settings.explicitHumanRoute s) "explicit_human_request_guard")
            else if (s.get "event_type").eqText "FILE_RECEIVED" &&
                !(s.get "active_workflow").truthy && raw = "" then
              settings.intentRouterNode s
            else if isConversationMemoryLookup settings.rt settings.tables s then
              pure (guardedBy (settings.memoryLookupRoute s) "conversation_memory_guard")
            else
              match settings.crossThreadMoneyCaseRoute s (strip (s.inputText settings.rt)) with
              | some routed => pure (guardedBy routed "cross_thread_money_case_guard")
              | none => settings.answeredRoute limits s answer

end RouterSettings

end AiCustomerService
