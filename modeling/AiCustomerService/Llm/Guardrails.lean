import AiCustomerService.Graph.RouteGuards

/-!
# Guardrails of the router's language model

`validate_intent_classification_output` of `app/llm/guardrails.py`: what is accepted of an answer
of the model, given the state of the conversation.
-/

namespace AiCustomerService

open Support

/-! ## Fields of an answer -/

/-- `_optional_str`. -/
def optionalStr (rt : Runtime) (value : Json) : Option String :=
  if value.isNull then none
  else
    let text := strip (value.pyStr rt)
    if text = "" then none else some text

/-- `_require_str`. -/
def requireStr (rt : Runtime) (output : JsonObject) (field outputName : String) :
    Except PyError String :=
  match optionalStr rt (getKey output field) with
  | some text => .ok text
  | none => .error (.valueError ("Missing required " ++ outputName ++ " field: " ++ field))

/-- `_string_list`. -/
def stringList (rt : Runtime) (value : Json) : List String :=
  match value with
  | .arr items => (items.map (Json.pyStr rt)).filter fun item => strip item ≠ ""
  | _ => []

/-- `float(value)`, when it returns. -/
def toFloat? (rt : Runtime) : Json → Option ℚ
  | .str text => rt.floatOfText text
  | value => value.number?

/-- `normalize_confidence`. -/
def normalizeConfidence (rt : Runtime) (value : Json) : ℚ :=
  max 0 (min 1 ((toFloat? rt value).getD 0))

/-- `text.strip().lower()`, with other characters for some. -/
def normalizedName (rt : Runtime) (replaced : List Char) (text : String) : String :=
  String.ofList ((rt.lower (strip text)).toList.map fun c => if replaced.contains c then '_' else c)

/-! ## Routes and intents -/

/-- `ALLOWED_LLM_ROUTES`. -/
def allowedLlmRoutes : List String := ["faq", "sop", "human_handoff", "emotion_care", "final_reply"]

/-- `CANONICAL_FAQ_INTENTS`. -/
def canonicalFaqIntents : List String :=
  ["deposit_howto", "withdrawal_howto", "forgot_password_howto", "screenshot_upload_howto"]

/-- `SOP_INTENTS`. -/
def sopIntents : List String :=
  ["deposit_missing", "withdrawal_missing", "withdrawal_blocked_or_rollover",
    "pending_reply_lookup"]

/-- `ALLOWED_LLM_INTENTS`. -/
def allowedLlmIntents : List String :=
  canonicalFaqIntents ++ ["deposit_missing", "withdrawal_missing",
    "withdrawal_blocked_or_rollover", "pending_reply_lookup", "account_access_issue",
    "account_profile_or_wallet_change", "screenshot_upload_failed", "wallet_identity_risk",
    "account_verification_issue", "promo_refund_unsupported", "game_technical_issue",
    "abuse_or_fraud_risk", "tutorial_failed_aftercare", "active_workflow_conflict_with_data",
    "menu_stuck_repeated", "waiting_backend_repeat_dispute", "explicit_human_request",
    "service_frustration", "abusive_or_emotional", "unsupported_concrete_issue",
    "clarification_needed", "acknowledgement", "contextual_followup",
    "conversation_memory_lookup", "casual_chat", "backend_fact_like"]

/-- `normalize_llm_route`. -/
def normalizeLlmRoute (rt : Runtime) (route : String) : String :=
  match normalizedName rt ['-'] route with
  | "clarification" | "contextual_reply" | "casual_chat" | "unsupported" | "final"
  | "final reply" => "final_reply"
  | "human" | "human handoff" => "human_handoff"
  | normalized => normalized

/-- `validate_llm_route`. -/
def validateLlmRoute (rt : Runtime) (route : String) : Except PyError String :=
  let normalized := normalizeLlmRoute rt route
  if normalized ∈ allowedLlmRoutes then .ok normalized
  else .error (.valueError ("Unsupported llm route: " ++ textOr (some normalized) route))

/-- `normalize_llm_intent`. -/
def normalizeLlmIntent (rt : Runtime) (intent : String) : String :=
  match normalizedName rt ['-', ' '] intent with
  | "deposit_inquiry" | "deposit" | "deposit_guide" | "recharge_howto" | "recharge" =>
      "deposit_howto"
  | "withdrawal_inquiry" | "withdrawal" | "withdraw" | "withdraw_guide" => "withdrawal_howto"
  | "password_reset" | "reset_password" | "forgot_password" => "forgot_password_howto"
  | normalized => normalized

/-- `normalize_router_decision_intent`; the intents that the final reply knows are allowed
already, and every other one asks for a clarification. -/
def normalizeRouterDecisionIntent (rt : Runtime) (intent route : String) (requiresHuman : Bool) :
    Except PyError String :=
  let normalized := normalizeLlmIntent rt intent
  if normalized ∈ allowedLlmIntents then .ok normalized
  else if route = "human_handoff" ∧ requiresHuman = true then .ok "explicit_human_request"
  else if route = "final_reply" then
    if normalized = "contextual_reply" then .ok "contextual_followup"
    else if normalized = "conversation_memory" ∨ normalized = "previous_message_lookup" then
      .ok "conversation_memory_lookup"
    else .ok "clarification_needed"
  else .error (.valueError ("Unsupported llm intent: " ++ textOr (some normalized) intent))

/-! ## The relation to the active workflow -/

/-- `WORKFLOW_RELATIONS_WITH_ACTIVE`. -/
def workflowRelationsWithActive : List String :=
  ["current_workflow_supplement", "current_workflow_resolution", "independent_faq",
    "new_workflow_request", "human_escalation", "acknowledgement", "contextual_followup",
    "unclear"]

/-- The part of `_build_llm_router_payload` that the guardrails read. -/
structure RouterPayload where
  activeWorkflow : Json
  rewrittenQuestion : Json
  rawUserInput : Json

/-- `_validate_workflow_relation`. -/
def validateWorkflowRelation (rt : Runtime) (payload : RouterPayload) (value : Json) :
    Except PyError (Option String) :=
  match optionalStr rt payload.activeWorkflow, optionalStr rt value with
  | some _, none =>
      .error (.valueError "workflow_relation is required when active_workflow is present.")
  | some _, some relation =>
      if relation ∈ workflowRelationsWithActive then .ok (some relation)
      else .error
        (.valueError ("Unsupported workflow_relation with active workflow: " ++ relation))
  | none, none => .ok none
  | none, some _ => .ok (some "none")

/-- The names of `SOP_DEFINITIONS`. -/
def sopDefinitionNames : List String :=
  ["deposit_missing", "withdrawal_missing", "withdrawal_blocked_or_rollover"]

/-- `_normalize_sop_name`. -/
def normalizeSopName (rt : Runtime) (route intent : String) (value : Json) : Option String :=
  let sopName := optionalStr rt value
  if route ≠ "sop" ∨ sopName.any sopDefinitionNames.contains then sopName
  else if intent ∈ sopDefinitionNames then some intent
  else sopName

/-- `_normalize_requires_backend`. -/
def normalizeRequiresBackend (route intent : String) (relation : Option String) (value : Json) :
    Bool :=
  value.truthy || (decide (route = "sop") && sopIntents.contains intent &&
    decide (relation ≠ some "current_workflow_resolution"))

/-- An accepted answer. -/
structure RouterOutput where
  intent : String
  route : String
  confidence : ℚ
  sopName : Option String
  faqQuery : Option String
  riskLevel : Option String
  requiresHuman : Bool
  requiresBackend : Bool
  missingSlots : List String
  workflowRelation : Option String
  preserveActiveWorkflow : Bool
  reason : String

/-- `_business_object_conflicts_with_active_workflow`. -/
def businessObjectConflicts (rt : Runtime) (payload : RouterPayload) (activeWorkflow : String) :
    Bool :=
  RouteText.conflictsWith activeWorkflow
    (rt.lower (payload.rewrittenQuestion.textOrEmpty rt) ++ " " ++
      rt.lower (payload.rawUserInput.textOrEmpty rt) ++ " ")

/-- `if condition: raise ValueError(message)`. -/
def refuseWhen (condition : Bool) (message : String) : Except PyError Unit :=
  if condition then .error (.valueError message) else .ok ()

/-- The intents of a final reply. -/
def finalReplyIntents : List String :=
  ["acknowledgement", "contextual_followup", "conversation_memory_lookup", "casual_chat",
    "clarification_needed", "unsupported_concrete_issue"]

/-- The part of `_validate_intent_classification_contract` before the active workflow. -/
def validateRouteContract (output : RouterOutput) : Except PyError Unit := do
  if output.route = "faq" then
    refuseWhen (!canonicalFaqIntents.contains output.intent)
      ("FAQ route requires a canonical FAQ intent: " ++ output.intent)
    refuseWhen (!hasText output.faqQuery) "FAQ route requires faq_query."
    refuseWhen output.requiresBackend "FAQ route cannot require backend facts."
    refuseWhen output.requiresHuman "FAQ route cannot require human handoff."
    refuseWhen (!output.missingSlots.isEmpty) "FAQ route cannot request SOP slots."
    refuseWhen (hasText output.sopName) "FAQ route cannot set sop_name."
  if output.route = "sop" then
    refuseWhen (output.sopName.any fun name => !sopDefinitionNames.contains name)
      ("Unsupported SOP name: " ++ textOr output.sopName "")
    refuseWhen (sopIntents.contains output.intent && !output.requiresBackend &&
        decide (output.workflowRelation ≠ some "current_workflow_supplement" ∧
          output.workflowRelation ≠ some "current_workflow_resolution"))
      "SOP route for backend workflows must set requires_backend=true."
  refuseWhen (decide (output.route = "human_handoff") && !output.requiresHuman)
    "human_handoff route must set requires_human=true."
  refuseWhen (decide (output.route = "final_reply") && !finalReplyIntents.contains output.intent)
    "final_reply route requires a final-reply intent."

/-- A relation that goes on with the active workflow. -/
def validateCurrentWorkflow (rt : Runtime) (payload : RouterPayload)
    (activeWorkflow relation : String) (output : RouterOutput) : Except PyError Unit := do
  refuseWhen (decide (output.route ≠ "sop")) (relation ++ " requires route=sop.")
  refuseWhen (decide (output.intent ≠ activeWorkflow))
    (relation ++ " intent must match active_workflow.")
  refuseWhen (output.sopName.any fun name => decide (name ≠ activeWorkflow))
    (relation ++ " sop_name must match active_workflow.")
  refuseWhen (decide (relation = "current_workflow_resolution") && output.preserveActiveWorkflow)
    "current_workflow_resolution must not preserve active workflow."
  refuseWhen (businessObjectConflicts rt payload activeWorkflow)
    (relation ++ " business object conflicts with active_workflow.")

/-- `_validate_intent_classification_contract`. -/
def validateIntentClassificationContract (rt : Runtime) (payload : RouterPayload)
    (output : RouterOutput) : Except PyError Unit := do
  validateRouteContract output
  match optionalStr rt payload.activeWorkflow, output.workflowRelation with
  | some activeWorkflow, some relation =>
      match relation with
      | "current_workflow_supplement" | "current_workflow_resolution" =>
          validateCurrentWorkflow rt payload activeWorkflow relation output
      | "independent_faq" =>
          refuseWhen (decide (output.route ≠ "faq")) "independent_faq requires route=faq."
          refuseWhen (!output.preserveActiveWorkflow)
            "independent_faq must preserve active workflow."
      | "new_workflow_request" =>
          refuseWhen
            (decide (output.route ≠ "final_reply" ∨ output.intent ≠ "clarification_needed"))
            "new_workflow_request must ask clarification before switching workflow."
          refuseWhen (!output.preserveActiveWorkflow)
            "new_workflow_request must preserve active workflow."
      | "human_escalation" =>
          refuseWhen (decide (output.route ≠ "human_handoff"))
            "human_escalation requires route=human_handoff."
      | "acknowledgement" | "contextual_followup" =>
          refuseWhen (decide (output.route ≠ "final_reply" ∨ output.intent ≠ relation))
            (relation ++ " requires final_reply route.")
          refuseWhen (!output.preserveActiveWorkflow)
            (relation ++ " must preserve active workflow.")
      | "unclear" =>
          refuseWhen (decide (output.route ≠ "final_reply"))
            "unclear workflow relation requires route=final_reply."
          refuseWhen (!output.preserveActiveWorkflow)
            "unclear workflow relation must preserve active workflow."
      | _ => pure ()
  | _, _ => pure ()

/-- `validate_intent_classification_output`. -/
def validateIntentClassificationOutput (rt : Runtime) (payload : RouterPayload)
    (output : JsonObject) : Except PyError RouterOutput := do
  let route ← validateLlmRoute rt (← requireStr rt output "route" "router decision")
  let requiresHuman := decide (route = "human_handoff") || (getKey output "requires_human").truthy
  let intent ← normalizeRouterDecisionIntent rt
    (← requireStr rt output "intent" "router decision") route requiresHuman
  refuseWhen (decide (route = "faq") && !canonicalFaqIntents.contains intent)
    ("FAQ route requires a canonical FAQ intent: " ++ intent)
  let relation ← validateWorkflowRelation rt payload (getKey output "workflow_relation")
  let preserve := ((output.get? "preserve_active_workflow").getD (.bool true)).truthy
  refuseWhen (payload.activeWorkflow.truthy && decide (route ≠ "human_handoff") &&
      decide (relation ≠ some "current_workflow_resolution") && !preserve)
    "Active workflow must be preserved during intent classification."
  let validated : RouterOutput := {
    intent := intent
    route := route
    confidence := normalizeConfidence rt (getKey output "confidence")
    sopName := normalizeSopName rt route intent (getKey output "sop_name")
    faqQuery := optionalStr rt (getKey output "faq_query")
    riskLevel := optionalStr rt (getKey output "risk_level")
    requiresHuman := requiresHuman
    requiresBackend := normalizeRequiresBackend route intent relation
      (getKey output "requires_backend")
    missingSlots := stringList rt (getKey output "missing_slots")
    workflowRelation := relation
    preserveActiveWorkflow := preserve
    reason := ← requireStr rt output "reason" "router decision" }
  validateIntentClassificationContract rt payload validated
  pure validated

end AiCustomerService
