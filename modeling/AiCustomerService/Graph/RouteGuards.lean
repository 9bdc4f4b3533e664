import AiCustomerService.Graph.ReplyTexts
import AiCustomerService.Workflows.BackendDispute
import AiCustomerService.Workflows.WaitingBackend

/-!
# Guards of the intent router

The branches of `app/graph/nodes.py` that route a message before its text is classified: disputes
about a result, money cases of other threads, images, and problems that only a human solves.
-/

namespace AiCustomerService

open Support

/-- The runtime, the character tables and the text analysis of staff replies. -/
structure RouterSettings where
  rt : Runtime
  tables : SlotTables
  services : StaffReplyServices

/-! ## Routes -/

/-- The arguments of `_with_route`. -/
structure RouteDecision where
  intent : String
  route : String
  reason : String
  confidence : Json := .float (9 / 10) "0.9"
  sopName : Option String := none
  faqQuery : Option String := none
  emotion : Option String := none
  riskLevel : Option String := none
  workflowRelation : Option String := none
  preserveActiveWorkflow : Option Bool := none

/-- `if value: result[key] = value`. -/
def setText (result : JsonObject) (key : String) (value : Option String) : JsonObject :=
  if hasText value then result.set key (Json.ofText? value) else result

/-- `_intent_result`. -/
def RouteDecision.intentResult (d : RouteDecision) : JsonObject :=
  let result : JsonObject := .ofList [("intent", .str d.intent), ("route", .str d.route),
    ("confidence", d.confidence), ("reason", .str d.reason)]
  let result := setText result "sop_name" d.sopName
  let result := setText (setText result "faq_query" d.faqQuery) "retrieval_query" d.faqQuery
  let result := if d.route = "faq" then result.set "faq_intent" (.str d.intent) else result
  let result := setText (setText result "emotion" d.emotion) "risk_level" d.riskLevel
  let result := setText result "workflow_relation" d.workflowRelation
  match d.preserveActiveWorkflow with
  | some preserve => result.set "preserve_active_workflow" (.bool preserve)
  | none => result

theorem getKey_setText (result : JsonObject) (key other : String) (value : Option String) :
    getKey (setText result key value) other =
      if other = key ∧ hasText value = true then Json.ofText? value else getKey result other := by
  unfold setText
  by_cases hvalue : hasText value = true
  · simp only [hvalue, if_true, and_true]
    exact getKey_set result key other (Json.ofText? value)
  · simp [hvalue]

namespace RouteDecision

variable (d : RouteDecision)

/-- The fields of an intent result that tell what becomes of the active workflow. -/
theorem getKey_intentResult :
    getKey d.intentResult "intent" = .str d.intent ∧
      getKey d.intentResult "workflow_relation" =
        (if hasText d.workflowRelation = true then Json.ofText? d.workflowRelation else .null) ∧
      getKey d.intentResult "preserve_active_workflow" =
        (d.preserveActiveWorkflow.map Json.bool).getD .null := by
  have hfaq : ∀ (result : JsonObject) (other : String), other ≠ "faq_intent" →
      getKey (if d.route = "faq" then result.set "faq_intent" (.str d.intent) else result) other =
        getKey result other := by
    intro result other hother
    split
    · rw [getKey_set, if_neg hother]
    · rfl
  unfold intentResult
  cases d.preserveActiveWorkflow with
  | none => simp [getKey_setText, hfaq, Dict.ofList, getKey_set]
  | some preserve => simp [getKey_setText, hfaq, Dict.ofList, getKey_set]

end RouteDecision

/-- `DISPUTE_MEMORY_KEYS`. -/
def disputeMemoryKeys : List String :=
  ["backend_dispute_count", "backend_dispute_last_event_id"] ++ recheckKeys

/-- `clear_backend_dispute_memory`. -/
def clearBackendDisputeMemory (slotMemory : JsonObject) : JsonObject :=
  slotMemory.eraseAll disputeMemoryKeys

/-- `conclusion.get("intent") if isinstance(conclusion, dict) else None`. -/
def conclusionIntent (slotMemory : JsonObject) : Json :=
  getKey (getKey slotMemory "backend_conclusion").dictOrEmpty "intent"

/-- `_with_route`; a route to another intent than that of the backend's conclusion ends the
dispute about it. -/
def NodeState.withRoute (rt : Runtime) (s : NodeState) (d : RouteDecision) : NodeState :=
  let conclusion := conclusionIntent s.slotMemory
  let memory :=
    if d.route ≠ "human_handoff" ∧ conclusion.truthy = true ∧ conclusion.pyStr rt ≠ d.intent then
      clearBackendDisputeMemory s.slotMemory
    else s.slotMemory
  ((s.withSlotMemory memory).set "intent_result" (.obj d.intentResult)).set "route" (.str d.route)

@[simp]
theorem NodeState.get_route_withRoute (rt : Runtime) (s : NodeState) (d : RouteDecision) :
    (s.withRoute rt d).get "route" = .str d.route := by
  simp [NodeState.withRoute]

@[simp]
theorem NodeState.intentResult_withRoute (rt : Runtime) (s : NodeState) (d : RouteDecision) :
    (s.withRoute rt d).intentResult = d.intentResult := by
  simp [NodeState.withRoute, NodeState.intentResult, Json.dictOrEmpty]

theorem NodeState.get_withRoute (rt : Runtime) (s : NodeState) (d : RouteDecision) {key : String}
    (hkey : key ∉ ["slot_memory", "intent_result", "route"]) :
    (s.withRoute rt d).get key = s.get key := by
  simp only [List.mem_cons, List.not_mem_nil, or_false, not_or] at hkey
  simp [NodeState.withRoute, hkey]

/-- `{**state, "response_text": text, "response_text_fallback": text, "commands": []}`. -/
def NodeState.withReply (s : NodeState) (text : String) : NodeState :=
  ((s.set "response_text" (.str text)).set "response_text_fallback" (.str text)).withCommands []

theorem NodeState.get_withReply (s : NodeState) (text : String) {key : String}
    (hkey : key ∉ ["response_text", "response_text_fallback"]) :
    (s.withReply text).get key = s.get key := by
  simp only [List.mem_cons, List.not_mem_nil, or_false, not_or] at hkey
  simp [NodeState.withReply, hkey]

/-- The `kind` of a final reply. -/
inductive FinalReplyKind
  | acknowledgement
  | contextualFollowup
  | casualChat
  | clarification
  deriving DecidableEq

namespace RouterSettings

variable (settings : RouterSettings)

/-- `_prepare_final_reply_state`. -/
def prepareFinalReplyState (s : NodeState) (kind : FinalReplyKind) : NodeState :=
  let language := s.language settings.rt
  s.withReply <|
    match kind with
    | .acknowledgement =>
        (acknowledgementReplyText (s.workflowStage settings.rt)).select (settings.rt.lower language)
    | .contextualFollowup => contextualFollowupReplyText settings.rt settings.tables s
    | .casualChat => casualReplyText.select (settings.rt.lower language)
    | .clarification => clarificationReplyText.select (settings.rt.lower language)

/-- `_final_reply_route`. -/
def finalReplyRoute (s : NodeState) (d : RouteDecision) (kind : FinalReplyKind) : NodeState :=
  settings.prepareFinalReplyState (s.withRoute settings.rt { d with route := "final_reply" }) kind

/-! ## Disputes about the backend's conclusion -/

/-- `_is_backend_conclusion_acceptance`. -/
def isBackendConclusionAcceptance (s : NodeState) : Bool :=
  settings.tables.acceptancePattern.found
    (squeeze ",，.!?。！？…" (s.lowerText settings.rt)).toList

/-- `_clear_backend_dispute_on_acceptance`. -/
def clearBackendDisputeOnAcceptance (s : NodeState) : NodeState :=
  if settings.isBackendConclusionAcceptance s then
    s.withSlotMemory (clearBackendDisputeMemory s.slotMemory)
  else s

/-- `_has_dispute_signal`. -/
def hasDisputeSignal (s : NodeState) : Bool :=
  (getKey s.intentResult "emotion").eqText "frustrated" ||
    (getKey s.intentResult "risk_level").eqText "elevated" ||
    settings.tables.disputePattern.found
      (((s.get "raw_user_input").orElse (s.get "rewritten_question")).textOrEmpty
        settings.rt).toList

/-- What `evaluate_backend_dispute` returns, without the state's other keys. -/
structure DisputeEvaluation where
  slotMemory : JsonObject
  count : Int
  shouldHandoff : Bool
  waitingForRecheck : Bool

/-- The dispute is queued behind the recheck that is pending. -/
def queuedDispute (memory : JsonObject) (eventId : Json) : JsonObject :=
  if eventId.isNull then memory.set "backend_recheck_queued_dispute" (.bool true)
  else if (getKey memory "backend_recheck_queued_event_id").textOrEmpty settings.rt =
      eventId.pyStr settings.rt then memory
  else
    (memory.set "backend_recheck_queued_dispute" (.bool true)).set
      "backend_recheck_queued_event_id" eventId

/-- The event was counted before. -/
def isCountedDispute (memory : JsonObject) (eventId : Json) : Bool :=
  !eventId.isNull && decide ((getKey memory "backend_dispute_last_event_id").textOrEmpty
    settings.rt = eventId.pyStr settings.rt)

/-- `state.get("event_id") or state.get("inbound_event_id")`; the second key is no key of a
graph state. -/
def disputeEventId (s : NodeState) : Json :=
  (s.get "event_id").orElse (s.get "inbound_event_id")

/-- The customer disputes a conclusion of the backend. -/
def disputesConclusion (s : NodeState) : Bool :=
  (storedFingerprint s.slotMemory).truthy && settings.hasDisputeSignal s

/-- `evaluate_backend_dispute`. -/
def evaluateBackendDispute (s : NodeState) : Except PyError (Option DisputeEvaluation) :=
  if !settings.disputesConclusion s then .ok none
  else
    let memory := s.slotMemory
    let eventId := disputeEventId s
    if (getKey memory "backend_recheck_pending").truthy then do
      let count ← ((getKey memory "backend_dispute_count").orElse (.int 1)).toInt settings.rt
      pure (some ⟨settings.queuedDispute memory eventId, count, false, true⟩)
    else do
      let count ← (getKey memory "backend_dispute_count").intOrZero settings.rt
      if settings.isCountedDispute memory eventId then
        pure (some ⟨memory, count, decide (2 ≤ count), false⟩)
      else
        let counted := memory.set "backend_dispute_count" (.int (count + 1))
        let counted := if eventId.isNull then counted
          else counted.set "backend_dispute_last_event_id" eventId
        pure (some ⟨counted, count + 1, decide (2 ≤ count + 1), false⟩)

/-- `mark_backend_recheck_pending`. -/
def markBackendRecheckPending (slotMemory : JsonObject) : JsonObject :=
  let marked := (slotMemory.set "backend_recheck_pending" (.bool true)).set
    "backend_recheck_origin_fingerprint" (storedFingerprint slotMemory)
  marked.eraseAll ["backend_recheck_queued_dispute", "backend_recheck_queued_event_id"]

/-- The decision of `_recent_backend_result_dispute_route` on an evaluation. -/
def disputeDecision (evaluation : DisputeEvaluation) : RouteDecision :=
  if evaluation.shouldHandoff then {
    intent := "backend_conclusion_disputed_repeated"
    route := "human_handoff"
    reason := "Customer disputed the same backend conclusion twice."
    confidence := .float (99 / 100) "0.99"
    workflowRelation := some "human_escalation"
    preserveActiveWorkflow := some false }
  else
    let intent := textOr (some ((conclusionIntent evaluation.slotMemory).textOrEmpty settings.rt))
      "withdrawal_blocked_or_rollover"
    { intent := intent
      route := "sop"
      reason := if evaluation.waitingForRecheck then
          "Customer dispute recorded while the backend recheck is pending."
        else
          "Customer disputed the latest backend conclusion once; recheck before escalation."
      confidence := .float (95 / 100) "0.95"
      sopName := some intent
      workflowRelation := some "current_sop_followup"
      preserveActiveWorkflow := some true }

/-- The memory on which `_recent_backend_result_dispute_route` routes. -/
def DisputeEvaluation.routedMemory (evaluation : DisputeEvaluation) : JsonObject :=
  if evaluation.shouldHandoff ∨ evaluation.waitingForRecheck then evaluation.slotMemory
  else markBackendRecheckPending evaluation.slotMemory

/-- `_recent_backend_result_dispute_route`. -/
def recentBackendResultDisputeRoute (s : NodeState) : Except PyError (Option NodeState) := do
  let evaluation? ← settings.evaluateBackendDispute s
  pure <| evaluation?.map fun evaluation =>
    (s.withSlotMemory evaluation.routedMemory).withRoute settings.rt
      (settings.disputeDecision evaluation)

/-! ## Disputes about a result of the staff -/

/-- `_parse_graph_datetime`. -/
def parseGraphDatetime (value : Json) : Option Nat :=
  TurnState.parseDatetime settings.rt value

/-- `timedelta(hours=24)`. -/
def disputeWindow : Nat := seconds (24 * 3600)

/-- The guard of `_recent_authoritative_result_dispute_route`. -/
def disputesRecentResult (s : NodeState) : Bool :=
  !(getKey s.slotMemory "customer_confirmed_resolved").isTrue &&
    match settings.parseGraphDatetime (getKey s.slotMemory "telegram_case_resolved_at"),
        settings.parseGraphDatetime (s.get "occurred_at") with
    | some resolvedAt, some occurredAt =>
        decide (resolvedAt ≤ occurredAt ∧ occurredAt - resolvedAt ≤ disputeWindow) &&
          s.lowerText settings.rt ≠ "" &&
          settings.tables.resultDisputePattern.found (s.lowerText settings.rt).toList
    | _, _ => false

/-- `_recent_authoritative_result_dispute_route`. -/
def recentAuthoritativeResultDisputeRoute (s : NodeState) : Option NodeState :=
  if settings.disputesRecentResult s then
    some (s.withRoute settings.rt {
      intent := "authoritative_result_disputed"
      route := "human_handoff"
      reason := "Customer disputes a recent authoritative Telegram case resolution."
      confidence := .float (99 / 100) "0.99"
      workflowRelation := some "human_escalation"
      preserveActiveWorkflow := some false })
  else none

/-! ## Money cases of other threads -/

/-- `_cross_thread_money_case_route`. -/
def crossThreadMoneyCaseRoute (s : NodeState) (text : String) : Option NodeState :=
  if s.telegramMoneyCaseCandidates.isEmpty then none
  else
    match resolveMoneyCaseFollowup settings.rt settings.tables.toPatternTables settings.services
        s.telegramMoneyCaseCandidates text (getKey s.slotMemory "telegram_message_id") with
    | .none => none
    | .ambiguous =>
        let routed := s.withRoute settings.rt {
          intent := "money_case_followup_ambiguous"
          route := "final_reply"
          reason := "Multiple open money cases require an exact transaction reference."
          confidence := .float (99 / 100) "0.99" }
        some ((routed.set "route_locked" (.bool true)).withReply
          (moneyCaseAmbiguityText settings.rt (s.language settings.rt)))
    | .matched case kind =>
        let confirmed : Bool := kind = .customerConfirmedResolved
        let routed := s.withRoute settings.rt {
          intent := case.intent
          route := "sop"
          reason := if confirmed then
              "Customer confirmed a matched Telegram money case is resolved in another thread."
            else "Customer is following up on a matched Telegram money case from another thread."
          confidence := .float (99 / 100) "0.99"
          sopName := some case.intent
          workflowRelation := some (if confirmed then "current_workflow_resolution"
            else "current_sop_supplement")
          preserveActiveWorkflow := some true }
        let routed := ((routed.set "route_locked" (.bool true)).set "active_workflow"
          (.str case.intent)).set "workflow_stage" (.str "waiting_backend")
        some { routed.withSlotMemory
            (s.slotMemory.set "telegram_internal_case_id" (.int case.id)) with
          matchedTelegramMoneyCase := some case }

/-! ## Images -/

/-- `_image_analysis_from_state`. -/
def imageAnalysis? (s : NodeState) : Option JsonObject :=
  let analyses := (s.get "image_analysis").dict?.toList ++
    s.attachments.filterMap fun item => (getKey item "image_analysis").dict?
  analyses.find? fun analysis => !analysis.isEmpty

/-- What `_candidate_from_image_analysis` tells apart. -/
inductive ImageCandidate
  | deposit
  | withdrawal
  | unknown
  deriving DecidableEq

/-- `_candidate_from_image_analysis`. -/
def candidateFromImageAnalysis (analysis : JsonObject) : ImageCandidate :=
  let intents := match getKey analysis "candidate_intents" with
    | .arr items => items.map (Json.pyStr settings.rt)
    | _ => []
  let receiptKind := settings.rt.lower ((getKey analysis "receipt_kind").textOrEmpty settings.rt)
  if !(getKey analysis "is_receipt_like").truthy then .unknown
  else if receiptKind = "deposit" ∨ "deposit_missing_candidate" ∈ intents then .deposit
  else if receiptKind = "withdrawal" ∨ "withdrawal_missing_candidate" ∈ intents then .withdrawal
  else .unknown

/-- The intent and the question of an image that came alone. -/
def ImageCandidate.question : ImageCandidate → String × String
  | .deposit => ("image_deposit_candidate",
      "我看到这张图片可能是存款凭证。请问你要查询存款未到账或存款相关问题吗？")
  | .withdrawal => ("image_withdrawal_candidate",
      "我看到这张图片可能是提款凭证。请问你要查询提款未到账或提款相关问题吗？")
  | .unknown => ("image_unknown", "我已收到图片。请补充你要咨询的问题，我会继续协助。")

/-- The `receipt_kind` of a candidate. -/
def ImageCandidate.text : ImageCandidate → String
  | .deposit => "deposit"
  | .withdrawal => "withdrawal"
  | .unknown => "unknown"

/-- `_first_image_attachment`. -/
def firstImageAttachment (s : NodeState) : Option JsonObject :=
  s.attachments.find? fun item =>
    "image/".isPrefixOf (((getKey item "content_type").orElse
      (getKey item "mime_type")).textOrEmpty settings.rt) || (getKey item "url").truthy

/-- `_pending_image_candidate_record`. -/
def pendingImageCandidateRecord (s : NodeState) (analysis : JsonObject) (kind : ImageCandidate) :
    JsonObject :=
  let attachment := (settings.firstImageAttachment s).getD ∅
  .ofList [
    ("attachment_url", (getKey analysis "attachment_url").orElse (getKey attachment "url")),
    ("content_type", ((getKey analysis "content_type").orElse
      (getKey attachment "content_type")).orElse (getKey attachment "mime_type")),
    ("candidate_intents", (getKey analysis "candidate_intents").orElse (.arr [])),
    ("candidate_slots", .obj (getKey analysis "candidate_slots").dictOrEmpty),
    ("confidence", getKey analysis "confidence"),
    ("evidence_summary", getKey analysis "evidence_summary"),
    ("is_receipt_like", .bool (getKey analysis "is_receipt_like").truthy),
    ("receipt_kind", .str kind.text)]

/-- The message is a file without a text or a workflow. -/
def isImageAlone (s : NodeState) : Bool :=
  !(s.get "active_workflow").truthy && (s.get "event_type").eqText "FILE_RECEIVED" &&
    strip (s.inputText settings.rt) = ""

/-- `_image_candidate_only_route`, with `_prepare_image_final_reply_state`. -/
def imageCandidateOnlyRoute (s : NodeState) : Option NodeState :=
  if !settings.isImageAlone s then none
  else (imageAnalysis? s).map fun analysis =>
    let candidate := settings.candidateFromImageAnalysis analysis
    let memory := if candidate = .unknown then s.slotMemory
      else s.slotMemory.set "pending_image_candidates"
        (.arr [.obj (settings.pendingImageCandidateRecord s analysis candidate)])
    let result : JsonObject := .ofList [("intent", .str candidate.question.1),
      ("route", .str "final_reply"), ("confidence", getKey analysis "confidence"),
      ("reason",
        .str "Image analysis can only create a candidate and must ask for confirmation.")]
    ((((((s.withSlotMemory memory).set "route" (.str "final_reply")).set "route_source"
      (.str "image_analysis_candidate")).set "image_candidate_only" (.bool true)).set
      "pending_image_confirmation" (.obj analysis)).set "active_workflow" .null).set
      "intent_result" (.obj result) |>.withReply candidate.question.2 |>.withCommands
      [⟨.livechatSendText, .ofList [("text", .str candidate.question.2)], none, none⟩]

/-- `_confirms_image_candidate`. -/
def confirmsImageCandidate (text : String) (kind : ImageCandidate) : Bool :=
  let lower := settings.rt.lower (strip text)
  containsAny lower ["是", "对", "對", "确认", "確認", "帮我查", "查", "yes", "correct", "sí", "si"] &&
    ((if kind = .deposit then
        containsAny lower ["存款", "充值", "deposit", "depósito", "deposito", "recarga"]
      else containsAny lower ["提款", "提现", "withdraw", "withdrawal", "retiro"]) ||
      decide (lower.toList.length ≤ 16))

/-- `_has_sop_key_material`. -/
def hasSopKeyMaterial (text : String) : Bool :=
  (extractIdentity settings.rt settings.tables text).isSome ||
    (extractOrderId settings.tables text).isSome || (extractAmount settings.tables text).isSome

/-- The last of the images that wait for a confirmation. -/
def pendingImageCandidate? (s : NodeState) : Option JsonObject :=
  match getKey s.slotMemory "pending_image_candidates" with
  | .arr items => (items.filterMap Json.dict?).getLast?
  | _ => none

/-- `_promote_pending_image_candidate_route`. -/
def promotePendingImageCandidateRoute (s : NodeState) (text : String) : Option NodeState :=
  if (s.get "active_workflow").truthy then none
  else
    match pendingImageCandidate? s with
    | none => none
    | some candidate =>
        let kind := settings.candidateFromImageAnalysis candidate
        if kind = .unknown ∨
            !(settings.confirmsImageCandidate text kind || settings.hasSopKeyMaterial text) then
          none
        else
          let intent := if kind = .deposit then "deposit_missing" else "withdrawal_missing"
          let url := (getKey candidate "attachment_url").orElse (getKey candidate "url")
          let verified : Json := .obj (.ofList [("url", url), ("receipt_kind", .str kind.text),
            ("verified_receipt_attachment", .bool true),
            ("source", .str "image_candidate_confirmation")])
          let receipts : Json := .arr (if url.truthy then [verified] else [])
          let memory := s.slotMemory.set "verified_receipt_attachments" receipts
          let memory := if url.truthy then
              (memory.set "receipt_screenshot" url).set
                (if kind = .deposit then "deposit_screenshot" else "withdrawal_screenshot") url
            else memory
          some (((s.withSlotMemory memory).set "verified_receipt_attachments" receipts).withRoute
            settings.rt {
              intent := intent
              route := "sop"
              reason := "Customer confirmed an image candidate or supplied SOP key material " ++
                "after image analysis."
              sopName := some intent
              workflowRelation := some "current_workflow_supplement"
              preserveActiveWorkflow := some true })

/-! ## Problems for a human -/

/-- `_forgot_password_followup_route`: the tutorial did not help. -/
def passwordResetFailed (s : NodeState) : Bool :=
  (s.get "active_workflow").eqText "forgot_password_howto" &&
    (s.get "workflow_stage").eqText "awaiting_password_reset_result" &&
    ((s.get "event_type").eqText "FILE_RECEIVED" && (s.get "attachments").truthy ||
      RouteText.resetStillFailed (s.lowerText settings.rt))

/-- `_forgot_password_followup_route`. -/
def forgotPasswordFollowupRoute (s : NodeState) : Option NodeState :=
  if settings.passwordResetFailed s then
    some (s.withRoute settings.rt {
      intent := "forgot_password_followup_failed"
      route := "human_handoff"
      reason := "Customer still cannot access the account after the forgot-password tutorial."
      confidence := .float (98 / 100) "0.98"
      workflowRelation := some "human_escalation"
      preserveActiveWorkflow := some false })
  else none

/-- `ACTIVE_WORKFLOW_GUARD_STAGES`. -/
def activeWorkflowGuardStages : List String :=
  ["waiting_backend", "backend_querying", "backend_replied", "collecting_slots",
    "lookup_pending_reply"]

/-- A workflow is active in one of the guarded stages. -/
def isGuardedWorkflow (s : NodeState) : Bool :=
  (s.get "active_workflow").truthy &&
    activeWorkflowGuardStages.any (s.get "workflow_stage").eqText

end RouterSettings

end AiCustomerService
