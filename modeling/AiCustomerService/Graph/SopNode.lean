import AiCustomerService.Workflows.SopHandlers

/-!
# The node of a workflow

The node that `make_sop_node` of `app/graph/nodes.py` builds: a language model may plan the
slots of a message before `sop_node` handles it.
-/

namespace AiCustomerService

open Support

/-- What a method of the service of the language model does on a call. -/
inductive PlannerAnswer
  | missingMethod
  | raised
  | answered (output : JsonObject)

/-- The service of the slots: its planner of dialogues, its older extractor of slots, and the
settings of the node. -/
structure SlotService where
  enabled : Bool
  minConfidence : ℚ
  planSopDialogue : NodeState → PlannerAnswer
  extractSopSlots : NodeState → PlannerAnswer

namespace SopSettings

variable (settings : SopSettings)

/-- The intent of the route, as text. -/
def routedIntent (s : NodeState) : String :=
  (getKey s.intentResult "intent").pyStr settings.rt

/-! ## The planner of dialogues -/

/-- The state on which `validate_sop_dialogue_planner_output` plans: the text of the planner's
payload, which is the rewritten one, stands for the text of the customer. -/
def validatorState (s : NodeState) : NodeState where
  values := .ofList [("raw_user_input", .str (s.inputText settings.rt)),
    ("rewritten_question", .str (s.inputText settings.rt)), ("slot_memory", .obj s.slotMemory),
    ("attachments", attachmentsSummary), ("attachments_summary", attachmentsSummary)]
  commands := []
  telegramMoneyCaseCandidates := []
  matchedTelegramMoneyCase := none
where
  /-- `_attachments_summary` of the planner. -/
  attachmentsSummary : Json :=
    .arr (s.attachments.map fun item =>
      let source := (verifiedReceiptAttachment settings.rt (settings.routedIntent s) item).getD item
      .obj ⟨(["url", "name", "mime_type", "content_type", "image_analysis_status",
        "image_candidate_id", "verified_receipt_attachment", "receipt_kind"].map fun key =>
          (key, getKey source key)).filter fun entry => !entry.2.isNull⟩)

/-- `normalized` of `validate_sop_dialogue_planner_output`. -/
def normalizedPlan (output : JsonObject) : Except PyError JsonObject := do
  let extracted ← (getKey output "extracted_slots").mappingOrEmpty
  let updates ← plannedUpdates output
  let confidence ← plannedConfidence output
  let reason ← requireStr settings.rt output "reason" "sop dialogue planner"
  pure (.ofList [("status", .str "accepted"),
    ("intent_relation",
      .str ((optionalStr settings.rt (getKey output "intent_relation")).getD "unclear")),
    ("extracted_slots", .obj extracted), ("slot_updates", .obj updates),
    ("slot_confidence", .obj confidence),
    ("missing_slots", .arr ((stringList settings.rt (getKey output "missing_slots")).map .str)),
    ("should_ask_confirmation", .bool (getKey output "should_ask_confirmation").truthy),
    ("reply_draft", .str ((getKey output "reply_draft").textOrEmpty settings.rt)),
    ("reason", .str reason)])

/-- `validate_sop_dialogue_planner_output`. -/
def validateSopDialoguePlannerOutput (s : NodeState) (output : JsonObject) :
    Except PyError SopDialoguePlan := do
  let normalized ← settings.normalizedPlan output
  applyLlmSopPlan settings.rt settings.tables (settings.validatorState s)
    (settings.routedIntent s) normalized

/-- `slot_memory[key] = value`, for the values of a plan that are not empty. -/
def mergeUpdates (slotMemory updates : JsonObject) : JsonObject :=
  updates.entries.foldl (fun memory entry =>
    if entry.2.truthy then memory.set entry.1 entry.2 else memory) slotMemory

/-- `_sop_dialogue_plan_summary` of an accepted plan. -/
def acceptedPlanSummary (plan : SopDialoguePlan) : Json :=
  .obj (.ofList [("status", .str "accepted"), ("intent_relation", .str plan.intentRelation),
    ("slot_updates", .obj plan.slotUpdates), ("slot_confidence", .obj plan.slotConfidence),
    ("missing_slots", .arr (plan.missingSlots.map .str)),
    ("should_ask_confirmation", .bool plan.shouldAskConfirmation),
    ("reply_draft", .str plan.replyDraft), ("reason", .str plan.reason),
    ("dropped_slots", .arr (plan.droppedSlots.map .str))])

/-- `_sop_slot_fallback_state`; with `plan`, the summary of a dialogue plan that was refused. -/
def slotFallbackState (s : NodeState) (reason : String) (plan : Bool) : NodeState :=
  let summary : Json :=
    .obj (.ofList [("status", .str "fallback"), ("fallback_reason", .str reason)])
  let next := (s.set "llm_sop_slot_result" summary).set "sop_slot_source" (.str "deterministic")
  if plan then next.set "llm_sop_dialogue_plan" summary else next

/-- `_run_sop_dialogue_planning`. -/
def runSopDialoguePlanning (service : SlotService) (s : NodeState) : NodeState :=
  let accept (output : JsonObject) : Except PyError NodeState := do
    let plan ← settings.validateSopDialoguePlannerOutput s output
    if ← hasConfidenceBelow settings.rt plan.slotUpdates plan.slotConfidence 0
        service.minConfidence then
      pure (slotFallbackState s "low_confidence" true)
    else
      pure ((((s.withSlotMemory (mergeUpdates s.slotMemory plan.slotUpdates)).set
        "llm_sop_dialogue_plan" (acceptedPlanSummary plan)).set "llm_sop_slot_result"
        (.obj (.ofList [("status", .str "accepted"), ("intent", .str (settings.routedIntent s)),
          ("missing_slots", .arr (plan.missingSlots.map .str)),
          ("confidence", .obj plan.slotConfidence), ("reason", .str plan.reason),
          ("dropped_slots", .arr (plan.droppedSlots.map .str))]))).set "sop_slot_source"
        (.str "llm_dialogue_planner"))
  match service.planSopDialogue s with
  | .missingMethod => s
  | .raised => slotFallbackState s "exception" true
  | .answered output =>
      match accept output with
      | .ok next => next
      | .error (.valueError _) => slotFallbackState s "validation_error" true
      | .error _ => slotFallbackState s "exception" true

/-! ## The older extractor -/

/-- `SOP_SLOT_FIELDS`. -/
def sopSlotFields : List String :=
  ["account_or_phone", "amount", "payment_channel", "order_id", "deposit_screenshot",
    "withdrawal_screenshot"]

/-- `_visible_sop_text`. -/
def visibleSopText (s : NodeState) : String :=
  settings.rt.lower ("\n".intercalate (strip (s.inputText settings.rt) ::
    s.recentMessages.map fun message =>
      (((getKey message "text_content").orElse (getKey message "text")).orElse
        (getKey message "content")).textOrEmpty settings.rt))

/-- `_text_value_is_visible`. -/
def textValueIsVisible (value visibleText : String) : Bool :=
  let digits := value.toList.filter settings.tables.isDigit
  textContains visibleText (settings.rt.lower value) ||
    !digits.isEmpty && textContains (String.ofList
      (visibleText.toList.filter settings.tables.isDigit)) (String.ofList digits)

/-- `_allowed_attachment_urls` of the guardrails. -/
def allowedSummaryUrls (s : NodeState) : List String :=
  (s.attachments.filter fun item => (getKey item "url").truthy &&
      (getKey item "verified_receipt_attachment").truthy).map
    (fun item => (getKey item "url").pyStr settings.rt) ++
  (["deposit_screenshot", "withdrawal_screenshot"].filter fun key =>
      (getKey s.slotMemory key).truthy).map fun key => (getKey s.slotMemory key).pyStr settings.rt

/-- A value that `validate_sop_slot_extraction_output` does not drop; the node refuses an answer
of which a field was dropped. -/
def isExtractable (s : NodeState) (key value : String) : Bool :=
  sopSlotFields.contains key &&
    if key = "deposit_screenshot" ∨ key = "withdrawal_screenshot" then
      (settings.allowedSummaryUrls s).contains value
    else settings.textValueIsVisible value (settings.visibleSopText s)

/-- `_run_legacy_sop_slot_extraction`. -/
def runLegacySopSlotExtraction (service : SlotService) (s : NodeState) : NodeState :=
  let accept (output : JsonObject) : Except PyError NodeState := do
    let intent ← requireStr settings.rt output "intent" "sop slot extraction"
    refuseWhen (decide (intent ≠ settings.routedIntent s)) "SOP slot extraction intent mismatch"
    let reason ← requireStr settings.rt output "reason" "sop slot extraction"
    let extracted ← (getKey output "extracted_slots").mappingOrEmpty
    let confidence ← (getKey output "confidence").mappingOrEmpty
    let values := extracted.entries.filterMap fun entry =>
      (optionalStr settings.rt entry.2).map fun value => (entry.1, value)
    let isLow (entry : String × String) : Bool :=
      decide (normalizeConfidence settings.rt (getKey confidence entry.1) < service.minConfidence)
    if extracted.entries.any (fun entry => !sopSlotFields.contains entry.1) ||
        values.any (fun entry => !settings.isExtractable s entry.1 entry.2 || isLow entry) then
      pure (slotFallbackState s "guardrail_or_low_confidence" false)
    else
      let updates : JsonObject := .ofList (values.map fun entry => (entry.1, .str entry.2))
      pure (((s.withSlotMemory (mergeUpdates s.slotMemory updates)).set "llm_sop_slot_result"
        (.obj (.ofList [("status", .str "accepted"), ("intent", .str intent),
          ("confidence", .obj ⟨values.map fun entry => (entry.1,
            let number := normalizeConfidence settings.rt (getKey confidence entry.1)
            .float number (settings.rt.reprFloat number))⟩),
          ("reason", .str reason)]))).set "sop_slot_source" (.str "llm_guarded"))
  match service.extractSopSlots s with
  | .missingMethod => s
  | .raised => slotFallbackState s "exception" false
  | .answered output => (accept output).toOption.getD (slotFallbackState s "exception" false)

/-! ## The node -/

/-- `hasattr(service, method)`. -/
def hasMethod : PlannerAnswer → Bool
  | .missingMethod => false
  | _ => true

/-- `_should_run_sop_slot_extraction`. -/
def shouldRunSlotExtraction (service : SlotService) (s : NodeState) : Bool :=
  service.enabled &&
    (hasMethod (service.planSopDialogue s) || hasMethod (service.extractSopSlots s)) &&
    (s.get "route").eqText "sop" &&
    imageCollectionSops.any (getKey s.intentResult "intent").eqText &&
    !(["waiting_backend", "backend_querying"].any (s.get "workflow_stage").eqText)

/-- `_run_sop_slot_extraction`. -/
def runSopSlotExtraction (service : SlotService) (s : NodeState) : NodeState :=
  if hasMethod (service.planSopDialogue s) then
    let planned := settings.runSopDialoguePlanning service s
    if (planned.get "sop_slot_source").eqText "llm_dialogue_planner" then planned
    else settings.runLegacySopSlotExtraction service planned
  else settings.runLegacySopSlotExtraction service s

/-- The state that reaches `sop_node`. -/
def withPlannedSlots (service : SlotService) (s : NodeState) : NodeState :=
  if shouldRunSlotExtraction service s then settings.runSopSlotExtraction service s else s

/-! ## What the planning of slots leaves alone -/

/-- The keys that the planning of slots sets. -/
def plannedKeys : List String :=
  ["slot_memory", "llm_sop_dialogue_plan", "llm_sop_slot_result", "sop_slot_source"]

/-- The state differs from another one in what was planned. -/
structure PlansSlots (s r : NodeState) : Prop where
  get : SetsOnly plannedKeys s r
  commands : r.commands = s.commands
  candidates : r.telegramMoneyCaseCandidates = s.telegramMoneyCaseCandidates
  matchedCase : r.matchedTelegramMoneyCase = s.matchedTelegramMoneyCase

namespace PlansSlots

variable {s t r : NodeState}

theorem refl (s : NodeState) : PlansSlots s s := ⟨.refl _ s, rfl, rfl, rfl⟩

theorem trans (hst : PlansSlots s t) (htr : PlansSlots t r) : PlansSlots s r where
  get := hst.get.trans htr.get
  commands := htr.commands.trans hst.commands
  candidates := htr.candidates.trans hst.candidates
  matchedCase := htr.matchedCase.trans hst.matchedCase

theorem set (h : PlansSlots s t) {key : String} (value : Json) (hkey : key ∈ plannedKeys) :
    PlansSlots s (t.set key value) where
  get := h.get.set value hkey
  commands := h.commands
  candidates := h.candidates
  matchedCase := h.matchedCase

theorem withSlotMemory (h : PlansSlots s t) (memory : JsonObject) :
    PlansSlots s (t.withSlotMemory memory) :=
  h.set _ (by decide)

theorem slotFallbackState (h : PlansSlots s t) (reason : String) (plan : Bool) :
    PlansSlots s (slotFallbackState t reason plan) := by
  have hnext := (h.set (.obj (.ofList [("status", .str "fallback"),
    ("fallback_reason", .str reason)])) (by decide : "llm_sop_slot_result" ∈ plannedKeys)).set
    (.str "deterministic") (by decide : "sop_slot_source" ∈ plannedKeys)
  unfold SopSettings.slotFallbackState
  cases plan with
  | true => exact hnext.set _ (by decide)
  | false => exact hnext

end PlansSlots

theorem toOption_getD_of {ε α : Type} {P : α → Prop} {result : Except ε α} {fallback : α}
    (hresult : ∀ value, result = .ok value → P value) (hfallback : P fallback) :
    P (result.toOption.getD fallback) := by
  cases result with
  | error _ => exact hfallback
  | ok value => exact hresult value rfl

theorem runSopDialoguePlanning_plans (service : SlotService) (s : NodeState) :
    PlansSlots s (settings.runSopDialoguePlanning service s) := by
  have hs := PlansSlots.refl s
  unfold runSopDialoguePlanning
  simp only
  split
  · exact hs
  · exact hs.slotFallbackState _ _
  · split
    · rename_i next haccept
      obtain ⟨plan, -, haccept⟩ := bind_eq_ok.mp haccept
      obtain ⟨low, -, haccept⟩ := bind_eq_ok.mp haccept
      cases low with
      | true =>
          cases haccept
          exact hs.slotFallbackState _ _
      | false =>
          cases haccept
          exact (((hs.withSlotMemory _).set _ (by decide)).set _ (by decide)).set _ (by decide)
    · exact hs.slotFallbackState _ _
    · exact hs.slotFallbackState _ _

theorem runLegacySopSlotExtraction_plans (service : SlotService) (s : NodeState) :
    PlansSlots s (settings.runLegacySopSlotExtraction service s) := by
  have hs := PlansSlots.refl s
  unfold runLegacySopSlotExtraction
  simp only
  split
  · exact hs
  · exact hs.slotFallbackState _ _
  · refine toOption_getD_of (fun next haccept => ?_) (hs.slotFallbackState _ _)
    obtain ⟨intent, -, haccept⟩ := bind_eq_ok.mp haccept
    obtain ⟨_, -, haccept⟩ := bind_eq_ok.mp haccept
    obtain ⟨reason, -, haccept⟩ := bind_eq_ok.mp haccept
    obtain ⟨extracted, -, haccept⟩ := bind_eq_ok.mp haccept
    obtain ⟨confidence, -, haccept⟩ := bind_eq_ok.mp haccept
    split at haccept
    · cases haccept
      exact hs.slotFallbackState _ _
    · cases haccept
      exact ((hs.withSlotMemory _).set _ (by decide)).set _ (by decide)

theorem withPlannedSlots_plans (service : SlotService) (s : NodeState) :
    PlansSlots s (settings.withPlannedSlots service s) := by
  unfold withPlannedSlots
  split
  · unfold runSopSlotExtraction
    split
    · simp only
      split
      · exact settings.runSopDialoguePlanning_plans service s
      · exact (settings.runSopDialoguePlanning_plans service s).trans
          (settings.runLegacySopSlotExtraction_plans service _)
    · exact settings.runLegacySopSlotExtraction_plans service s
  · exact .refl s

/-- The node of `make_sop_node`. -/
def llmSopNode (service : SlotService) (s : NodeState) : Except PyError NodeState :=
  settings.sopNode (settings.withPlannedSlots service s)

end SopSettings

end AiCustomerService
