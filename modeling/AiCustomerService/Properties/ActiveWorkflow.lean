import AiCustomerService.Graph.Frames
import AiCustomerService.Graph.InitialState
import AiCustomerService.Graph.RouterDecisions

/-!
# The workflow that is kept

What a run of the graph leaves of the workflow that is active when the message comes.
-/

namespace AiCustomerService

open Support

/-- The state has a stage of a workflow. -/
def NodeState.hasStage (s : NodeState) : Bool := hasText (s.get "workflow_stage").str?

/-- The state names the workflow, and has not lost the stage of the other one. -/
structure KeepsWorkflow (s : NodeState) (active : String) (r : NodeState) : Prop where
  activeWorkflow : r.get "active_workflow" = .str active
  workflowStage : s.hasStage = true → r.hasStage = true

theorem hasText_orElse {value : Json} (other : Json) (h : hasText value.str? = true) :
    hasText (value.orElse other).str? = true := by
  cases value with
  | str text =>
      have htruthy : (Json.str text).truthy = true := by
        simpa [Json.str?] using h
      rwa [Json.orElse, if_pos htruthy]
  | _ => simp [Json.str?] at h

namespace KeepsWorkflow

variable {s t r : NodeState} {active : String}

theorem refl (hactive : s.get "active_workflow" = .str active) : KeepsWorkflow s active s :=
  ⟨hactive, id⟩

theorem trans (hst : KeepsWorkflow s active t) (htr : KeepsWorkflow t active r) :
    KeepsWorkflow s active r :=
  ⟨htr.activeWorkflow, fun hstage => htr.workflowStage (hst.workflowStage hstage)⟩

theorem atStage (s t : NodeState) (workflow : String) {stage : String} (hstage : stage ≠ "") :
    KeepsWorkflow s workflow (SopSettings.atStage t workflow stage) := by
  refine ⟨by simp [SopSettings.atStage], fun _ => ?_⟩
  simp [NodeState.hasStage, SopSettings.atStage, Json.str?, hstage]

theorem withReply (h : KeepsWorkflow s active t) (text : String) :
    KeepsWorkflow s active (t.withReply text) := by
  refine ⟨?_, fun hstage => ?_⟩
  · rw [NodeState.get_withReply _ _ (by decide), h.activeWorkflow]
  · rw [NodeState.hasStage, NodeState.get_withReply _ _ (by decide)]
    exact h.workflowStage hstage

theorem withCommands (h : KeepsWorkflow s active t) (commands : List WorkflowCommand) :
    KeepsWorkflow s active (t.withCommands commands) :=
  ⟨h.activeWorkflow, h.workflowStage⟩

theorem set (h : KeepsWorkflow s active t) {key : String} (value : Json)
    (hkey : key ∉ ["active_workflow", "workflow_stage"]) :
    KeepsWorkflow s active (t.set key value) := by
  simp only [List.mem_cons, List.not_mem_nil, or_false, not_or] at hkey
  refine ⟨?_, fun hstage => ?_⟩
  · rw [NodeState.get_set, if_neg (Ne.symm hkey.1), h.activeWorkflow]
  · rw [NodeState.hasStage, NodeState.get_set, if_neg (Ne.symm hkey.2)]
    exact h.workflowStage hstage

theorem withStage (h : KeepsWorkflow s active t) {stage : Json}
    (hstage : s.hasStage = true → hasText stage.str? = true) :
    KeepsWorkflow s active (t.set "workflow_stage" stage) := by
  refine ⟨?_, fun hs => ?_⟩
  · rw [NodeState.get_set, if_neg (by decide), h.activeWorkflow]
  · rw [NodeState.hasStage, NodeState.get_set, if_pos rfl]
    exact hstage hs

theorem withSlotMemory (h : KeepsWorkflow s active t) (memory : JsonObject) :
    KeepsWorkflow s active (t.withSlotMemory memory) :=
  h.set _ (by decide)

theorem declared (h : KeepsWorkflow s active t) : KeepsWorkflow s active t.declared := by
  refine ⟨?_, fun hstage => ?_⟩
  · rw [NodeState.get_declared, if_pos (by decide), h.activeWorkflow]
  · rw [NodeState.hasStage, NodeState.get_declared, if_pos (by decide)]
    exact h.workflowStage hstage

theorem ite {condition : Prop} [Decidable condition] (ht : KeepsWorkflow s active t)
    (hr : KeepsWorkflow s active r) : KeepsWorkflow s active (if condition then t else r) := by
  split
  · exact ht
  · exact hr

theorem of_stage (hstage : s.hasStage = true → t.hasStage = true) (h : KeepsWorkflow t active r) :
    KeepsWorkflow s active r :=
  ⟨h.activeWorkflow, fun hs => h.workflowStage (hstage hs)⟩

end KeepsWorkflow

namespace SopSettings

variable {settings : SopSettings} {s r : NodeState} {active : String}

/-! ## The handler of a waiting customer -/

/-- A customer who waits says that the matter is resolved. -/
def confirmsResolution (settings : SopSettings) (s : NodeState) : Bool :=
  match planSopDialogueFromState settings.rt settings.tables s (s.activeWorkflow settings.rt) with
  | .ok plan =>
      (waitingRelation s plan).eqText "current_workflow_resolution" &&
        settings.hasResolutionSignal s plan.slotMemory
  | .error _ => false

/-- Without the time of the event no supplement counts as delayed. -/
theorem isDelayed_of_no_date (rt : Runtime) (hdate : s.get "occurred_at" = .null)
    (memory : JsonObject) :
    isDelayedSupplementForResolvedCase rt (turnState s) memory = false := by
  have hnone : TurnState.parseDatetime rt (turnState s).occurredAt = none := by
    simp [turnState, hdate, TurnState.parseDatetime]
  unfold isDelayedSupplementForResolvedCase
  rw [hnone]
  cases TurnState.parseDatetime rt (getKey memory "telegram_case_resolved_at") with
  | none => rfl
  | some resolvedAt => rfl

theorem keeps_waitingReply (h : KeepsWorkflow s active s) (memory : JsonObject) (text : String) :
    KeepsWorkflow s active (waitingReply s memory text) :=
  ((h.withSlotMemory memory).withStage fun _ => by simp [Json.str?]).withReply text

theorem keeps_buildHandoffState (h : KeepsWorkflow s active s) (memory : JsonObject)
    (reason : String) : KeepsWorkflow s active (buildHandoffState s memory reason) :=
  (((h.withSlotMemory memory).set _ (by decide)).withReply _).withCommands _

theorem keeps_supplementState (h : KeepsWorkflow s active s) (memory : JsonObject)
    (plan : SopDialoguePlan) : KeepsWorkflow s active (settings.supplementState s memory plan) := by
  unfold supplementState
  split
  · rename_i hblocked
    have htext : s.activeWorkflow settings.rt = active := by
      simp only [NodeState.activeWorkflow, h.activeWorkflow, Json.textOrEmpty, Json.orElse,
        Json.truthy_str]
      by_cases hempty : active = ""
      · simp [hempty, Json.pyStr]
      · simp [hempty, Json.pyStr]
    rw [htext] at hblocked
    rw [hblocked.1]
    exact (KeepsWorkflow.atStage _ _ _ (by decide)).withCommands _
  · split
    · exact (keeps_waitingReply h _ _).withCommands _
    · split
      · exact keeps_buildHandoffState h _ _
      · exact keeps_waitingReply h _ _

theorem keeps_idleState (hs : KeepsWorkflow s active s) {memory : JsonObject}
    {plan : SopDialoguePlan} (h : settings.idleState s memory plan = .ok r) :
    KeepsWorkflow s active r := by
  unfold idleState at h
  simp only at h
  split at h
  · cases h
    exact keeps_buildHandoffState hs _ _
  · split at h
    · cases h
      exact keeps_waitingReply hs _ _
    · split at h
      · cases h
        exact keeps_buildHandoffState hs _ _
      · split at h
        · obtain ⟨⟨counted, count⟩, -, h⟩ := bind_eq_ok.mp h
          simp only at h
          split at h
          · cases h
            exact keeps_buildHandoffState hs _ _
          · cases h
            exact keeps_waitingReply hs _ _
        · cases h
          exact keeps_waitingReply hs _ _

theorem activeWorkflow_completedState (s : NodeState) (memory : JsonObject) (texts : ReplyTexts) :
    (settings.completedState s memory texts).get "active_workflow" = .null := by
  simp [completedState, NodeState.withReply]

theorem activeWorkflow_resolvedState {memory : JsonObject}
    (h : settings.resolvedState s memory = .ok r) : r.get "active_workflow" = .null := by
  unfold resolvedState at h
  simp only at h
  split at h
  · cases h
    exact activeWorkflow_completedState s _ _
  · obtain ⟨caseId, -, h⟩ := bind_eq_ok.mp h
    cases h
    rw [withCaseUpdate, NodeState.get_set, if_neg (by decide), activeWorkflow_completedState]

theorem keeps_moneyCaseFollowupState (hactive : s.get "active_workflow" = .str active)
    {case : MoneyCase} (hcase : case.intent = active) (memory : JsonObject) (urls : List Json)
    (updates : JsonObject) :
    KeepsWorkflow s active (settings.moneyCaseFollowupState s memory case urls updates) := by
  have horElse : (Json.str case.intent).orElse (s.get "active_workflow") = .str active := by
    rw [hcase, hactive, Json.orElse]
    split
    · rfl
    · rfl
  have hreminded (t : NodeState) (text : String) (commands : List WorkflowCommand) :
      KeepsWorkflow s active ((((t.set "active_workflow" (.str active)).set "workflow_stage"
        (.str "waiting_backend")).withReply text).withCommands commands) := by
    refine KeepsWorkflow.withCommands (KeepsWorkflow.withReply ⟨?_, fun _ => ?_⟩ _) _
    · simp
    · simp [NodeState.hasStage, Json.str?]
  unfold moneyCaseFollowupState
  simp only [horElse]
  split
  · exact (hreminded _ _ _).set _ (by decide)
  · exact hreminded _ _ _

/-- The handler ends the workflow of a confirmed resolution, and keeps every other one. -/
theorem keeps_handleWaitingBackend (hactive : s.get "active_workflow" = .str active)
    (hdate : s.get "occurred_at" = .null)
    (hcase : ∀ case, s.matchedTelegramMoneyCase = some case → case.intent = active)
    (h : settings.handleWaitingBackend s = .ok r) :
    if settings.confirmsResolution s = true then r.get "active_workflow" = .null
    else KeepsWorkflow s active r := by
  have hs := KeepsWorkflow.refl hactive
  obtain ⟨plan, hplan, h⟩ := bind_eq_ok.mp h
  simp only [isDelayed_of_no_date settings.rt hdate, Bool.false_eq_true, if_false] at h
  have hconfirms : settings.confirmsResolution s =
      ((waitingRelation s plan).eqText "current_workflow_resolution" &&
        settings.hasResolutionSignal s plan.slotMemory) := by
    rw [confirmsResolution, hplan]
  rw [hconfirms]
  split at h
  · rename_i hresolved
    rw [if_pos hresolved]
    exact activeWorkflow_resolvedState h
  · rename_i hresolved
    rw [if_neg hresolved]
    split at h
    · cases h
      exact ((hs.withSlotMemory _).withStage fun hstage => hasText_orElse _ hstage).withReply _
    · split at h
      · cases h
        exact ((hs.withSlotMemory _).withStage fun hstage => hasText_orElse _ hstage).withReply _
      · split at h
        · rename_i case hmatched
          cases h
          exact keeps_moneyCaseFollowupState hactive (hcase case hmatched) _ _ _
        · split at h
          · cases h
            exact keeps_supplementState hs _ plan
          · exact keeps_idleState hs h

/-! ## Collecting slots -/

theorem keeps_moneyMissingSop {intent : String} (h : settings.moneyMissingSop s intent = .ok r) :
    KeepsWorkflow s intent r := by
  obtain ⟨plan, -, h⟩ := bind_eq_ok.mp h
  have hstates (c : Bool) (t t' : NodeState) :
      (if c = true then pure (atStage t intent "waiting_backend")
        else pure (atStage t' intent "collecting_slots") : Except PyError NodeState) = .ok r →
      KeepsWorkflow s intent r := by
    intro h
    cases c with
    | true =>
        cases h
        exact .atStage _ _ _ (by decide)
    | false =>
        cases h
        exact .atStage _ _ _ (by decide)
  exact hstates _ _ _ h

theorem keeps_withdrawalBlockedSop (s : NodeState) :
    KeepsWorkflow s "withdrawal_blocked_or_rollover" (settings.withdrawalBlockedSop s) := by
  unfold withdrawalBlockedSop
  simp only
  split
  · exact (KeepsWorkflow.atStage _ _ _ (by decide)).withReply _
  · split
    · exact (KeepsWorkflow.atStage _ _ _ (by decide)).withReply _
    · exact (KeepsWorkflow.atStage _ _ _ (by decide)).withCommands _

theorem keeps_pendingReplyLookupSop (s : NodeState) :
    KeepsWorkflow s "pending_reply_lookup" (settings.pendingReplyLookupSop s) := by
  unfold pendingReplyLookupSop
  dsimp only
  have hcollecting : "collecting_slots" ≠ "" := by decide
  have hlookup : "lookup_pending_reply" ≠ "" := by decide
  exact KeepsWorkflow.ite ((KeepsWorkflow.atStage _ _ _ hcollecting).withReply _)
    (((KeepsWorkflow.atStage _ _ _ hlookup).withReply _).withCommands _)

/-- The handlers of a new message set the workflow of their intent. -/
theorem keeps_runSop (hactive : s.get "active_workflow" = .str active)
    (h : settings.runSop s = .ok r) :
    (∃ intent ∈ sopIntents, getKey s.intentResult "intent" = .str intent ∧
        KeepsWorkflow s intent r) ∨
      (∀ intent ∈ sopIntents, getKey s.intentResult "intent" ≠ .str intent) ∧
        KeepsWorkflow s active r := by
  unfold runSop at h
  split at h
  · rename_i hintent
    exact .inl ⟨_, by decide, Json.str?_eq_some.mp hintent, keeps_moneyMissingSop h⟩
  · rename_i hintent
    exact .inl ⟨_, by decide, Json.str?_eq_some.mp hintent, keeps_moneyMissingSop h⟩
  · rename_i hintent
    obtain rfl := Except.ok.inj h
    exact .inl ⟨_, by decide, Json.str?_eq_some.mp hintent, keeps_withdrawalBlockedSop s⟩
  · rename_i hintent
    obtain rfl := Except.ok.inj h
    exact .inl ⟨_, by decide, Json.str?_eq_some.mp hintent, keeps_pendingReplyLookupSop s⟩
  · rename_i h1 h2 h3 h4
    obtain rfl := Except.ok.inj h
    refine .inr ⟨?_, ((KeepsWorkflow.refl hactive).withReply _).withCommands _⟩
    intro intent hmem hintent
    rw [hintent] at h1 h2 h3 h4
    simp only [sopIntents, List.mem_cons, List.not_mem_nil, or_false] at hmem
    rcases hmem with rfl | rfl | rfl | rfl
    · exact h1 rfl
    · exact h2 rfl
    · exact h3 rfl
    · exact h4 rfl

end SopSettings

/-! ## The nodes of the graph -/

namespace SameWorkflow

variable {s t : NodeState}

theorem declared (h : SameWorkflow s t) : SameWorkflow s t.declared :=
  h.trans ⟨by rw [NodeState.get_declared, if_pos (by decide)],
    by rw [NodeState.get_declared, if_pos (by decide)], rfl⟩

theorem withCommands (h : SameWorkflow s t) (commands : List WorkflowCommand) :
    SameWorkflow s (t.withCommands commands) :=
  h.trans ⟨rfl, rfl, rfl⟩

end SameWorkflow

namespace GraphServices

variable {services : GraphServices} {s t r input routed result : NodeState} {active : String}

theorem businessButtonState_same {base : NodeState} (h : SameWorkflow s base) (buttonId : String)
    (target : String × String × Option String) :
    SameWorkflow s (businessButtonState s base buttonId target) := by
  obtain ⟨intent, route, query⟩ := target
  exact ((h.set _ (by decide)).set _ (by decide)).set _ (by decide)

theorem applyMenuButtonRoute_same (h : services.applyMenuButtonRoute s = some r) :
    SameWorkflow s r := by
  obtain ⟨buttonId, -, h⟩ := Option.bind_eq_some_iff.mp h
  have hbase (memory : JsonObject) (rewritten result : Json) : SameWorkflow s
      (((((s.withSlotMemory memory).set "rewritten_question" rewritten).set "rewrite_result"
        result).set "rewrite_source" (.str "livechat_button")).set "route_locked" (.bool true)) :=
    ((((SameWorkflow.refl s).withSlotMemory _).set _ (by decide)).set _ (by decide)).set _
      (by decide) |>.set _ (by decide)
  simp only at h
  split at h
  · cases h
    exact ((((hbase _ _ _).set _ (by decide)).set _ (by decide)).set _ (by decide)).withCommands _
  · obtain ⟨target, -, rfl⟩ := Option.map_eq_some_iff.mp h
    exact businessButtonState_same (hbase _ _ _) buttonId target

theorem Rewrites.same (h : Rewrites services s r) : SameWorkflow s r := by
  have hkeys : ∀ key ∈ rewriteKeys, key ∉ ["active_workflow", "workflow_stage"] := by decide
  induction h with
  | pressed hbutton => exact applyMenuButtonRoute_same hbutton
  | refl => exact .refl s
  | set _ value hkey ih => exact ih.set value (hkeys _ hkey)

theorem languagePolicyNode_same (s : NodeState) :
    SameWorkflow s (services.languagePolicyNode s) :=
  ((((((SameWorkflow.refl s).withSlotMemory _).set _ (by decide)).set _ (by decide)).set _
    (by decide)).set _ (by decide)).set _ (by decide) |>.set _ (by decide)

/-- Before the answer of a node the workflow is that of the conversation, or that of a money case
of another thread. -/
theorem routedState_decided (hactive : input.get "active_workflow" = .str active)
    (hne : active ≠ "") (h : services.routedState input = .ok routed) :
    WorkflowDecided input routed ∧ routed.get "occurred_at" = .null := by
  obtain ⟨router, hrouter, h⟩ := bind_eq_ok.mp h
  cases h
  have hsame : SameWorkflow input (services.languagePolicyNode
      (services.llmRewriteQuestionNode input.declared).declared).declared :=
    (((SameWorkflow.refl input).declared.trans (llmRewriteQuestionNode_rewrites _).same).declared.trans
      (languagePolicyNode_same _)).declared
  have htruthy : ((services.languagePolicyNode
      (services.llmRewriteQuestionNode input.declared).declared).declared.get
        "active_workflow").truthy = true := by
    rw [hsame.activeWorkflow, hactive, Json.truthy_str, decide_eq_true hne]
  have hdecided := hsame.decided (RouterSettings.llmIntentRouterNode_decided htruthy hrouter)
  refine ⟨?_, by rw [NodeState.get_declared, if_neg (by decide)]⟩
  rcases hdecided with hkept | ⟨case, hmoney⟩
  · exact .inl hkept.declared
  · refine .inr ⟨case, ?_, ?_, hmoney.matchedCase, ?_⟩
    · rw [NodeState.get_declared, if_pos (by decide), hmoney.activeWorkflow]
    · rw [NodeState.get_declared, if_pos (by decide), hmoney.workflowStage]
    · rw [NodeState.get_declared, if_pos (by decide), hmoney.route]

theorem finalReplyNode_same (s : NodeState) : SameWorkflow s (services.finalReplyNode s) := by
  have hs := SameWorkflow.refl s
  unfold finalReplyNode
  simp only
  split
  · exact ((hs.set _ (by decide)).set _ (by decide)).set _ (by decide)
  · split
    · exact ((hs.set _ (by decide)).set _ (by decide)).set _ (by decide)
    · split
      · exact ((hs.set _ (by decide)).set _ (by decide)).set _ (by decide)
      · exact hs

/-- The nodes behind the answer leave the workflow alone. -/
theorem handledState_same (h : services.handledState routed = .ok result) :
    ∃ handled, services.routeNode routed = .ok handled ∧ SameWorkflow handled result := by
  obtain ⟨handled, hhandled, h⟩ := bind_eq_ok.mp h
  cases h
  exact ⟨handled, hhandled, (((SameWorkflow.refl handled).declared.trans
    (finalReplyNode_same _)).declared.withCommands _).declared⟩

/-- The FAQ of a forgotten password starts a workflow, and every other one ends the active one. -/
theorem activeWorkflow_ragNode (hactive : (s.get "active_workflow").truthy = true) :
    if (faqIntent s).eqText "forgot_password_howto" = true then
      KeepsWorkflow s "forgot_password_howto" (services.ragNode s)
    else (services.ragNode s).get "active_workflow" = .null := by
  have hintent : faqIntent (if (s.get "rag_context").isNull = true then
      s.set "rag_context" (services.ragContext s) else s) = faqIntent s := by
    split
    · simp [faqIntent, NodeState.intentResult]
    · rfl
  have hkept : (if (s.get "rag_context").isNull = true then
      s.set "rag_context" (services.ragContext s) else s).get "active_workflow" =
        s.get "active_workflow" := by
    split
    · simp
    · rfl
  unfold ragNode
  simp only [hintent, hkept, hactive, if_true]
  split
  · have hstage : "awaiting_password_reset_result" ≠ "" := by decide
    exact ((((KeepsWorkflow.atStage s _ _ hstage).set _ (by decide)).set _ (by decide)).set _
      (by decide)).withCommands _
  · simp

/-- What the router decided keeps the workflow that is active: no FAQ but that of a forgotten
password in its own workflow, no resolution of a waiting case or case of another workflow, and no
other intent of a workflow. -/
def keepsActiveWorkflow (services : GraphServices) (active : String) (routed : NodeState) : Prop :=
  match (routed.get "route").str? with
  | some "faq" =>
      active = "forgot_password_howto" ∧ (faqIntent routed).eqText "forgot_password_howto" = true
  | some "sop" =>
      let planned := services.withPlannedSlots services.slots routed
      if services.isWaiting planned = true then
        services.confirmsResolution planned = false ∧
          ∀ case, routed.matchedTelegramMoneyCase = some case → case.intent = active
      else ∀ intent ∈ sopIntents,
        getKey routed.intentResult "intent" = .str intent → intent = active
  | _ => True

theorem not_keeps_null {s r : NodeState} (h : r.get "active_workflow" = .null) :
    ¬ KeepsWorkflow s active r := by
  intro hkept
  rw [hkept.activeWorkflow] at h
  cases h

theorem keeps_iff_of_keeps {other : String} (h : KeepsWorkflow s other r) :
    KeepsWorkflow s active r ↔ other = active := by
  constructor
  · intro hkept
    have hsame := h.activeWorkflow.symm.trans hkept.activeWorkflow
    exact Json.str.inj hsame
  · rintro rfl
    exact h

/-- A waiting conversation keeps the workflow that its case is about. -/
theorem llmSopNode_waiting {other : String} (hstage : t.hasStage = true → s.hasStage = true)
    (hother : s.get "active_workflow" = .str other)
    (hdate : s.get "occurred_at" = .null)
    (hcase : ∀ case, s.matchedTelegramMoneyCase = some case → case.intent = other)
    (hwaiting : services.isWaiting (services.withPlannedSlots services.slots s) = true)
    (h : services.llmSopNode services.slots s = .ok r) :
    KeepsWorkflow t active r ↔ services.confirmsResolution
      (services.withPlannedSlots services.slots s) = false ∧ other = active := by
  have hplans := services.withPlannedSlots_plans services.slots s
  rw [SopSettings.llmSopNode, SopSettings.sopNode, if_pos hwaiting] at h
  have hkeeps := SopSettings.keeps_handleWaitingBackend
    (by rw [hplans.get _ (by decide), hother]) (by rw [hplans.get _ (by decide), hdate])
    (by rwa [hplans.matchedCase]) h
  split at hkeeps
  · rename_i hconfirms
    simp only [hconfirms, Bool.true_eq_false, false_and, iff_false]
    exact not_keeps_null hkeeps
  · rename_i hconfirms
    have hkept : KeepsWorkflow t other r := hkeeps.of_stage fun ht => by
      rw [NodeState.hasStage, hplans.get _ (by decide)]
      exact hstage ht
    simp only [Bool.not_eq_true] at hconfirms
    rw [keeps_iff_of_keeps hkept, and_iff_right hconfirms]

/-- A conversation that does not wait keeps its workflow unless the intent is of another one. -/
theorem llmSopNode_collecting (hstage : t.hasStage = true → s.hasStage = true)
    (hactive : s.get "active_workflow" = .str active)
    (hwaiting : ¬ services.isWaiting (services.withPlannedSlots services.slots s) = true)
    (h : services.llmSopNode services.slots s = .ok r) :
    KeepsWorkflow t active r ↔ ∀ intent ∈ sopIntents,
      getKey s.intentResult "intent" = .str intent → intent = active := by
  have hplans := services.withPlannedSlots_plans services.slots s
  have hintent : (services.withPlannedSlots services.slots s).intentResult = s.intentResult := by
    rw [NodeState.intentResult, hplans.get _ (by decide), NodeState.intentResult]
  have hlift {other : String}
      (hkept : KeepsWorkflow (services.withPlannedSlots services.slots s) other r) :
      KeepsWorkflow t other r := hkept.of_stage fun ht => by
    rw [NodeState.hasStage, hplans.get _ (by decide)]
    exact hstage ht
  rw [SopSettings.llmSopNode, SopSettings.sopNode, if_neg hwaiting] at h
  rcases SopSettings.keeps_runSop (by rw [hplans.get _ (by decide), hactive]) h with
    ⟨intent, hmem, hrouted, hkept⟩ | ⟨hnone, hkept⟩
  · rw [hintent] at hrouted
    rw [keeps_iff_of_keeps (hlift hkept)]
    constructor
    · rintro rfl other - hother
      exact (Json.str.inj (hrouted.symm.trans hother)).symm
    · intro hall
      exact hall intent hmem hrouted
  · rw [hintent] at hnone
    refine ⟨fun _ intent hmem hrouted => absurd hrouted (hnone intent hmem), fun _ => hlift hkept⟩

/-- The node of the route keeps the workflow exactly when the decision does. -/
theorem routeNode_keeps_iff (hstage : t.hasStage = true → routed.hasStage = true)
    (hactive : routed.get "active_workflow" = .str active) (hne : active ≠ "")
    (hdate : routed.get "occurred_at" = .null)
    (hmatched : routed.matchedTelegramMoneyCase = none)
    (hroute : routed.get "route" ≠ .str "human_handoff")
    (h : services.routeNode routed = .ok r) :
    KeepsWorkflow t active r ↔ services.keepsActiveWorkflow active routed := by
  have hself : KeepsWorkflow t active routed := (KeepsWorkflow.refl hactive).of_stage hstage
  unfold routeNode at h
  unfold keepsActiveWorkflow
  split at h
  · rename_i hfaq
    cases h
    have hrag := @activeWorkflow_ragNode services routed
      (by rw [hactive, Json.truthy_str, decide_eq_true hne])
    simp only [hfaq]
    split at hrag
    · rename_i hforgot
      rw [keeps_iff_of_keeps (hrag.of_stage hstage), and_iff_left hforgot]
      exact eq_comm
    · rename_i hforgot
      exact iff_of_false (not_keeps_null hrag) fun hkept => hforgot hkept.2
  · rename_i hsop
    simp only [hsop]
    by_cases hwaiting :
        services.isWaiting (services.withPlannedSlots services.slots routed) = true
    · rw [if_pos hwaiting, llmSopNode_waiting hstage hactive hdate (by simp [hmatched]) hwaiting h]
      simp [hmatched]
    · rw [if_neg hwaiting]
      exact llmSopNode_collecting hstage hactive hwaiting h
  · rename_i hemotion
    cases h
    rw [hemotion]
    exact iff_of_true (hself.withReply _) trivial
  · rename_i hhuman
    exact absurd (Json.str?_eq_some.mp hhuman) hroute
  · rename_i hfaq hsop _ _
    rw [← Except.ok.inj h]
    refine iff_of_true hself ?_
    split
    · rename_i hroute
      exact absurd hroute hfaq
    · rename_i hroute
      exact absurd hroute hsop
    · trivial

/-- A money case of another thread waits, so it is its own workflow that is kept. -/
theorem routeNode_moneyCase {case : MoneyCase} (hmoney : MoneyCaseDecision routed case)
    (hdate : routed.get "occurred_at" = .null) (h : services.routeNode routed = .ok r) :
    KeepsWorkflow t active r ↔ services.keepsActiveWorkflow active routed := by
  have hstage : routed.hasStage = true := by
    simp [NodeState.hasStage, hmoney.workflowStage, Json.str?]
  have hwaiting : services.isWaiting (services.withPlannedSlots services.slots routed) = true := by
    have hplanned := (services.withPlannedSlots_plans services.slots routed).get
      "workflow_stage" (by decide)
    rw [hmoney.workflowStage] at hplanned
    simp [SopSettings.isWaiting, hplanned, waitingStages]
  have hsop : (routed.get "route").str? = some "sop" := by rw [hmoney.route, Json.str?]
  unfold routeNode at h
  rw [hsop] at h
  simp only at h
  rw [llmSopNode_waiting (fun _ => hstage) hmoney.activeWorkflow hdate
    (by simp [hmoney.matchedCase]) hwaiting h]
  unfold keepsActiveWorkflow
  simp only [hsop, hwaiting, if_true, hmoney.matchedCase, Option.some.injEq, forall_eq']

theorem keeps_same_iff (hsame : SameWorkflow s r) :
    KeepsWorkflow t active r ↔ KeepsWorkflow t active s := by
  have hstage : r.hasStage = s.hasStage := by
    rw [NodeState.hasStage, hsame.workflowStage, NodeState.hasStage]
  constructor
  · intro hkept
    exact ⟨hsame.activeWorkflow.symm.trans hkept.activeWorkflow, fun ht =>
      hstage.symm.trans (hkept.workflowStage ht)⟩
  · intro hkept
    exact ⟨hsame.activeWorkflow.trans hkept.activeWorkflow, fun ht =>
      hstage.trans (hkept.workflowStage ht)⟩

theorem run_keeps_iff (hactive : input.get "active_workflow" = .str active) (hne : active ≠ "")
    (hmatched : input.matchedTelegramMoneyCase = none)
    (hrouted : services.routedState input = .ok routed)
    (hroute : routed.get "route" ≠ .str "human_handoff")
    (hresult : services.handledState routed = .ok result) :
    KeepsWorkflow input active result ↔ services.keepsActiveWorkflow active routed := by
  obtain ⟨hdecided, hdate⟩ := routedState_decided hactive hne hrouted
  obtain ⟨handled, hhandled, hsame⟩ := handledState_same hresult
  rw [keeps_same_iff hsame]
  rcases hdecided with hkept | ⟨case, hmoney⟩
  · have hstage : input.hasStage = true → routed.hasStage = true := by
      intro hinput
      rwa [NodeState.hasStage, hkept.workflowStage]
    exact routeNode_keeps_iff hstage (hkept.activeWorkflow.trans hactive) hne hdate
      (hkept.matchedCase.trans hmatched) hroute hhandled
  · exact routeNode_moneyCase hmoney hdate hhandled

/-- The fields of the workflow that a commit persists. -/
structure PersistsWorkflow (result : NodeState) (graphState : GraphState) : Prop where
  activeWorkflow : graphState.activeWorkflow = (result.get "active_workflow").str?
  workflowStage : graphState.workflowStage = (result.get "workflow_stage").str?

/-- The row names the workflow, and has not lost the stage of the conversation. -/
def NamesWorkflow (conversation : ConversationView) (active : String) (row : ConversationRow) :
    Prop :=
  row.activeWorkflow = some active ∧
    (hasText conversation.workflowStage = true → hasText row.workflowStage = true)

theorem namesWorkflow_iff (input : GraphInput) (row : ConversationRow) {graphState : GraphState}
    (hpersists : PersistsWorkflow result graphState) :
    NamesWorkflow input.conversation active (row.withGraphState graphState) ↔
      KeepsWorkflow (input.buildGraphState services.rt) active result := by
  have hstart : (input.buildGraphState services.rt).hasStage =
      hasText input.conversation.workflowStage := by
    rw [NodeState.hasStage, input.get_workflowStage]
    cases input.conversation.workflowStage with
    | none => rfl
    | some stage => rfl
  simp only [NamesWorkflow, ConversationRow.withGraphState, hpersists.activeWorkflow,
    hpersists.workflowStage, Json.str?_eq_some, ← hstart]
  constructor
  · rintro ⟨hactive, hstage⟩
    exact ⟨hactive, hstage⟩
  · intro h
    exact ⟨h.activeWorkflow, h.workflowStage⟩

/-- A run that does not hand the conversation off leaves its workflow in the stored row exactly
when the decision of the router keeps it; whether the decision says that it preserves the workflow
makes no difference. -/
theorem active_workflow_kept_iff (services : GraphServices) (input : GraphInput)
    (row : ConversationRow) {routed result : NodeState} {graphState : GraphState} {active : String}
    (hactive : input.conversation.activeWorkflow = some active) (hne : active ≠ "")
    (hrouted : services.routedState (input.buildGraphState services.rt) = .ok routed)
    (hroute : routed.get "route" ≠ .str "human_handoff")
    (hresult : services.handledState routed = .ok result)
    (hpersists : PersistsWorkflow result graphState) :
    NamesWorkflow input.conversation active (row.withGraphState graphState) ↔
      services.keepsActiveWorkflow active routed := by
  have hstart : (input.buildGraphState services.rt).get "active_workflow" = .str active := by
    rw [input.get_activeWorkflow, hactive, Json.ofText?]
  rw [namesWorkflow_iff input row hpersists]
  exact run_keeps_iff hstart hne rfl hrouted hroute hresult

/-- The language model takes every text for an independent FAQ about deposits. -/
def answeringFaq : GraphServices :=
  { GraphServices.plain with
    route := fun _ => .answered (.ofList [("intent", .str "deposit_howto"), ("route", .str "faq"),
      ("confidence", .int 1), ("faq_query", .str "how to deposit"),
      ("workflow_relation", .str "independent_faq"), ("preserve_active_workflow", .bool true),
      ("reason", .str "a standalone question")]) }

/-- A question of a customer whose missing deposit is with the backend. -/
def questionWhileWaiting : GraphInput :=
  .plain "how" (some "deposit_missing") (some "waiting_backend") ∅

/-- The question is answered as an independent FAQ that preserves the workflow. -/
theorem question_answered :
    ∃ routed result, answeringFaq.routedState
        (questionWhileWaiting.buildGraphState answeringFaq.rt) = .ok routed ∧
      answeringFaq.handledState routed = .ok result ∧
      (getKey routed.intentResult "workflow_relation").eqText "independent_faq" = true ∧
      (getKey routed.intentResult "preserve_active_workflow").isTrue = true ∧
      (routed.get "route").eqText "faq" = true ∧
      (result.get "active_workflow").isNull = true := by
  have hrun : (answeringFaq.routedState
      (questionWhileWaiting.buildGraphState answeringFaq.rt)).toOption.any (fun routed =>
        (answeringFaq.handledState routed).toOption.any fun result =>
          (getKey routed.intentResult "workflow_relation").eqText "independent_faq" &&
            (getKey routed.intentResult "preserve_active_workflow").isTrue &&
            (routed.get "route").eqText "faq" && (result.get "active_workflow").isNull) = true := by
    decide +kernel
  obtain ⟨routed, hrouted, hrun⟩ := toOption_any_eq_true.mp hrun
  obtain ⟨result, hresult, hrun⟩ := toOption_any_eq_true.mp hrun
  simp only [Bool.and_eq_true] at hrun
  exact ⟨routed, result, hrouted, hresult, hrun.1.1.1, hrun.1.1.2, hrun.1.2, hrun.2⟩

/-- The answer to the question erases the open case from the row. -/
theorem independent_faq_erases_workflow :
    questionWhileWaiting.conversation.activeWorkflow = some "deposit_missing" ∧
      ∃ routed result, answeringFaq.routedState
          (questionWhileWaiting.buildGraphState answeringFaq.rt) = .ok routed ∧
        answeringFaq.handledState routed = .ok result ∧
        (getKey routed.intentResult "preserve_active_workflow").isTrue = true ∧
        routed.get "route" ≠ .str "human_handoff" ∧
        ∀ (row : ConversationRow) (graphState : GraphState), PersistsWorkflow result graphState →
          ¬ NamesWorkflow questionWhileWaiting.conversation "deposit_missing"
            (row.withGraphState graphState) := by
  obtain ⟨routed, result, hrouted, hresult, -, hpreserve, hfaq, hnull⟩ := question_answered
  have hroute := Json.eqText_iff.mp hfaq
  refine ⟨rfl, routed, result, hrouted, hresult, hpreserve, ?_, fun row graphState hpersists => ?_⟩
  · rw [hroute]
    simp
  · rintro ⟨hactive, -⟩
    have hpersisted : (result.get "active_workflow").str? = some "deposit_missing" :=
      hpersists.activeWorkflow.symm.trans hactive
    rw [Json.str?_eq_some.mp hpersisted] at hnull
    cases hnull

/-- The stored row of the customer who asks it. -/
def waitingRow : ConversationRow :=
  { ConversationRow.fresh 1 "livechat:C1:T1" "C1" (some "T1") with
    status := .waitingExternal
    activeWorkflow := some "deposit_missing"
    workflowStage := some "waiting_backend" }

/-- The row after the question, where the decision does not keep the workflow. -/
theorem active_workflow_kept_in_question :
    ∃ routed result graphState, answeringFaq.handledState routed = .ok result ∧
      PersistsWorkflow result graphState ∧
      (NamesWorkflow questionWhileWaiting.conversation "deposit_missing"
          (waitingRow.withGraphState graphState) ↔
        answeringFaq.keepsActiveWorkflow "deposit_missing" routed) := by
  obtain ⟨routed, result, hrouted, hresult, -, -, hfaq, -⟩ := question_answered
  have hroute := Json.eqText_iff.mp hfaq
  refine ⟨routed, result, ⟨none, (result.get "active_workflow").str?,
    (result.get "workflow_stage").str?, none, none, [], none⟩, hresult, ⟨rfl, rfl⟩, ?_⟩
  exact active_workflow_kept_iff answeringFaq questionWhileWaiting waitingRow rfl (by decide)
    hrouted (by simp [hroute]) hresult ⟨rfl, rfl⟩

end GraphServices

end AiCustomerService
