import AiCustomerService.Graph.Nodes
import AiCustomerService.Graph.RouterFrames

/-!
# What the nodes leave alone

The keys that the handlers of a workflow set, the route and the intent of a run, which no node
behind the router changes, and the status of the conversation.
-/

namespace AiCustomerService

open Support

/-- The status is kept, or the conversation waits for external work or for a human. -/
def KeepsStatus (s r : NodeState) : Prop :=
  r.get "status" = s.get "status" ∨ r.get "status" = .str "WAITING_EXTERNAL" ∨
    r.get "status" = .str "HANDOFF_REQUESTED"

namespace KeepsStatus

variable {s t r : NodeState}

theorem trans (hst : KeepsStatus s t) (htr : KeepsStatus t r) : KeepsStatus s r := by
  rcases htr with hkept | hset
  · rwa [KeepsStatus, hkept]
  · exact .inr hset

theorem of_setsOnly {keys : List String} (h : SetsOnly keys s r) (hkey : "status" ∉ keys) :
    KeepsStatus s r := .inl (h _ hkey)

theorem declared (h : KeepsStatus s t) : KeepsStatus s t.declared :=
  h.trans (.inl (by rw [NodeState.get_declared, if_pos (by decide)]))

end KeepsStatus

namespace SopSettings

variable {settings : SopSettings} {s t r : NodeState}

/-- The keys that the handlers of a workflow set. -/
def handlerKeys : List String :=
  ["slot_memory", "llm_sop_dialogue_plan", "status", "active_workflow", "workflow_stage",
    "response_text", "response_text_fallback", "telegram_case_update"]

/-- A state with the values of another one, but for those that the handlers set. -/
abbrev Handles (s r : NodeState) : Prop := SetsOnly handlerKeys s r

/-- The states that the handlers of a workflow make of a state. -/
inductive HandlerEdits (s : NodeState) : NodeState → Prop
  | refl : HandlerEdits s s
  | set {t : NodeState} {key : String} (h : HandlerEdits s t) (value : Json)
      (hkey : key ∈ handlerKeys ∧ key ≠ "status") : HandlerEdits s (t.set key value)
  | status {t : NodeState} {text : String} (h : HandlerEdits s t)
      (htext : text ∈ ["WAITING_EXTERNAL", "HANDOFF_REQUESTED"]) :
      HandlerEdits s (t.set "status" (.str text))
  | withCommands {t : NodeState} (h : HandlerEdits s t) (commands : List WorkflowCommand) :
      HandlerEdits s (t.withCommands commands)

namespace HandlerEdits

theorem withReply (h : HandlerEdits s t) (text : String) : HandlerEdits s (t.withReply text) :=
  ((h.set _ (by decide)).set _ (by decide)).withCommands _

theorem atStage (h : HandlerEdits s t) (workflow stage : String) :
    HandlerEdits s (atStage t workflow stage) :=
  (h.set _ (by decide)).set _ (by decide)

theorem memory (h : HandlerEdits s t) (memory : JsonObject) :
    HandlerEdits s (t.withSlotMemory memory) :=
  h.set _ (by decide)

theorem ite {condition : Prop} [Decidable condition] (ht : HandlerEdits s t)
    (hr : HandlerEdits s r) : HandlerEdits s (if condition then t else r) := by
  split
  · exact ht
  · exact hr

/-- The handlers leave all other keys alone. -/
theorem handles (h : HandlerEdits s r) : Handles s r := by
  induction h with
  | refl => exact SetsOnly.refl handlerKeys s
  | set _ value hkey ih => exact SetsOnly.set ih value hkey.1
  | status _ _ ih => exact SetsOnly.set ih _ (by decide)
  | withCommands _ commands ih => exact ih.withCommands commands

theorem keepsStatus (h : HandlerEdits s r) : KeepsStatus s r := by
  induction h with
  | refl => exact .inl rfl
  | set _ value hkey ih =>
      exact ih.trans (.inl (by rw [NodeState.get_set, if_neg hkey.2.symm]))
  | status _ htext => exact .inr (by simpa using htext)
  | withCommands _ commands ih => exact ih

end HandlerEdits

/-! ## Waiting for the backend -/

theorem waitingReply_edits (s : NodeState) (memory : JsonObject) (text : String) :
    HandlerEdits s (waitingReply s memory text) :=
  ((HandlerEdits.refl.memory memory).set _ (by decide)).withReply text

theorem buildHandoffState_edits (s : NodeState) (memory : JsonObject) (reason : String) :
    HandlerEdits s (buildHandoffState s memory reason) :=
  ((HandlerEdits.refl.memory memory).status (by decide)).withReply _ |>.withCommands _

theorem backendQueryState_edits (s : NodeState) (memory : JsonObject) :
    HandlerEdits s (backendQueryState s memory) := by
  refine HandlerEdits.withCommands (HandlerEdits.atStage ?_ _ _) _
  exact (((HandlerEdits.refl.memory memory).status (by decide)).set _ (by decide)).set _
    (by decide)

theorem supplementState_edits (s : NodeState) (memory : JsonObject) (plan : SopDialoguePlan) :
    HandlerEdits s (settings.supplementState s memory plan) := by
  unfold supplementState
  split
  · exact backendQueryState_edits s memory
  · split
    · exact (waitingReply_edits s memory _).withCommands _
    · split
      · exact buildHandoffState_edits s memory _
      · exact waitingReply_edits s memory _

theorem idleState_edits {memory : JsonObject} {plan : SopDialoguePlan}
    (h : settings.idleState s memory plan = .ok r) : HandlerEdits s r := by
  unfold idleState at h
  simp only at h
  split at h
  · cases h
    exact buildHandoffState_edits s _ _
  · split at h
    · cases h
      exact waitingReply_edits s _ _
    · split at h
      · cases h
        exact buildHandoffState_edits s _ _
      · split at h
        · obtain ⟨⟨counted, count⟩, -, h⟩ := bind_eq_ok.mp h
          simp only at h
          split at h
          · cases h
            exact buildHandoffState_edits s _ _
          · cases h
            exact waitingReply_edits s _ _
        · cases h
          exact waitingReply_edits s _ _

theorem completedState_edits (s : NodeState) (memory : JsonObject) (texts : ReplyTexts) :
    HandlerEdits s (settings.completedState s memory texts) :=
  (((HandlerEdits.refl.memory memory).set _ (by decide)).set _ (by decide)).withReply _

theorem resolvedState_edits {memory : JsonObject} (h : settings.resolvedState s memory = .ok r) :
    HandlerEdits s r := by
  unfold resolvedState at h
  simp only at h
  split at h
  · cases h
    exact completedState_edits s _ _
  · obtain ⟨caseId, -, h⟩ := bind_eq_ok.mp h
    cases h
    exact (completedState_edits s _ _).set _ (by decide)

theorem moneyCaseFollowupState_edits (s : NodeState) (memory : JsonObject) (case : MoneyCase)
    (urls : List Json) (updates : JsonObject) :
    HandlerEdits s (settings.moneyCaseFollowupState s memory case urls updates) := by
  have hreminded (workflow : Json) (memory : JsonObject) (text : String)
      (commands : List WorkflowCommand) :
      HandlerEdits s (((((s.withSlotMemory memory).set "active_workflow" workflow).set
        "workflow_stage" (.str "waiting_backend")).withReply text).withCommands commands) :=
    ((((HandlerEdits.refl.memory memory).set _ (by decide)).set _ (by decide)).withReply
      _).withCommands _
  unfold moneyCaseFollowupState
  exact .ite ((hreminded _ _ _ _).set _ (by decide)) (hreminded _ _ _ _)

theorem handleWaitingBackend_edits (h : settings.handleWaitingBackend s = .ok r) :
    HandlerEdits s r := by
  obtain ⟨plan, -, h⟩ := bind_eq_ok.mp h
  simp only at h
  split at h
  · cases h
    exact completedState_edits s _ _
  · split at h
    · exact resolvedState_edits h
    · split at h
      · cases h
        exact ((HandlerEdits.refl.memory _).set _ (by decide)).withReply _
      · split at h
        · cases h
          exact ((HandlerEdits.refl.memory _).set _ (by decide)).withReply _
        · split at h
          · cases h
            exact moneyCaseFollowupState_edits s _ _ _ _
          · split at h
            · cases h
              exact supplementState_edits s _ plan
            · exact idleState_edits h

/-! ## Collecting slots -/

theorem moneyMissingSop_edits {intent : String} (h : settings.moneyMissingSop s intent = .ok r) :
    HandlerEdits s r := by
  obtain ⟨plan, -, h⟩ := bind_eq_ok.mp h
  have hnext (memory : JsonObject) (summary : Json) (text : String)
      (commands : List WorkflowCommand) : HandlerEdits s
      ((((s.withSlotMemory memory).set "llm_sop_dialogue_plan" summary).withReply
        text).withCommands commands) :=
    (((HandlerEdits.refl.memory memory).set _ (by decide)).withReply _).withCommands _
  simp only at h
  have hstates (c : Bool) {t t' : NodeState} (ht : HandlerEdits s t) (ht' : HandlerEdits s t') :
      (if c = true then pure (atStage t intent "waiting_backend")
        else pure (atStage t' intent "collecting_slots") : Except PyError NodeState) = .ok r →
      HandlerEdits s r := by
    intro h
    cases c with
    | true =>
        cases h
        exact ht.atStage _ _
    | false =>
        cases h
        exact ht'.atStage _ _
  exact hstates _ ((hnext _ _ _ _).status (by decide)) (hnext _ _ _ _) h

theorem withdrawalBlockedSop_edits (s : NodeState) :
    HandlerEdits s (settings.withdrawalBlockedSop s) := by
  have hasking (memory : JsonObject) (text : String) : HandlerEdits s ((atStage
      (s.withSlotMemory memory) "withdrawal_blocked_or_rollover" "collecting_slots").withReply
      text) :=
    ((HandlerEdits.refl.memory memory).atStage _ _).withReply text
  unfold withdrawalBlockedSop
  exact .ite (hasking _ _) (.ite (hasking _ _) (backendQueryState_edits s _))

theorem pendingReplyLookupSop_edits (s : NodeState) :
    HandlerEdits s (settings.pendingReplyLookupSop s) := by
  unfold pendingReplyLookupSop
  dsimp only
  have hmemory (memory : JsonObject) : HandlerEdits s (s.withSlotMemory memory) :=
    HandlerEdits.refl.memory memory
  exact .ite (((hmemory _).atStage _ _).withReply _)
    (((((hmemory _).status (by decide)).atStage _ _).withReply _).withCommands _)

theorem runSop_edits (h : settings.runSop s = .ok r) : HandlerEdits s r := by
  unfold runSop at h
  split at h
  · exact moneyMissingSop_edits h
  · exact moneyMissingSop_edits h
  · obtain rfl := Except.ok.inj h
    exact withdrawalBlockedSop_edits s
  · obtain rfl := Except.ok.inj h
    exact pendingReplyLookupSop_edits s
  · obtain rfl := Except.ok.inj h
    exact (HandlerEdits.refl.withReply _).withCommands _

theorem sopNode_edits (h : settings.sopNode s = .ok r) : HandlerEdits s r := by
  unfold sopNode at h
  split at h
  · exact handleWaitingBackend_edits h
  · exact runSop_edits h

/-- The keys that the node of a workflow sets. -/
theorem llmSopNode_setsOnly {service : SlotService} (h : settings.llmSopNode service s = .ok r) :
    SetsOnly (plannedKeys ++ handlerKeys) s r := by
  have hplans := (settings.withPlannedSlots_plans service s).get
  refine (hplans.mono fun key hkey => ?_).trans ((sopNode_edits h).handles.mono fun key hkey => ?_)
  · exact List.mem_append_left _ hkey
  · exact List.mem_append_right _ hkey

end SopSettings

namespace GraphServices

variable {services : GraphServices} {s r routed result : NodeState}

/-- A run has the route and the intent of another state. -/
structure SameRoute (s r : NodeState) : Prop where
  route : r.get "route" = s.get "route"
  intentResult : r.get "intent_result" = s.get "intent_result"

theorem SameRoute.trans {t : NodeState} (hst : SameRoute s t) (htr : SameRoute t r) :
    SameRoute s r :=
  ⟨htr.route.trans hst.route, htr.intentResult.trans hst.intentResult⟩

theorem sameRoute_of_setsOnly {keys : List String} (h : SetsOnly keys s r)
    (hroute : "route" ∉ keys) (hintent : "intent_result" ∉ keys) : SameRoute s r :=
  ⟨h _ hroute, h _ hintent⟩

theorem sameRoute_declared (s : NodeState) : SameRoute s s.declared :=
  ⟨by rw [NodeState.get_declared, if_pos (by decide)],
    by rw [NodeState.get_declared, if_pos (by decide)]⟩

/-- The keys that the node of the knowledge base sets. -/
def ragKeys : List String :=
  ["rag_context", "rag_result", "active_workflow", "workflow_stage", "response_text",
    "response_text_fallback"]

theorem ragNode_setsOnly (s : NodeState) : SetsOnly ragKeys s (services.ragNode s) := by
  have hcontext : SetsOnly ragKeys s (if (s.get "rag_context").isNull = true then
      s.set "rag_context" (services.ragContext s) else s) :=
    .ite ((SetsOnly.refl ragKeys s).set _ (by decide)) (.refl ragKeys s)
  have hstage : SetsOnly ragKeys s (SopSettings.atStage (if (s.get "rag_context").isNull = true then
      s.set "rag_context" (services.ragContext s) else s) "forgot_password_howto"
      "awaiting_password_reset_result") := (hcontext.set _ (by decide)).set _ (by decide)
  refine SetsOnly.withCommands (((SetsOnly.set ?_ _ (by decide)).set _ (by decide)).set _
    (by decide)) _
  exact .ite hstage (.ite ((hcontext.set _ (by decide)).set _ (by decide)) hcontext)

theorem humanHandoffNode_edits (s : NodeState) :
    SopSettings.HandlerEdits s (humanHandoffNode s) :=
  (((SopSettings.HandlerEdits.refl.status (by decide)).atStage _ _).withReply _).withCommands _

theorem routeNode_sameRoute (h : services.routeNode s = .ok r) : SameRoute s r := by
  unfold routeNode at h
  split at h
  · cases h
    exact sameRoute_of_setsOnly (ragNode_setsOnly s) (by decide) (by decide)
  · exact sameRoute_of_setsOnly (SopSettings.llmSopNode_setsOnly h) (by decide) (by decide)
  · cases h
    exact sameRoute_of_setsOnly (SopSettings.HandlerEdits.refl.withReply _).handles (by decide)
      (by decide)
  · cases h
    exact sameRoute_of_setsOnly (humanHandoffNode_edits s).handles (by decide) (by decide)
  · cases h
    exact ⟨rfl, rfl⟩

/-- The keys that the node of the final reply sets. -/
def finalReplyKeys : List String :=
  ["response_text_fallback", "final_response_text", "final_reply_result"]

theorem finalReplyNode_setsOnly (s : NodeState) :
    SetsOnly finalReplyKeys s (services.finalReplyNode s) := by
  have hreply (fallback text result : Json) : SetsOnly finalReplyKeys s
      (((s.set "response_text_fallback" fallback).set "final_response_text" text).set
        "final_reply_result" result) :=
    (((SetsOnly.refl finalReplyKeys s).set _ (by decide)).set _ (by decide)).set _ (by decide)
  unfold finalReplyNode
  simp only
  split
  · exact hreply _ _ _
  · split
    · exact hreply _ _ _
    · exact .ite (hreply _ _ _) (.refl _ s)

/-! ## Before the router -/

/-- The keys that the rewriting of a question sets. -/
def rewriteKeys : List String :=
  ["rewritten_question", "rewrite_result", "llm_rewrite_result", "rewrite_source"]

/-- The states that the rewriting of a question makes of a state: that of a button, or of the
rewritten question. -/
inductive Rewrites (services : GraphServices) (s : NodeState) : NodeState → Prop
  | pressed {r : NodeState} (h : services.applyMenuButtonRoute s = some r) : Rewrites services s r
  | refl : Rewrites services s s
  | set {t : NodeState} {key : String} (h : Rewrites services s t) (value : Json)
      (hkey : key ∈ rewriteKeys) : Rewrites services s (t.set key value)

theorem rewriteQuestionNode_rewrites (s : NodeState) :
    Rewrites services s (services.rewriteQuestionNode s) := by
  unfold rewriteQuestionNode
  split
  · rename_i hbutton
    exact .pressed hbutton
  · split
    · exact .refl
    · exact (Rewrites.refl.set _ (by decide)).set _ (by decide)

theorem rewriteFallback_rewrites (s : NodeState) (reason : String) :
    Rewrites services s (services.rewriteFallback s reason) :=
  ((rewriteQuestionNode_rewrites s).set _ (by decide)).set _ (by decide)

theorem acceptedRewrite_rewrites {answer : JsonObject}
    (h : services.acceptedRewrite s answer = .ok r) : Rewrites services s r := by
  obtain ⟨confidence, -, h⟩ := bind_eq_ok.mp h
  split at h
  · cases h
    exact rewriteFallback_rewrites s _
  · obtain ⟨languageConfidence, -, h⟩ := bind_eq_ok.mp h
    cases h
    exact (((Rewrites.refl.set _ (by decide)).set _ (by decide)).set _ (by decide)).set _
      (by decide)

/-- Whatever the language model answers, the node rewrites the question only. -/
theorem llmRewriteQuestionNode_rewrites (s : NodeState) :
    Rewrites services s (services.llmRewriteQuestionNode s) := by
  unfold llmRewriteQuestionNode
  split
  · rename_i hbutton
    exact .pressed hbutton
  · split
    · exact .refl
    · split
      · exact rewriteQuestionNode_rewrites s
      · exact rewriteFallback_rewrites s _
      · exact SopSettings.toOption_getD_of (fun _ h => acceptedRewrite_rewrites h)
          (rewriteFallback_rewrites s _)

/-- The keys that a button sets. -/
def pressedKeys : List String :=
  ["slot_memory", "rewritten_question", "rewrite_result", "rewrite_source", "route_locked",
    "route", "route_source", "intent_result"]

theorem applyMenuButtonRoute_setsOnly (h : services.applyMenuButtonRoute s = some r) :
    SetsOnly pressedKeys s r := by
  obtain ⟨buttonId, -, h⟩ := Option.bind_eq_some_iff.mp h
  have hpressed (memory : JsonObject) (rewritten result route source intent : Json) :
      SetsOnly pressedKeys s ((((((((s.withSlotMemory memory).set "rewritten_question"
        rewritten).set "rewrite_result" result).set "rewrite_source" (.str "livechat_button")).set
        "route_locked" (.bool true)).set "route" route).set "route_source" source).set
        "intent_result" intent) :=
    (((((((SetsOnly.withSlotMemory (.refl pressedKeys s) _ (by decide)).set _ (by decide)).set _
      (by decide)).set _ (by decide)).set _ (by decide)).set _ (by decide)).set _
      (by decide)).set _ (by decide)
  simp only at h
  split at h
  · cases h
    exact (hpressed _ _ _ _ _ _).withCommands _
  · obtain ⟨⟨intent, route, query⟩, -, rfl⟩ := Option.map_eq_some_iff.mp h
    exact hpressed _ _ _ _ _ _

/-- The rewriting leaves all other keys alone. -/
theorem Rewrites.setsOnly (h : Rewrites services s r) :
    SetsOnly (pressedKeys ++ rewriteKeys) s r := by
  induction h with
  | pressed h =>
      exact (applyMenuButtonRoute_setsOnly h).mono fun _ => List.mem_append_left _
  | refl => exact .refl _ s
  | set _ value hkey ih => exact ih.set value (List.mem_append_right _ hkey)

/-- The keys that the policy of the languages sets. -/
def policyKeys : List String :=
  ["slot_memory", "detected_language", "language_confidence", "language_source",
    "conversation_language", "reply_language", "supported_languages"]

theorem languagePolicyNode_setsOnly (s : NodeState) :
    SetsOnly policyKeys s (services.languagePolicyNode s) :=
  ((((((SetsOnly.withSlotMemory (.refl policyKeys s) _ (by decide)).set _ (by decide)).set _
    (by decide)).set _ (by decide)).set _ (by decide)).set _ (by decide)).set _ (by decide)

/-! ## The status -/

theorem keepsStatus_beforeRouter (s : NodeState) : KeepsStatus s (services.beforeRouter s) := by
  have hrewritten := (@llmRewriteQuestionNode_rewrites services s.declared).setsOnly
  have hpolicy := @languagePolicyNode_setsOnly services
    (services.llmRewriteQuestionNode s.declared).declared
  have hdeclared : KeepsStatus s s.declared := KeepsStatus.declared (.inl rfl)
  exact ((hdeclared.trans (.of_setsOnly hrewritten (by decide))).declared.trans
    (.of_setsOnly hpolicy (by decide))).declared

theorem keepsStatus_routeNode (h : services.routeNode s = .ok r) : KeepsStatus s r := by
  unfold routeNode at h
  split at h
  · cases h
    exact .of_setsOnly (ragNode_setsOnly s) (by decide)
  · exact (KeepsStatus.of_setsOnly (services.withPlannedSlots_plans services.slots s).get
      (by decide)).trans (SopSettings.sopNode_edits h).keepsStatus
  · cases h
    exact (SopSettings.HandlerEdits.refl.withReply _).keepsStatus
  · cases h
    exact (humanHandoffNode_edits s).keepsStatus
  · cases h
    exact .inl rfl

theorem keepsStatus_handledState (h : services.handledState routed = .ok result) :
    KeepsStatus routed result := by
  obtain ⟨handled, hhandled, h⟩ := bind_eq_ok.mp h
  cases h
  have hreply := KeepsStatus.of_setsOnly (@finalReplyNode_setsOnly services handled.declared)
    (by decide)
  have hplanned (s : NodeState) : KeepsStatus s (commandPlannerNode s) := .inl rfl
  exact (((keepsStatus_routeNode hhandled).declared.trans hreply).declared.trans
    (hplanned _)).declared

/-- A run keeps the status of its conversation, or the conversation waits. -/
theorem keepsStatus_runGraph (h : services.runGraph s = .ok result) : KeepsStatus s result := by
  obtain ⟨routed, hrouted, hhandled⟩ := bind_eq_ok.mp h
  obtain ⟨router, hrouter, hrouted⟩ := bind_eq_ok.mp hrouted
  cases hrouted
  have hrouter := KeepsStatus.of_setsOnly
    (RouterSettings.llmIntentRouterNode_edits hrouter).setsOnly (by decide)
  exact ((keepsStatus_beforeRouter s).trans hrouter).declared.trans
    (keepsStatus_handledState hhandled)

/-- What the router decided is the route and the intent of the whole run. -/
theorem handledState_sameRoute (h : services.handledState routed = .ok result) :
    SameRoute routed result := by
  obtain ⟨handled, hhandled, h⟩ := bind_eq_ok.mp h
  cases h
  have hreply := sameRoute_of_setsOnly (@finalReplyNode_setsOnly services
    handled.declared) (by decide) (by decide)
  have hplanned (s : NodeState) : SameRoute s (commandPlannerNode s) := ⟨rfl, rfl⟩
  exact (((routeNode_sameRoute hhandled).trans (sameRoute_declared handled)).trans hreply).trans
    (((sameRoute_declared _).trans (hplanned _)).trans (sameRoute_declared _))

end GraphServices

end AiCustomerService
