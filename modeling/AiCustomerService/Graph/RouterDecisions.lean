import AiCustomerService.Graph.Router

/-!
# What the router decides

Every decision of the router leaves the active workflow and the matched case alone, but for a
message that follows up a money case of another thread.
-/

namespace AiCustomerService

open Support

/-- The state has the workflow and the matched case of another one. -/
structure SameWorkflow (s routed : NodeState) : Prop where
  activeWorkflow : routed.get "active_workflow" = s.get "active_workflow"
  workflowStage : routed.get "workflow_stage" = s.get "workflow_stage"
  matchedCase : routed.matchedTelegramMoneyCase = s.matchedTelegramMoneyCase

/-- A message that follows up a money case of another thread. -/
structure MoneyCaseDecision (routed : NodeState) (case : MoneyCase) : Prop where
  activeWorkflow : routed.get "active_workflow" = .str case.intent
  workflowStage : routed.get "workflow_stage" = .str "waiting_backend"
  matchedCase : routed.matchedTelegramMoneyCase = some case
  route : routed.get "route" = .str "sop"

/-- What becomes of the workflow at the router. -/
def WorkflowDecided (s routed : NodeState) : Prop :=
  SameWorkflow s routed ∨ ∃ case, MoneyCaseDecision routed case

namespace SameWorkflow

variable {s t r : NodeState}

theorem refl (s : NodeState) : SameWorkflow s s := ⟨rfl, rfl, rfl⟩

theorem trans (hst : SameWorkflow s t) (htr : SameWorkflow t r) : SameWorkflow s r :=
  ⟨htr.activeWorkflow.trans hst.activeWorkflow, htr.workflowStage.trans hst.workflowStage,
    htr.matchedCase.trans hst.matchedCase⟩

theorem withRoute (h : SameWorkflow s t) (rt : Runtime) (d : RouteDecision) :
    SameWorkflow s (t.withRoute rt d) :=
  h.trans ⟨t.get_withRoute rt d (by decide), t.get_withRoute rt d (by decide), rfl⟩

theorem withSlotMemory (h : SameWorkflow s t) (memory : JsonObject) :
    SameWorkflow s (t.withSlotMemory memory) :=
  h.trans ⟨by simp, by simp, rfl⟩

theorem withReply (h : SameWorkflow s t) (text : String) : SameWorkflow s (t.withReply text) :=
  h.trans ⟨t.get_withReply text (by decide), t.get_withReply text (by decide), rfl⟩

theorem set (h : SameWorkflow s t) {key : String} (value : Json)
    (hkey : key ∉ ["active_workflow", "workflow_stage"]) : SameWorkflow s (t.set key value) := by
  simp only [List.mem_cons, List.not_mem_nil, or_false, not_or] at hkey
  refine h.trans ⟨?_, ?_, rfl⟩
  · rw [NodeState.get_set, if_neg (Ne.symm hkey.1)]
  · rw [NodeState.get_set, if_neg (Ne.symm hkey.2)]

theorem prepareFinalReplyState {settings : RouterSettings} (h : SameWorkflow s t)
    (kind : FinalReplyKind) : SameWorkflow s (settings.prepareFinalReplyState t kind) :=
  h.withReply _

theorem finalReplyRoute {settings : RouterSettings} (h : SameWorkflow s t) (d : RouteDecision)
    (kind : FinalReplyKind) : SameWorkflow s (settings.finalReplyRoute t d kind) :=
  (h.withRoute settings.rt _).withReply _

theorem decided (h : SameWorkflow s t) (hr : WorkflowDecided t r) : WorkflowDecided s r := by
  rcases hr with hsame | hmoney
  · exact .inl (h.trans hsame)
  · exact .inr hmoney

end SameWorkflow

theorem WorkflowDecided.guardedBy {s r : NodeState} (h : WorkflowDecided s r) (reason : String) :
    WorkflowDecided s (RouterSettings.guardedBy r reason) := by
  rcases h with hsame | ⟨case, hactive, hstage, hmatched, hroute⟩
  · exact .inl (hsame.set _ (by decide))
  · exact .inr ⟨case, by simpa [RouterSettings.guardedBy] using hactive,
      by simpa [RouterSettings.guardedBy] using hstage, hmatched,
      by simpa [RouterSettings.guardedBy] using hroute⟩

namespace RouterSettings

variable {settings : RouterSettings} {s t routed : NodeState}

/-! ## The branches -/

theorem classifiedRoute_same (h : settings.classifiedRoute s = .ok routed) :
    SameWorkflow s routed := by
  unfold classifiedRoute at h
  simp only at h
  split at h
  · cases h
    exact (SameWorkflow.refl s).withRoute _ _
  · split at h
    · obtain ⟨⟨stuck, count⟩, hstuck, h⟩ := bind_eq_ok.mp h
      have hsame : SameWorkflow s stuck := by
        obtain ⟨_, -, hstuck⟩ := bind_eq_ok.mp hstuck
        cases hstuck
        exact (SameWorkflow.refl s).withSlotMemory _
      split at h
      · cases h
        exact hsame.withRoute _ _
      · cases h
        exact hsame.finalReplyRoute _ _
    · split at h
      · cases h
        exact (SameWorkflow.refl s).finalReplyRoute _ _
      · split at h
        · cases h
          exact (SameWorkflow.refl s).finalReplyRoute _ _
        · split at h
          · cases h
            exact (SameWorkflow.refl s).finalReplyRoute _ _
          · cases h
            exact (SameWorkflow.refl s).finalReplyRoute _ _

theorem activeWorkflowDeterministicRoute_same (s : NodeState) :
    SameWorkflow s (settings.activeWorkflowDeterministicRoute s) := by
  have hfinal := @SameWorkflow.finalReplyRoute s s settings (.refl s)
  have hroute := (SameWorkflow.refl s).withRoute settings.rt
  unfold activeWorkflowDeterministicRoute keepingRoute
  simp only
  split
  · exact hfinal _ _
  · split
    · exact hfinal _ _
    · split
      · exact hfinal _ _
      · split
        · exact hroute _
        · split
          · exact hfinal _ _
          · split
            · exact hfinal _ _
            · split
              · exact hroute _
              · exact hfinal _ _

theorem crossThreadMoneyCaseRoute_decided {text : String}
    (h : settings.crossThreadMoneyCaseRoute s text = some routed) : WorkflowDecided s routed := by
  unfold crossThreadMoneyCaseRoute at h
  split at h
  · cases h
  · split at h
    · cases h
    · cases h
      exact .inl ((((SameWorkflow.refl s).withRoute _ _).set _ (by decide)).withReply _)
    · rename_i case kind _
      cases h
      refine .inr ⟨case, ?_, ?_, rfl, ?_⟩
      · simp [NodeState.get, NodeState.withSlotMemory, NodeState.set, getKey_set]
      · simp [NodeState.get, NodeState.withSlotMemory, NodeState.set, getKey_set]
      · have hroute := s.get_route_withRoute
        simp only [NodeState.get] at hroute
        simp [NodeState.get, NodeState.withSlotMemory, NodeState.set, getKey_set, hroute]

theorem promotePendingImageCandidateRoute_same {text : String}
    (h : settings.promotePendingImageCandidateRoute s text = some routed) :
    SameWorkflow s routed := by
  unfold promotePendingImageCandidateRoute at h
  split at h
  · cases h
  · split at h
    · cases h
    · simp only at h
      split at h
      · cases h
      · cases h
        exact (((SameWorkflow.refl s).withSlotMemory _).set _ (by decide)).withRoute _ _

theorem imageCandidateOnlyRoute_eq_none (hactive : (s.get "active_workflow").truthy = true) :
    settings.imageCandidateOnlyRoute s = none := by
  simp [imageCandidateOnlyRoute, isImageAlone, hactive]

theorem autoHandoffRoute_same (h : settings.autoHandoffRoute s = some routed) :
    SameWorkflow s routed := by
  unfold autoHandoffRoute at h
  split at h
  · cases h
    exact (SameWorkflow.refl s).withRoute _ _
  · obtain ⟨d, -, rfl⟩ := Option.map_eq_some_iff.mp h
    exact (SameWorkflow.refl s).withRoute _ d

theorem recentBackendResultDisputeRoute_same
    (h : settings.recentBackendResultDisputeRoute s = .ok (some routed)) :
    SameWorkflow s routed := by
  obtain ⟨evaluation?, -, h⟩ := bind_eq_ok.mp h
  cases evaluation? with
  | none => cases h
  | some evaluation =>
      cases h
      exact ((SameWorkflow.refl s).withSlotMemory _).withRoute _ _

theorem clearBackendDisputeOnAcceptance_same (s : NodeState) :
    SameWorkflow s (settings.clearBackendDisputeOnAcceptance s) := by
  unfold clearBackendDisputeOnAcceptance
  split
  · exact (SameWorkflow.refl s).withSlotMemory _
  · exact .refl s

theorem recentAuthoritativeResultDisputeRoute_same
    (h : settings.recentAuthoritativeResultDisputeRoute s = some routed) :
    SameWorkflow s routed := by
  unfold recentAuthoritativeResultDisputeRoute at h
  split at h
  · cases h
    exact (SameWorkflow.refl s).withRoute _ _
  · cases h

theorem forgotPasswordFollowupRoute_same
    (h : settings.forgotPasswordFollowupRoute s = some routed) : SameWorkflow s routed := by
  unfold forgotPasswordFollowupRoute at h
  split at h
  · cases h
    exact (SameWorkflow.refl s).withRoute _ _
  · cases h

theorem ordinaryRoute_decided (hactive : (s.get "active_workflow").truthy = true)
    (h : settings.ordinaryRoute s = .ok routed) : WorkflowDecided s routed := by
  unfold ordinaryRoute at h
  rw [imageCandidateOnlyRoute_eq_none hactive] at h
  simp only at h
  split at h
  · rename_i hmoney
    cases h
    exact crossThreadMoneyCaseRoute_decided hmoney
  · split at h
    · rename_i hpromoted
      cases h
      exact .inl (promotePendingImageCandidateRoute_same hpromoted)
    · split at h
      · rename_i hauto
        cases h
        exact .inl (autoHandoffRoute_same hauto)
      · split at h
        · cases h
          exact .inl ((SameWorkflow.refl s).finalReplyRoute _ _)
        · split at h
          · cases h
            exact .inl (activeWorkflowDeterministicRoute_same s)
          · exact .inl (classifiedRoute_same h)

/-! ## The nodes -/

theorem undisputedRoute_decided (hactive : (s.get "active_workflow").truthy = true)
    (h : settings.undisputedRoute s = .ok routed) : WorkflowDecided s routed := by
  unfold undisputedRoute at h
  split at h
  · cases h
    exact .inl (.refl s)
  · split at h
    · rename_i hrecent
      cases h
      exact .inl (recentAuthoritativeResultDisputeRoute_same hrecent)
    · split at h
      · cases h
        exact .inl ((SameWorkflow.refl s).withRoute _ _)
      · exact ordinaryRoute_decided hactive h

theorem intentRouterNode_decided (hactive : (s.get "active_workflow").truthy = true)
    (h : settings.intentRouterNode s = .ok routed) : WorkflowDecided s routed := by
  unfold intentRouterNode at h
  split at h
  · cases h
    exact .inl (.refl s)
  · split at h
    · rename_i hforgot
      cases h
      exact .inl (forgotPasswordFollowupRoute_same hforgot)
    · have hclear := @clearBackendDisputeOnAcceptance_same settings s
      obtain ⟨dispute?, hdispute, h⟩ := bind_eq_ok.mp h
      cases dispute? with
      | some disputed =>
          cases h
          exact .inl (hclear.trans (recentBackendResultDisputeRoute_same hdispute))
      | none =>
          exact hclear.decided (undisputedRoute_decided (by rw [hclear.activeWorkflow, hactive]) h)

theorem routerFallbackState_decided {limits : RouterLimits} {reason : String}
    (hactive : (s.get "active_workflow").truthy = true)
    (h : settings.routerFallbackState limits s reason = .ok routed) :
    WorkflowDecided s routed := by
  unfold routerFallbackState at h
  split at h
  · obtain ⟨fallback, hfallback, h⟩ := bind_eq_ok.mp h
    cases h
    exact (intentRouterNode_decided hactive hfallback).guardedBy reason
  · obtain rfl := Except.ok.inj h
    refine WorkflowDecided.guardedBy (.inl (SameWorkflow.prepareFinalReplyState ?_ _)) reason
    exact (((SameWorkflow.refl s).set _ (by decide)).set _ (by decide)).set _ (by decide)

theorem acceptedRoute_same (s : NodeState) (output : RouterOutput) :
    SameWorkflow s (settings.acceptedRoute s output) := by
  have haccepted : SameWorkflow s ((((s.set "intent_result"
      (.obj (acceptedIntentResult settings.rt output))).set "llm_router_result"
      (routerResult "accepted" none)).set "route" (.str output.route)).set "route_source"
      (.str "llm_guarded_authoritative")) :=
    ((((SameWorkflow.refl s).set _ (by decide)).set _ (by decide)).set _ (by decide)).set _
      (by decide)
  unfold acceptedRoute
  simp only
  split
  · exact haccepted.withReply _
  · exact haccepted

theorem answeredRoute_decided {limits : RouterLimits} {answer : RouterAnswer}
    (hactive : (s.get "active_workflow").truthy = true)
    (h : settings.answeredRoute limits s answer = .ok routed) : WorkflowDecided s routed := by
  cases answer with
  | missingProvider => exact routerFallbackState_decided hactive h
  | raised => exact routerFallbackState_decided hactive h
  | answered output =>
      simp only [answeredRoute] at h
      split at h
      · exact routerFallbackState_decided hactive h
      · exact routerFallbackState_decided hactive h
      · split at h
        · exact routerFallbackState_decided hactive h
        · cases h
          exact .inl (acceptedRoute_same s _)

/-- Whatever the language model answers, the node leaves the workflow alone or follows up a money
case. -/
theorem llmIntentRouterNode_decided {limits : RouterLimits} {answer : RouterAnswer}
    (hactive : (s.get "active_workflow").truthy = true)
    (h : settings.llmIntentRouterNode limits answer s = .ok routed) :
    WorkflowDecided s routed := by
  unfold llmIntentRouterNode at h
  split at h
  · cases h
    exact .inl (.refl s)
  · have hclear := @clearBackendDisputeOnAcceptance_same settings s
    have hactive' : ((settings.clearBackendDisputeOnAcceptance s).get "active_workflow").truthy =
        true := by
      rw [hclear.activeWorkflow, hactive]
    obtain ⟨dispute?, hdispute, h⟩ := bind_eq_ok.mp h
    cases dispute? with
    | some disputed =>
        cases h
        exact .inl ((hclear.trans (recentBackendResultDisputeRoute_same hdispute)).set _
          (by decide))
    | none =>
        simp only at h
        split at h
        · rename_i hrecent
          cases h
          exact .inl ((hclear.trans (recentAuthoritativeResultDisputeRoute_same hrecent)).set _
            (by decide))
        · split at h
          · cases h
            exact .inl ((hclear.withRoute _ _).set _ (by decide))
          · split at h
            · exact hclear.decided (intentRouterNode_decided hactive' h)
            · split at h
              · cases h
                exact .inl ((hclear.finalReplyRoute _ _).set _ (by decide))
              · split at h
                · rename_i hmoney
                  cases h
                  exact hclear.decided
                    ((crossThreadMoneyCaseRoute_decided hmoney).guardedBy _)
                · exact hclear.decided (answeredRoute_decided hactive' h)

end RouterSettings

end AiCustomerService
