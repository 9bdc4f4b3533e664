import AiCustomerService.Graph.Router
import AiCustomerService.Workflows.SopHandlers

/-!
# What the router edits

Every branch of the router is a sequence of small edits of the state: it sets some keys, replaces
the commands by a text or by none, and may match a money case.  What such edits keep, the router
keeps.
-/

namespace AiCustomerService

open Support

/-- A text of the customer service. -/
def textCommand (text : String) : WorkflowCommand :=
  SopSettings.command .livechatSendText (.ofList [("text", .str text)])

/-- The keys that the router sets. -/
def routerKeys : List String :=
  ["slot_memory", "intent_result", "route", "route_source", "route_locked", "llm_router_result",
    "verified_receipt_attachments", "image_candidate_only", "pending_image_confirmation",
    "active_workflow", "workflow_stage", "response_text", "response_text_fallback"]

/-- The states that the router makes of a state. -/
inductive RouterEdits (s : NodeState) : NodeState → Prop
  | refl : RouterEdits s s
  | set {t : NodeState} {key : String} (h : RouterEdits s t) (value : Json)
      (hkey : key ∈ routerKeys) : RouterEdits s (t.set key value)
  | withText {t : NodeState} (h : RouterEdits s t) (text? : Option String) :
      RouterEdits s (t.withCommands (text?.toList.map textCommand))
  | matched {t : NodeState} (h : RouterEdits s t) (case : MoneyCase) :
      RouterEdits s { t with matchedTelegramMoneyCase := some case }

namespace RouterEdits

variable {s t r : NodeState}

theorem trans (hst : RouterEdits s t) (htr : RouterEdits t r) : RouterEdits s r := by
  induction htr with
  | refl => exact hst
  | set _ value hkey ih => exact ih.set value hkey
  | withText _ text? ih => exact ih.withText text?
  | matched _ case ih => exact ih.matched case

theorem withSlotMemory (h : RouterEdits s t) (memory : JsonObject) :
    RouterEdits s (t.withSlotMemory memory) :=
  h.set _ (by decide)

theorem withRoute (h : RouterEdits s t) (rt : Runtime) (d : RouteDecision) :
    RouterEdits s (t.withRoute rt d) :=
  ((h.withSlotMemory _).set _ (by decide)).set _ (by decide)

theorem withReply (h : RouterEdits s t) (text : String) : RouterEdits s (t.withReply text) :=
  ((h.set _ (by decide)).set _ (by decide)).withText none

theorem finalReplyRoute {settings : RouterSettings} (h : RouterEdits s t) (d : RouteDecision)
    (kind : FinalReplyKind) : RouterEdits s (settings.finalReplyRoute t d kind) :=
  (h.withRoute settings.rt _).withReply _

/-- The router leaves all other keys alone. -/
theorem setsOnly (h : RouterEdits s r) : SetsOnly routerKeys s r := by
  induction h with
  | refl => exact .refl routerKeys s
  | set _ value hkey ih => exact ih.set value hkey
  | withText _ text? ih => exact ih.withCommands _
  | matched _ case ih => exact ih

end RouterEdits

namespace RouterSettings

variable {settings : RouterSettings} {s routed : NodeState}

/-! ## The branches -/

theorem clearBackendDisputeOnAcceptance_edits (s : NodeState) :
    RouterEdits s (settings.clearBackendDisputeOnAcceptance s) := by
  unfold clearBackendDisputeOnAcceptance
  split
  · exact RouterEdits.refl.withSlotMemory _
  · exact .refl

theorem classifiedRoute_edits (h : settings.classifiedRoute s = .ok routed) :
    RouterEdits s routed := by
  unfold classifiedRoute at h
  simp only at h
  split at h
  · cases h
    exact RouterEdits.refl.withRoute _ _
  · split at h
    · obtain ⟨⟨stuck, count⟩, hstuck, h⟩ := bind_eq_ok.mp h
      have hcounted : RouterEdits s stuck := by
        obtain ⟨_, -, hstuck⟩ := bind_eq_ok.mp hstuck
        cases hstuck
        exact RouterEdits.refl.withSlotMemory _
      simp only at h
      split at h
      · cases h
        exact hcounted.withRoute _ _
      · cases h
        exact hcounted.finalReplyRoute _ _
    · split at h
      · cases h
        exact RouterEdits.refl.finalReplyRoute _ _
      · split at h
        · cases h
          exact RouterEdits.refl.finalReplyRoute _ _
        · split at h
          · cases h
            exact RouterEdits.refl.finalReplyRoute _ _
          · cases h
            exact RouterEdits.refl.finalReplyRoute _ _

theorem activeWorkflowDeterministicRoute_edits (s : NodeState) :
    RouterEdits s (settings.activeWorkflowDeterministicRoute s) := by
  have hfinal := @RouterEdits.finalReplyRoute s s settings .refl
  have hroute := (@RouterEdits.refl s).withRoute settings.rt
  unfold activeWorkflowDeterministicRoute keepingRoute
  simp only
  split
  · exact hfinal _ _
  · split
    · exact hfinal _ _
    · split
      · exact hfinal _ _
      · split
        · exact hroute _
        · split
          · exact hfinal _ _
          · split
            · exact hfinal _ _
            · split
              · exact hroute _
              · exact hfinal _ _

theorem crossThreadMoneyCaseRoute_edits {text : String}
    (h : settings.crossThreadMoneyCaseRoute s text = some routed) : RouterEdits s routed := by
  unfold crossThreadMoneyCaseRoute at h
  split at h
  · cases h
  · split at h
    · cases h
    · cases h
      exact ((RouterEdits.refl.withRoute _ _).set _ (by decide)).withReply _
    · rename_i case kind _
      cases h
      exact ((((RouterEdits.refl.withRoute _ _).set _ (by decide)).set _ (by decide)).set _
        (by decide) |>.withSlotMemory _).matched case

theorem promotePendingImageCandidateRoute_edits {text : String}
    (h : settings.promotePendingImageCandidateRoute s text = some routed) :
    RouterEdits s routed := by
  unfold promotePendingImageCandidateRoute at h
  split at h
  · cases h
  · split at h
    · cases h
    · simp only at h
      split at h
      · cases h
      · cases h
        exact ((RouterEdits.refl.withSlotMemory _).set _ (by decide)).withRoute _ _

theorem imageCandidateOnlyRoute_edits (h : settings.imageCandidateOnlyRoute s = some routed) :
    RouterEdits s routed := by
  unfold imageCandidateOnlyRoute at h
  split at h
  · cases h
  · obtain ⟨analysis, -, rfl⟩ := Option.map_eq_some_iff.mp h
    have hasked (memory result : JsonObject) (text : String) : RouterEdits s
        ((((((s.withSlotMemory memory).set "route" (.str "final_reply")).set "route_source"
          (.str "image_analysis_candidate")).set "image_candidate_only" (.bool true)).set
          "pending_image_confirmation" (.obj analysis)).set "active_workflow" .null |>.set
          "intent_result" (.obj result) |>.withReply text) :=
      ((((((RouterEdits.refl.withSlotMemory _).set _ (by decide)).set _ (by decide)).set _
        (by decide)).set _ (by decide)).set _ (by decide) |>.set _ (by decide)).withReply _
    exact (hasked _ _ _).withText (some _)

theorem autoHandoffRoute_edits (h : settings.autoHandoffRoute s = some routed) :
    RouterEdits s routed := by
  unfold autoHandoffRoute at h
  split at h
  · cases h
    exact RouterEdits.refl.withRoute _ _
  · obtain ⟨d, -, rfl⟩ := Option.map_eq_some_iff.mp h
    exact RouterEdits.refl.withRoute _ d

theorem recentBackendResultDisputeRoute_edits
    (h : settings.recentBackendResultDisputeRoute s = .ok (some routed)) :
    RouterEdits s routed := by
  obtain ⟨evaluation?, -, h⟩ := bind_eq_ok.mp h
  cases evaluation? with
  | none => cases h
  | some evaluation =>
      cases h
      exact (RouterEdits.refl.withSlotMemory _).withRoute _ _

theorem recentAuthoritativeResultDisputeRoute_edits
    (h : settings.recentAuthoritativeResultDisputeRoute s = some routed) :
    RouterEdits s routed := by
  unfold recentAuthoritativeResultDisputeRoute at h
  split at h
  · cases h
    exact RouterEdits.refl.withRoute _ _
  · cases h

theorem forgotPasswordFollowupRoute_edits
    (h : settings.forgotPasswordFollowupRoute s = some routed) : RouterEdits s routed := by
  unfold forgotPasswordFollowupRoute at h
  split at h
  · cases h
    exact RouterEdits.refl.withRoute _ _
  · cases h

theorem ordinaryRoute_edits (h : settings.ordinaryRoute s = .ok routed) :
    RouterEdits s routed := by
  unfold ordinaryRoute at h
  simp only at h
  split at h
  · rename_i hmoney
    cases h
    exact crossThreadMoneyCaseRoute_edits hmoney
  · split at h
    · rename_i hpromoted
      cases h
      exact promotePendingImageCandidateRoute_edits hpromoted
    · split at h
      · rename_i himage
        cases h
        exact imageCandidateOnlyRoute_edits himage
      · split at h
        · rename_i hauto
          cases h
          exact autoHandoffRoute_edits hauto
        · split at h
          · cases h
            exact RouterEdits.refl.finalReplyRoute _ _
          · split at h
            · cases h
              exact activeWorkflowDeterministicRoute_edits s
            · exact classifiedRoute_edits h

/-! ## The nodes -/

theorem undisputedRoute_edits (h : settings.undisputedRoute s = .ok routed) :
    RouterEdits s routed := by
  unfold undisputedRoute at h
  split at h
  · cases h
    exact .refl
  · split at h
    · rename_i hrecent
      cases h
      exact recentAuthoritativeResultDisputeRoute_edits hrecent
    · split at h
      · cases h
        exact RouterEdits.refl.withRoute _ _
      · exact ordinaryRoute_edits h

theorem intentRouterNode_edits (h : settings.intentRouterNode s = .ok routed) :
    RouterEdits s routed := by
  unfold intentRouterNode at h
  split at h
  · cases h
    exact .refl
  · split at h
    · rename_i hforgot
      cases h
      exact forgotPasswordFollowupRoute_edits hforgot
    · have hclear := @clearBackendDisputeOnAcceptance_edits settings s
      obtain ⟨dispute?, hdispute, h⟩ := bind_eq_ok.mp h
      cases dispute? with
      | some disputed =>
          cases h
          exact hclear.trans (recentBackendResultDisputeRoute_edits hdispute)
      | none => exact hclear.trans (undisputedRoute_edits h)

theorem routerFallbackState_edits {limits : RouterLimits} {reason : String}
    (h : settings.routerFallbackState limits s reason = .ok routed) : RouterEdits s routed := by
  unfold routerFallbackState at h
  split at h
  · obtain ⟨fallback, hfallback, h⟩ := bind_eq_ok.mp h
    cases h
    exact (intentRouterNode_edits hfallback).set _ (by decide)
  · rw [← Except.ok.inj h]
    exact ((((RouterEdits.refl.set _ (by decide)).set _ (by decide)).set _
      (by decide)).withReply _).set _ (by decide)

theorem acceptedRoute_edits (s : NodeState) (output : RouterOutput) :
    RouterEdits s (settings.acceptedRoute s output) := by
  have haccepted : RouterEdits s ((((s.set "intent_result"
      (.obj (acceptedIntentResult settings.rt output))).set "llm_router_result"
      (routerResult "accepted" none)).set "route" (.str output.route)).set "route_source"
      (.str "llm_guarded_authoritative")) :=
    (((RouterEdits.refl.set _ (by decide)).set _ (by decide)).set _ (by decide)).set _ (by decide)
  unfold acceptedRoute
  simp only
  split
  · exact haccepted.withReply _
  · exact haccepted

theorem answeredRoute_edits {limits : RouterLimits} {answer : RouterAnswer}
    (h : settings.answeredRoute limits s answer = .ok routed) : RouterEdits s routed := by
  cases answer with
  | missingProvider => exact routerFallbackState_edits h
  | raised => exact routerFallbackState_edits h
  | answered output =>
      simp only [answeredRoute] at h
      split at h
      · exact routerFallbackState_edits h
      · exact routerFallbackState_edits h
      · split at h
        · exact routerFallbackState_edits h
        · rw [← Except.ok.inj h]
          exact acceptedRoute_edits s _

/-- Whatever the language model answers, the node makes such edits only. -/
theorem llmIntentRouterNode_edits {limits : RouterLimits} {answer : RouterAnswer}
    (h : settings.llmIntentRouterNode limits answer s = .ok routed) : RouterEdits s routed := by
  unfold llmIntentRouterNode at h
  split at h
  · cases h
    exact .refl
  · have hclear := @clearBackendDisputeOnAcceptance_edits settings s
    obtain ⟨dispute?, hdispute, h⟩ := bind_eq_ok.mp h
    cases dispute? with
    | some disputed =>
        cases h
        exact (hclear.trans (recentBackendResultDisputeRoute_edits hdispute)).set _ (by decide)
    | none =>
        simp only at h
        split at h
        · rename_i hrecent
          cases h
          exact (hclear.trans (recentAuthoritativeResultDisputeRoute_edits hrecent)).set _
            (by decide)
        · split at h
          · cases h
            exact (hclear.withRoute _ _).set _ (by decide)
          · split at h
            · exact hclear.trans (intentRouterNode_edits h)
            · split at h
              · cases h
                exact (hclear.finalReplyRoute _ _).set _ (by decide)
              · split at h
                · rename_i hmoney
                  cases h
                  exact (hclear.trans (crossThreadMoneyCaseRoute_edits hmoney)).set _ (by decide)
                · exact hclear.trans (answeredRoute_edits h)

end RouterSettings

end AiCustomerService
