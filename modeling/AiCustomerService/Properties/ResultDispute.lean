import AiCustomerService.Graph.Frames
import AiCustomerService.Graph.InitialState

/-!
# Disputes about a result of the staff

What the graph makes of the time of an event, which its schema does not declare.
-/

namespace AiCustomerService

open Support

/-- The conversation was handed off since the customer disputes a result of the staff. -/
def NodeState.endsDisputed (s : NodeState) : Bool :=
  (s.get "route").eqText "human_handoff" &&
    (getKey s.intentResult "intent").eqText "authoritative_result_disputed"

namespace RouteDecision

/-- The route is no handoff for a disputed result. -/
def IsOther (d : RouteDecision) : Prop :=
  d.route ≠ "human_handoff" ∨ d.intent ≠ "authoritative_result_disputed"

end RouteDecision

namespace NodeState

variable {s t : NodeState}

theorem endsDisputed_withRoute (rt : Runtime) (s : NodeState) {d : RouteDecision}
    (hd : d.IsOther) : (s.withRoute rt d).endsDisputed = false := by
  rw [endsDisputed, get_route_withRoute, intentResult_withRoute, d.getKey_intentResult.1]
  rcases hd with hroute | hintent
  · simp [hroute]
  · simp [hintent]

theorem endsDisputed_congr (hroute : t.get "route" = s.get "route")
    (hintent : t.get "intent_result" = s.get "intent_result") :
    t.endsDisputed = s.endsDisputed := by
  rw [endsDisputed, intentResult, hroute, hintent, endsDisputed, intentResult]

theorem endsDisputed_set {key : String} (value : Json) (hkey : key ∉ ["route", "intent_result"]) :
    (s.set key value).endsDisputed = s.endsDisputed := by
  simp only [List.mem_cons, List.not_mem_nil, or_false, not_or] at hkey
  refine endsDisputed_congr ?_ ?_
  · rw [get_set, if_neg (Ne.symm hkey.1)]
  · rw [get_set, if_neg (Ne.symm hkey.2)]

theorem endsDisputed_withSlotMemory (s : NodeState) (memory : JsonObject) :
    (s.withSlotMemory memory).endsDisputed = s.endsDisputed :=
  endsDisputed_set _ (by decide)

theorem endsDisputed_withReply (s : NodeState) (text : String) :
    (s.withReply text).endsDisputed = s.endsDisputed :=
  endsDisputed_congr (get_withReply _ _ (by decide)) (get_withReply _ _ (by decide))

theorem endsDisputed_of_route (h : (s.get "route").eqText "human_handoff" = false) :
    s.endsDisputed = false := by
  rw [endsDisputed, h, Bool.false_and]

end NodeState

namespace RouterSettings

open NodeState

variable {settings : RouterSettings} {s routed : NodeState}

/-! ## The branches of the router -/

theorem endsDisputed_finalReplyRoute (s : NodeState) (d : RouteDecision) (kind : FinalReplyKind) :
    (settings.finalReplyRoute s d kind).endsDisputed = false :=
  (endsDisputed_withReply _ _).trans (endsDisputed_withRoute _ _ (.inl (by simp)))

theorem isOther_disputeDecision (evaluation : DisputeEvaluation) :
    (settings.disputeDecision evaluation).IsOther := by
  unfold disputeDecision
  split
  · exact .inr (by simp)
  · exact .inl (by simp)

theorem isOther_autoHandoffRules {rule : TextRule} (h : rule ∈ autoHandoffRules) :
    rule.decision.IsOther := by
  refine .inr ?_
  simp only [autoHandoffRules, List.mem_cons, List.not_mem_nil, or_false] at h
  rcases h with rfl | rfl | rfl | rfl | rfl | rfl | rfl <;> simp [handoffDecision]

theorem isOther_topicRules {text : String} {rule : TextRule} (h : rule ∈ topicRules text) :
    rule.decision.IsOther := by
  refine .inr ?_
  simp only [topicRules, List.mem_cons, List.not_mem_nil, or_false] at h
  rcases h with rfl | rfl | rfl | rfl | rfl | rfl | rfl | rfl | rfl | rfl <;>
    simp [handoffDecision, sopDecision, faqDecision]

theorem isOther_firstRule {rules : List TextRule} {lower : String} {d : RouteDecision}
    (hrules : ∀ rule ∈ rules, rule.decision.IsOther) (h : firstRule rules lower = some d) :
    d.IsOther := by
  obtain ⟨rule, hrule, rfl⟩ := Option.map_eq_some_iff.mp h
  exact hrules rule (List.mem_of_find?_eq_some hrule)

theorem isOther_classifyText {text lower : String} {d : RouteDecision}
    (h : classifyText text lower = some d) : d.IsOther := by
  unfold classifyText at h
  split at h
  · rename_i decision hrule
    cases h
    have hdecision : decision.IsOther := isOther_firstRule (fun _ => isOther_topicRules) hrule
    exact hdecision
  · refine isOther_firstRule (fun rule hrule => .inl ?_) h
    simp only [emotionRules, List.mem_cons, List.not_mem_nil, or_false] at hrule
    rcases hrule with rfl | rfl
    · simp
    · simp

theorem endsDisputed_classifiedRoute (h : settings.classifiedRoute s = .ok routed) :
    routed.endsDisputed = false := by
  unfold classifiedRoute at h
  simp only at h
  split at h
  · rename_i decision hclass
    cases h
    exact endsDisputed_withRoute _ _ (isOther_classifyText hclass)
  · split at h
    · obtain ⟨⟨stuck, count⟩, -, h⟩ := bind_eq_ok.mp h
      simp only at h
      split at h
      · cases h
        exact endsDisputed_withRoute _ _ (.inr (by simp [handoffDecision]))
      · cases h
        exact endsDisputed_finalReplyRoute _ _ _
    · split at h
      · cases h
        exact endsDisputed_finalReplyRoute _ _ _
      · split at h
        · cases h
          exact endsDisputed_finalReplyRoute _ _ _
        · split at h
          · cases h
            exact endsDisputed_finalReplyRoute _ _ _
          · cases h
            exact endsDisputed_finalReplyRoute _ _ _

theorem endsDisputed_activeWorkflowDeterministicRoute (s : NodeState) :
    (settings.activeWorkflowDeterministicRoute s).endsDisputed = false := by
  have hfinal := @endsDisputed_finalReplyRoute settings s
  unfold activeWorkflowDeterministicRoute keepingRoute
  simp only
  split
  · exact hfinal _ _
  · split
    · exact hfinal _ _
    · split
      · exact hfinal _ _
      · split
        · exact endsDisputed_withRoute _ _ (.inl (by simp))
        · split
          · exact hfinal _ _
          · split
            · exact hfinal _ _
            · split
              · exact endsDisputed_withRoute _ _ (.inl (by simp [sopDecision]))
              · exact hfinal _ _

theorem endsDisputed_crossThreadMoneyCaseRoute {text : String}
    (h : settings.crossThreadMoneyCaseRoute s text = some routed) :
    routed.endsDisputed = false := by
  unfold crossThreadMoneyCaseRoute at h
  split at h
  · cases h
  · split at h
    · cases h
    · cases h
      rw [endsDisputed_withReply, endsDisputed_set _ (by decide)]
      exact endsDisputed_withRoute _ _ (.inl (by simp))
    · rename_i case kind _
      cases h
      refine endsDisputed_of_route ?_
      have hroute := s.get_route_withRoute
      simp only [NodeState.get] at hroute
      simp [NodeState.get, NodeState.withSlotMemory, NodeState.set, getKey_set, hroute]

theorem endsDisputed_promotePendingImageCandidateRoute {text : String}
    (h : settings.promotePendingImageCandidateRoute s text = some routed) :
    routed.endsDisputed = false := by
  unfold promotePendingImageCandidateRoute at h
  split at h
  · cases h
  · split at h
    · cases h
    · simp only at h
      split at h
      · cases h
      · cases h
        exact endsDisputed_withRoute _ _ (.inl (by simp))

theorem endsDisputed_imageCandidateOnlyRoute
    (h : settings.imageCandidateOnlyRoute s = some routed) : routed.endsDisputed = false := by
  unfold imageCandidateOnlyRoute at h
  split at h
  · cases h
  · obtain ⟨analysis, -, rfl⟩ := Option.map_eq_some_iff.mp h
    refine endsDisputed_of_route ?_
    simp [NodeState.withReply]

theorem endsDisputed_autoHandoffRoute (h : settings.autoHandoffRoute s = some routed) :
    routed.endsDisputed = false := by
  unfold autoHandoffRoute at h
  split at h
  · cases h
    exact endsDisputed_withRoute _ _ (.inr (by simp [handoffDecision]))
  · obtain ⟨d, hrule, rfl⟩ := Option.map_eq_some_iff.mp h
    exact endsDisputed_withRoute _ _ (isOther_firstRule (fun _ => isOther_autoHandoffRules) hrule)

theorem endsDisputed_recentBackendResultDisputeRoute
    (h : settings.recentBackendResultDisputeRoute s = .ok (some routed)) :
    routed.endsDisputed = false := by
  obtain ⟨evaluation?, -, h⟩ := bind_eq_ok.mp h
  cases evaluation? with
  | none => cases h
  | some evaluation =>
      cases h
      exact endsDisputed_withRoute _ _ (isOther_disputeDecision evaluation)

theorem endsDisputed_clearBackendDisputeOnAcceptance (s : NodeState) :
    (settings.clearBackendDisputeOnAcceptance s).endsDisputed = s.endsDisputed := by
  unfold clearBackendDisputeOnAcceptance
  split
  · exact endsDisputed_withSlotMemory s _
  · rfl

theorem occurredAt_clearBackendDisputeOnAcceptance (s : NodeState) :
    (settings.clearBackendDisputeOnAcceptance s).get "occurred_at" = s.get "occurred_at" := by
  unfold clearBackendDisputeOnAcceptance
  split
  · simp
  · rfl

theorem endsDisputed_explicitHumanRoute (s : NodeState) :
    (settings.explicitHumanRoute s).endsDisputed = false :=
  endsDisputed_withRoute _ _ (.inr (by simp [handoffDecision]))

theorem endsDisputed_ordinaryRoute (h : settings.ordinaryRoute s = .ok routed) :
    routed.endsDisputed = false := by
  unfold ordinaryRoute at h
  simp only at h
  split at h
  · rename_i hmoney
    cases h
    exact endsDisputed_crossThreadMoneyCaseRoute hmoney
  · split at h
    · rename_i hpromoted
      cases h
      exact endsDisputed_promotePendingImageCandidateRoute hpromoted
    · split at h
      · rename_i himage
        cases h
        exact endsDisputed_imageCandidateOnlyRoute himage
      · split at h
        · rename_i hauto
          cases h
          exact endsDisputed_autoHandoffRoute hauto
        · split at h
          · cases h
            exact endsDisputed_finalReplyRoute _ _ _
          · split at h
            · cases h
              exact endsDisputed_activeWorkflowDeterministicRoute s
            · exact endsDisputed_classifiedRoute h

/-! ## A message without its time -/

/-- Without the time of the event no result counts as recent. -/
theorem recentAuthoritativeResultDisputeRoute_of_no_date (hdate : s.get "occurred_at" = .null) :
    settings.recentAuthoritativeResultDisputeRoute s = none := by
  have hnone : settings.parseGraphDatetime (s.get "occurred_at") = none := by
    rw [parseGraphDatetime, hdate]
    simp [TurnState.parseDatetime]
  have hguard : settings.disputesRecentResult s = false := by
    unfold disputesRecentResult
    rw [hnone]
    cases settings.parseGraphDatetime (getKey s.slotMemory "telegram_case_resolved_at") with
    | none => simp
    | some resolvedAt => simp
  rw [recentAuthoritativeResultDisputeRoute, hguard]
  rfl

theorem endsDisputed_intentRouterNode (hs : s.endsDisputed = false)
    (hdate : s.get "occurred_at" = .null) (h : settings.intentRouterNode s = .ok routed) :
    routed.endsDisputed = false := by
  unfold intentRouterNode at h
  split at h
  · cases h
    exact hs
  · split at h
    · rename_i hforgot
      cases h
      unfold forgotPasswordFollowupRoute at hforgot
      split at hforgot
      · cases hforgot
        exact endsDisputed_withRoute _ _ (.inr (by simp))
      · cases hforgot
    · obtain ⟨dispute?, hdispute, h⟩ := bind_eq_ok.mp h
      cases dispute? with
      | some disputed =>
          cases h
          exact endsDisputed_recentBackendResultDisputeRoute hdispute
      | none =>
          simp only at h
          unfold undisputedRoute at h
          rw [recentAuthoritativeResultDisputeRoute_of_no_date
            ((occurredAt_clearBackendDisputeOnAcceptance s).trans hdate)] at h
          simp only at h
          split at h
          · rw [← Except.ok.inj h]
            exact (endsDisputed_clearBackendDisputeOnAcceptance s).trans hs
          · split at h
            · rw [← Except.ok.inj h]
              exact endsDisputed_explicitHumanRoute _
            · exact endsDisputed_ordinaryRoute h

theorem endsDisputed_guardedBy (s : NodeState) (reason : String) :
    (guardedBy s reason).endsDisputed = s.endsDisputed :=
  endsDisputed_set _ (by decide)

theorem endsDisputed_routerFallbackState {limits : RouterLimits} {reason : String}
    (hs : s.endsDisputed = false) (hdate : s.get "occurred_at" = .null)
    (h : settings.routerFallbackState limits s reason = .ok routed) :
    routed.endsDisputed = false := by
  unfold routerFallbackState at h
  split at h
  · obtain ⟨fallback, hfallback, h⟩ := bind_eq_ok.mp h
    cases h
    rw [endsDisputed_guardedBy]
    exact endsDisputed_intentRouterNode hs hdate hfallback
  · rw [← Except.ok.inj h, endsDisputed_guardedBy]
    refine (endsDisputed_withReply _ _).trans (endsDisputed_of_route ?_)
    simp

/-- The guardrails accept no such intent. -/
theorem intent_ne_of_validated {rt : Runtime} {payload : RouterPayload} {output : JsonObject}
    {validated : RouterOutput}
    (h : validateIntentClassificationOutput rt payload output = .ok validated) :
    validated.intent ≠ "authoritative_result_disputed" := by
  obtain ⟨_, -, h⟩ := bind_eq_ok.mp h
  obtain ⟨route, -, h⟩ := bind_eq_ok.mp h
  obtain ⟨_, -, h⟩ := bind_eq_ok.mp h
  obtain ⟨intent, hintent, h⟩ := bind_eq_ok.mp h
  obtain ⟨_, -, h⟩ := bind_eq_ok.mp h
  obtain ⟨relation, -, h⟩ := bind_eq_ok.mp h
  obtain ⟨_, -, h⟩ := bind_eq_ok.mp h
  obtain ⟨reason, -, h⟩ := bind_eq_ok.mp h
  obtain ⟨_, -, h⟩ := bind_eq_ok.mp h
  cases h
  intro heq
  simp only at heq
  rw [heq] at hintent
  unfold normalizeRouterDecisionIntent at hintent
  simp only at hintent
  split at hintent
  · rename_i hallowed
    rw [Except.ok.inj hintent] at hallowed
    exact absurd hallowed (by decide)
  · split at hintent
    · exact absurd (Except.ok.inj hintent) (by decide)
    · split at hintent
      · split at hintent
        · exact absurd (Except.ok.inj hintent) (by decide)
        · split at hintent
          · exact absurd (Except.ok.inj hintent) (by decide)
          · exact absurd (Except.ok.inj hintent) (by decide)
      · cases hintent

theorem endsDisputed_acceptedRoute (s : NodeState) {output : RouterOutput}
    (hintent : output.intent ≠ "authoritative_result_disputed") :
    (settings.acceptedRoute s output).endsDisputed = false := by
  have hresult : getKey (acceptedIntentResult settings.rt output) "intent" =
      .str output.intent := by
    simp [acceptedIntentResult, Dict.ofList, getKey_set]
  have haccepted (result : Json) : ((((s.set "intent_result"
      (.obj (acceptedIntentResult settings.rt output))).set "llm_router_result" result).set "route"
      (.str output.route)).set "route_source"
      (.str "llm_guarded_authoritative")).endsDisputed = false := by
    simp [endsDisputed, NodeState.intentResult, Json.dictOrEmpty, hresult, hintent]
  unfold acceptedRoute
  simp only
  split
  · exact (endsDisputed_withReply _ _).trans (haccepted _)
  · exact haccepted _

theorem endsDisputed_answeredRoute {limits : RouterLimits} {answer : RouterAnswer}
    (hs : s.endsDisputed = false) (hdate : s.get "occurred_at" = .null)
    (h : settings.answeredRoute limits s answer = .ok routed) : routed.endsDisputed = false := by
  cases answer with
  | missingProvider => exact endsDisputed_routerFallbackState hs hdate h
  | raised => exact endsDisputed_routerFallbackState hs hdate h
  | answered output =>
      simp only [answeredRoute] at h
      split at h
      · exact endsDisputed_routerFallbackState hs hdate h
      · exact endsDisputed_routerFallbackState hs hdate h
      · rename_i validated hvalidated
        split at h
        · exact endsDisputed_routerFallbackState hs hdate h
        · rw [← Except.ok.inj h]
          exact endsDisputed_acceptedRoute _ (intent_ne_of_validated hvalidated)

/-- Whatever the language model answers, a message without its time is no dispute. -/
theorem endsDisputed_llmIntentRouterNode {limits : RouterLimits} {answer : RouterAnswer}
    (hs : s.endsDisputed = false) (hdate : s.get "occurred_at" = .null)
    (h : settings.llmIntentRouterNode limits answer s = .ok routed) :
    routed.endsDisputed = false := by
  unfold llmIntentRouterNode at h
  split at h
  · cases h
    exact hs
  · obtain ⟨dispute?, hdispute, h⟩ := bind_eq_ok.mp h
    have hclear := (@endsDisputed_clearBackendDisputeOnAcceptance settings s).trans hs
    have hdate' := (@occurredAt_clearBackendDisputeOnAcceptance settings s).trans hdate
    cases dispute? with
    | some disputed =>
        cases h
        rw [endsDisputed_guardedBy]
        exact endsDisputed_recentBackendResultDisputeRoute hdispute
    | none =>
        simp only [recentAuthoritativeResultDisputeRoute_of_no_date hdate'] at h
        split at h
        · cases h
          rw [endsDisputed_guardedBy]
          exact endsDisputed_explicitHumanRoute _
        · split at h
          · exact endsDisputed_intentRouterNode hclear hdate' h
          · split at h
            · cases h
              rw [endsDisputed_guardedBy]
              exact endsDisputed_finalReplyRoute _ _ _
            · split at h
              · rename_i hmoney
                cases h
                rw [endsDisputed_guardedBy]
                exact endsDisputed_crossThreadMoneyCaseRoute hmoney
              · exact endsDisputed_answeredRoute hclear hdate' h

end RouterSettings

namespace GraphServices

open NodeState

variable {services : GraphServices} {s r routed result : NodeState}

/-! ## The run -/

theorem endsDisputed_sameRoute (h : SameRoute s r) : r.endsDisputed = s.endsDisputed :=
  endsDisputed_congr h.route h.intentResult

theorem intent_ne_of_businessButtonRoute {buttonId : String}
    {target : String × String × Option String} (h : businessButtonRoute buttonId = some target) :
    target.1 ≠ "authoritative_result_disputed" := by
  unfold businessButtonRoute at h
  split at h <;> cases h <;> decide

theorem endsDisputed_businessButtonState (s base : NodeState) (buttonId : String)
    {target : String × String × Option String}
    (hintent : target.1 ≠ "authoritative_result_disputed") :
    (businessButtonState s base buttonId target).endsDisputed = false := by
  obtain ⟨intent, route, query⟩ := target
  have hresult : getKey (businessButtonState s base buttonId
      (intent, route, query)).intentResult "intent" = .str intent := by
    simp only [businessButtonState, NodeState.intentResult, get_set, if_true, Json.dictOrEmpty,
      Json.dict?_obj, Option.getD_some]
    split <;> split <;> simp [getKey_set, Dict.ofList]
  rw [endsDisputed, hresult]
  simp only at hintent
  simp [hintent]

theorem endsDisputed_applyMenuButtonRoute (h : services.applyMenuButtonRoute s = some r) :
    r.endsDisputed = false := by
  obtain ⟨buttonId, -, h⟩ := Option.bind_eq_some_iff.mp h
  simp only at h
  split at h
  · cases h
    refine endsDisputed_of_route ?_
    simp
  · obtain ⟨target, htarget, rfl⟩ := Option.map_eq_some_iff.mp h
    exact endsDisputed_businessButtonState s _ _ (intent_ne_of_businessButtonRoute htarget)

theorem endsDisputed_rewrites (h : Rewrites services s r) (hs : s.endsDisputed = false) :
    r.endsDisputed = false := by
  have hkeys : ∀ key ∈ rewriteKeys, key ∉ ["route", "intent_result"] := by decide
  induction h with
  | pressed hbutton => exact endsDisputed_applyMenuButtonRoute hbutton
  | refl => exact hs
  | set _ value hkey ih => rw [endsDisputed_set _ (hkeys _ hkey), ih]

theorem languagePolicyNode_sameRoute (s : NodeState) :
    SameRoute s (services.languagePolicyNode s) := by
  constructor
  · simp [languagePolicyNode]
  · simp [languagePolicyNode]

theorem endsDisputed_routedState (hs : s.endsDisputed = false)
    (h : services.routedState s = .ok routed) : routed.endsDisputed = false := by
  obtain ⟨router, hrouter, h⟩ := bind_eq_ok.mp h
  cases h
  rw [endsDisputed_sameRoute (sameRoute_declared router)]
  refine RouterSettings.endsDisputed_llmIntentRouterNode ?_ ?_ hrouter
  · rw [endsDisputed_sameRoute (sameRoute_declared _),
      endsDisputed_sameRoute (languagePolicyNode_sameRoute _),
      endsDisputed_sameRoute (sameRoute_declared _)]
    refine endsDisputed_rewrites (llmRewriteQuestionNode_rewrites _) ?_
    rw [endsDisputed_sameRoute (sameRoute_declared s), hs]
  · rw [NodeState.get_declared, if_neg (by decide)]

/-- A run that starts without a route does not end in a dispute. -/
theorem endsDisputed_runGraph (hs : s.endsDisputed = false)
    (h : services.runGraph s = .ok result) : result.endsDisputed = false := by
  obtain ⟨routed, hrouted, hhandled⟩ := bind_eq_ok.mp h
  rw [endsDisputed_sameRoute (handledState_sameRoute hhandled)]
  exact endsDisputed_routedState hs hrouted

/-- A run finds the declared keys of its input only. -/
theorem runGraph_congr (h : s.declared = r.declared) :
    services.runGraph s = services.runGraph r := by
  unfold runGraph routedState
  rw [h]

theorem declared_withTime (rt : Runtime) (input : GraphInput) (occurredAt : Option String) :
    ((input.withTime occurredAt).buildGraphState rt).declared =
      (input.buildGraphState rt).declared := by
  have hfiltered (time : Option String) :
      (Dict.ofList ((input.withTime time).values rt)).entries.filter
        (fun entry => graphStateKeys.contains entry.1) =
        (Dict.ofList (((input.values rt).take 17 ++ (input.values rt).drop 18).filter
          fun entry => graphStateKeys.contains entry.1)).entries := by
    have hkey : ¬ graphStateKeys.contains "occurred_at" = true := by decide
    rw [Dict.filter_ofList (fun key => graphStateKeys.contains key), input.values_withTime,
      List.filter_append, List.filter_cons, if_neg hkey, ← List.filter_append]
  have hsame := (hfiltered occurredAt).trans (hfiltered input.event.occurredAt).symm
  simp only [NodeState.declared, GraphInput.buildGraphState]
  rw [hsame]
  rfl

/-- Services that read a time as a decimal number. -/
def datedServices : GraphServices :=
  { GraphServices.plain with
    rt := { Runtime.plain with
      fromIsoFormat := fun text =>
        some (text.toList.foldl (fun n c => 10 * n + (c.toNat - '0'.toNat)) 0) } }

/-- A customer still has no money, after the staff resolved the case at time 100. -/
def resolvedCaseDispute : GraphInput :=
  (GraphInput.plain "仍未收到" none none
    (.ofList [("telegram_case_resolved_at", .str "100")])).withTime (some "200")

end GraphServices

end AiCustomerService
