import AiCustomerService.Graph.Router

/-!
# Explicit requests for a human

A customer who asks for a human goes to one, unless the same message disputes a conclusion of the
backend for the first time, or the state carries the route of an earlier decision.
-/

namespace AiCustomerService

open Support

/-- The node returned a state on the route. -/
def endsIn (result : Except PyError NodeState) (route : String) : Bool :=
  match result with
  | .ok routed => (routed.get "route").eqText route
  | .error _ => false

@[simp]
theorem endsIn_ok (s : NodeState) (route : String) :
    endsIn (.ok s) route = (s.get "route").eqText route := rfl

namespace RouterSettings

variable (settings : RouterSettings)

/-- The dispute makes two of the same conclusion, and no recheck is pending. -/
def isRepeatedDispute (s : NodeState) : Bool :=
  !(getKey s.slotMemory "backend_recheck_pending").truthy &&
    match (getKey s.slotMemory "backend_dispute_count").intOrZero settings.rt with
    | .ok count =>
        decide (2 ≤ if settings.isCountedDispute s.slotMemory (disputeEventId s) then count
          else count + 1)
    | .error _ => false

/-- A conclusion of the backend is disputed, and the dispute does not go to a human. -/
def isHeldBackDispute (s : NodeState) : Bool :=
  let s := settings.clearBackendDisputeOnAcceptance s
  settings.disputesConclusion s && !settings.isRepeatedDispute s

variable {settings}

/-! ## The guard of disputes -/

theorem recentBackendResultDisputeRoute_of_no_dispute {s : NodeState}
    (h : settings.disputesConclusion s = false) :
    settings.recentBackendResultDisputeRoute s = .ok none := by
  unfold recentBackendResultDisputeRoute evaluateBackendDispute
  rw [h]
  rfl

/-- An evaluation hands off exactly when the dispute is a repeated one. -/
theorem shouldHandoff_iff_isRepeatedDispute {s : NodeState}
    (h : settings.disputesConclusion s = true) :
    (∃ evaluation, settings.evaluateBackendDispute s = .ok (some evaluation) ∧
        evaluation.shouldHandoff = true) ↔
      settings.isRepeatedDispute s = true := by
  unfold evaluateBackendDispute isRepeatedDispute
  simp only [h, Bool.not_true, Bool.false_eq_true, if_false]
  by_cases hpending : (getKey s.slotMemory "backend_recheck_pending").truthy = true
  · rw [if_pos hpending]
    constructor
    · rintro ⟨evaluation, heval, hhandoff⟩
      obtain ⟨count, -, hcount⟩ := bind_eq_ok.mp heval
      cases hcount
      cases hhandoff
    · intro hrepeated
      rw [hpending] at hrepeated
      cases hrepeated
  · rw [if_neg hpending]
    have hpending : (getKey s.slotMemory "backend_recheck_pending").truthy = false :=
      Bool.eq_false_of_not_eq_true hpending
    rw [hpending]
    cases hcount : (getKey s.slotMemory "backend_dispute_count").intOrZero settings.rt with
    | error e =>
        constructor
        · rintro ⟨evaluation, heval, -⟩
          obtain ⟨count, hok, -⟩ := bind_eq_ok.mp heval
          cases hok
        · intro hrepeated
          cases hrepeated
    | ok count =>
        by_cases hcounted : settings.isCountedDispute s.slotMemory (disputeEventId s) = true
        · simp [hcounted, bind, Except.bind, pure, Except.pure]
        · simp [hcounted, bind, Except.bind, pure, Except.pure]

/-- A dispute either raises, or is routed: to a human when it is a repeated one, to the handler of
the workflow otherwise. -/
theorem endsIn_of_dispute {s : NodeState} (h : settings.disputesConclusion s = true)
    (afterwards : NodeState → NodeState) (otherwise : Except PyError NodeState)
    (hafterwards : ∀ routed, (afterwards routed).get "route" = routed.get "route") :
    endsIn (do
        match ← settings.recentBackendResultDisputeRoute s with
        | some routed => pure (afterwards routed)
        | none => otherwise) "human_handoff" =
      settings.isRepeatedDispute s := by
  have hrepeated := shouldHandoff_iff_isRepeatedDispute h
  unfold recentBackendResultDisputeRoute
  cases heval : settings.evaluateBackendDispute s with
  | error e =>
      rw [Bool.eq_iff_iff, ← hrepeated, heval]
      simp [bind, Except.bind, endsIn]
  | ok evaluation? =>
      cases evaluation? with
      | none =>
          exfalso
          revert heval
          unfold evaluateBackendDispute
          simp only [h, Bool.not_true, Bool.false_eq_true, if_false]
          split
          · intro heval
            obtain ⟨count, -, hcount⟩ := bind_eq_ok.mp heval
            cases hcount
          · intro heval
            obtain ⟨count, -, hcount⟩ := bind_eq_ok.mp heval
            split at hcount
            · cases hcount
            · cases hcount
      | some evaluation =>
          rw [Bool.eq_iff_iff, ← hrepeated, heval]
          simp only [bind, Except.bind, pure, Except.pure, Option.map_some, endsIn_ok,
            hafterwards, NodeState.get_route_withRoute, Json.eqText_str]
          unfold disputeDecision
          cases hhandoff : evaluation.shouldHandoff with
          | true => simp [hhandoff]
          | false => simp [hhandoff]

/-! ## What the acceptance of a conclusion leaves alone -/

theorem get_clearBackendDisputeOnAcceptance (s : NodeState) {key : String}
    (hkey : key ≠ "slot_memory") :
    (settings.clearBackendDisputeOnAcceptance s).get key = s.get key := by
  unfold clearBackendDisputeOnAcceptance
  split
  · rw [NodeState.get_withSlotMemory, if_neg hkey]
  · rfl

theorem inputText_clearBackendDisputeOnAcceptance (s : NodeState) :
    (settings.clearBackendDisputeOnAcceptance s).inputText settings.rt =
      s.inputText settings.rt :=
  s.inputText_congr settings.rt (get_clearBackendDisputeOnAcceptance s (by decide))
    (get_clearBackendDisputeOnAcceptance s (by decide))

theorem hasAuthoritativeRoute_clearBackendDisputeOnAcceptance (s : NodeState) :
    hasAuthoritativeRoute (settings.clearBackendDisputeOnAcceptance s) =
      hasAuthoritativeRoute s := by
  unfold hasAuthoritativeRoute
  rw [get_clearBackendDisputeOnAcceptance s (by decide),
    get_clearBackendDisputeOnAcceptance s (by decide),
    get_clearBackendDisputeOnAcceptance s (by decide)]

/-! ## The two nodes -/

theorem endsIn_of_recentResult {s routed : NodeState}
    (h : settings.recentAuthoritativeResultDisputeRoute s = some routed) :
    routed.get "route" = .str "human_handoff" := by
  unfold recentAuthoritativeResultDisputeRoute at h
  split at h
  · cases h
    rw [NodeState.get_route_withRoute]
  · cases h

/-- `intent_router_node` on an explicit request. -/
theorem endsIn_intentRouterNode {s : NodeState} (hopen : isRouteLocked s = false)
    (hrequest : isExplicitHumanRequest settings.tables (s.inputText settings.rt) = true) :
    endsIn (settings.intentRouterNode s) "human_handoff" =
      (settings.passwordResetFailed s ||
        !settings.isHeldBackDispute s &&
          (settings.disputesConclusion (settings.clearBackendDisputeOnAcceptance s) ||
            !hasAuthoritativeRoute s || (s.get "route").eqText "human_handoff")) := by
  unfold intentRouterNode isHeldBackDispute forgotPasswordFollowupRoute
  rw [hopen]
  cases hreset : settings.passwordResetFailed s with
  | true => simp
  | false =>
      simp only [Bool.false_eq_true, if_false, Bool.false_or]
      cases hdispute : settings.disputesConclusion (settings.clearBackendDisputeOnAcceptance s) with
      | true =>
          refine (endsIn_of_dispute hdispute id _ fun _ => rfl).trans ?_
          simp
      | false =>
          rw [recentBackendResultDisputeRoute_of_no_dispute hdispute]
          simp only [bind, Except.bind, undisputedRoute,
            hasAuthoritativeRoute_clearBackendDisputeOnAcceptance,
            inputText_clearBackendDisputeOnAcceptance, hrequest, if_true]
          cases hroute : hasAuthoritativeRoute s with
          | true => simp [get_clearBackendDisputeOnAcceptance s]
          | false =>
              cases hrecent : settings.recentAuthoritativeResultDisputeRoute
                  (settings.clearBackendDisputeOnAcceptance s) with
              | some routed => simp [endsIn_of_recentResult hrecent]
              | none => simp [explicitHumanRoute, handoffDecision]

/-- The node around the language model on an explicit request, whatever the model answers. -/
theorem endsIn_llmIntentRouterNode {s : NodeState} (limits : RouterLimits) (answer : RouterAnswer)
    (hopen : isRouteLocked s = false)
    (hrequest : isExplicitHumanRequest settings.tables
      (normalizeText settings.rt (s.get "raw_user_input")) = true) :
    endsIn (settings.llmIntentRouterNode limits answer s) "human_handoff" =
      !settings.isHeldBackDispute s := by
  unfold llmIntentRouterNode isHeldBackDispute
  rw [hopen]
  simp only [Bool.false_eq_true, if_false]
  cases hdispute : settings.disputesConclusion (settings.clearBackendDisputeOnAcceptance s) with
  | true =>
      refine (endsIn_of_dispute hdispute
        (fun routed => guardedBy routed "backend_conclusion_disputed_guard") _ ?_).trans ?_
      · intro routed
        simp [guardedBy]
      · simp
  | false =>
      rw [recentBackendResultDisputeRoute_of_no_dispute hdispute]
      simp only [bind, Except.bind, Bool.false_and, Bool.not_false]
      cases hrecent : settings.recentAuthoritativeResultDisputeRoute
          (settings.clearBackendDisputeOnAcceptance s) with
      | some routed =>
          simp [pure, Except.pure, guardedBy, endsIn_of_recentResult hrecent]
      | none =>
          simp [pure, Except.pure, guardedBy, explicitHumanRoute, handoffDecision, hrequest,
            get_clearBackendDisputeOnAcceptance s]

/-- Nothing that the nodes look at first takes the message of a customer who asks for a human: no
dispute is held back and, before the language model, no earlier decision stands. -/
structure ReachesHuman (settings : RouterSettings) (s : NodeState) : Prop where
  noHeldBackDispute : settings.isHeldBackDispute s = false
  noEarlierRoute :
    hasAuthoritativeRoute s = true →
      settings.disputesConclusion (settings.clearBackendDisputeOnAcceptance s) = true ∨
        (s.get "route").eqText "human_handoff" = true

end RouterSettings

/-! ## Results -/

variable {settings : RouterSettings} {s : NodeState}

/-- An explicit request for a human is heard by `intent_router_node` exactly when the password
reset failed or nothing goes first, and by the node around the language model, whatever the model
answers, exactly when no dispute is held back. -/
theorem human_request_heard_iff (hlocked : (s.get "route_locked").truthy = false) :
    (isExplicitHumanRequest settings.tables (s.inputText settings.rt) = true →
        (endsIn (settings.intentRouterNode s) "human_handoff" = true ↔
          settings.passwordResetFailed s = true ∨ settings.ReachesHuman s)) ∧
      ∀ (limits : RouterSettings.RouterLimits) (answer : RouterSettings.RouterAnswer),
        isExplicitHumanRequest settings.tables
            (normalizeText settings.rt (s.get "raw_user_input")) = true →
          (endsIn (settings.llmIntentRouterNode limits answer s) "human_handoff" = true ↔
            settings.isHeldBackDispute s = false) := by
  have hopen : RouterSettings.isRouteLocked s = false := by
    rw [RouterSettings.isRouteLocked, hlocked, Bool.false_and]
  constructor
  · intro hrequest
    rw [RouterSettings.endsIn_intentRouterNode hopen hrequest]
    simp only [Bool.or_eq_true, Bool.and_eq_true, Bool.not_eq_true']
    apply or_congr_right
    constructor
    · rintro ⟨hheld, hroute⟩
      refine ⟨hheld, fun hauthoritative => ?_⟩
      rcases hroute with (hdispute | hnone) | hhuman
      · exact .inl hdispute
      · rw [hauthoritative] at hnone
        cases hnone
      · exact .inr hhuman
    · rintro ⟨hheld, hroute⟩
      refine ⟨hheld, ?_⟩
      cases hauthoritative : RouterSettings.hasAuthoritativeRoute s with
      | false => exact .inl (.inr rfl)
      | true =>
          rcases hroute hauthoritative with hdispute | hhuman
          · exact .inl (.inl hdispute)
          · exact .inr hhuman
  · intro limits answer hrequest
    rw [RouterSettings.endsIn_llmIntentRouterNode limits answer hopen hrequest]
    simp

/-- A customer whose withdrawal was explained once asks for an agent, since it failed again. -/
def disputingRequest : NodeState where
  values := .ofList [
    ("raw_user_input", .str "agente, otra vez"),
    ("event_id", .str "9"),
    ("slot_memory", .obj (.ofList [
      ("backend_conclusion", .obj (.ofList [
        ("intent", .str "withdrawal_blocked_or_rollover"), ("fingerprint", .str "f1")])),
      ("backend_dispute_count", .int 0)]))]
  commands := []
  telegramMoneyCaseCandidates := []
  matchedTelegramMoneyCase := none

/-- The request of `disputingRequest` is not heard by either node. -/
theorem human_request_overtaken :
    (disputingRequest.get "route_locked").truthy = false ∧
      isExplicitHumanRequest SlotTables.plain (disputingRequest.rawText .plain) = true ∧
      endsIn (RouterSettings.plain.intentRouterNode disputingRequest) "human_handoff" = false ∧
      endsIn (RouterSettings.plain.llmIntentRouterNode ⟨0, true⟩ .missingProvider disputingRequest)
        "human_handoff" = false := by
  decide +kernel

/-- The same request without a conclusion to dispute. -/
theorem human_request_heard_without_conclusion :
    (endsIn (RouterSettings.plain.intentRouterNode (disputingRequest.withSlotMemory ∅))
          "human_handoff" = true ↔
        RouterSettings.plain.passwordResetFailed (disputingRequest.withSlotMemory ∅) = true ∨
          RouterSettings.plain.ReachesHuman (disputingRequest.withSlotMemory ∅)) ∧
      (endsIn (RouterSettings.plain.llmIntentRouterNode ⟨0, true⟩ .missingProvider
          (disputingRequest.withSlotMemory ∅)) "human_handoff" = true ↔
        RouterSettings.plain.isHeldBackDispute (disputingRequest.withSlotMemory ∅) = false) := by
  have h := @human_request_heard_iff RouterSettings.plain
    (disputingRequest.withSlotMemory ∅) (by decide)
  exact ⟨h.1 (by decide +kernel), h.2 ⟨0, true⟩ .missingProvider (by decide +kernel)⟩

end AiCustomerService
