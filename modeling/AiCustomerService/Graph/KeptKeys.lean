import AiCustomerService.Graph.Frames
import AiCustomerService.Graph.InitialState
import AiCustomerService.Workflows.SopMemory

/-!
# Who marks a recheck, and who asks about an image

Of all the nodes only the router writes the keys of the slot memory that the handlers leave alone:
one branch marks a recheck as pending, another one asks about an image.  A receipt that the
customer has confirmed comes from an image that was asked about.
-/

namespace AiCustomerService

open Support

/-- The key of the slot memory has the value of before or none, and a receipt is confirmed only
while an image waits for a confirmation. -/
structure KeepsSlot (key : String) (s r : NodeState) : Prop where
  slot : r.kept key = s.kept key ∨ r.kept key = .null
  receipts : key = "pending_image_candidates" →
    r.get "verified_receipt_attachments" = s.get "verified_receipt_attachments" ∨
      s.kept key ≠ .null

namespace KeepsSlot

open NodeState

variable {key : String} {s t r : NodeState}

theorem refl (s : NodeState) : KeepsSlot key s s := ⟨.inl rfl, fun _ => .inl rfl⟩

theorem trans (hst : KeepsSlot key s t) (htr : KeepsSlot key t r) : KeepsSlot key s r := by
  constructor
  · rcases htr.slot with hsame | hnone
    · rw [hsame]
      exact hst.slot
    · exact .inr hnone
  · intro hkey
    rcases htr.receipts hkey with hsame | hpending
    · rw [hsame]
      exact hst.receipts hkey
    · rcases hst.slot with hsame | hnone
      · exact .inr (hsame ▸ hpending)
      · exact absurd hnone hpending

theorem of_eq (hslot : r.kept key = s.kept key)
    (hreceipts : r.get "verified_receipt_attachments" = s.get "verified_receipt_attachments") :
    KeepsSlot key s r :=
  ⟨.inl hslot, fun _ => .inl hreceipts⟩

theorem of_setsOnly {keys : List String} (h : SetsOnly keys s r) (hmemory : "slot_memory" ∉ keys)
    (hreceipts : "verified_receipt_attachments" ∉ keys) : KeepsSlot key s r := by
  refine of_eq ?_ (h _ hreceipts)
  rw [kept, slotMemory, h _ hmemory, kept, slotMemory]

theorem set (h : KeepsSlot key s t) {other : String} (value : Json)
    (hother : other ∉ ["slot_memory", "verified_receipt_attachments"]) :
    KeepsSlot key s (t.set other value) := by
  simp only [List.mem_cons, List.not_mem_nil, or_false, not_or] at hother
  refine h.trans (of_eq (t.kept_set value hother.1) ?_)
  rw [get_set, if_neg (Ne.symm hother.2)]

theorem withReply (h : KeepsSlot key s t) (text : String) : KeepsSlot key s (t.withReply text) :=
  h.trans (of_eq (t.kept_withReply text) (by simp [NodeState.withReply]))

theorem withCommands (h : KeepsSlot key s t) (commands : List WorkflowCommand) :
    KeepsSlot key s (t.withCommands commands) :=
  h.trans (of_eq (t.kept_withCommands commands) rfl)

theorem withSlotMemory (h : KeepsSlot key s t) {memory : JsonObject}
    (hmemory : slotAt key memory = t.kept key) : KeepsSlot key s (t.withSlotMemory memory) :=
  h.trans (of_eq ((t.kept_withSlotMemory memory).trans hmemory)
    (by simp [NodeState.withSlotMemory]))

theorem declared (h : KeepsSlot key s t) : KeepsSlot key s t.declared := by
  refine h.trans (of_eq ?_ ?_)
  · rw [kept, slotMemory, get_declared, if_pos (by decide), kept, slotMemory]
  · rw [get_declared, if_pos (by decide)]

/-- The memory of a dispute is cleared. -/
theorem cleared (h : KeepsSlot key s t) :
    KeepsSlot key s (t.withSlotMemory (clearBackendDisputeMemory t.slotMemory)) := by
  refine h.trans ⟨?_, fun _ => .inl (by simp)⟩
  rw [kept_withSlotMemory, clearBackendDisputeMemory, slotAt, getKey_eraseAll]
  split
  · exact .inr rfl
  · exact .inl rfl

theorem withRoute (h : KeepsSlot key s t) (rt : Runtime) (d : RouteDecision) :
    KeepsSlot key s (t.withRoute rt d) := by
  unfold NodeState.withRoute
  simp only
  refine ((KeepsSlot.set ?_ _ (by decide)).set _ (by decide))
  split
  · exact h.cleared
  · exact h.withSlotMemory rfl

end KeepsSlot

namespace SopSettings

open NodeState

variable {settings : SopSettings} {s r : NodeState}
variable {key : String} (hkey : key ∈ keptKeys)

include hkey

/-! ## Planned slots -/

theorem slotAt_mergeUpdates (memory : JsonObject) {updates : JsonObject}
    (h : SparesKept updates) : slotAt key (mergeUpdates memory updates) = slotAt key memory := by
  refine slotAt_foldl (fun d entry hentry => ?_) memory
  split
  · exact slotAt_set hkey d _ (h entry hentry)
  · rfl

omit hkey in
theorem kept_slotFallbackState (s : NodeState) (reason : String) (plan : Bool) :
    (slotFallbackState s reason plan).kept key = s.kept key := by
  unfold slotFallbackState
  simp only
  split
  · rw [kept_set _ _ (by decide), kept_set _ _ (by decide), kept_set _ _ (by decide)]
  · rw [kept_set _ _ (by decide), kept_set _ _ (by decide)]

theorem kept_runSopDialoguePlanning (service : SlotService) (s : NodeState) :
    (settings.runSopDialoguePlanning service s).kept key = s.kept key := by
  unfold runSopDialoguePlanning
  simp only
  split
  · rfl
  · exact kept_slotFallbackState s _ _
  · split
    · rename_i next haccept
      obtain ⟨plan, hplan, haccept⟩ := bind_eq_ok.mp haccept
      obtain ⟨low, -, haccept⟩ := bind_eq_ok.mp haccept
      cases low with
      | true =>
          cases haccept
          exact kept_slotFallbackState s _ _
      | false =>
          obtain ⟨normalized, -, hplan⟩ := bind_eq_ok.mp hplan
          cases haccept
          rw [kept_set _ _ (by decide), kept_set _ _ (by decide), kept_set _ _ (by decide),
            kept_withSlotMemory,
            slotAt_mergeUpdates hkey _ (applyLlmSopPlan_spares hkey hplan).updates, kept]
    · exact kept_slotFallbackState s _ _
    · exact kept_slotFallbackState s _ _

theorem kept_runLegacySopSlotExtraction (service : SlotService) (s : NodeState) :
    (settings.runLegacySopSlotExtraction service s).kept key = s.kept key := by
  unfold runLegacySopSlotExtraction
  simp only
  split
  · rfl
  · exact kept_slotFallbackState s _ _
  · refine toOption_getD_of (P := fun r : NodeState => r.kept key = s.kept key)
      (fun next haccept => ?_) (kept_slotFallbackState s _ _)
    obtain ⟨intent, -, haccept⟩ := bind_eq_ok.mp haccept
    obtain ⟨_, -, haccept⟩ := bind_eq_ok.mp haccept
    obtain ⟨reason, -, haccept⟩ := bind_eq_ok.mp haccept
    obtain ⟨extracted, -, haccept⟩ := bind_eq_ok.mp haccept
    obtain ⟨confidence, -, haccept⟩ := bind_eq_ok.mp haccept
    split at haccept
    · cases haccept
      exact kept_slotFallbackState s _ _
    · rename_i hkept
      cases haccept
      rw [kept_set _ _ (by decide), kept_set _ _ (by decide), kept_withSlotMemory,
        slotAt_mergeUpdates hkey, kept]
      refine forall_mem_ofList fun entry hentry => ?_
      obtain ⟨value, hvalue, rfl⟩ := List.mem_map.mp hentry
      obtain ⟨slot, hslot, hsome⟩ := List.mem_filterMap.mp hvalue
      obtain ⟨text, -, rfl⟩ := Option.map_eq_some_iff.mp hsome
      simp only [Bool.or_eq_true, not_or, Bool.not_eq_true] at hkept
      have hfield := List.any_eq_false.mp hkept.1 slot hslot
      simp only [Bool.not_eq_true, Bool.not_eq_false'] at hfield
      intro hmark
      rcases List.mem_cons.mp hmark with hrecheck | himage
      · simp only at hrecheck
        rw [hrecheck] at hfield
        exact absurd hfield (by decide)
      · have hname := List.mem_singleton.mp himage
        simp only at hname
        rw [hname] at hfield
        exact absurd hfield (by decide)

theorem kept_withPlannedSlots (service : SlotService) (s : NodeState) :
    (settings.withPlannedSlots service s).kept key = s.kept key := by
  unfold withPlannedSlots
  split
  · unfold runSopSlotExtraction
    split
    · simp only
      split
      · exact kept_runSopDialoguePlanning hkey service s
      · rw [kept_runLegacySopSlotExtraction hkey, kept_runSopDialoguePlanning hkey]
    · exact kept_runLegacySopSlotExtraction hkey service s
  · rfl

theorem kept_llmSopNode {service : SlotService} (h : settings.llmSopNode service s = .ok r) :
    r.kept key = s.kept key :=
  ((fills_sopNode h).kept hkey).trans (kept_withPlannedSlots hkey service s)

end SopSettings

namespace RouterSettings

open NodeState

variable {settings : RouterSettings} {s routed : NodeState} {key : String}

/-! ## The router -/

theorem keepsSlot_finalReplyRoute (s : NodeState) (d : RouteDecision) (kind : FinalReplyKind) :
    KeepsSlot key s (settings.finalReplyRoute s d kind) :=
  ((KeepsSlot.refl s).withRoute settings.rt _).withReply _

theorem keepsSlot_clearBackendDisputeOnAcceptance (s : NodeState) :
    KeepsSlot key s (settings.clearBackendDisputeOnAcceptance s) := by
  unfold clearBackendDisputeOnAcceptance
  split
  · exact (KeepsSlot.refl s).cleared
  · exact .refl s

/-! ### Branches that fill slots -/

variable (hkey : key ∈ keptKeys)

include hkey

theorem keepsSlot_classifiedRoute (h : settings.classifiedRoute s = .ok routed) :
    KeepsSlot key s routed := by
  unfold classifiedRoute at h
  simp only at h
  split at h
  · cases h
    exact (KeepsSlot.refl s).withRoute _ _
  · split at h
    · obtain ⟨⟨stuck, count⟩, hstuck, h⟩ := bind_eq_ok.mp h
      have hunraised : KeepsSlot key s stuck := by
        obtain ⟨_, -, hstuck⟩ := bind_eq_ok.mp hstuck
        cases hstuck
        exact (KeepsSlot.refl s).withSlotMemory (slotAt_set hkey _ _ (by decide))
      simp only at h
      split at h
      · cases h
        exact hunraised.withRoute _ _
      · cases h
        exact hunraised.trans (keepsSlot_finalReplyRoute _ _ _)
    · split at h
      · cases h
        exact keepsSlot_finalReplyRoute _ _ _
      · split at h
        · cases h
          exact keepsSlot_finalReplyRoute _ _ _
        · split at h
          · cases h
            exact keepsSlot_finalReplyRoute _ _ _
          · cases h
            exact keepsSlot_finalReplyRoute _ _ _

omit hkey in
theorem keepsSlot_activeWorkflowDeterministicRoute (s : NodeState) :
    KeepsSlot key s (settings.activeWorkflowDeterministicRoute s) := by
  have hfinal := @keepsSlot_finalReplyRoute settings key s
  have hroute := (@KeepsSlot.refl key s).withRoute settings.rt
  unfold activeWorkflowDeterministicRoute keepingRoute
  simp only
  split
  · exact hfinal _ _
  · split
    · exact hfinal _ _
    · split
      · exact hfinal _ _
      · split
        · exact hroute _
        · split
          · exact hfinal _ _
          · split
            · exact hfinal _ _
            · split
              · exact hroute _
              · exact hfinal _ _

theorem keepsSlot_crossThreadMoneyCaseRoute {text : String}
    (h : settings.crossThreadMoneyCaseRoute s text = some routed) : KeepsSlot key s routed := by
  unfold crossThreadMoneyCaseRoute at h
  split at h
  · cases h
  · split at h
    · cases h
    · cases h
      exact (((KeepsSlot.refl s).withRoute _ _).set _ (by decide)).withReply _
    · rename_i case kind _
      cases h
      have hmatched (d : RouteDecision) : KeepsSlot key s (((((s.withRoute settings.rt d).set
          "route_locked" (.bool true)).set "active_workflow" (.str case.intent)).set
          "workflow_stage" (.str "waiting_backend")).withSlotMemory
          (s.slotMemory.set "telegram_internal_case_id" (.int case.id))) :=
        .of_eq ((kept_withSlotMemory _ _).trans (slotAt_set hkey _ _ (by decide)))
          (by simp [NodeState.withRoute])
      exact ⟨(hmatched _).slot, (hmatched _).receipts⟩

/-- A candidate is confirmed only while it waits, and it stays where it was. -/
theorem keepsSlot_promotePendingImageCandidateRoute {text : String}
    (h : settings.promotePendingImageCandidateRoute s text = some routed) :
    KeepsSlot key s routed := by
  unfold promotePendingImageCandidateRoute at h
  split at h
  · cases h
  · split at h
    · cases h
    · rename_i candidate hcandidate
      simp only at h
      split at h
      · cases h
      · cases h
        refine KeepsSlot.withRoute ⟨.inl ?_, fun himage => .inr ?_⟩ _ _
        · rw [kept_set _ _ (by decide), kept_withSlotMemory]
          split
          · split
            · rw [slotAt_set hkey _ _ (by decide), slotAt_set hkey _ _ (by decide),
                slotAt_set hkey _ _ (by decide), kept]
            · rw [slotAt_set hkey _ _ (by decide), slotAt_set hkey _ _ (by decide),
                slotAt_set hkey _ _ (by decide), kept]
          · rw [slotAt_set hkey _ _ (by decide), kept]
        · intro hnone
          rw [himage, kept, slotAt] at hnone
          rw [pendingImageCandidate?, hnone] at hcandidate
          cases hcandidate

/-- The router has asked whether an image is a receipt. -/
def asksAboutImage (routed : NodeState) : Bool :=
  (routed.get "route_source").eqText "image_analysis_candidate" &&
    !(getKey routed.intentResult "intent").eqText "image_unknown"

/-- Only a question about an image writes a key, and it confirms no receipt. -/
structure RoutesSlot (key : String) (s routed : NodeState) : Prop where
  slot : (routed.kept key = s.kept key ∨ routed.kept key = .null) ∨
    (key = "pending_image_candidates" ∧ asksAboutImage routed = true)
  receipts : key = "pending_image_candidates" →
    routed.get "verified_receipt_attachments" = s.get "verified_receipt_attachments" ∨
      s.kept key ≠ .null

namespace RoutesSlot

omit hkey

theorem of_keeps (h : KeepsSlot key s routed) : RoutesSlot key s routed := ⟨.inl h.slot, h.receipts⟩

theorem trans {t : NodeState} (h : RoutesSlot key t routed) (hst : KeepsSlot key s t) :
    RoutesSlot key s routed := by
  constructor
  · rcases h.slot with (hsame | hnone) | hasks
    · rw [hsame]
      exact .inl hst.slot
    · exact .inl (.inr hnone)
    · exact .inr hasks
  · intro hkey
    rcases h.receipts hkey with hsame | hpending
    · rw [hsame]
      exact hst.receipts hkey
    · rcases hst.slot with hsame | hnone
      · exact .inr (hsame ▸ hpending)
      · exact absurd hnone hpending

theorem guardedBy (h : RoutesSlot key s routed) (reason : String) :
    RoutesSlot key s (guardedBy routed reason) := by
  have hasks : asksAboutImage (RouterSettings.guardedBy routed reason) = asksAboutImage routed := by
    simp [asksAboutImage, RouterSettings.guardedBy, NodeState.intentResult]
  have hkept : (RouterSettings.guardedBy routed reason).kept key = routed.kept key :=
    kept_set routed _ (by decide)
  constructor
  · rw [hkept, hasks]
    exact h.slot
  · intro himage
    rw [RouterSettings.guardedBy, get_set, if_neg (by decide)]
    exact h.receipts himage

theorem declared (h : RoutesSlot key s routed) : RoutesSlot key s routed.declared := by
  have hasks : asksAboutImage routed.declared = asksAboutImage routed := by
    rw [asksAboutImage, NodeState.intentResult, get_declared, if_pos (by decide), get_declared,
      if_pos (by decide), asksAboutImage, NodeState.intentResult]
  have hkept : routed.declared.kept key = routed.kept key := by
    rw [kept, slotMemory, get_declared, if_pos (by decide), kept, slotMemory]
  constructor
  · rw [hkept, hasks]
    exact h.slot
  · intro himage
    rw [get_declared, if_pos (by decide)]
    exact h.receipts himage

end RoutesSlot

omit hkey in
theorem routesSlot_imageCandidateOnlyRoute (h : settings.imageCandidateOnlyRoute s = some routed) :
    RoutesSlot key s routed := by
  unfold imageCandidateOnlyRoute at h
  split at h
  · cases h
  · obtain ⟨analysis, -, rfl⟩ := Option.map_eq_some_iff.mp h
    generalize settings.candidateFromImageAnalysis analysis = candidate
    have hkeeps (memory result : JsonObject) (text : String) (commands : List WorkflowCommand)
        (hmemory : slotAt key memory = s.kept key) : KeepsSlot key s
          ((((((((s.withSlotMemory memory).set "route" (.str "final_reply")).set "route_source"
            (.str "image_analysis_candidate")).set "image_candidate_only" (.bool true)).set
            "pending_image_confirmation" (.obj analysis)).set "active_workflow" .null).set
            "intent_result" (.obj result)).withReply text |>.withCommands commands) :=
      (((((((((KeepsSlot.refl s).withSlotMemory hmemory).set _ (by decide)).set _ (by decide)).set _
        (by decide)).set _ (by decide)).set _ (by decide)).set _ (by decide)).withReply _
        |>.withCommands _)
    by_cases himage : key = "pending_image_candidates"
    · cases candidate with
      | unknown => exact .of_keeps (hkeeps _ _ _ _ rfl)
      | deposit =>
          refine ⟨.inr ⟨himage, ?_⟩, fun _ => .inl (by simp [NodeState.withReply])⟩
          simp [asksAboutImage, NodeState.withReply, NodeState.intentResult, Json.dictOrEmpty,
            Dict.ofList, getKey_set, ImageCandidate.question]
      | withdrawal =>
          refine ⟨.inr ⟨himage, ?_⟩, fun _ => .inl (by simp [NodeState.withReply])⟩
          simp [asksAboutImage, NodeState.withReply, NodeState.intentResult, Json.dictOrEmpty,
            Dict.ofList, getKey_set, ImageCandidate.question]
    · refine .of_keeps (hkeeps _ _ _ _ ?_)
      split
      · rfl
      · rw [slotAt, getKey_set, if_neg himage]
        rfl

omit hkey in
theorem keepsSlot_autoHandoffRoute (h : settings.autoHandoffRoute s = some routed) :
    KeepsSlot key s routed := by
  unfold autoHandoffRoute at h
  split at h
  · cases h
    exact (KeepsSlot.refl s).withRoute _ _
  · obtain ⟨d, -, rfl⟩ := Option.map_eq_some_iff.mp h
    exact (KeepsSlot.refl s).withRoute _ d

theorem routesSlot_ordinaryRoute (h : settings.ordinaryRoute s = .ok routed) :
    RoutesSlot key s routed := by
  unfold ordinaryRoute at h
  simp only at h
  split at h
  · rename_i hmoney
    cases h
    exact .of_keeps (keepsSlot_crossThreadMoneyCaseRoute hkey hmoney)
  · split at h
    · rename_i hpromoted
      cases h
      exact .of_keeps (keepsSlot_promotePendingImageCandidateRoute hkey hpromoted)
    · split at h
      · rename_i himage
        cases h
        exact routesSlot_imageCandidateOnlyRoute himage
      · split at h
        · rename_i hauto
          cases h
          exact .of_keeps (keepsSlot_autoHandoffRoute hauto)
        · split at h
          · cases h
            exact .of_keeps (keepsSlot_finalReplyRoute _ _ _)
          · split at h
            · cases h
              exact .of_keeps (keepsSlot_activeWorkflowDeterministicRoute s)
            · exact .of_keeps (keepsSlot_classifiedRoute hkey h)

omit hkey in
theorem keepsSlot_recentAuthoritativeResultDisputeRoute
    (h : settings.recentAuthoritativeResultDisputeRoute s = some routed) :
    KeepsSlot key s routed := by
  unfold recentAuthoritativeResultDisputeRoute at h
  split at h
  · cases h
    exact (KeepsSlot.refl s).withRoute _ _
  · cases h

theorem routesSlot_undisputedRoute (h : settings.undisputedRoute s = .ok routed) :
    RoutesSlot key s routed := by
  unfold undisputedRoute at h
  split at h
  · cases h
    exact .of_keeps (.refl s)
  · split at h
    · rename_i hrecent
      cases h
      exact .of_keeps (keepsSlot_recentAuthoritativeResultDisputeRoute hrecent)
    · split at h
      · cases h
        exact .of_keeps ((KeepsSlot.refl s).withRoute _ _)
      · exact routesSlot_ordinaryRoute hkey h

/-- The router marks a recheck: the customer disputes a conclusion for the first time, and no
recheck is pending. -/
def MarksRecheck (settings : RouterSettings) (s : NodeState) (evaluation : DisputeEvaluation) :
    Prop :=
  isRouteLocked s = false ∧
    settings.evaluateBackendDispute (settings.clearBackendDisputeOnAcceptance s) =
      .ok (some evaluation) ∧
    evaluation.shouldHandoff = false ∧ evaluation.waitingForRecheck = false

theorem slotAt_evaluation {evaluation : DisputeEvaluation}
    (h : settings.evaluateBackendDispute s = .ok (some evaluation)) :
    slotAt key evaluation.slotMemory = s.kept key := by
  unfold evaluateBackendDispute at h
  split at h
  · cases h
  · simp only at h
    split at h
    · obtain ⟨count, -, h⟩ := bind_eq_ok.mp h
      cases h
      unfold queuedDispute
      split
      · exact slotAt_set hkey _ _ (by decide)
      · split
        · rfl
        · rw [slotAt_set hkey _ _ (by decide), slotAt_set hkey _ _ (by decide), kept]
    · obtain ⟨count, -, h⟩ := bind_eq_ok.mp h
      split at h
      · cases h
        rfl
      · cases h
        split
        · exact slotAt_set hkey _ _ (by decide)
        · rw [slotAt_set hkey _ _ (by decide), slotAt_set hkey _ _ (by decide), kept]

/-- The branch for a disputed conclusion marks a recheck, and nothing else. -/
theorem keepsSlot_recentBackendResultDisputeRoute
    (hunmarked : key = "backend_recheck_pending" →
      ∀ evaluation, settings.evaluateBackendDispute s = .ok (some evaluation) →
        evaluation.shouldHandoff = true ∨ evaluation.waitingForRecheck = true)
    (h : settings.recentBackendResultDisputeRoute s = .ok (some routed)) :
    KeepsSlot key s routed := by
  obtain ⟨evaluation?, hevaluation, h⟩ := bind_eq_ok.mp h
  cases evaluation? with
  | none => cases h
  | some evaluation =>
      cases h
      refine ((KeepsSlot.refl s).withSlotMemory ?_).withRoute _ _
      rw [← slotAt_evaluation hkey hevaluation, DisputeEvaluation.routedMemory]
      split
      · rfl
      · rename_i hnew
        unfold markBackendRecheckPending
        simp only
        rw [slotAt_eraseAll hkey _ (by decide), slotAt_set hkey _ _ (by decide), slotAt, getKey_set,
          if_neg]
        · rfl
        · intro hmark
          exact hnew (hunmarked hmark evaluation hevaluation)

theorem routesSlot_intentRouterNode
    (hnone : settings.recentBackendResultDisputeRoute
      (settings.clearBackendDisputeOnAcceptance s) = .ok none)
    (h : settings.intentRouterNode s = .ok routed) : RoutesSlot key s routed := by
  unfold intentRouterNode at h
  split at h
  · cases h
    exact .of_keeps (.refl s)
  · split at h
    · rename_i hforgot
      cases h
      unfold forgotPasswordFollowupRoute at hforgot
      split at hforgot
      · cases hforgot
        exact .of_keeps ((KeepsSlot.refl s).withRoute _ _)
      · cases hforgot
    · obtain ⟨dispute?, hdispute, h⟩ := bind_eq_ok.mp h
      rw [hnone] at hdispute
      obtain rfl := Except.ok.inj hdispute
      exact (routesSlot_undisputedRoute hkey h).trans
        (keepsSlot_clearBackendDisputeOnAcceptance s)

omit hkey in
/-- A second look at an acceptance clears nothing more. -/
theorem clearBackendDisputeOnAcceptance_idem (s : NodeState) :
    settings.clearBackendDisputeOnAcceptance (settings.clearBackendDisputeOnAcceptance s) =
      settings.clearBackendDisputeOnAcceptance s := by
  have htext (memory : JsonObject) :
      settings.isBackendConclusionAcceptance (s.withSlotMemory memory) =
        settings.isBackendConclusionAcceptance s := by
    simp [isBackendConclusionAcceptance, lowerText, inputText]
  by_cases haccepts : settings.isBackendConclusionAcceptance s = true
  · have hcleared : settings.clearBackendDisputeOnAcceptance s =
        s.withSlotMemory (clearBackendDisputeMemory s.slotMemory) := by
      rw [clearBackendDisputeOnAcceptance, if_pos haccepts]
    rw [hcleared, clearBackendDisputeOnAcceptance, htext, if_pos haccepts,
      slotMemory_withSlotMemory, clearBackendDisputeMemory, clearBackendDisputeMemory,
      Dict.eraseAll_eraseAll, NodeState.withSlotMemory, NodeState.withSlotMemory, NodeState.set,
      NodeState.set, Dict.set_set]
  · have hkept : settings.clearBackendDisputeOnAcceptance s = s := by
      rw [clearBackendDisputeOnAcceptance, if_neg haccepts]
    rw [hkept, hkept]

theorem routesSlot_routerFallbackState {limits : RouterLimits} {reason : String}
    (hnone : settings.recentBackendResultDisputeRoute
      (settings.clearBackendDisputeOnAcceptance s) = .ok none)
    (h : settings.routerFallbackState limits s reason = .ok routed) : RoutesSlot key s routed := by
  unfold routerFallbackState at h
  split at h
  · obtain ⟨fallback, hfallback, h⟩ := bind_eq_ok.mp h
    cases h
    exact (routesSlot_intentRouterNode hkey hnone hfallback).guardedBy reason
  · rw [← Except.ok.inj h]
    refine RoutesSlot.guardedBy (.of_keeps (KeepsSlot.withReply ?_ _)) reason
    exact (((KeepsSlot.refl s).set _ (by decide)).set _ (by decide)).set _ (by decide)

omit hkey in
theorem keepsSlot_acceptedRoute (s : NodeState) (output : RouterOutput) :
    KeepsSlot key s (settings.acceptedRoute s output) := by
  have haccepted (result : Json) : KeepsSlot key s ((((s.set "intent_result"
      (.obj (acceptedIntentResult settings.rt output))).set "llm_router_result" result).set "route"
      (.str output.route)).set "route_source" (.str "llm_guarded_authoritative")) :=
    ((((KeepsSlot.refl s).set _ (by decide)).set _ (by decide)).set _ (by decide)).set _ (by decide)
  unfold acceptedRoute
  simp only
  split
  · exact (haccepted _).withReply _
  · exact haccepted _

theorem routesSlot_answeredRoute {limits : RouterLimits} {answer : RouterAnswer}
    (hnone : settings.recentBackendResultDisputeRoute
      (settings.clearBackendDisputeOnAcceptance s) = .ok none)
    (h : settings.answeredRoute limits s answer = .ok routed) : RoutesSlot key s routed := by
  cases answer with
  | missingProvider => exact routesSlot_routerFallbackState hkey hnone h
  | raised => exact routesSlot_routerFallbackState hkey hnone h
  | answered output =>
      simp only [answeredRoute] at h
      split at h
      · exact routesSlot_routerFallbackState hkey hnone h
      · exact routesSlot_routerFallbackState hkey hnone h
      · split at h
        · exact routesSlot_routerFallbackState hkey hnone h
        · rw [← Except.ok.inj h]
          exact .of_keeps (keepsSlot_acceptedRoute s _)

/-- The node marks a recheck where the router does, and the pending image is the one that it asks
about. -/
theorem routesSlot_llmIntentRouterNode {limits : RouterLimits} {answer : RouterAnswer}
    (hunmarked : key = "backend_recheck_pending" →
      ¬∃ evaluation, settings.MarksRecheck s evaluation)
    (h : settings.llmIntentRouterNode limits answer s = .ok routed) : RoutesSlot key s routed := by
  unfold llmIntentRouterNode at h
  split at h
  · cases h
    exact .of_keeps (.refl s)
  · rename_i hlocked
    have hclear := @keepsSlot_clearBackendDisputeOnAcceptance settings key s
    have hguarded {t : NodeState} (ht : KeepsSlot key s t) (reason : String) :
        RoutesSlot key s (guardedBy t reason) :=
      RoutesSlot.guardedBy (.of_keeps ht) reason
    obtain ⟨dispute?, hdispute, h⟩ := bind_eq_ok.mp h
    cases dispute? with
    | some disputed =>
        cases h
        refine hguarded (hclear.trans
          (keepsSlot_recentBackendResultDisputeRoute hkey (fun hmark => ?_) hdispute)) _
        intro evaluation hevaluation
        by_contra hnew
        simp only [not_or, Bool.not_eq_true] at hnew
        exact hunmarked hmark ⟨evaluation, by simpa using hlocked, hevaluation, hnew.1, hnew.2⟩
    | none =>
        have hnone : settings.recentBackendResultDisputeRoute
            (settings.clearBackendDisputeOnAcceptance
              (settings.clearBackendDisputeOnAcceptance s)) = .ok none := by
          rw [clearBackendDisputeOnAcceptance_idem, hdispute]
        simp only at h
        split at h
        · rename_i hrecent
          cases h
          exact hguarded
            (hclear.trans (keepsSlot_recentAuthoritativeResultDisputeRoute hrecent)) _
        · split at h
          · cases h
            exact hguarded (hclear.withRoute _ _) _
          · split at h
            · exact (routesSlot_intentRouterNode hkey hnone h).trans hclear
            · split at h
              · cases h
                exact hguarded (hclear.trans (keepsSlot_finalReplyRoute _ _ _)) _
              · split at h
                · rename_i hmoney
                  cases h
                  exact hguarded
                    (hclear.trans (keepsSlot_crossThreadMoneyCaseRoute hkey hmoney)) _
                · exact (routesSlot_answeredRoute hkey hnone h).trans hclear

end RouterSettings

namespace GraphServices

open NodeState

variable {services : GraphServices} {s r routed result : NodeState}
variable {key : String} (hkey : key ∈ keptKeys)

include hkey

/-! ## The run -/

theorem keepsSlot_applyMenuButtonRoute (h : services.applyMenuButtonRoute s = some r) :
    KeepsSlot key s r := by
  obtain ⟨buttonId, -, h⟩ := Option.bind_eq_some_iff.mp h
  have hbase (menu rewritten result : Json) : KeepsSlot key s
      (((((s.withSlotMemory (s.slotMemory.set "livechat_menu" menu)).set "rewritten_question"
        rewritten).set "rewrite_result" result).set "rewrite_source" (.str "livechat_button")).set
        "route_locked" (.bool true)) :=
    (((((KeepsSlot.refl s).withSlotMemory (slotAt_set hkey _ _ (by decide))).set _ (by decide)).set
      _ (by decide)).set _ (by decide)).set _ (by decide)
  simp only at h
  split at h
  · cases h
    exact ((((hbase _ _ _).set _ (by decide)).set _ (by decide)).set _ (by decide)).withCommands _
  · obtain ⟨⟨intent, route, query⟩, -, rfl⟩ := Option.map_eq_some_iff.mp h
    exact (((hbase _ _ _).set _ (by decide)).set _ (by decide)).set _ (by decide)

theorem Rewrites.keepsSlot (h : Rewrites services s r) : KeepsSlot key s r := by
  induction h with
  | pressed hbutton => exact keepsSlot_applyMenuButtonRoute hkey hbutton
  | refl => exact .refl s
  | set _ value hset ih =>
      have hkeys : (rewriteKeys.all fun set =>
          !(["slot_memory", "verified_receipt_attachments"].contains set)) = true := by
        decide
      exact ih.set value (by simpa using List.all_eq_true.mp hkeys _ hset)

theorem keepsSlot_languagePolicyNode (s : NodeState) :
    KeepsSlot key s (services.languagePolicyNode s) := by
  unfold languagePolicyNode
  simp only
  refine (((((((KeepsSlot.refl s).withSlotMemory ?_).set _ (by decide)).set _ (by decide)).set _
    (by decide)).set _ (by decide)).set _ (by decide)).set _ (by decide)
  unfold languageMemory
  split
  · rw [slotAt_set hkey _ _ (by decide)]
    unfold setText
    split
    · exact slotAt_set hkey _ _ (by decide)
    · rfl
  · rfl

theorem keepsSlot_beforeRouter (s : NodeState) : KeepsSlot key s (services.beforeRouter s) := by
  have hrewrites := (@llmRewriteQuestionNode_rewrites services s.declared).keepsSlot hkey
  exact (((KeepsSlot.refl s).declared.trans hrewrites).declared.trans
    (keepsSlot_languagePolicyNode hkey _)).declared

theorem keepsSlot_routeNode (h : services.routeNode s = .ok r) : KeepsSlot key s r := by
  unfold routeNode at h
  split at h
  · cases h
    exact .of_setsOnly (ragNode_setsOnly s) (by decide) (by decide)
  · exact .of_eq (SopSettings.kept_llmSopNode hkey h)
      (SopSettings.llmSopNode_setsOnly h _ (by decide))
  · cases h
    exact (KeepsSlot.refl s).withReply _
  · cases h
    exact (((((KeepsSlot.refl s).set _ (by decide)).set _ (by decide)).set _ (by decide)).withReply
      _).withCommands _
  · cases h
    exact .refl s

theorem keepsSlot_handledState (h : services.handledState routed = .ok result) :
    KeepsSlot key routed result := by
  obtain ⟨handled, hhandled, h⟩ := bind_eq_ok.mp h
  cases h
  have hreply : KeepsSlot key handled.declared (services.finalReplyNode handled.declared) :=
    .of_setsOnly (finalReplyNode_setsOnly _) (by decide) (by decide)
  exact ((((keepsSlot_routeNode hkey hhandled).declared.trans hreply).declared).withCommands
    _).declared

/-- The router marks a recheck only where it does so for a dispute, and the pending image is the
one that it asks about. -/
theorem routesSlot_routedState
    (hunmarked : key = "backend_recheck_pending" →
      ¬∃ evaluation, services.MarksRecheck (services.beforeRouter s) evaluation)
    (h : services.routedState s = .ok routed) : RouterSettings.RoutesSlot key s routed := by
  obtain ⟨router, hrouter, hrouted⟩ := bind_eq_ok.mp h
  cases hrouted
  exact ((RouterSettings.routesSlot_llmIntentRouterNode hkey hunmarked hrouter).trans
    (keepsSlot_beforeRouter hkey s)).declared

end GraphServices

end AiCustomerService
