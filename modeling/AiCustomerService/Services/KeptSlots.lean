import AiCustomerService.Graph.KeptKeys
import AiCustomerService.Services.GatewayReply

/-!
# A turn and the keys that are left alone

What a turn of the gateway, with its buttons and its final reply, leaves of the keys of the slot
memory that only the router writes.
-/

namespace AiCustomerService

open Support

namespace GraphInput

variable {key : String} (hkey : key ∈ keptKeys)

/-- The input of an event that finds a slot memory. -/
def withMemory (input : GraphInput) (slotMemory : JsonObject) : GraphInput :=
  { input with conversation := { input.conversation with slotMemory } }

include hkey

theorem slotAt_slotMemory (input : GraphInput) :
    slotAt key input.slotMemory = slotAt key input.conversation.slotMemory := by
  have hplatform : slotAt key (if (getKey input.event.payloadJson "platform").truthy = true then
      input.conversation.slotMemory.set "platform" (getKey input.event.payloadJson "platform")
      else input.conversation.slotMemory) = slotAt key input.conversation.slotMemory := by
    split
    · exact slotAt_set hkey _ _ (by decide)
    · rfl
  unfold slotMemory
  simp only
  split
  · exact hplatform
  · rw [slotAt_set hkey _ _ (by decide), hplatform]

theorem kept_buildGraphState (rt : Runtime) (input : GraphInput) :
    (input.buildGraphState rt).kept key = slotAt key input.conversation.slotMemory := by
  rw [← slotAt_slotMemory hkey]
  simp [buildGraphState, values, Dict.ofList, NodeState.kept, NodeState.slotMemory, NodeState.get,
    getKey_set, Json.dictOrEmpty]

end GraphInput

namespace ReplyServices

open NodeState

variable {services : ReplyServices} {input : GraphInput} {s r result : NodeState}
variable {key : String}

variable (hkey : key ∈ keptKeys)

include hkey

theorem kept_applyFinalReplyFailureHandoff (s : NodeState) :
    (services.applyFinalReplyFailureHandoff s).kept key = s.kept key := by
  unfold applyFinalReplyFailureHandoff
  split
  · unfold buildAiServiceFailureHandoffState acknowledgedHandoff
    simp only
    rw [kept_set _ _ (by decide), kept_set _ _ (by decide), kept_set _ _ (by decide),
      kept_withCommands, kept_withReply, SopSettings.kept_atStage, kept_set _ _ (by decide),
      kept_set _ _ (by decide), kept_withSlotMemory, slotAt_set hkey _ _ (by decide),
      slotAt_set hkey _ _ (by decide), slotAt_set hkey _ _ (by decide), kept]
  · rfl

omit hkey in
theorem kept_withComposed (s : NodeState) (reply : ComposedReply) :
    (withComposed s reply).kept key = s.kept key := by
  rw [withComposed, kept_set _ _ (by decide), kept_set _ _ (by decide), kept_set _ _ (by decide)]

omit hkey in
theorem kept_withPreview (s : NodeState) : (services.withPreview s).kept key = s.kept key := by
  unfold withPreview
  split
  · rfl
  · split
    · exact kept_withComposed s _
    · rfl

theorem kept_runFinalReply (s : NodeState) : (services.runFinalReply s).kept key = s.kept key := by
  unfold runFinalReply
  split
  · rfl
  · split
    · rw [kept_applyFinalReplyFailureHandoff hkey]
      unfold guardFinalReplyState
      simp only
      split
      · exact kept_withComposed s _
      · split
        · exact kept_withComposed s _
        · rw [kept_set _ _ (by decide), kept_set _ _ (by decide)]
    · split
      · rfl
      · exact kept_withComposed s _

/-! ### The buttons -/

theorem kept_basePreGraphState (input : GraphInput) (memory : JsonObject) (language : String) :
    (services.basePreGraphState input memory language).kept key = slotAt key memory := by
  have hmemory : (services.basePreGraphState input memory language).slotMemory =
      (input.withMemory memory).slotMemory := by
    simp [basePreGraphState, Dict.ofList, NodeState.slotMemory, NodeState.get, getKey_set,
      Json.dictOrEmpty, GraphInput.withMemory]
  rw [NodeState.kept, hmemory, GraphInput.slotAt_slotMemory hkey, GraphInput.withMemory]

theorem kept_menuState (input : GraphInput) (menu : JsonObject) (menuKey source reason : String) :
    (services.menuState input menu menuKey source reason).kept key =
      slotAt key input.conversation.slotMemory := by
  unfold menuState
  simp only
  rw [kept_withCommands, kept_set _ _ (by decide), kept_set _ _ (by decide),
    kept_set _ _ (by decide), kept_basePreGraphState hkey, slotAt_set hkey _ _ (by decide),
    slotAt_set hkey _ _ (by decide)]

theorem kept_buildFastHandoffState (input : GraphInput) (buttonId : String) :
    (services.buildFastHandoffState input buttonId).kept key =
      slotAt key input.conversation.slotMemory := by
  unfold buildFastHandoffState acknowledgedHandoff
  simp only
  rw [kept_set _ _ (by decide), kept_set _ _ (by decide), kept_withCommands, kept_withReply,
    SopSettings.kept_atStage, kept_set _ _ (by decide), kept_set _ _ (by decide),
    kept_basePreGraphState hkey]

omit hkey in
theorem kept_buildBusinessButtonFaqState (s : NodeState) :
    (services.buildBusinessButtonFaqState s).kept key = s.kept key := by
  have hcontext : (s.set "rag_context" (services.ragContext s)).kept key = s.kept key :=
    kept_set s _ (by decide)
  unfold buildBusinessButtonFaqState
  simp only
  rw [kept_withCommands, kept_set _ _ (by decide), kept_set _ _ (by decide),
    kept_set _ _ (by decide)]
  split
  · rw [SopSettings.kept_atStage, hcontext]
  · split
    · rw [kept_set _ _ (by decide), kept_set _ _ (by decide), hcontext]
    · exact hcontext

theorem kept_buildBusinessButtonState {buttonId : String}
    {target : String × String × Option String}
    (h : services.buildBusinessButtonState input buttonId target = .ok r) :
    r.kept key = slotAt key input.conversation.slotMemory := by
  unfold buildBusinessButtonState at h
  simp only at h
  split at h
  · cases h
    exact kept_buildFastHandoffState hkey input buttonId
  · have hbase (memory : JsonObject) (language : String) (source result : Json)
        (hmemory : slotAt key memory = slotAt key input.conversation.slotMemory) :
        ((((services.basePreGraphState input memory language).set "route" (.str target.2.1)).set
          "route_source" source).set "intent_result" result).kept key =
            slotAt key input.conversation.slotMemory := by
      rw [kept_set _ _ (by decide), kept_set _ _ (by decide), kept_set _ _ (by decide),
        kept_basePreGraphState hkey, hmemory]
    have hmenu (menu language : Json) : slotAt key ((input.conversation.slotMemory.set
        "livechat_menu" menu).set "last_reply_language" language) =
          slotAt key input.conversation.slotMemory := by
      rw [slotAt_set hkey _ _ (by decide), slotAt_set hkey _ _ (by decide)]
    split at h
    · obtain ⟨handled, hhandled, rfl⟩ := map_eq_ok.mp h
      have hmark := ((SopSettings.fills_runSop hhandled).kept hkey).trans
        (hbase _ _ _ _ (hmenu _ _))
      unfold withFastPathTextCommand
      simp only
      split
      · exact hmark
      · exact hmark
    · split at h
      · cases h
        exact (kept_buildBusinessButtonFaqState _).trans (hbase _ _ _ _ (hmenu _ _))
      · cases h
        exact hbase _ _ _ _ (hmenu _ _)

/-- The gateway's own answers leave the keys alone. -/
theorem kept_buildPreGraphState (h : services.buildPreGraphState input = .ok (some r)) :
    r.kept key = slotAt key input.conversation.slotMemory := by
  unfold buildPreGraphState at h
  split at h
  · cases h
    exact kept_menuState hkey _ _ _ _ _
  · split at h
    · cases h
    · split at h
      · cases h
      · split at h
        · cases h
          exact kept_menuState hkey _ _ _ _ _
        · split at h
          · obtain ⟨state, hstate, hsome⟩ := map_eq_ok.mp h
            cases hsome
            exact kept_buildBusinessButtonState hkey hstate
          · cases h

/-! ### The router's turns -/

omit hkey in
/-- What the router makes of a turn that no button answers. -/
def routedTurn (services : ReplyServices) (input : GraphInput) : Option NodeState :=
  match services.buildPreGraphState input with
  | .ok none => (services.routedState (input.buildGraphState services.rt)).toOption
  | _ => none

omit hkey in
theorem routedTurn_of_router {routed : NodeState}
    (hpre : services.buildPreGraphState input = .ok none)
    (h : services.routedState (input.buildGraphState services.rt) = .ok routed) :
    services.routedTurn input = some routed := by
  rw [routedTurn, hpre, h]
  rfl

/-- A turn leaves a key as it was, or without a value, unless the router marks a recheck or asks
about an image. -/
theorem slot_graphState
    (hunmarked : key = "backend_recheck_pending" → services.buildPreGraphState input = .ok none →
      ¬∃ evaluation, services.MarksRecheck
        (services.beforeRouter (input.buildGraphState services.rt)) evaluation)
    (hasks : key = "pending_image_candidates" → ∀ routed, services.routedTurn input = some routed →
      RouterSettings.asksAboutImage routed = false)
    (h : services.graphState input = .ok r) :
    r.kept key = slotAt key input.conversation.slotMemory ∨ r.kept key = .null := by
  obtain ⟨state?, hstate, h⟩ := bind_eq_ok.mp h
  cases state? with
  | some state =>
      cases h
      rw [kept_applyFinalReplyFailureHandoff hkey, kept_runFinalReply hkey,
        kept_buildPreGraphState hkey hstate]
      exact .inl rfl
  | none =>
      obtain ⟨result, hresult, h⟩ := bind_eq_ok.mp h
      cases h
      rw [kept_applyFinalReplyFailureHandoff hkey, kept_withPreview]
      obtain ⟨routed, hrouted, hhandled⟩ := bind_eq_ok.mp hresult
      have hroutes := GraphServices.routesSlot_routedState hkey
        (fun hmark => hunmarked hmark hstate) hrouted
      have hhandles := GraphServices.keepsSlot_handledState hkey hhandled
      rw [← GraphInput.kept_buildGraphState hkey services.rt input]
      rcases hroutes.slot with hkept | ⟨himage, hasked⟩
      · have hkeeps : KeepsSlot key (input.buildGraphState services.rt) routed :=
          ⟨hkept, hroutes.receipts⟩
        exact (hkeeps.trans hhandles).slot
      · rw [hasks himage routed (routedTurn_of_router hstate hrouted)] at hasked
        cases hasked

omit hkey in
/-- A turn in which the router confirms a receipt has found an image that waits. -/
theorem pending_of_receipts {routed : NodeState} (h : services.routedTurn input = some routed)
    (hreceipts : routed.get "verified_receipt_attachments" ≠ .arr []) :
    slotAt "pending_image_candidates" input.conversation.slotMemory ≠ .null := by
  have hkey : "pending_image_candidates" ∈ keptKeys := by decide
  have hstart : (input.buildGraphState services.rt).get "verified_receipt_attachments" =
      .arr [] := by
    simp [GraphInput.buildGraphState, GraphInput.values, Dict.ofList, NodeState.get, getKey_set]
  unfold routedTurn at h
  split at h
  · have hslot := GraphInput.kept_buildGraphState hkey services.rt input
    generalize input.buildGraphState services.rt = s at h hstart hslot
    cases hrouted : services.routedState s with
    | error e =>
        rw [hrouted] at h
        cases h
    | ok found =>
        rw [hrouted] at h
        cases h
        have hroutes : RouterSettings.RoutesSlot "pending_image_candidates" s routed :=
          GraphServices.routesSlot_routedState hkey (fun hmark => absurd hmark (by decide)) hrouted
        rw [← hslot]
        refine (hroutes.receipts rfl).resolve_left fun hsame => hreceipts ?_
        rw [hsame, hstart]
  · cases h

end ReplyServices

end AiCustomerService
