import AiCustomerService.Properties.CheckpointLeak
import AiCustomerService.Properties.ComposedTexts

/-!
# The status of a reopened conversation

The gateway reopens a closed conversation in memory only.  What is stored is the status of the
graph state: a run of the graph starts from the reopened status, and the state of a button that
the gateway answers has a status only where its handler sets one.
-/

namespace AiCustomerService

open Support

namespace SopSettings

variable {settings : SopSettings} {s r : NodeState}

/-- All slots of a case about missing money are there. -/
def moneyCaseComplete (settings : SopSettings) (s : NodeState) (intent : String) : Bool :=
  (planSopDialogueFromState settings.rt settings.tables s intent).toOption.any fun plan =>
    decide ((settings.evaluateSopPolicy intent plan.slotMemory (s.get "status")
      ((s.get "active_workflow").orElse (.str intent)) "collecting_slots"
      (s.inputText settings.rt) s.attachments).action = "send_telegram_case")

/-- The handler of the intent has what it needs to start the external work. -/
def startsExternalWork (settings : SopSettings) (s : NodeState) : String → Bool
  | "withdrawal_blocked_or_rollover" =>
      !settings.changesWallet s && (getKey (settings.blockedMemory s) "account_or_phone").truthy
  | "pending_reply_lookup" =>
      (((extractIdentity settings.rt settings.tables (s.inputText settings.rt)).map
        fun identity => Json.str identity.value).getD
          (getKey s.slotMemory "pending_reply_identity")).truthy
  | intent => settings.moneyCaseComplete s intent

/-- A handler that starts external work lets the conversation wait; the others leave its status
alone. -/
def WaitsWhen (works : Bool) (s r : NodeState) : Prop :=
  r.get "status" = if works then .str "WAITING_EXTERNAL" else s.get "status"

theorem waits_moneyMissingSop {intent : String} (h : settings.moneyMissingSop s intent = .ok r) :
    WaitsWhen (settings.moneyCaseComplete s intent) s r := by
  obtain ⟨plan, hplan, h⟩ := bind_eq_ok.mp h
  rw [moneyCaseComplete, hplan, Except.toOption, Option.any_some]
  simp only at h
  generalize settings.evaluateSopPolicy intent plan.slotMemory _ _ _ _ _ = policy at h ⊢
  have hsend {intro : Prop} [Decidable intro] (payload : JsonObject) (reply : String) :
      hasExternalSopCommand (if policy.action = "send_telegram_case" then
        [buildSopCommand .telegramSendCaseCard s intent payload ∅]
      else if intro then settings.depositIntroCommands s reply else []) =
        decide (policy.action = "send_telegram_case") := by
    split
    · rename_i hcomplete
      rw [decide_eq_true hcomplete]
      rfl
    · rename_i hcomplete
      rw [decide_eq_false hcomplete]
      split
      · rfl
      · rfl
  rw [hsend] at h
  cases hcomplete : decide (policy.action = "send_telegram_case") with
  | true =>
      rw [hcomplete] at h
      cases h
      simp [WaitsWhen, atStage]
  | false =>
      rw [hcomplete] at h
      cases h
      simp [WaitsWhen, atStage, NodeState.withReply]

theorem waits_withdrawalBlockedSop (s : NodeState) :
    WaitsWhen (settings.startsExternalWork s "withdrawal_blocked_or_rollover") s
      (settings.withdrawalBlockedSop s) := by
  unfold withdrawalBlockedSop startsExternalWork WaitsWhen
  simp only
  split
  · rename_i hchanges
    simp [hchanges, atStage, NodeState.withReply]
  · rename_i hchanges
    split
    · rename_i hidentity
      rw [Bool.not_eq_true'] at hidentity
      simp [hidentity, atStage, NodeState.withReply]
    · rename_i hidentity
      rw [Bool.not_eq_true', Bool.not_eq_false] at hidentity
      simp [hidentity, hchanges, atStage, backendQueryState]

theorem waits_pendingReplyLookupSop (s : NodeState) :
    WaitsWhen (settings.startsExternalWork s "pending_reply_lookup") s
      (settings.pendingReplyLookupSop s) := by
  unfold pendingReplyLookupSop startsExternalWork WaitsWhen
  cases extractIdentity settings.rt settings.tables (s.inputText settings.rt) with
  | none =>
      cases hknown : (getKey s.slotMemory "pending_reply_identity").truthy with
      | true => simp [hknown, atStage, NodeState.withReply]
      | false => simp [hknown, atStage, NodeState.withReply]
  | some identity =>
      cases hknown : (Json.str identity.value).truthy with
      | true => simp [getKey_set, hknown, atStage, NodeState.withReply]
      | false => simp [getKey_set, hknown, atStage, NodeState.withReply]

theorem startsExternalWork_deposit : settings.startsExternalWork s "deposit_missing" =
    settings.moneyCaseComplete s "deposit_missing" := by
  simp [startsExternalWork]

theorem startsExternalWork_withdrawal : settings.startsExternalWork s "withdrawal_missing" =
    settings.moneyCaseComplete s "withdrawal_missing" := by
  simp [startsExternalWork]

/-- The handlers of the buttons. -/
theorem waits_runSop {intent : String} (hintent : getKey s.intentResult "intent" = .str intent)
    (hbutton : intent ∈ ["deposit_missing", "withdrawal_missing",
      "withdrawal_blocked_or_rollover", "pending_reply_lookup"])
    (h : settings.runSop s = .ok r) : WaitsWhen (settings.startsExternalWork s intent) s r := by
  have hsame {other : String} (h : (getKey s.intentResult "intent").str? = some other) :
      intent = other := by
    rw [hintent] at h
    exact Option.some.inj h
  unfold runSop at h
  split at h
  · rename_i hother
    obtain rfl := hsame hother
    rw [startsExternalWork_deposit]
    exact waits_moneyMissingSop h
  · rename_i hother
    obtain rfl := hsame hother
    rw [startsExternalWork_withdrawal]
    exact waits_moneyMissingSop h
  · rename_i hother
    obtain rfl := hsame hother
    obtain rfl := Except.ok.inj h
    exact waits_withdrawalBlockedSop s
  · rename_i hother
    obtain rfl := hsame hother
    obtain rfl := Except.ok.inj h
    exact waits_pendingReplyLookupSop s
  · rename_i h1 h2 h3 h4
    rw [hintent] at h1 h2 h3 h4
    simp only [List.mem_cons, List.not_mem_nil, or_false] at hbutton
    rcases hbutton with rfl | rfl | rfl | rfl
    · exact absurd rfl h1
    · exact absurd rfl h2
    · exact absurd rfl h3
    · exact absurd rfl h4

end SopSettings

namespace ReplyServices

variable {services : ReplyServices} {input : GraphInput} {s r state result : NodeState}

/-! ## The final reply of a button -/

/-- The language model of the final reply fails for good on the text of the state. -/
def replyFails (services : ReplyServices) (s : NodeState) : Bool :=
  (s.get "response_text").truthy && (s.get "channel_type").eqText "livechat" &&
    services.composeReply.any fun compose =>
      isTerminalFailure services.rt (compose s).result.dictOrEmpty

theorem not_terminalFailure_routerResult {status reason : String} (hne : reason ≠ "")
    (h : reason ∉ ["timeout", "exception", "provider_failure"]) :
    isTerminalFailure services.rt
      (RouterSettings.routerResult status (some reason)).dictOrEmpty = false := by
  have hreason : getKey (RouterSettings.routerResult status (some reason)).dictOrEmpty
      "fallback_reason" = .str reason := by
    simp [RouterSettings.routerResult, setText, Json.dictOrEmpty, getKey_set, hne, hasText,
      Json.ofText?]
  rw [isTerminalFailure, hreason, Json.textOrEmpty, Json.orElse, Json.truthy_str,
    if_pos (decide_eq_true hne), Bool.and_eq_false_iff]
  right
  simpa [Json.pyStr] using h

theorem get_withComposed {reply : ComposedReply} {key : String}
    (hkey : key ∉ GraphServices.finalReplyKeys) : (withComposed s reply).get key = s.get key := by
  simp only [GraphServices.finalReplyKeys, List.mem_cons, List.not_mem_nil, or_false, not_or]
    at hkey
  rw [withComposed, NodeState.get_set, NodeState.get_set, NodeState.get_set, if_neg hkey.2.2,
    if_neg hkey.2.1, if_neg hkey.1]

theorem guardFinalReplyState_setsOnly (s : NodeState) (reply : ComposedReply) :
    SetsOnly GraphServices.finalReplyKeys s (services.guardFinalReplyState s reply) := by
  have hcomposed (reply : ComposedReply) :
      SetsOnly GraphServices.finalReplyKeys s (withComposed s reply) :=
    fun key hkey => get_withComposed hkey
  unfold guardFinalReplyState
  simp only
  split
  · exact hcomposed _
  · split
    · exact hcomposed _
    · exact ((SetsOnly.refl _ s).set _ (by decide)).set _ (by decide)

/-- The guard of the reply hides no failure and makes none up. -/
theorem isTerminalFailure_guardFinalReplyState (s : NodeState) (reply : ComposedReply) :
    isTerminalFailure services.rt
        ((services.guardFinalReplyState s reply).get "final_reply_result").dictOrEmpty =
      isTerminalFailure services.rt reply.result.dictOrEmpty := by
  unfold guardFinalReplyState
  simp only
  split
  · simp [withComposed]
  · split
    · simp [withComposed]
    · rename_i hstatus
      rw [NodeState.get_set, if_pos rfl, not_terminalFailure_routerResult (by decide) (by decide),
        isTerminalFailure, eq_comm, Bool.and_eq_false_iff]
      exact .inl (by simpa using hstatus)

/-- The status after the handoff of a failed reply. -/
theorem get_status_handoff (s : NodeState) :
    (services.applyFinalReplyFailureHandoff s).get "status" =
      if services.shouldHandoffForFailure s then .str "HANDOFF_REQUESTED" else s.get "status" := by
  unfold applyFinalReplyFailureHandoff
  split
  · simp [buildAiServiceFailureHandoffState, acknowledgedHandoff, SopSettings.atStage,
      NodeState.withReply]
  · rfl

/-- A state that has no reply yet is handed over exactly when its reply fails. -/
theorem get_status_reply (hresult : s.get "final_reply_result" = .null) :
    (services.applyFinalReplyFailureHandoff (services.runFinalReply s)).get "status" =
      if services.replyFails s then .str "HANDOFF_REQUESTED" else s.get "status" := by
  have hpending : services.shouldHandoffForFailure s = false := by
    rw [shouldHandoffForFailure, hresult, Bool.and_eq_false_iff]
    exact .inr rfl
  unfold runFinalReply
  split
  · rename_i htext
    have hno : services.replyFails s = false := by
      rw [Bool.not_eq_true'] at htext
      rw [replyFails, htext, Bool.false_and, Bool.false_and]
    rw [get_status_handoff, hpending, hno]
  · rename_i htext
    simp only [Bool.not_eq_true, Bool.not_eq_false'] at htext
    split
    · rename_i compose hcompose
      have hsets := @guardFinalReplyState_setsOnly services s (compose s)
      have hshould : services.shouldHandoffForFailure
          (services.guardFinalReplyState s (compose s)) = services.replyFails s := by
        rw [shouldHandoffForFailure, hsets _ (by decide), isTerminalFailure_guardFinalReplyState,
          replyFails, htext, hcompose, Bool.true_and, Option.any_some]
      rw [get_status_handoff, get_status_handoff, hsets _ (by decide), hshould]
      cases hfails : services.replyFails s with
      | true => exact ite_self _
      | false =>
          rw [applyFinalReplyFailureHandoff, hshould, hfails, if_neg Bool.false_ne_true, hshould,
            hfails]
          rfl
    · rename_i hcompose
      have hno : services.replyFails s = false := by
        rw [replyFails, hcompose, Option.any_none, Bool.and_false]
      rw [hno]
      split
      · rw [get_status_handoff, hpending]
      · have hmissing : services.shouldHandoffForFailure (withComposed s
            ⟨(s.get "response_text_fallback").orElse (s.get "response_text"),
              s.get "response_text",
              RouterSettings.routerResult "fallback" (some "missing_service")⟩) = false := by
          rw [shouldHandoffForFailure, Bool.and_eq_false_iff]
          right
          rw [withComposed, NodeState.get_set, if_pos rfl]
          exact not_terminalFailure_routerResult (by decide) (by decide)
        rw [get_status_handoff, hmissing, get_withComposed (by decide)]

/-! ## The buttons that the gateway answers -/

/-- The button that the gateway looks up for an event. -/
def lookedUpButton (services : ReplyServices) (input : GraphInput) : Option String :=
  if input.event.standardEventType = "MESSAGE_CREATED" then
    services.extractLivechatButtonId input.event input.conversation.slotMemory
  else none

/-- The button shows a menu. -/
def isNavigation (buttonId : String) : Bool :=
  (menuByNavButton buttonId).isSome || decide (buttonId = "route_main") ||
    decide (buttonId = "route_previous")

/-- The state that a business button hands to its handler. -/
def pressedState (services : ReplyServices) (input : GraphInput) (buttonId : String)
    (target : String × String × Option String) : NodeState :=
  let memory := input.conversation.slotMemory.set "livechat_menu" (.obj
    (businessButtonMenuMemory services.rt
      (getKey input.conversation.slotMemory "livechat_menu").dictOrEmpty buttonId))
  let language := services.fastMenuLanguage memory
  (((services.basePreGraphState input (memory.set "last_reply_language" (.str language))
    language).set "route" (.str target.2.1)).set "route_source"
    (.str "livechat_button_fast_path")).set "intent_result"
    (.obj (businessButtonIntentResult input.conversation buttonId target))

/-- The answer to a business button gives the conversation a status: the button asks for a human
or starts external work, or the final reply of its state fails for good. -/
def buttonSetsStatus (services : ReplyServices) (input : GraphInput) (buttonId : String)
    (target : String × String × Option String) : Bool :=
  decide (target.2.1 = "human_handoff") ||
    decide (target.2.1 = "sop") &&
      services.startsExternalWork (services.pressedState input buttonId target) target.1 ||
    (services.buildBusinessButtonState input buttonId target).toOption.any services.replyFails

/-- The answer to an event gives a reopened conversation a status. -/
def setsStatus (services : ReplyServices) (input : GraphInput) : Bool :=
  match services.lookedUpButton input with
  | none => true
  | some buttonId =>
      if isNavigation buttonId then false
      else
        match businessButtonRoute buttonId with
        | some target => services.buttonSetsStatus input buttonId target
        | none => true

theorem get_status_basePreGraphState (input : GraphInput) (memory : JsonObject)
    (language : String) :
    (services.basePreGraphState input memory language).get "status" = .null := by
  simp [basePreGraphState, Dict.ofList, NodeState.get, getKey_set]

theorem get_response_basePreGraphState (input : GraphInput) (memory : JsonObject)
    (language : String) :
    (services.basePreGraphState input memory language).get "response_text" = .null := by
  simp [basePreGraphState, Dict.ofList, NodeState.get, getKey_set]

theorem get_status_pressedState (input : GraphInput) (buttonId : String)
    (target : String × String × Option String) :
    (services.pressedState input buttonId target).get "status" = .null := by
  simp [pressedState, get_status_basePreGraphState]

theorem get_intent_pressedState (input : GraphInput) (buttonId : String)
    (target : String × String × Option String) :
    getKey (services.pressedState input buttonId target).intentResult "intent" =
      .str target.1 := by
  obtain ⟨intent, route, query⟩ := target
  simp only [pressedState, NodeState.intentResult, NodeState.get_set, if_true, Json.dictOrEmpty,
    Json.dict?_obj, Option.getD_some, businessButtonIntentResult]
  split <;> split <;> simp [getKey_set, Dict.ofList]

theorem buildBusinessButtonState_eq (input : GraphInput) (buttonId : String)
    (target : String × String × Option String) :
    services.buildBusinessButtonState input buttonId target =
      if target.2.1 = "human_handoff" then .ok (services.buildFastHandoffState input buttonId)
      else if target.2.1 = "sop" then
        services.withFastPathTextCommand <$>
          services.runSop (services.pressedState input buttonId target)
      else if target.2.1 = "faq" then
        .ok (services.buildBusinessButtonFaqState (services.pressedState input buttonId target))
      else .ok (services.pressedState input buttonId target) := rfl

theorem get_status_withFastPathTextCommand (s : NodeState) :
    (services.withFastPathTextCommand s).get "status" = s.get "status" := by
  unfold withFastPathTextCommand
  simp only
  split
  · rfl
  · rfl

theorem get_status_buildBusinessButtonFaqState (s : NodeState) :
    (services.buildBusinessButtonFaqState s).get "status" = s.get "status" := by
  unfold buildBusinessButtonFaqState
  simp only
  split
  · simp [SopSettings.atStage]
  · split
    · simp
    · simp

/-- The status of the state of a business button, before its final reply. -/
theorem get_status_buildBusinessButtonState {buttonId : String}
    {target : String × String × Option String}
    (htarget : businessButtonRoute buttonId = some target)
    (h : services.buildBusinessButtonState input buttonId target = .ok state) :
    state.get "status" =
      if target.2.1 = "human_handoff" then .str "HANDOFF_REQUESTED"
      else if (decide (target.2.1 = "sop") &&
          services.startsExternalWork (services.pressedState input buttonId target) target.1) = true
        then .str "WAITING_EXTERNAL"
      else .null := by
  rw [buildBusinessButtonState_eq] at h
  split at h
  · rename_i hhandoff
    cases h
    rw [if_pos hhandoff]
    simp [buildFastHandoffState, acknowledgedHandoff, SopSettings.atStage, NodeState.withReply]
  · rename_i hhandoff
    rw [if_neg hhandoff]
    split at h
    · rename_i hsop
      obtain ⟨handled, hhandled, rfl⟩ := map_eq_ok.mp h
      have hbutton : target.1 ∈ ["deposit_missing", "withdrawal_missing",
          "withdrawal_blocked_or_rollover", "pending_reply_lookup"] := by
        unfold businessButtonRoute at htarget
        split at htarget <;> cases htarget <;> first | decide | exact absurd hsop (by decide)
      have hwaits := SopSettings.waits_runSop (get_intent_pressedState input buttonId target)
        hbutton hhandled
      rw [SopSettings.WaitsWhen, get_status_pressedState] at hwaits
      rw [get_status_withFastPathTextCommand, hwaits, decide_eq_true hsop, Bool.true_and]
    · rename_i hsop
      rw [decide_eq_false hsop, Bool.false_and, if_neg Bool.false_ne_true]
      split at h
      · cases h
        rw [get_status_buildBusinessButtonFaqState, get_status_pressedState]
      · cases h
        rw [get_status_pressedState]

/-! ## The state of an event -/

/-- The statuses of a conversation in which the bot works, or that it has handed over. -/
def openStatuses : List Json :=
  [.str "AI_ACTIVE", .str "WAITING_EXTERNAL", .str "HANDOFF_REQUESTED"]

/-- The state has an open status if `sets` holds, and else none. -/
def HasStatus (sets : Bool) (s : NodeState) : Prop :=
  if sets then s.get "status" ∈ openStatuses else s.get "status" = .null

theorem setsStatus_of_button {buttonId : String}
    (hevent : input.event.standardEventType = "MESSAGE_CREATED")
    (hbutton : services.extractLivechatButtonId input.event input.conversation.slotMemory =
      some buttonId) :
    services.setsStatus input =
      if isNavigation buttonId then false
      else
        match businessButtonRoute buttonId with
        | some target => services.buttonSetsStatus input buttonId target
        | none => true := by
  rw [setsStatus, lookedUpButton, if_pos hevent, hbutton]

theorem isNavigation_iff {buttonId : String} :
    isNavigation buttonId = true ↔ (menuByNavButton buttonId).isSome ∨
      buttonId = "route_main" ∨ buttonId = "route_previous" := by
  simp [isNavigation, or_assoc]

theorem hasStatus_navigation (input : GraphInput) (buttonId : String) :
    HasStatus false (services.applyFinalReplyFailureHandoff
      (services.runFinalReply (services.buildNavButtonState input buttonId))) := by
  have htext : (services.buildNavButtonState input buttonId).get "response_text" = .null := by
    simp [buildNavButtonState, menuState, get_response_basePreGraphState]
  have hfails : services.replyFails (services.buildNavButtonState input buttonId) = false := by
    rw [replyFails, htext]
    rfl
  have hresult : Unreplied (services.buildNavButtonState input buttonId) :=
    unreplied_menuState _ _ _ _ _
  rw [HasStatus, if_neg Bool.false_ne_true, get_status_reply hresult.result, hfails,
    if_neg Bool.false_ne_true]
  simp [buildNavButtonState, menuState, get_status_basePreGraphState]

theorem hasStatus_businessButton {buttonId : String} {target : String × String × Option String}
    (htarget : businessButtonRoute buttonId = some target)
    (h : services.buildBusinessButtonState input buttonId target = .ok state) :
    HasStatus (services.buttonSetsStatus input buttonId target)
      (services.applyFinalReplyFailureHandoff (services.runFinalReply state)) := by
  rw [HasStatus, get_status_reply (unreplied_buildBusinessButtonState h).result,
    get_status_buildBusinessButtonState htarget h]
  unfold buttonSetsStatus
  rw [h, Except.toOption, Option.any_some]
  cases hfails : services.replyFails state with
  | true => simp [openStatuses]
  | false =>
      by_cases hhandoff : target.2.1 = "human_handoff"
      · simp [hhandoff, openStatuses]
      · rw [decide_eq_false hhandoff, if_neg hhandoff, Bool.false_or, Bool.or_false]
        split
        · simp [openStatuses]
        · rfl

/-- The state of a button that the gateway answers. -/
theorem hasStatus_button (hevent : input.event.standardEventType = "MESSAGE_CREATED")
    (h : services.buildPreGraphState input = .ok (some state)) :
    HasStatus (services.setsStatus input)
      (services.applyFinalReplyFailureHandoff (services.runFinalReply state)) := by
  unfold buildPreGraphState at h
  rw [if_neg (by simp [hevent]), if_neg (by simp [hevent])] at h
  cases hbutton : services.extractLivechatButtonId input.event input.conversation.slotMemory with
  | none =>
      rw [hbutton] at h
      cases h
  | some buttonId =>
      rw [hbutton] at h
      rw [setsStatus_of_button hevent hbutton]
      dsimp only at h
      split at h
      · rename_i hmenu
        cases h
        rw [if_pos (isNavigation_iff.mpr hmenu)]
        exact hasStatus_navigation input buttonId
      · rename_i hmenu
        rw [if_neg fun hnav => hmenu (isNavigation_iff.mp hnav)]
        cases htarget : businessButtonRoute buttonId with
        | none =>
            rw [htarget] at h
            cases h
        | some target =>
            rw [htarget] at h
            obtain ⟨built, hbuilt, hsome⟩ := map_eq_ok.mp h
            cases hsome
            exact hasStatus_businessButton htarget hbuilt

/-- Where no button is answered, the state of the event is that of the graph. -/
theorem setsStatus_of_no_button
    (hevent : input.event.standardEventType ∈ ["MESSAGE_CREATED", "FILE_RECEIVED"])
    (h : services.buildPreGraphState input = .ok none) : services.setsStatus input = true := by
  unfold buildPreGraphState at h
  simp only [List.mem_cons, List.not_mem_nil, or_false] at hevent
  rcases hevent with hmessage | hfile
  · rw [if_neg (by simp [hmessage]), if_neg (by simp [hmessage])] at h
    cases hbutton : services.extractLivechatButtonId input.event input.conversation.slotMemory with
    | none => rw [setsStatus, lookedUpButton, if_pos hmessage, hbutton]
    | some buttonId =>
        rw [hbutton] at h
        rw [setsStatus_of_button hmessage hbutton]
        dsimp only at h
        split at h
        · cases h
        · rename_i hmenu
          rw [if_neg fun hnav => hmenu (isNavigation_iff.mp hnav)]
          cases htarget : businessButtonRoute buttonId with
          | none => rfl
          | some target =>
              rw [htarget] at h
              obtain ⟨built, -, hsome⟩ := map_eq_ok.mp h
              cases hsome
  · rw [setsStatus, lookedUpButton, if_neg (by simp [hfile])]

theorem get_status_resume (saved : NodeState) (rt : Runtime) (input : GraphInput) :
    (saved.resume (input.buildGraphState rt)).get "status" =
      .str input.conversation.status.text := by
  have hinput : (input.buildGraphState rt).values.get? "status" =
      some (.str input.conversation.status.text) := by
    simp [GraphInput.buildGraphState, GraphInput.values, Dict.ofList, Dict.get?_set]
  rw [NodeState.get, getKey, NodeState.resume, Dict.get?, lookup_channels, if_pos (by decide),
    hinput]
  rfl

theorem hasStatus_graph {saved : NodeState} (hopen : input.conversation.status = .aiActive)
    (h : services.runGraph (saved.resume (input.buildGraphState services.rt)) = .ok result) :
    HasStatus true (services.applyFinalReplyFailureHandoff (services.withPreview result)) := by
  have hrun := GraphServices.keepsStatus_runGraph h
  rw [KeepsStatus, get_status_resume, hopen] at hrun
  have hresult : result.get "status" ∈ openStatuses := by
    simpa [openStatuses, ConversationStatus.text] using hrun
  have hpreview : (services.withPreview result).get "status" = result.get "status" := by
    unfold withPreview
    split
    · rfl
    · split
      · exact get_withComposed (by decide)
      · rfl
  rw [HasStatus, if_pos rfl, get_status_handoff, hpreview]
  split
  · simp [openStatuses]
  · exact hresult

/-- A conversation that is open again has an open status behind an event exactly where the answer
sets one. -/
theorem hasStatus_resumedGraphState {saved : NodeState}
    (hopen : input.conversation.status = .aiActive)
    (hevent : input.event.standardEventType ∈ ["MESSAGE_CREATED", "FILE_RECEIVED"])
    (h : services.resumedGraphState saved input = .ok state) :
    HasStatus (services.setsStatus input) state := by
  obtain ⟨pre?, hpre, h⟩ := bind_eq_ok.mp h
  cases pre? with
  | some pre =>
      cases h
      have hmessage : input.event.standardEventType = "MESSAGE_CREATED" := by
        simp only [List.mem_cons, List.not_mem_nil, or_false] at hevent
        refine hevent.resolve_right fun hfile => ?_
        unfold buildPreGraphState at hpre
        rw [if_neg (by simp [hfile]), if_pos (by simp [hfile])] at hpre
        cases hpre
      exact hasStatus_button hmessage hpre
  | none =>
      obtain ⟨result, hresult, h⟩ := bind_eq_ok.mp h
      cases h
      rw [setsStatus_of_no_button hevent hpre]
      exact hasStatus_graph hopen hresult

end ReplyServices

/-! ## The event -/

/-- The status with a text. -/
def ConversationStatus.ofText? : String → Option ConversationStatus
  | "AI_ACTIVE" => some .aiActive
  | "WAITING_EXTERNAL" => some .waitingExternal
  | "HANDOFF_REQUESTED" => some .handoffRequested
  | "HUMAN_ACTIVE" => some .humanActive
  | "CLOSED" => some .closed
  | _ => none

/-- `graph_state.get("telegram_case_update")`. -/
def telegramCaseUpdate? (s : NodeState) : Option TelegramCaseUpdate :=
  match s.get "telegram_case_update" with
  | .obj update =>
      match getKey update "telegram_case_id", getKey update "status" with
      | .int caseId, .str status => some ⟨caseId.toNat, status⟩
      | _, _ => none
  | _ => none

/-- What the transaction of an event reads of a graph state. -/
def NodeState.persisted (rt : Runtime) (s : NodeState) : GraphState where
  status := (s.get "status").str?.bind ConversationStatus.ofText?
  activeWorkflow := (s.get "active_workflow").columnText rt
  workflowStage := (s.get "workflow_stage").columnText rt
  slotMemory := (s.get "slot_memory").dict?
  handoffState := (s.get "handoff_state").dict?
  deleteSlotMemoryKeys := []
  telegramCaseUpdate := telegramCaseUpdate? s

/-- The gateway with its services, and what it has read or decided beside the conversation: the
checkpoints, the history and the money cases, the analysis of an image, and the commands of a
graph state. -/
structure GatewayRun where
  services : ReplyServices
  saved : NodeState
  recentMessages : List JsonObject
  previousThreadMemory : List JsonObject
  telegramMoneyCaseCandidates : List MoneyCase
  analyzeImage : JsonObject → JsonObject
  externalCommands : NodeState → List ExternalCommand

namespace GatewayRun

variable (run : GatewayRun)

/-- `_event_with_image_analysis`. -/
def eventForGraph (event : StandardEvent) : StandardEvent :=
  if event.standardEventType = "FILE_RECEIVED" then
    { event with payloadJson := run.analyzeImage event.payloadJson }
  else event

/-- What the answer to an event starts from. -/
def input (event : StandardEvent) (conversation : ConversationView) : GraphInput :=
  ⟨run.eventForGraph event, conversation, run.recentMessages, run.previousThreadMemory,
    run.telegramMoneyCaseCandidates⟩

/-- The rows of a graph state. -/
def output (input : GraphInput) (inboundEventId : Nat) (state : NodeState) :
    Except PyError GatewayOutput := do
  let rows ← run.services.buildOutboundMessages input inboundEventId state
  let streamed := run.services.maybeStreamOfficialLivechatText state rows
  pure ⟨streamed.1.persisted run.services.rt, streamed.2, run.externalCommands streamed.1, []⟩

/-- The two ways to a graph state. -/
def workflow (inboundEventId : Nat) : Workflow where
  preGraph event conversation := do
    let input := run.input event conversation
    match ← run.services.buildPreGraphState input with
    | none => pure none
    | some pre =>
        some <$> run.output input inboundEventId
          (run.services.applyFinalReplyFailureHandoff (run.services.runFinalReply pre))
  runGraph event conversation := do
    let input := run.input event conversation
    let result ← run.services.runGraph
      (run.saved.resume (input.buildGraphState run.services.rt))
    run.output input inboundEventId
      (run.services.applyFinalReplyFailureHandoff (run.services.withPreview result))

/-- `process_event`, with the database between its two transactions as the first one left it. -/
def processEvent (db : Database) (ctx : TxContext) (inboundEventId : Nat) (event : StandardEvent) :
    Except PyError (Database × TransactionResult) :=
  let loaded := loadTransactionalConversation db ctx event
  commitEvent run.services.rt (run.workflow inboundEventId) loaded.1 ctx inboundEventId event
    loaded.2

/-- What the answer starts from, with the conversation reopened in memory. -/
def reopenedInput (db : Database) (ctx : TxContext) (event : StandardEvent) : GraphInput :=
  run.input event (reopenClosedConversation (loadTransactionalConversation db ctx event).2 event)

variable {run} {input : GraphInput} {event : StandardEvent} {conversation : ConversationView}
  {inboundEventId : Nat} {state : NodeState} {output : GatewayOutput}

theorem status_output (h : run.output input inboundEventId state = .ok output) :
    output.graphState.status = (state.get "status").str?.bind ConversationStatus.ofText? := by
  obtain ⟨rows, -, h⟩ := bind_eq_ok.mp h
  cases h
  have hkept : (run.services.maybeStreamOfficialLivechatText state rows).1 = state := by
    unfold ReplyServices.maybeStreamOfficialLivechatText
    split
    · rfl
    · cases rows with
      | nil =>
          rw [if_neg (by simp)]
          split
          · rename_i hrow
            cases hrow
          · rfl
      | cons row rows => rw [if_pos (by simp)]
  simp only [hkept, NodeState.persisted]

/-- An open status is stored, and no status keeps the one of the row. -/
theorem stored_of_hasStatus {sets : Bool} (h : ReplyServices.HasStatus sets state) :
    ((state.get "status").str?.bind ConversationStatus.ofText?).getD .closed ≠ .closed ↔
      sets = true := by
  cases sets with
  | true =>
      rw [ReplyServices.HasStatus, if_pos rfl] at h
      simp only [ReplyServices.openStatuses, List.mem_cons, List.not_mem_nil, or_false] at h
      rcases h with h | h | h
      · simp [h, Json.str?, ConversationStatus.ofText?]
      · simp [h, Json.str?, ConversationStatus.ofText?]
      · simp [h, Json.str?, ConversationStatus.ofText?]
  | false =>
      rw [ReplyServices.HasStatus, if_neg Bool.false_ne_true] at h
      simp [h, Json.str?]

theorem eventForGraph_type (event : StandardEvent) :
    (run.eventForGraph event).standardEventType = event.standardEventType := by
  unfold eventForGraph
  split
  · rfl
  · rfl

theorem reopenClosedConversation_status {conversation : ConversationView}
    (hclosed : conversation.status = .closed)
    (hevent : event.standardEventType ∈ ["MESSAGE_CREATED", "FILE_RECEIVED"])
    (hignored : event.ignored = false) :
    (reopenClosedConversation conversation event).status = .aiActive := by
  rw [reopenClosedConversation, if_neg (by simp [hclosed]), if_neg (not_not.mpr hevent),
    if_neg (by simp [hignored])]

/-- What a message of a closed conversation writes has an open status exactly where its answer sets
one. -/
theorem status_workflow_output (hclosed : conversation.status = .closed)
    (hevent : event.standardEventType ∈ ["MESSAGE_CREATED", "FILE_RECEIVED"])
    (hignored : event.ignored = false) (hcustomer : isHumanAgentPublicReply event = false)
    (h : (run.workflow inboundEventId).output event conversation = .ok (some output)) :
    output.graphState.status.getD .closed ≠ .closed ↔
      run.services.setsStatus
        (run.input event (reopenClosedConversation conversation event)) = true := by
  have hopen := reopenClosedConversation_status hclosed hevent hignored
  have htype : (run.input event (reopenClosedConversation conversation
      event)).event.standardEventType ∈ ["MESSAGE_CREATED", "FILE_RECEIVED"] := by
    rw [input, eventForGraph_type]
    exact hevent
  have hstate : ∃ state, run.services.resumedGraphState run.saved (run.input event
      (reopenClosedConversation conversation event)) = .ok state ∧
      run.output (run.input event (reopenClosedConversation conversation event)) inboundEventId
        state = .ok output := by
    rw [Workflow.output, hcustomer, if_neg Bool.false_ne_true] at h
    dsimp only at h
    rw [if_neg (by simp [isAutomationSuspended, hopen, ConversationStatus.isLocked])] at h
    obtain ⟨first?, hfirst, h⟩ := bind_eq_ok.mp h
    obtain ⟨pre?, hpre, hfirst⟩ := bind_eq_ok.mp hfirst
    cases pre? with
    | some pre =>
        obtain ⟨first, houtput, hsome⟩ := map_eq_ok.mp hfirst
        cases hsome
        cases h
        exact ⟨_, bind_eq_ok.mpr ⟨some pre, hpre, rfl⟩, houtput⟩
    | none =>
        cases hfirst
        dsimp only at h
        split at h
        · obtain ⟨last, hlast, hsome⟩ := map_eq_ok.mp h
          cases hsome
          obtain ⟨result, hresult, houtput⟩ := bind_eq_ok.mp hlast
          exact ⟨_, bind_eq_ok.mpr ⟨none, hpre, bind_eq_ok.mpr ⟨result, hresult, rfl⟩⟩, houtput⟩
        · cases h
  obtain ⟨state, hstate, houtput⟩ := hstate
  rw [status_output houtput]
  exact stored_of_hasStatus
    (ReplyServices.hasStatus_resumedGraphState hopen htype hstate)

/-- The row of a closed conversation, once an event has loaded it. -/
theorem status_loaded {db : Database} {ctx : TxContext} {row : ConversationRow}
    (hrow : db.conversation? (conversationIdForChat (some (textOr event.chatId "unknown"))
      event.threadId) = some row) (hclosed : row.status = .closed) :
    (loadTransactionalConversation db ctx event).2.status = .closed ∧
      ((loadTransactionalConversation db ctx event).1.ensuredRow (textOr event.chatId "unknown")
        event.threadId).status = .closed := by
  have hensured : (db.ensuredRow (textOr event.chatId "unknown") event.threadId).status =
      .closed := by
    rw [Database.ensuredRow, Database.rowAfterInsert, hrow]
    exact hclosed
  rw [loadTransactionalConversation, getOrCreateOnConnection_eq]
  refine ⟨?_, ?_⟩
  · dsimp only
    generalize (if hasText event.threadId then ctx.previous else none) = previous?
    cases previous? with
    | none => exact hensured
    | some previous =>
        have hold : isFreshAiState (db.ensuredRow (textOr event.chatId "unknown")
            event.threadId) = false := by
          simp [isFreshAiState, hensured]
        rw [viewOf, inheritUnfinishedThreadState, hold]
        exact hensured
  · have hagain := ensuredRow_entered db (textOr event.chatId "unknown") event.threadId
    rw [Database.entered] at hagain
    rw [hagain, hensured]

/-- A closed conversation that an event of the customer is answered in is stored open exactly
where the answer sets a status. -/
theorem answered_conversation_open_iff (run : GatewayRun) {db db' : Database} {ctx : TxContext}
    {inboundEventId : Nat} {event : StandardEvent} {row : ConversationRow}
    {result : TransactionResult}
    (hrow : db.conversation? (conversationIdForChat (some (textOr event.chatId "unknown"))
      event.threadId) = some row)
    (hclosed : row.status = .closed)
    (hevent : event.standardEventType ∈ ["MESSAGE_CREATED", "FILE_RECEIVED"])
    (hignored : event.ignored = false)
    (hrun : run.processEvent db ctx inboundEventId event = .ok (db', result))
    (hanswered : result.outboundInserts ≠ []) :
    (∃ stored, db'.conversation? (conversationIdForChat (some (textOr event.chatId "unknown"))
      event.threadId) = some stored ∧ stored.status ≠ .closed) ↔
      run.services.setsStatus (run.reopenedInput db ctx event) = true := by
  obtain ⟨hview, hensured⟩ := @status_loaded _ _ ctx _ hrow hclosed
  have hfree : ((loadTransactionalConversation db ctx event).1.ensuredRow
      (textOr event.chatId "unknown") event.threadId).status.isLocked ≠ true := by
    rw [hensured]
    decide
  obtain ⟨output, houtput, hrest⟩ := bind_eq_ok.mp hrun
  obtain ⟨customer, -, hcommit⟩ := bind_eq_ok.mp hrest
  have hsent : (output.map GatewayOutput.outboundMessages).getD [] ≠ [] := by
    intro hnone
    rw [hnone] at hcommit
    rcases processEvent_cases hcommit with hskipped | henqueued
    · exact hfree hskipped.locked
    · obtain ⟨base, queued, -, -, henqueue, -⟩ := henqueued.queued
      obtain ⟨mid, houtbound, -⟩ := enqueue_ok henqueue
      rw [List.map_nil, insertEach, Except.ok.injEq, Prod.mk.injEq] at houtbound
      exact hanswered houtbound.2.symm
  cases output with
  | none => exact absurd rfl hsent
  | some output =>
      have hcustomer : isHumanAgentPublicReply event = false := by
        by_contra hagent
        rw [Bool.not_eq_false] at hagent
        rw [Workflow.output, if_pos hagent] at houtput
        cases houtput
        exact hsent rfl
      rcases processEvent_cases hcommit with hskipped | henqueued
      · exact absurd hskipped.locked hfree
      · have hstored := henqueued.conversation?_afterEvent
        rw [reopenedInput, ← status_workflow_output hview hevent hignored hcustomer houtput,
          hstored]
        simp [ConversationRow.withGraphState, hensured]

/-! ## Buttons in a closed conversation -/

/-- The gateway with services that no language model stands behind. -/
def plain : GatewayRun := ⟨.plain, .unsaved, [], [], [], id, fun _ => []⟩

/-- The conversation that was closed. -/
def closedChat : Database :=
  { Database.empty with
    conversationStates := ⟨[{ ConversationRow.fresh 1 "livechat:C1:T1" "C1" (some "T1") with
      status := .closed }], by decide⟩ }

/-- The customer presses a button. -/
def pressed (buttonId : String) : StandardEvent where
  chatId := some "C1"
  threadId := some "T1"
  eventId := some "E1"
  authorId := none
  occurredAt := none
  payloadJson := .ofList [("button_id", .str buttonId)]
  organizationId := none
  standardEventType := "MESSAGE_CREATED"
  ignored := false

/-- The button for a human hands the conversation over, so it is open again. -/
theorem chat_open_after_handoff_button :
    ∃ db' result, plain.processEvent closedChat ⟨none, false⟩ 1 (pressed "global_human") =
        .ok (db', result) ∧
      ∃ stored, db'.conversation? "livechat:C1:T1" = some stored ∧ stored.status ≠ .closed := by
  have hrun : (plain.processEvent closedChat ⟨none, false⟩ 1
      (pressed "global_human")).toOption.any (fun done => !done.2.outboundInserts.isEmpty) =
        true := by
    decide +kernel
  obtain ⟨⟨db', result⟩, hdone, hsent⟩ := toOption_any_eq_true.mp hrun
  exact ⟨db', result, hdone, (answered_conversation_open_iff plain rfl rfl (by decide) rfl hdone
    (by simpa using hsent)).mpr (by decide +kernel)⟩

/-- The button for a missing deposit starts the workflow and asks for the receipt, and the
conversation stays closed. -/
theorem deposit_button_leaves_chat_closed :
    ∃ db' result, plain.processEvent closedChat ⟨none, false⟩ 1 (pressed "main_deposito") =
        .ok (db', result) ∧ result.outboundInserts ≠ [] ∧
      (db'.conversation? "livechat:C1:T1").map ConversationRow.status = some .closed := by
  have hrun : (plain.processEvent closedChat ⟨none, false⟩ 1
      (pressed "main_deposito")).toOption.any (fun done =>
        !done.2.outboundInserts.isEmpty && decide ((done.1.conversation? "livechat:C1:T1").map
          ConversationRow.status = some .closed)) = true := by
    decide +kernel
  obtain ⟨⟨db', result⟩, hdone, hrun⟩ := toOption_any_eq_true.mp hrun
  simp only [Bool.and_eq_true, Bool.not_eq_true', decide_eq_true_eq] at hrun
  exact ⟨db', result, hdone, by simpa using hrun.1, hrun.2⟩

end GatewayRun

end AiCustomerService
