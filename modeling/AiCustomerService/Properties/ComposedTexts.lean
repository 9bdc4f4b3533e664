import AiCustomerService.Properties.HandoffAck

/-!
# Who writes the texts of a reply

The graph leaves the final reply to the step that streams it, and that step only looks at rows that
do not exist.  With streaming, the texts of the graph go out as they are.
-/

namespace AiCustomerService

open Support

/-! ## One text -/

/-- The command is a text. -/
def isTextCommand (command : WorkflowCommand) : Bool := decide (command.type = .livechatSendText)

/-- At most one command is a text, and it is not exempt from the final reply. -/
structure OneText (commands : List WorkflowCommand) : Prop where
  single : (commands.filter isTextCommand).length ≤ 1
  composed : ∀ command ∈ commands, isTextCommand command = true →
    (getKey command.payload "final_reply_exempt").isTrue = false

namespace OneText

variable {commands : List WorkflowCommand}

theorem nil : OneText [] := ⟨by simp, by simp⟩

theorem text (text : Option String) : OneText (text.toList.map textCommand) := by
  cases text with
  | none => exact nil
  | some text =>
      refine ⟨by simp [isTextCommand, textCommand, SopSettings.command], fun command hmem _ => ?_⟩
      obtain rfl := List.mem_singleton.mp hmem
      simp [textCommand, SopSettings.command, Dict.ofList, getKey_set, Json.isTrue]

/-- Two texts of the commands are the same one. -/
theorem eq (h : OneText commands) {command other : WorkflowCommand} (hcommand : command ∈ commands)
    (hother : other ∈ commands) (htext : isTextCommand command = true)
    (htext' : isTextCommand other = true) :
    command = other := by
  have hmem := List.mem_filter.mpr ⟨hcommand, htext⟩
  have hmem' := List.mem_filter.mpr ⟨hother, htext'⟩
  have hsingle := h.single
  cases hfilter : commands.filter isTextCommand with
  | nil =>
      rw [hfilter] at hmem
      cases hmem
  | cons first rest =>
      rw [hfilter] at hmem hmem' hsingle
      have hrest : rest = [] := by
        rw [List.length_cons] at hsingle
        exact List.eq_nil_of_length_eq_zero (by omega)
      rw [hrest] at hmem hmem'
      exact (List.mem_singleton.mp hmem).trans (List.mem_singleton.mp hmem').symm

theorem of_no_text (h : CommandType.livechatSendText ∉ commands.map WorkflowCommand.type) :
    OneText commands := by
  have hnone : ∀ command ∈ commands, isTextCommand command = false := by
    intro command hmem
    rw [isTextCommand, decide_eq_false_iff_not]
    intro htype
    exact h (htype ▸ List.mem_map_of_mem hmem)
  constructor
  · rw [List.filter_eq_nil_iff.mpr fun command hmem => by simp [hnone command hmem]]
    simp
  · intro command hmem htext
    rw [hnone command hmem] at htext
    cases htext

end OneText

/-! ## The nodes -/

namespace SopSettings

variable {settings : SopSettings} {s r : NodeState}

theorem oneText_depositIntroCommands (reply : String) :
    OneText (settings.depositIntroCommands s reply) := by
  constructor
  · simp [depositIntroCommands, isTextCommand]
  · intro command hmem htext
    simp only [depositIntroCommands, List.mem_cons, List.not_mem_nil, or_false] at hmem
    rcases hmem with rfl | rfl
    · simp [isTextCommand] at htext
    · simp [Dict.ofList, getKey_set, Json.isTrue]

theorem oneText_moneyMissingSop {intent : String} (h : settings.moneyMissingSop s intent = .ok r) :
    OneText r.commands := by
  obtain ⟨plan, -, h⟩ := bind_eq_ok.mp h
  have hstates (c : Bool) {t t' : NodeState} (ht : OneText t.commands) (ht' : OneText t'.commands) :
      (if c = true then pure (atStage t intent "waiting_backend")
        else pure (atStage t' intent "collecting_slots") : Except PyError NodeState) = .ok r →
      OneText r.commands := by
    intro h
    cases c with
    | true =>
        cases h
        exact ht
    | false =>
        cases h
        exact ht'
  have hcommands (send intro : Prop) [Decidable send] [Decidable intro] (payload : JsonObject)
      (reply : String) : OneText (if send then
        [buildSopCommand .telegramSendCaseCard s intent payload ∅]
      else if intro then settings.depositIntroCommands s reply else []) := by
    split
    · exact .of_no_text (by simp [buildSopCommand, command])
    · split
      · exact oneText_depositIntroCommands reply
      · exact .nil
  simp only at h
  refine hstates _ ?_ ?_ h
  · exact hcommands _ _ _ _
  · exact hcommands _ _ _ _

theorem oneText_runSop (hs : OneText s.commands) (h : settings.runSop s = .ok r) :
    OneText r.commands := by
  unfold runSop at h
  split at h
  · exact oneText_moneyMissingSop h
  · exact oneText_moneyMissingSop h
  · rw [← Except.ok.inj h]
    refine .of_no_text fun hmem => ?_
    rw [← NodeState.types, types_withdrawalBlockedSop] at hmem
    split at hmem
    · exact absurd hmem (by decide)
    · exact absurd hmem (by decide)
  · rw [← Except.ok.inj h]
    refine .of_no_text fun hmem => ?_
    exact absurd (types_pendingReplyLookupSop s _ hmem) (by decide)
  · rw [← Except.ok.inj h]
    exact hs

theorem oneText_handleWaitingBackend (h : settings.handleWaitingBackend s = .ok r) :
    OneText r.commands := by
  obtain ⟨plan, -, htypes⟩ := types_handleWaitingBackend h
  have hite {condition : Prop} [Decidable condition] {types other : List CommandType}
      (htypes : CommandType.livechatSendText ∉ types)
      (hother : CommandType.livechatSendText ∉ other) :
      CommandType.livechatSendText ∉ (if condition then types else other) := by
    split
    · exact htypes
    · exact hother
  have hsupplement : CommandType.livechatSendText ∉
      settings.supplementTypes s (settings.waitingMemory s plan) plan :=
    hite (by decide) (hite (by decide) (hite (by decide) (by decide)))
  refine .of_no_text ?_
  rw [← NodeState.types, htypes]
  exact hite (hite (by decide) (hite hsupplement (hite (by decide) (by decide)))) (by decide)

theorem oneText_llmSopNode {service : SlotService} (hs : OneText s.commands)
    (h : settings.llmSopNode service s = .ok r) : OneText r.commands := by
  unfold llmSopNode sopNode at h
  split at h
  · exact oneText_handleWaitingBackend h
  · refine oneText_runSop ?_ h
    rwa [(settings.withPlannedSlots_plans service s).commands]

end SopSettings

namespace GraphServices

variable {services : GraphServices} {s r routed : NodeState}

theorem oneText_routedState (hcommands : s.commands = []) (h : services.routedState s = .ok r) :
    OneText r.commands := by
  obtain ⟨routed, hrouted, h⟩ := bind_eq_ok.mp h
  cases h
  have hmenus := @plansMenus_beforeRouter services s hcommands
  rcases RouterSettings.plansTexts_llmIntentRouterNode hrouted with hkept | ⟨text?, htext⟩
  · refine .of_no_text fun hmem => ?_
    have hsame : routed.commands = (services.beforeRouter s).commands := hkept
    have htext : CommandType.livechatSendText ∈ routed.commands.map WorkflowCommand.type := hmem
    rw [hsame] at htext
    exact absurd (hmenus _ htext) (by decide)
  · have hone := OneText.text text?
    rw [← htext] at hone
    exact hone

theorem oneText_routeNode (hs : OneText s.commands) (h : services.routeNode s = .ok r) :
    OneText r.commands := by
  unfold routeNode at h
  split at h
  · cases h
    exact .nil
  · exact SopSettings.oneText_llmSopNode hs h
  · cases h
    exact .nil
  · cases h
    constructor
    · simp [humanHandoffNode, isTextCommand, SopSettings.command]
    · intro command hmem htext
      simp only [humanHandoffNode, NodeState.commands_withCommands, List.mem_cons,
        List.not_mem_nil, or_false] at hmem
      rcases hmem with rfl | rfl
      · simp [SopSettings.command, Dict.ofList, getKey_set, Json.isTrue]
      · simp [isTextCommand, SopSettings.command] at htext
  · cases h
    exact hs

/-! ### The planner -/

theorem filter_isTextCommand_withText (isTarget : WorkflowCommand → Bool) (text : Json)
    (commands : List WorkflowCommand) :
    ((withText isTarget text commands).filter isTextCommand).length =
      (commands.filter isTextCommand).length := by
  have hlength (commands : List WorkflowCommand) : (commands.filter isTextCommand).length =
      ((commands.map WorkflowCommand.type).filter (· = .livechatSendText)).length := by
    rw [List.filter_map, List.length_map]
    rfl
  rw [hlength, hlength, map_type_withText]

theorem mem_withText {isTarget : WorkflowCommand → Bool} {text : Json}
    {commands : List WorkflowCommand} {command : WorkflowCommand}
    (hmem : command ∈ withText isTarget text commands) : ∃ other ∈ commands,
      command.type = other.type ∧ getKey command.payload "final_reply_exempt" =
        getKey other.payload "final_reply_exempt" := by
  induction commands with
  | nil => cases hmem
  | cons first rest ih =>
      unfold withText at hmem
      split at hmem
      · rcases List.mem_cons.mp hmem with rfl | hrest
        · exact ⟨first, List.mem_cons_self, rfl, by simp [getKey_set]⟩
        · exact ⟨command, List.mem_cons_of_mem _ hrest, rfl, rfl⟩
      · rcases List.mem_cons.mp hmem with rfl | hrest
        · exact ⟨command, List.mem_cons_self, rfl, rfl⟩
        · obtain ⟨other, hother, hsame⟩ := ih hrest
          exact ⟨other, List.mem_cons_of_mem _ hother, hsame⟩

/-- The target of the text has it. -/
theorem exists_withText {isTarget : WorkflowCommand → Bool} (text : Json)
    (htarget : ∀ command, isTarget command = true → isTextCommand command = true)
    {commands : List WorkflowCommand} (hany : commands.any isTarget = true) :
    ∃ command ∈ withText isTarget text commands,
      isTextCommand command = true ∧ getKey command.payload "text" = text := by
  induction commands with
  | nil => cases hany
  | cons first rest ih =>
      unfold withText
      split
      · rename_i hfirst
        exact ⟨_, List.mem_cons_self, htarget first hfirst, by simp [getKey_set]⟩
      · rename_i hfirst
        rw [List.any_cons, Bool.or_eq_true] at hany
        obtain ⟨command, hmem, hcommand⟩ := ih (hany.resolve_left hfirst)
        exact ⟨command, List.mem_cons_of_mem _ hmem, hcommand⟩

theorem oneText_withText {isTarget : WorkflowCommand → Bool} {text : Json}
    {commands : List WorkflowCommand} (h : OneText commands) :
    OneText (withText isTarget text commands) := by
  constructor
  · rw [filter_isTextCommand_withText]
    exact h.single
  · intro command hmem htext
    obtain ⟨other, hother, htype, hexempt⟩ := mem_withText hmem
    rw [hexempt]
    exact h.composed other hother (by rwa [isTextCommand, ← htype])

theorem isTextCommand_of_isTextWith {flag : String} {command : WorkflowCommand}
    (h : isTextWith flag command = true) : isTextCommand command = true :=
  (Bool.and_eq_true _ _ ▸ h).1

theorem isTextCommand_of_isRewritableText {command : WorkflowCommand}
    (h : isRewritableText command = true) : isTextCommand command = true :=
  (Bool.and_eq_true _ _ ▸ h).1

/-- One of the commands is the text that the planner has. -/
theorem exists_plannedCommands {text : Json} (htext : text.truthy = true)
    (commands : List WorkflowCommand) : ∃ command ∈ plannedCommands commands text,
      isTextCommand command = true ∧ getKey command.payload "text" = text := by
  unfold plannedCommands
  rw [if_neg (by simp [htext])]
  split
  · rename_i hany
    exact exists_withText text (fun _ => isTextCommand_of_isTextWith) hany
  · split
    · rename_i hany
      exact exists_withText text (fun _ => isTextCommand_of_isRewritableText) hany
    · refine ⟨_, List.mem_cons_self, rfl, ?_⟩
      simp [SopSettings.command, Dict.ofList, getKey_set]

theorem oneText_plannedCommands {commands : List WorkflowCommand} (h : OneText commands)
    (text : Json) : OneText (plannedCommands commands text) := by
  unfold plannedCommands
  split
  · exact h
  · split
    · exact oneText_withText h
    · split
      · exact oneText_withText h
      · rename_i hnone
        have hnotext : commands.filter isTextCommand = [] := by
          rw [List.filter_eq_nil_iff]
          intro command hmem htext
          refine hnone (List.any_eq_true.mpr ⟨command, hmem, ?_⟩)
          rw [isRewritableText, h.composed command hmem htext, Bool.not_false, Bool.and_true]
          exact htext
        constructor
        · rw [List.filter_cons]
          simp [hnotext, isTextCommand, SopSettings.command]
        · intro command hmem htext
          rcases List.mem_cons.mp hmem with rfl | hrest
          · simp [SopSettings.command, Dict.ofList, getKey_set, Json.isTrue]
          · exact h.composed command hrest htext

/-- A run plans at most one text. -/
theorem oneText_handledState {result : NodeState} (hrouted : OneText routed.commands)
    (h : services.handledState routed = .ok result) : OneText result.commands := by
  obtain ⟨handled, hhandled, h⟩ := bind_eq_ok.mp h
  rw [← Except.ok.inj h]
  have hreplied := @commands_finalReplyNode services handled.declared
  refine oneText_plannedCommands ?_ _
  have hone := oneText_routeNode hrouted hhandled
  have hsame : (services.finalReplyNode handled.declared).declared.commands = handled.commands :=
    hreplied
  rwa [hsame]

/-- Where no final text was composed, a command has the text of the response. -/
theorem exists_text_handledState {result : NodeState}
    (h : services.handledState routed = .ok result)
    (hfinal : result.get "final_response_text" = .null)
    (htext : (result.get "response_text").truthy = true) : ∃ command ∈ result.commands,
      isTextCommand command = true ∧
        getKey command.payload "text" = result.get "response_text" := by
  obtain ⟨handled, -, h⟩ := bind_eq_ok.mp h
  have hget (key : String) (hkey : graphStateKeys.contains key = true) : result.get key =
      (services.finalReplyNode handled.declared).declared.get key := by
    rw [← Except.ok.inj h, commandPlannerNode, NodeState.get_declared, if_pos hkey,
      NodeState.get_withCommands]
  have hcommands : result.commands = plannedCommands
      (services.finalReplyNode handled.declared).declared.commands
      (result.get "response_text") := by
    rw [hget _ (by decide)] at hfinal ⊢
    rw [← Except.ok.inj h, commandPlannerNode, hfinal]
    rfl
  rw [hcommands]
  exact exists_plannedCommands htext _

end GraphServices

namespace ReplyServices

open NodeState

variable {services : ReplyServices} {Returned : String → Prop} {input : GraphInput}
  {s state : NodeState} {rows : List OutboundMessage}

/-! ## Valid replies -/

/-- The reply has a text of the services, which passes the checks of a reply. -/
structure ValidReply (services : ReplyServices) (Returned : String → Prop) (reply : ComposedReply) :
    Prop where
  text : ∃ text, reply.finalText = .str text ∧ strip text ≠ "" ∧ Returned (strip text) ∧
    claimsBackendQuery services.rt text = false
  status : (getKey reply.result.dictOrEmpty "status").eqText "fallback" = false

/-- The services return valid texts, which are in the script of their language. -/
structure ValidServices (services : ReplyServices) (Returned : String → Prop) : Prop where
  enabled : services.finalReplyEnabled = true
  compose : ∃ compose, services.compose = some compose ∧
    ∀ s, services.ValidReply Returned (compose s)
  composeReply : ∃ compose, services.composeReply = some compose ∧
    ∀ s, services.ValidReply Returned (compose s)
  preview : ∀ s reply, services.preview s = some reply → services.ValidReply Returned reply
  adapted : ∀ text language, Returned text →
    strip (services.adaptChineseScript text language) = text

/-- The state has a valid reply. -/
def Replied (services : ReplyServices) (Returned : String → Prop) (s : NodeState) : Prop :=
  ∃ reply, services.ValidReply Returned reply ∧ s.get "final_response_text" = reply.finalText ∧
    s.get "final_reply_result" = reply.result

/-- The final reply was left to the step that streams it. -/
def Skipped (s : NodeState) : Prop :=
  s.get "final_response_text" = .null ∧
    (getKey (s.get "final_reply_result").dictOrEmpty "status").eqText "fallback" = false

theorem replied_withComposed {reply : ComposedReply} (h : services.ValidReply Returned reply)
    (s : NodeState) : services.Replied Returned (withComposed s reply) :=
  ⟨reply, h, by simp [withComposed], by simp [withComposed]⟩

theorem Replied.no_failure (h : services.Replied Returned s) :
    services.shouldHandoffForFailure s = false := by
  obtain ⟨reply, hvalid, -, hresult⟩ := h
  rw [shouldHandoffForFailure, isTerminalFailure, hresult, hvalid.status, Bool.false_and,
    Bool.and_false]

theorem Skipped.no_failure (h : Skipped s) : services.shouldHandoffForFailure s = false := by
  rw [shouldHandoffForFailure, isTerminalFailure, h.2, Bool.false_and, Bool.and_false]

/-- The gateway composes the reply of a state with a text. -/
theorem replied_runFinalReply (hvalid : services.ValidServices Returned)
    (htext : (s.get "response_text").truthy = true) :
    services.Replied Returned (services.runFinalReply s) ∧
      (services.runFinalReply s).commands = s.commands := by
  obtain ⟨compose, hcompose, hreply⟩ := hvalid.composeReply
  obtain ⟨text, hfinal, -, -, hclaims⟩ := (hreply s).text
  have hguard : services.guardFinalReplyState s (compose s) = withComposed s (compose s) := by
    have hsame : claimsBackendQuery services.rt (strip text) = false := by
      rwa [claimsBackendQuery, strip_strip]
    unfold guardFinalReplyState
    rw [hfinal, normalizeText_str]
    simp [hsame]
  have hreplied := @replied_withComposed services _ _ (hreply s) s
  have hkept : services.runFinalReply s = withComposed s (compose s) := by
    rw [runFinalReply, htext, hcompose]
    simp only [Bool.not_true, Bool.false_eq_true, if_false]
    rw [hguard, applyFinalReplyFailureHandoff, hreplied.no_failure]
    rfl
  rw [hkept]
  exact ⟨hreplied, rfl⟩

/-- The graph composes the reply, unless it leaves it to the step that streams it. -/
theorem replied_handledState {routed result : NodeState} (hvalid : services.ValidServices Returned)
    (h : services.handledState routed = .ok result) :
    if services.streamingEnabled && (result.get "channel_type").eqText "livechat" then
      Skipped result
    else services.Replied Returned result := by
  obtain ⟨handled, -, h⟩ := bind_eq_ok.mp h
  obtain ⟨compose, hcompose, hreply⟩ := hvalid.compose
  have hget (key : String) (hkey : graphStateKeys.contains key = true) :
      result.get key = (services.finalReplyNode handled.declared).get key := by
    rw [← Except.ok.inj h, GraphServices.commandPlannerNode, get_declared, if_pos hkey,
      get_withCommands, get_declared, if_pos hkey]
  have hchannel : result.get "channel_type" = handled.declared.get "channel_type" := by
    rw [hget _ (by decide)]
    exact GraphServices.finalReplyNode_setsOnly _ _ (by decide)
  rw [hchannel]
  split
  · rename_i hstreaming
    constructor
    · rw [hget _ (by decide), GraphServices.finalReplyNode, if_pos hstreaming]
      simp
    · rw [hget _ (by decide), GraphServices.finalReplyNode, if_pos hstreaming]
      simp [Json.dictOrEmpty, Dict.ofList, getKey_set, Json.eqText, Json.str?]
  · rename_i hdirect
    refine ⟨compose handled.declared, hreply _, ?_, ?_⟩
    · rw [hget _ (by decide), GraphServices.finalReplyNode, if_neg hdirect, hcompose]
      simp
    · rw [hget _ (by decide), GraphServices.finalReplyNode, if_neg hdirect, hcompose]
      simp

/-! ## Rows -/

theorem rowText_withRowText (row : OutboundMessage) (text : String) :
    services.rowText (withRowText row text) = strip text := by
  rw [rowText, withRowText, getKey_set, if_pos rfl, normalizeText_str]

/-- The text of the row of a text. -/
theorem rowText_buildCommandOutbox {chatId threadId : Option String} {conversationId : String}
    {inboundEventId : Nat} {command : WorkflowCommand} {row : OutboundMessage}
    (htype : isTextCommand command = true)
    (h : buildCommandOutbox services.rt chatId threadId conversationId inboundEventId command =
      .ok row) :
    services.rowText row = normalizeText services.rt (getKey command.payload "text") ∧
      row.messageType = "text" := by
  have hstrip (payload : JsonObject) : getKey (stripInternalPayloadFields payload) "text" =
      getKey payload "text" := by
    unfold stripInternalPayloadFields getKey
    rw [Dict.get?_eraseAll, if_neg (by decide)]
  have hmerge (payload : JsonObject) : getKey ((Dict.ofList [("type", Json.str "message")]).merge
      payload) "text" = getKey payload "text" := by
    have hnone : (Dict.ofList [("type", Json.str "message")]).get? "text" = none := rfl
    unfold getKey
    rw [Dict.get?_merge, hnone, Option.or_none]
  rw [isTextCommand, decide_eq_true_eq] at htype
  unfold buildCommandOutbox at h
  rw [htype] at h
  cases h
  rw [rowText, (same_withCommandMetadata _ _).1, (same_withCommandMetadata _ _).2, hmerge, hstrip,
    getKey_set, if_pos rfl, normalizeText_str]
  exact ⟨rfl, rfl⟩

/-- What the row of a text says: the final text of the state, where it has one. -/
theorem text_commandWithFinalText {command : WorkflowCommand} {text : String}
    (hone : OneText s.commands) (hmem : command ∈ s.commands)
    (htext : isTextCommand command = true) (hfinal : s.get "final_response_text" = .str text)
    (hne : text ≠ "") (hclaims : claimsBackendQuery services.rt text = false) :
    getKey (services.commandWithFinalText s command).payload "text" = .str text := by
  have htruthy : (Json.str text).truthy = true := by simpa [Json.truthy] using hne
  have htextOr : (Json.str text).textOrEmpty services.rt = text := by
    rw [Json.textOrEmpty, Json.orElse, if_pos htruthy]
    rfl
  have htype : command.type = .livechatSendText := by simpa [isTextCommand] using htext
  have htarget : (s.commands.any (GraphServices.isTextWith "final_reply_target") &&
      !(getKey command.payload "final_reply_target").isTrue) = false := by
    rw [Bool.and_eq_false_iff]
    by_cases hany : s.commands.any (GraphServices.isTextWith "final_reply_target") = true
    · obtain ⟨other, hother, htarget⟩ := List.any_eq_true.mp hany
      have hsame := hone.eq hmem hother htext (GraphServices.isTextCommand_of_isTextWith htarget)
      rw [GraphServices.isTextWith, Bool.and_eq_true] at htarget
      exact .inr (by rw [hsame, htarget.2]; rfl)
    · exact .inl (by simpa using hany)
  unfold commandWithFinalText
  simp only [hfinal]
  rw [htextOr, hclaims, htarget, hone.composed command hmem htext, htruthy, htype]
  simp [getKey_set]

/-- A text that no final text replaces is the row's own. -/
theorem commandWithFinalText_of_skipped (hskipped : Skipped s) (command : WorkflowCommand) :
    services.commandWithFinalText s command = command := by
  unfold commandWithFinalText
  simp [hskipped.1, Json.truthy]

/-! ## The texts of an event -/

/-- Every text of the event that is not exempt from the final reply was returned by the
services. -/
def TextsReturned (services : ReplyServices) (Returned : String → Prop) (input : GraphInput)
    (inboundEventId : Nat) (state : NodeState) (rows : List OutboundMessage) : Prop :=
  if services.deliversFaq state then
    ∀ row ∈ rows, services.isTextRow row = true → Returned (services.rowText row)
  else
    ∀ command ∈ state.commands, GraphServices.isRewritableText command = true → ∀ row ∈ rows,
      buildCommandOutbox services.rt input.event.chatId input.event.threadId
        input.conversation.conversationId inboundEventId
        (services.commandWithFinalText state command) = .ok row →
      services.isTextRow row = true → Returned (services.rowText row)

/-- The reply of the event is composed: it is not streamed, or the gateway answers it itself, or
its rows are those of the knowledge base. -/
def Composes (services : ReplyServices) (input : GraphInput) (state : NodeState) : Prop :=
  services.streamingEnabled = false ∨ services.buildPreGraphState input ≠ .ok none ∨
    services.deliversFaq state = true

theorem returned_finalizeFaqTextBlock (hvalid : services.ValidServices Returned) (s : NodeState)
    (text : String) : Returned (services.finalizeFaqTextBlock s text) ∧
      strip (services.finalizeFaqTextBlock s text) = services.finalizeFaqTextBlock s text := by
  obtain ⟨compose, hcompose, hreply⟩ := hvalid.composeReply
  unfold finalizeFaqTextBlock
  simp only [hcompose, hvalid.enabled, Bool.not_true, Bool.false_eq_true, if_false]
  rw [(hreply _).status]
  obtain ⟨final, hfinal, hne, hreturned, -⟩ := (hreply ((((s.set "response_text"
    (.str (strip (services.adaptChineseScript text (services.replyLanguage s))))).set
    "response_text_fallback"
    (.str (strip (services.adaptChineseScript text (services.replyLanguage s))))).set
    "final_response_text" .null).set "final_reply_result" .null)).text
  simp only [Bool.false_eq_true, if_false, hfinal, normalizeText_str, textOr, hne, adaptedOr,
    hvalid.adapted _ _ hreturned, strip_strip]
  exact ⟨hreturned, trivial⟩

theorem returned_finalizeFaqTextRows (hvalid : services.ValidServices Returned)
    (hs : services.Replied Returned s ∨ Skipped s) :
    ∀ row ∈ services.finalizeFaqTextRows s rows,
      services.isTextRow row = true → Returned (services.rowText row) := by
  have hmapped (f : OutboundMessage → String) (hf : ∀ row, Returned (strip (f row))) :
      ∀ row ∈ rows.map fun row => if services.isTextRow row then withRowText row (f row) else row,
        services.isTextRow row = true → Returned (services.rowText row) := by
    intro row hmem htext
    obtain ⟨before, -, rfl⟩ := List.mem_map.mp hmem
    by_cases hbefore : services.isTextRow before = true
    · rw [if_pos hbefore, rowText_withRowText]
      exact hf before
    · rw [if_neg hbefore] at htext
      exact absurd htext hbefore
  have hblock (row : OutboundMessage) :
      Returned (strip (services.finalizeFaqTextBlock s (services.rowText row))) := by
    obtain ⟨hreturned, hstrip⟩ := returned_finalizeFaqTextBlock hvalid s (services.rowText row)
    rwa [hstrip]
  unfold finalizeFaqTextRows
  simp only
  rcases hs with ⟨reply, hreply, hfinal, hresult⟩ | hskipped
  · obtain ⟨text, hsame, hne, hreturned, -⟩ := hreply.text
    rw [hresult, hreply.status, hfinal, hsame, normalizeText_str]
    simp only [Bool.false_eq_true, if_false]
    split
    · refine hmapped (fun _ => services.adaptedOr (strip text) (services.replyLanguage s)
        (strip text)) fun row => ?_
      rw [adaptedOr, hvalid.adapted _ _ hreturned, textOr, if_neg hne, strip_strip]
      exact hreturned
    · exact hmapped _ hblock
  · have hempty : normalizeText services.rt .null = "" := rfl
    rw [hskipped.2, hskipped.1, hempty]
    simp only [Bool.false_eq_true, if_false, ne_eq, not_true_eq_false, false_and]
    exact hmapped _ hblock

/-! ## The gateway -/

/-- The state has at most one text, and no reply. -/
structure Unreplied (s : NodeState) : Prop where
  texts : OneText s.commands
  result : s.get "final_reply_result" = .null

theorem Unreplied.set (h : Unreplied s) {key : String} (value : Json)
    (hkey : key ≠ "final_reply_result") : Unreplied (s.set key value) :=
  ⟨h.texts, by rw [get_set, if_neg (Ne.symm hkey), h.result]⟩

theorem Unreplied.withCommands (h : Unreplied s) {commands : List WorkflowCommand}
    (hcommands : OneText commands) : Unreplied (s.withCommands commands) :=
  ⟨hcommands, h.result⟩

theorem unreplied_basePreGraphState (input : GraphInput) (memory : JsonObject)
    (language : String) : Unreplied (services.basePreGraphState input memory language) := by
  refine ⟨.nil, ?_⟩
  simp [basePreGraphState, Dict.ofList, NodeState.get, getKey_set]

theorem unreplied_menuState (input : GraphInput) (menu : JsonObject) (key source reason : String) :
    Unreplied (services.menuState input menu key source reason) := by
  have hbase := @unreplied_basePreGraphState services input
    ((input.conversation.slotMemory.set "livechat_menu" (.obj menu)).set "last_reply_language"
      (.str (services.fastMenuLanguage (input.conversation.slotMemory.set "livechat_menu"
        (.obj menu)))))
    (services.fastMenuLanguage (input.conversation.slotMemory.set "livechat_menu" (.obj menu)))
  refine (((hbase.set _ (by decide)).set _ (by decide)).set _ (by decide)).withCommands ?_
  exact .of_no_text (by simp [SopSettings.command])

theorem unreplied_acknowledgedHandoff (h : Unreplied s) (reason text : String) :
    Unreplied (acknowledgedHandoff s reason text) := by
  have hstaged := (((h.set (.str "HANDOFF_REQUESTED") (by decide : "status" ≠ _)).set
    (.str "human_handoff") (by decide : "route" ≠ _)).set (.str "human_handoff")
    (by decide : "active_workflow" ≠ _)).set (.str "handoff_requested")
    (by decide : "workflow_stage" ≠ _)
  have hreply := ((hstaged.set (.str text) (by decide : "response_text" ≠ _)).set (.str text)
    (by decide : "response_text_fallback" ≠ _))
  refine (hreply.withCommands OneText.nil).withCommands ⟨?_, fun command hmem htext => ?_⟩
  · simp [isTextCommand, SopSettings.command]
  · simp only [List.mem_cons, List.not_mem_nil, or_false] at hmem
    rcases hmem with rfl | rfl
    · simp [SopSettings.command, Dict.ofList, getKey_set, Json.isTrue]
    · simp [isTextCommand, SopSettings.command] at htext

theorem unreplied_withFastPathTextCommand (h : Unreplied s) :
    Unreplied (services.withFastPathTextCommand s) := by
  unfold withFastPathTextCommand
  simp only
  split
  · exact h
  · rename_i hnone
    rw [Bool.or_eq_true, not_or] at hnone
    have hnotext : s.commands.filter isTextCommand = [] := by
      rw [List.filter_eq_nil_iff]
      intro command hmem htext
      have htype : command.type = .livechatSendText := by simpa [isTextCommand] using htext
      refine hnone.1 (List.any_eq_true.mpr ⟨command, hmem, ?_⟩)
      rw [htype]
      rfl
    refine h.withCommands ⟨?_, fun command hmem htext => ?_⟩
    · rw [List.filter_append, hnotext]
      simp [isTextCommand, SopSettings.command]
    · rcases List.mem_append.mp hmem with hold | hnew
      · exact h.texts.composed command hold htext
      · obtain rfl := List.mem_singleton.mp hnew
        simp [SopSettings.command, Dict.ofList, getKey_set, Json.isTrue]

theorem unreplied_buildBusinessButtonFaqState (h : Unreplied s) :
    Unreplied (services.buildBusinessButtonFaqState s) := by
  have hcontext : Unreplied (s.set "rag_context" (services.ragContext s)) := h.set _ (by decide)
  unfold buildBusinessButtonFaqState
  simp only
  refine Unreplied.withCommands (((Unreplied.set ?_ _ (by decide)).set _ (by decide)).set _
    (by decide)) .nil
  split
  · exact (hcontext.set _ (by decide)).set _ (by decide)
  · split
    · exact (hcontext.set _ (by decide)).set _ (by decide)
    · exact hcontext

theorem unreplied_buildBusinessButtonState {buttonId : String}
    {target : String × String × Option String} {pre : NodeState}
    (h : services.buildBusinessButtonState input buttonId target = .ok pre) : Unreplied pre := by
  have hbase := @unreplied_basePreGraphState services input
  unfold buildBusinessButtonState at h
  simp only at h
  split at h
  · cases h
    exact ((unreplied_acknowledgedHandoff (hbase _ _) _ _).set _ (by decide)).set _ (by decide)
  · have hrouted (memory : JsonObject) (language : String) (source result : Json) :
        Unreplied ((((services.basePreGraphState input memory language).set "route"
          (.str target.2.1)).set "route_source" source).set "intent_result" result) :=
      (((hbase memory language).set _ (by decide)).set _ (by decide)).set _ (by decide)
    split at h
    · obtain ⟨handled, hhandled, rfl⟩ := map_eq_ok.mp h
      refine unreplied_withFastPathTextCommand ⟨SopSettings.oneText_runSop .nil hhandled, ?_⟩
      rw [(SopSettings.runSop_edits hhandled).handles _ (by decide)]
      exact (hrouted _ _ _ _).result
    · split at h
      · cases h
        exact unreplied_buildBusinessButtonFaqState (hrouted _ _ _ _)
      · cases h
        exact hrouted _ _ _ _

/-- The state of a button has at most one text, and no reply. -/
theorem unreplied_buildPreGraphState {pre : NodeState}
    (h : services.buildPreGraphState input = .ok (some pre)) : Unreplied pre := by
  unfold buildPreGraphState at h
  split at h
  · cases h
    exact unreplied_menuState _ _ _ _ _
  · split at h
    · cases h
    · split at h
      · cases h
      · split at h
        · cases h
          exact unreplied_menuState _ _ _ _ _
        · split at h
          · obtain ⟨state, hstate, hsome⟩ := map_eq_ok.mp h
            cases hsome
            exact unreplied_buildBusinessButtonState hstate
          · cases h

theorem truthy_of_normalizeText {rt : Runtime} {value : Json} (h : normalizeText rt value ≠ "") :
    value.truthy = true := by
  by_contra hfalse
  refine h ?_
  rw [normalizeText, Json.textOrEmpty, Json.orElse, if_neg hfalse]
  rfl

theorem replied_of_button {pre : NodeState} (hvalid : services.ValidServices Returned)
    (hpre : services.buildPreGraphState input = .ok (some pre))
    (hstate : services.applyFinalReplyFailureHandoff (services.runFinalReply pre) = state)
    (htext : normalizeText services.rt (state.get "response_text") ≠ "") :
    services.Replied Returned state ∧ OneText state.commands := by
  obtain ⟨hone, hnone⟩ := unreplied_buildPreGraphState hpre
  by_cases htruthy : (pre.get "response_text").truthy = true
  · obtain ⟨hreplied, hcommands⟩ := replied_runFinalReply hvalid htruthy
    rw [applyFinalReplyFailureHandoff, hreplied.no_failure] at hstate
    subst hstate
    exact ⟨hreplied, hcommands ▸ hone⟩
  · have hkept : services.runFinalReply pre = pre := by
      rw [runFinalReply, if_pos (by simpa using htruthy)]
    have hfails : services.shouldHandoffForFailure pre = false := by
      rw [shouldHandoffForFailure, isTerminalFailure, hnone]
      exact Bool.and_false _
    rw [hkept, applyFinalReplyFailureHandoff, hfails] at hstate
    subst hstate
    exact absurd (truthy_of_normalizeText htext) htruthy

/-- What the graph leaves: a reply, or with streaming a skipped one. -/
theorem replied_of_graph {routed result : NodeState} (hvalid : services.ValidServices Returned)
    (hrouted : services.routedState (input.buildGraphState services.rt) = .ok routed)
    (hhandled : services.handledState routed = .ok result)
    (hstate : services.applyFinalReplyFailureHandoff (services.withPreview result) = state)
    (hlive : (state.get "channel_type").eqText "livechat" = true) :
    OneText state.commands ∧ if services.streamingEnabled then Skipped state ∧ state = result
      else services.Replied Returned state := by
  have hone : OneText (services.withPreview result).commands := by
    rw [commands_withPreview]
    exact GraphServices.oneText_handledState
      (GraphServices.oneText_routedState rfl hrouted) hhandled
  have hreplied := replied_handledState hvalid hhandled
  by_cases hstreaming : services.streamingEnabled = true
  · have hkept : services.withPreview result = result := by
      rw [withPreview, if_pos hstreaming]
    rw [hkept] at hone hstate
    by_cases hskips : (result.get "channel_type").eqText "livechat" = true
    · rw [hstreaming, hskips] at hreplied
      have hskipped : Skipped result := hreplied
      rw [applyFinalReplyFailureHandoff, hskipped.no_failure] at hstate
      subst hstate
      rw [if_pos hstreaming]
      exact ⟨hone, hskipped, rfl⟩
    · rw [hstreaming, (Bool.not_eq_true _).mp hskips] at hreplied
      have hdirect : services.Replied Returned result := hreplied
      rw [applyFinalReplyFailureHandoff, hdirect.no_failure] at hstate
      subst hstate
      exact absurd hlive hskips
  · have hoff : services.streamingEnabled = false := by simpa using hstreaming
    rw [hoff, Bool.false_and] at hreplied
    have hpreview : services.Replied Returned (services.withPreview result) := by
      unfold withPreview
      rw [hoff]
      cases hreply : services.preview result with
      | none => exact hreplied
      | some reply => exact replied_withComposed (hvalid.preview _ _ hreply) _
    rw [applyFinalReplyFailureHandoff, hpreview.no_failure] at hstate
    subst hstate
    rw [if_neg hstreaming]
    exact ⟨hone, hpreview⟩

/-- The rows of the knowledge base. -/
theorem rows_of_faq {inboundEventId : Nat} (hfaq : services.deliversFaq s = true)
    (h : services.buildOutboundMessages input inboundEventId s = .ok rows) :
    rows = services.finalizeFaqTextRows s (services.faqRows s) := by
  rw [deliversFaq, Bool.and_eq_true, Bool.and_eq_true, Bool.not_eq_true'] at hfaq
  obtain ⟨⟨hroute, hcontext⟩, hrows⟩ := hfaq
  have hhuman : (s.get "route").eqText "human_handoff" = false := by
    rw [← Bool.not_eq_true, Json.eqText_iff, Json.eqText_iff.mp hroute]
    simp
  unfold buildOutboundMessages at h
  rw [hhuman, hroute, hcontext] at h
  simp only [Bool.false_and, Bool.false_eq_true, if_false, Bool.and_self, if_true, hrows] at h
  exact (Except.ok.inj h).symm

theorem type_commandWithFinalText (s : NodeState) (command : WorkflowCommand) :
    isTextCommand (services.commandWithFinalText s command) = isTextCommand command := by
  unfold commandWithFinalText
  simp only
  split
  · rfl
  · split
    · rfl
    · split
      · rfl
      · split
        · rfl
        · rfl

/-- A reply is in every text of the rows. -/
theorem textsReturned_of_replied {inboundEventId : Nat} (hvalid : services.ValidServices Returned)
    (hreplied : services.Replied Returned state) (hone : OneText state.commands)
    (hrows : services.buildOutboundMessages input inboundEventId state = .ok rows) :
    services.TextsReturned Returned input inboundEventId state rows := by
  unfold TextsReturned
  split
  · rename_i hfaq
    rw [rows_of_faq hfaq hrows]
    exact returned_finalizeFaqTextRows hvalid (.inl hreplied)
  · obtain ⟨reply, hreply, hfinal, -⟩ := hreplied
    obtain ⟨text, hsame, hne, hreturned, hclaims⟩ := hreply.text
    have hnonempty : text ≠ "" := by
      rintro rfl
      exact hne rfl
    intro command hmem hrewritable row _ hbuild _
    have htext := GraphServices.isTextCommand_of_isRewritableText hrewritable
    rw [(rowText_buildCommandOutbox ((type_commandWithFinalText _ _).trans htext) hbuild).1,
      text_commandWithFinalText hone hmem htext (hfinal.trans hsame) hnonempty hclaims,
      normalizeText_str]
    exact hreturned

/-- The text of a response that nobody composed is in a row. -/
theorem returned_of_skipped {inboundEventId : Nat} {routed : NodeState}
    (hhandled : services.handledState routed = .ok state) (hskipped : Skipped state)
    (hone : OneText state.commands) (hfaq : services.deliversFaq state = false)
    (htext : normalizeText services.rt (state.get "response_text") ≠ "")
    (hrows : services.buildOutboundMessages input inboundEventId state = .ok rows)
    (hreturned : services.TextsReturned Returned input inboundEventId state rows) :
    Returned (normalizeText services.rt (state.get "response_text")) := by
  have hhuman (hroute : state.get "route" = .str "human_handoff") :
      hasHandoffAckCommand state = true := by
    rw [(GraphServices.handledState_sameRoute hhandled).route] at hroute
    obtain ⟨handled, hnode, -, -, hack⟩ := GraphServices.acknowledges_handledState hhandled
    rw [GraphServices.routeNode, hroute] at hnode
    rw [hack, ← Except.ok.inj hnode]
    rfl
  have hcommands := rows_of_commands hfaq hhuman hrows
  obtain ⟨command, hmem, hcommand, hsame⟩ := GraphServices.exists_text_handledState hhandled
    hskipped.1 (truthy_of_normalizeText htext)
  have htype : command.type = .livechatSendText := by simpa [isTextCommand] using hcommand
  have hrewritable : GraphServices.isRewritableText command = true := by
    rw [GraphServices.isRewritableText, hone.composed command hmem hcommand, htype]
    rfl
  have houtbound : outboundTypes.contains command.type = true := by
    rw [htype]
    rfl
  obtain ⟨row, hrow, hbuild⟩ := mapM_ok_of_mem hcommands (List.mem_filter.mpr ⟨hmem, houtbound⟩)
  have hbuilt := hbuild
  rw [commandWithFinalText_of_skipped hskipped] at hbuilt
  obtain ⟨hrowText, hmessage⟩ := rowText_buildCommandOutbox hcommand hbuilt
  rw [hsame] at hrowText
  have hisText : services.isTextRow row = true := by
    rw [isTextRow, hmessage, hrowText]
    simpa using htext
  rw [TextsReturned, if_neg (by simp [hfaq])] at hreturned
  rw [← hrowText]
  exact hreturned command hmem hrewritable row hrow hbuild hisText

/-- Services that answer every reply with one text. -/
def composing (streamingEnabled : Bool) : ReplyServices :=
  let reply : ComposedReply := ⟨.null, .str "listo", .obj (.ofList [("status", .str "accepted")])⟩
  { plain with
    compose := some fun _ => reply
    composeReply := some fun _ => reply
    streamReply := some fun _ => some reply
    finalReplyEnabled := true
    streamingEnabled := streamingEnabled }

theorem validServices_composing (streamingEnabled : Bool) :
    (composing streamingEnabled).ValidServices (· = "listo") := by
  have hreply : (composing streamingEnabled).ValidReply (· = "listo")
      ⟨.null, .str "listo", .obj (.ofList [("status", .str "accepted")])⟩ := by
    refine ⟨⟨"listo", rfl, ?_, ?_, ?_⟩, ?_⟩
    · decide +kernel
    · decide +kernel
    · cases streamingEnabled <;> decide +kernel
    · decide +kernel
  constructor
  · rfl
  · exact ⟨_, rfl, fun _ => hreply⟩
  · exact ⟨_, rfl, fun _ => hreply⟩
  · intro s reply hnone
    cases hnone
  · rintro text language rfl
    have hstrip : strip "listo" = "listo" := by decide +kernel
    exact hstrip

/-- The customer asks for a human. -/
def humanQuestion : GraphInput := .plain "quiero un agente humano" none none ∅

/-- A reply with a text, of a LiveChat conversation. -/
def isLiveReply (services : ReplyServices) (s : NodeState) : Bool :=
  (s.get "channel_type").eqText "livechat" &&
    decide (normalizeText services.rt (s.get "response_text") ≠ "")

end ReplyServices

end AiCustomerService
