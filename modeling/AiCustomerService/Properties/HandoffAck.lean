import AiCustomerService.Graph.CommandTypes
import AiCustomerService.Services.GatewayReply

/-!
# The acknowledgement of a handoff

The command of a handoff waits for a text that acknowledges it.  The node of the graph, the buttons
and the failure of a reply plan both together; the handler of a waiting customer plans the command
alone, and its reply becomes a text that acknowledges nothing.
-/

namespace AiCustomerService

open Support

/-- The command becomes a row that acknowledges a handoff. -/
def WorkflowCommand.acknowledges (command : WorkflowCommand) : Bool :=
  ReplyServices.outboundTypes.contains command.type &&
    (getKey command.payload "handoff_ack").isTrue

/-- The row acknowledges a handoff. -/
def OutboundMessage.acknowledges (row : OutboundMessage) : Bool :=
  (getKey row.payloadJson "handoff_ack").isTrue

/-- A command of the state acknowledges a handoff. -/
def NodeState.acknowledges (s : NodeState) : Bool := s.commands.any WorkflowCommand.acknowledges

/-! ## Rows -/

theorem same_withCommandMetadata (row : OutboundMessage) (command : WorkflowCommand) :
    (withCommandMetadata row command).payloadJson = row.payloadJson ∧
      (withCommandMetadata row command).messageType = row.messageType := by
  unfold withCommandMetadata
  cases command.blockIndex with
  | none =>
      by_cases hkey : hasText command.dedupKey = true
      · simp [hkey]
      · simp [hkey]
  | some blockIndex =>
      by_cases hkey : hasText command.dedupKey = true
      · simp [hkey]
      · by_cases hrow : hasText row.dedupKey = true
        · simp [hkey, hrow]
        · simp [hkey, hrow]

/-- The row of a command has its acknowledgement. -/
theorem acknowledges_buildCommandOutbox {rt : Runtime} {chatId threadId : Option String}
    {conversationId : String} {inboundEventId : Nat} {command : WorkflowCommand}
    {row : OutboundMessage}
    (h : buildCommandOutbox rt chatId threadId conversationId inboundEventId command = .ok row) :
    row.acknowledges = (getKey command.payload "handoff_ack").isTrue := by
  have hstrip (payload : JsonObject) : getKey (stripInternalPayloadFields payload) "handoff_ack" =
      getKey payload "handoff_ack" := by
    unfold stripInternalPayloadFields getKey
    rw [Dict.get?_eraseAll, if_neg (by decide)]
  unfold OutboundMessage.acknowledges
  unfold buildCommandOutbox at h
  simp only at h
  split at h
  · cases h
    have hmerge (payload : JsonObject) : getKey ((Dict.ofList [("type", Json.str "message")]).merge
        payload) "handoff_ack" = getKey payload "handoff_ack" := by
      have htype : (Dict.ofList [("type", Json.str "message")]).get? "handoff_ack" = none := rfl
      unfold getKey
      rw [Dict.get?_merge, htype, Option.or_none]
    rw [(same_withCommandMetadata _ _).1, hmerge, hstrip, getKey_set, if_neg (by decide)]
  · cases h
    rw [(same_withCommandMetadata _ _).1, hstrip, getKey_set, if_neg (by decide), getKey_set,
      if_neg (by decide), getKey_set, if_neg (by decide), getKey_set, if_neg (by decide)]
  · cases h
    rw [(same_withCommandMetadata _ _).1, hstrip, getKey_set, if_neg (by decide)]
  · cases h

namespace ReplyServices

variable {services : ReplyServices} {input : GraphInput} {s r state : NodeState}
  {rows : List OutboundMessage}

theorem payload_commandWithFinalText (s : NodeState) (command : WorkflowCommand) :
    getKey (services.commandWithFinalText s command).payload "handoff_ack" =
      getKey command.payload "handoff_ack" := by
  unfold commandWithFinalText
  simp only
  split
  · rfl
  · split
    · rfl
    · split
      · rfl
      · split
        · rfl
        · rw [getKey_set, if_neg (by decide)]

theorem acknowledges_commandRows {inboundEventId : Nat}
    (h : services.commandRows input inboundEventId s = .ok rows) :
    (∃ row ∈ rows, row.acknowledges = true) ↔ s.acknowledges = true := by
  unfold commandRows at h
  constructor
  · rintro ⟨row, hrow, hack⟩
    obtain ⟨command, hcommand, hbuild⟩ := mem_mapM_ok h hrow
    obtain ⟨hmem, htype⟩ := List.mem_filter.mp hcommand
    rw [acknowledges_buildCommandOutbox hbuild, payload_commandWithFinalText] at hack
    refine List.any_eq_true.mpr ⟨command, hmem, ?_⟩
    rw [WorkflowCommand.acknowledges, htype, hack]
    rfl
  · intro hacks
    obtain ⟨command, hmem, hack⟩ := List.any_eq_true.mp hacks
    rw [WorkflowCommand.acknowledges, Bool.and_eq_true] at hack
    obtain ⟨row, hrow, hbuild⟩ := mapM_ok_of_mem h (List.mem_filter.mpr ⟨hmem, hack.1⟩)
    exact ⟨row, hrow, by
      rw [acknowledges_buildCommandOutbox hbuild, payload_commandWithFinalText, hack.2]⟩

/-- Rows that exist are not streamed. -/
theorem maybeStreamOfficialLivechatText_eq (s : NodeState) (rows : List OutboundMessage) :
    services.maybeStreamOfficialLivechatText s rows = (s, rows) := by
  unfold maybeStreamOfficialLivechatText
  split
  · rfl
  · cases rows with
    | nil => simp
    | cons row rest => rfl

end ReplyServices

/-! ## The nodes -/

namespace GraphServices

open NodeState

variable {services : GraphServices} {s r routed result : NodeState}

/-- The test of a command does not read its text. -/
def IgnoresText (test : WorkflowCommand → Bool) : Prop :=
  ∀ (command : WorkflowCommand) (text : Json),
    test { command with payload := command.payload.set "text" text } = test command

theorem ignoresText_acknowledges : IgnoresText WorkflowCommand.acknowledges := by
  intro command text
  simp [WorkflowCommand.acknowledges, getKey_set]

theorem ignoresText_isTextWith : IgnoresText (isTextWith "handoff_ack") := by
  intro command text
  simp [isTextWith, getKey_set]

theorem any_withText {test : WorkflowCommand → Bool} (htest : IgnoresText test)
    (isTarget : WorkflowCommand → Bool) (text : Json) (commands : List WorkflowCommand) :
    (withText isTarget text commands).any test = commands.any test := by
  induction commands with
  | nil => rfl
  | cons command rest ih =>
      unfold withText
      split
      · rw [List.any_cons, List.any_cons, htest]
      · rw [List.any_cons, List.any_cons, ih]

/-- The planner acknowledges nothing, and takes no acknowledgement away. -/
theorem any_commandPlannerNode {test : WorkflowCommand → Bool} (htest : IgnoresText test)
    (hplain : ∀ text,
      test (SopSettings.command .livechatSendText (.ofList [("text", text)])) = false)
    (s : NodeState) : (commandPlannerNode s).commands.any test = s.commands.any test := by
  have hplanned (text : Json) : (plannedCommands s.commands text).any test =
      s.commands.any test := by
    unfold plannedCommands
    split
    · rfl
    · split
      · exact any_withText htest _ text s.commands
      · split
        · exact any_withText htest _ text s.commands
        · rw [List.any_cons, hplain, Bool.false_or]
  exact hplanned _

/-- The handoff and the acknowledgements of a run are those of the handler of its route. -/
theorem acknowledges_handledState (h : services.handledState routed = .ok result) :
    ∃ handled, services.routeNode routed = .ok handled ∧
      (.humanHandoffRequested ∈ result.types ↔ .humanHandoffRequested ∈ handled.types) ∧
      result.acknowledges = handled.acknowledges ∧
      ReplyServices.hasHandoffAckCommand result = ReplyServices.hasHandoffAckCommand handled := by
  obtain ⟨handled, hhandled, hresult⟩ := bind_eq_ok.mp h
  obtain ⟨other, hother, htypes⟩ :=
    mem_types_handledState (by decide : CommandType.humanHandoffRequested ≠ _) h
  rw [hhandled] at hother
  obtain rfl := Except.ok.inj hother
  have hreplied := @commands_finalReplyNode services handled.declared
  have hany {test : WorkflowCommand → Bool} (htest : IgnoresText test)
      (hplain : ∀ text, test (SopSettings.command .livechatSendText
        (.ofList [("text", text)])) = false) :
      result.commands.any test = handled.commands.any test := by
    rw [← Except.ok.inj hresult]
    refine (any_commandPlannerNode htest hplain _).trans ?_
    exact congrArg (fun commands => List.any commands test) hreplied
  refine ⟨handled, hhandled, htypes, hany ignoresText_acknowledges fun text => ?_,
    hany ignoresText_isTextWith fun text => ?_⟩
  · simp [SopSettings.command, WorkflowCommand.acknowledges, Dict.ofList, getKey_set, Json.isTrue]
  · simp [SopSettings.command, isTextWith, Dict.ofList, getKey_set, Json.isTrue]

end GraphServices

namespace SopSettings

variable {settings : SopSettings} {s r : NodeState}

theorem acknowledges_of_types (h : r.types = [.humanHandoffRequested]) :
    r.acknowledges = false := by
  rw [NodeState.acknowledges, List.any_eq_false]
  intro command hcommand
  have htype : command.type = .humanHandoffRequested := by
    have hmem : command.type ∈ r.types := List.mem_map_of_mem hcommand
    rw [h] at hmem
    exact List.mem_singleton.mp hmem
  rw [WorkflowCommand.acknowledges, htype]
  simp [ReplyServices.outboundTypes]

theorem handoff_not_mem_runSop (hcommands : CommandType.humanHandoffRequested ∉ s.types)
    (h : settings.runSop s = .ok r) : CommandType.humanHandoffRequested ∉ r.types := by
  intro hmem
  unfold runSop at h
  split at h
  · exact absurd (types_moneyMissingSop h _ hmem) (by decide)
  · exact absurd (types_moneyMissingSop h _ hmem) (by decide)
  · rw [← Except.ok.inj h, types_withdrawalBlockedSop] at hmem
    split at hmem
    · exact absurd hmem (by decide)
    · exact absurd hmem (by decide)
  · rw [← Except.ok.inj h] at hmem
    exact absurd (types_pendingReplyLookupSop s _ hmem) (by decide)
  · rw [← Except.ok.inj h] at hmem
    exact hcommands hmem

/-- A handoff among the commands is the only one. -/
def LoneHandoff (types : List CommandType) : Prop :=
  CommandType.humanHandoffRequested ∈ types → types = [.humanHandoffRequested]

theorem LoneHandoff.ite {condition : Prop} [Decidable condition] {types other : List CommandType}
    (htypes : LoneHandoff types) (hother : LoneHandoff other) :
    LoneHandoff (if condition then types else other) := by
  split
  · exact htypes
  · exact hother

/-- The handler of a waiting customer plans a handoff alone. -/
theorem loneHandoff_handleWaitingBackend (h : settings.handleWaitingBackend s = .ok r) :
    LoneHandoff r.types := by
  obtain ⟨plan, -, htypes⟩ := types_handleWaitingBackend h
  have hnone : LoneHandoff [] := fun hmem => absurd hmem List.not_mem_nil
  have hhandoff : LoneHandoff [.humanHandoffRequested] := fun _ => rfl
  have hother {type : CommandType} (htype : type ≠ .humanHandoffRequested) :
      LoneHandoff [type] := fun hmem => absurd (List.mem_singleton.mp hmem).symm htype
  have hsupplement : LoneHandoff
      (settings.supplementTypes s (settings.waitingMemory s plan) plan) :=
    .ite (hother (by decide)) (.ite (hother (by decide)) (.ite hhandoff hnone))
  rw [htypes]
  exact .ite (.ite (hother (by decide)) (.ite hsupplement (.ite hhandoff hnone))) hnone

/-- No handler of a workflow acknowledges the handoff that it plans. -/
theorem acknowledges_llmSopNode {service : SlotService}
    (hcommands : CommandType.humanHandoffRequested ∉ s.types)
    (h : settings.llmSopNode service s = .ok r)
    (hhandoff : CommandType.humanHandoffRequested ∈ r.types) : r.acknowledges = false := by
  have hplanned : CommandType.humanHandoffRequested ∉
      (settings.withPlannedSlots service s).types := by
    rwa [NodeState.types, (settings.withPlannedSlots_plans service s).commands]
  unfold llmSopNode sopNode at h
  split at h
  · exact acknowledges_of_types (loneHandoff_handleWaitingBackend h hhandoff)
  · exact absurd hhandoff (handoff_not_mem_runSop hplanned h)

end SopSettings

namespace GraphServices

open NodeState

variable {services : GraphServices} {s r routed result : NodeState}

/-- The router hands no handoff on. -/
theorem handoff_not_mem_routedState (hcommands : s.commands = [])
    (h : services.routedState s = .ok r) : CommandType.humanHandoffRequested ∉ r.types := by
  obtain ⟨routed, hrouted, h⟩ := bind_eq_ok.mp h
  cases h
  intro hmem
  rcases (RouterSettings.plansTexts_llmIntentRouterNode hrouted).types hmem with hkept | htext
  · exact absurd (@plansMenus_beforeRouter services s hcommands _ hkept) (by decide)
  · exact absurd htext (by decide)

/-- The handler of a run that requests a handoff is the node of the handoff, which acknowledges it,
or that of a workflow, which does not. -/
theorem acknowledges_routeNode (hrouted : CommandType.humanHandoffRequested ∉ routed.types)
    (h : services.routeNode routed = .ok r)
    (hhandoff : CommandType.humanHandoffRequested ∈ r.types) :
    (routed.get "route" = .str "human_handoff" ∧
        ReplyServices.hasHandoffAckCommand r = true) ∨
      (routed.get "route" = .str "sop" ∧ r.acknowledges = false) := by
  unfold routeNode at h
  split at h
  · cases h
    exact absurd hhandoff List.not_mem_nil
  · rename_i hroute
    exact .inr ⟨Json.str?_eq_some.mp hroute,
      SopSettings.acknowledges_llmSopNode hrouted h hhandoff⟩
  · cases h
    exact absurd hhandoff List.not_mem_nil
  · rename_i hroute
    cases h
    exact .inl ⟨Json.str?_eq_some.mp hroute, rfl⟩
  · cases h
    exact absurd hhandoff hrouted

end GraphServices

/-! ## Messages that are left to the workflow -/

namespace RouterSettings

variable {settings : RouterSettings} {s c : NodeState}

/-- No branch of the router before that of the active workflow takes the message. -/
def leftToWorkflow (settings : RouterSettings) (s : NodeState) : Bool :=
  let text := strip (s.inputText settings.rt)
  !isRouteLocked s && (settings.forgotPasswordFollowupRoute s).isNone &&
    (settings.recentBackendResultDisputeRoute s).toOption.any Option.isNone &&
    !hasAuthoritativeRoute s && (settings.recentAuthoritativeResultDisputeRoute s).isNone &&
    !isExplicitHumanRequest settings.tables (s.inputText settings.rt) &&
    (settings.crossThreadMoneyCaseRoute s text).isNone &&
    (settings.promotePendingImageCandidateRoute s text).isNone &&
    (settings.imageCandidateOnlyRoute s).isNone && (settings.autoHandoffRoute s).isNone &&
    !isConversationMemoryLookup settings.rt settings.tables s && isGuardedWorkflow s &&
    !isExplicitHumanRequest settings.tables
      (normalizeText settings.rt (s.get "raw_user_input")) &&
    !(s.get "event_type").eqText "FILE_RECEIVED"

theorem intentRouterNode_of_leftToWorkflow (h : settings.leftToWorkflow s = true)
    (hclear : settings.clearBackendDisputeOnAcceptance s = s) :
    settings.intentRouterNode s = .ok (settings.activeWorkflowDeterministicRoute s) := by
  simp only [leftToWorkflow, Bool.and_eq_true, Bool.not_eq_true', Option.isNone_iff_eq_none] at h
  obtain ⟨⟨⟨⟨⟨⟨⟨⟨⟨⟨⟨⟨⟨hopen, hforgot⟩, hconclusion⟩, hauthority⟩, hresult⟩, hhuman⟩, hcross⟩,
    hpromote⟩, himage⟩, hauto⟩, hmemory⟩, hguarded⟩, -⟩, -⟩ := h
  obtain ⟨conclusion, hconclusion, hnone⟩ := toOption_any_eq_true.mp hconclusion
  obtain rfl := Option.isNone_iff_eq_none.mp hnone
  have hundisputed : settings.undisputedRoute s =
      .ok (settings.activeWorkflowDeterministicRoute s) := by
    simp [undisputedRoute, ordinaryRoute, hauthority, hresult, hhuman, hcross, hpromote, himage,
      hauto, hmemory, hguarded]
  simp [intentRouterNode, hopen, hforgot, hclear, hconclusion, hundisputed, bind, Except.bind]

/-- A message that supplements the active workflow stays with it. -/
theorem activeWorkflowDeterministicRoute_of_supplement
    (h : settings.isAcknowledgementText s = false ∧ settings.isContextualFollowup s = false ∧
      RouteText.isRolloverExplanation (s.lowerText settings.rt) = false ∧
      RouteText.independentFaq (s.lowerText settings.rt) = none ∧
      settings.isCrossWorkflowBusinessObject s = false ∧ settings.isNewWorkflowRequest s = false ∧
      settings.isCurrentWorkflowSupplement s = true) :
    settings.activeWorkflowDeterministicRoute s = s.withRoute settings.rt
      { sopDecision (s.activeWorkflow settings.rt)
          "Message appears to supplement the active SOP workflow." with
        confidence := .float (86 / 100) "0.86"
        workflowRelation := some "current_workflow_supplement"
        preserveActiveWorkflow := some true } := by
  obtain ⟨hack, hfollowup, hrollover, hfaq, hcross, hnew, hsupplement⟩ := h
  simp [activeWorkflowDeterministicRoute, hack, hfollowup, hrollover, hfaq, hcross, hnew,
    hsupplement]

/-- Without a provider, the node around the language model leaves it to the workflow too. -/
theorem llmIntentRouterNode_of_leftToWorkflow {limits : RouterLimits}
    (hopen : isRouteLocked s = false) (hc : settings.clearBackendDisputeOnAcceptance s = c)
    (h : settings.leftToWorkflow c = true) (hfallback : limits.fallbackToDeterministic = true) :
    settings.llmIntentRouterNode limits .missingProvider s =
      .ok (guardedBy (settings.activeWorkflowDeterministicRoute c) "missing_provider") := by
  have hclear : settings.clearBackendDisputeOnAcceptance c = c := by
    rw [← hc, clearBackendDisputeOnAcceptance_idem]
  have hfallen : settings.answeredRoute limits c .missingProvider =
      .ok (guardedBy (settings.activeWorkflowDeterministicRoute c) "missing_provider") := by
    simp [answeredRoute, routerFallbackState, hfallback,
      intentRouterNode_of_leftToWorkflow h hclear, bind, Except.bind, pure, Except.pure]
  simp only [leftToWorkflow, Bool.and_eq_true, Bool.not_eq_true', Option.isNone_iff_eq_none] at h
  obtain ⟨⟨⟨⟨⟨⟨⟨⟨⟨⟨⟨⟨⟨-, -⟩, hconclusion⟩, -⟩, hresult⟩, -⟩, hcross⟩, -⟩, -⟩, -⟩, hmemory⟩, -⟩,
    hhuman⟩, hfile⟩ := h
  obtain ⟨conclusion, hconclusion, hnone⟩ := toOption_any_eq_true.mp hconclusion
  obtain rfl := Option.isNone_iff_eq_none.mp hnone
  simp [llmIntentRouterNode, hopen, hc, hconclusion, hresult, hhuman, hfile, hmemory, hcross,
    hfallen, bind, Except.bind]

end RouterSettings

namespace ReplyServices

open NodeState

variable {services : ReplyServices} {input : GraphInput} {s r state : NodeState}
  {rows : List OutboundMessage}

/-! ## The gateway -/

/-- A handoff that the state requests is its route, and has its acknowledgement. -/
def AnswersHandoff (s : NodeState) : Prop :=
  CommandType.humanHandoffRequested ∈ s.types →
    s.get "route" = .str "human_handoff" ∧ hasHandoffAckCommand s = true

theorem AnswersHandoff.of_eq (h : AnswersHandoff s) (hcommands : r.commands = s.commands)
    (hroute : r.get "route" = s.get "route") : AnswersHandoff r := by
  rwa [AnswersHandoff, NodeState.types, hcommands, hroute, hasHandoffAckCommand, hcommands]

theorem AnswersHandoff.set (h : AnswersHandoff s) {key : String} (value : Json)
    (hkey : key ≠ "route") : AnswersHandoff (s.set key value) :=
  h.of_eq rfl (by rw [get_set, if_neg (Ne.symm hkey)])

theorem AnswersHandoff.of_no_handoff (h : CommandType.humanHandoffRequested ∉ s.types) :
    AnswersHandoff s := fun hmem => absurd hmem h

theorem acknowledges_of_hasHandoffAckCommand (h : hasHandoffAckCommand s = true) :
    s.acknowledges = true := by
  obtain ⟨command, hmem, htext⟩ := List.any_eq_true.mp h
  rw [GraphServices.isTextWith, Bool.and_eq_true, decide_eq_true_eq] at htext
  refine List.any_eq_true.mpr ⟨command, hmem, ?_⟩
  rw [WorkflowCommand.acknowledges, htext.1, htext.2]
  rfl

theorem answersHandoff_acknowledgedHandoff (s : NodeState) (reason text : String) :
    AnswersHandoff (acknowledgedHandoff s reason text) := by
  refine fun _ => ⟨?_, rfl⟩
  rw [acknowledgedHandoff, get_withCommands, get_withReply _ _ (by decide), SopSettings.atStage,
    get_set, if_neg (by decide), get_set, if_neg (by decide), get_set, if_pos rfl]

theorem answersHandoff_buildAiServiceFailureHandoffState (s : NodeState) :
    AnswersHandoff (services.buildAiServiceFailureHandoffState s) :=
  (((answersHandoff_acknowledgedHandoff _ _ _).set _ (by decide)).set _ (by decide)).set _
    (by decide)

theorem answersHandoff_applyFinalReplyFailureHandoff (h : AnswersHandoff s) :
    AnswersHandoff (services.applyFinalReplyFailureHandoff s) := by
  unfold applyFinalReplyFailureHandoff
  split
  · exact answersHandoff_buildAiServiceFailureHandoffState s
  · exact h

theorem answersHandoff_withComposed (h : AnswersHandoff s) (reply : ComposedReply) :
    AnswersHandoff (withComposed s reply) :=
  ((h.set _ (by decide)).set _ (by decide)).set _ (by decide)

theorem answersHandoff_runFinalReply (h : AnswersHandoff s) :
    AnswersHandoff (services.runFinalReply s) := by
  unfold runFinalReply
  split
  · exact h
  · split
    · refine answersHandoff_applyFinalReplyFailureHandoff ?_
      unfold guardFinalReplyState
      simp only
      split
      · exact answersHandoff_withComposed h _
      · split
        · exact answersHandoff_withComposed h _
        · exact (h.set _ (by decide)).set _ (by decide)
    · split
      · exact h
      · exact answersHandoff_withComposed h _

theorem answersHandoff_buildBusinessButtonState {buttonId : String}
    {target : String × String × Option String}
    (h : services.buildBusinessButtonState input buttonId target = .ok r) : AnswersHandoff r := by
  unfold buildBusinessButtonState at h
  simp only at h
  split at h
  · cases h
    exact ((answersHandoff_acknowledgedHandoff _ _ _).set _ (by decide)).set _ (by decide)
  · split at h
    · obtain ⟨handled, hhandled, rfl⟩ := map_eq_ok.mp h
      have hnone := SopSettings.handoff_not_mem_runSop List.not_mem_nil hhandled
      refine .of_no_handoff ?_
      unfold withFastPathTextCommand
      simp only
      split
      · exact hnone
      · rw [SopSettings.types_withCommands, List.map_append, List.mem_append, not_or]
        exact ⟨hnone, by simp [SopSettings.command]⟩
    · split at h
      · cases h
        exact .of_no_handoff List.not_mem_nil
      · cases h
        exact .of_no_handoff List.not_mem_nil

/-- A handoff that the gateway requests itself is acknowledged. -/
theorem answersHandoff_buildPreGraphState (h : services.buildPreGraphState input = .ok (some r)) :
    AnswersHandoff r := by
  have hmenu (menu : JsonObject) (key source reason : String) :
      AnswersHandoff (services.menuState input menu key source reason) :=
    .of_no_handoff (by simp [menuState, SopSettings.command])
  unfold buildPreGraphState at h
  split at h
  · cases h
    exact hmenu _ _ _ _
  · split at h
    · cases h
    · split at h
      · cases h
      · split at h
        · cases h
          exact hmenu _ _ _ _
        · split at h
          · obtain ⟨state, hstate, hsome⟩ := map_eq_ok.mp h
            cases hsome
            exact answersHandoff_buildBusinessButtonState hstate
          · cases h

/-- The rows of the event are those of the knowledge base. -/
def deliversFaq (services : ReplyServices) (s : NodeState) : Bool :=
  (s.get "route").eqText "faq" && (s.get "rag_context").truthy && !(services.faqRows s).isEmpty

/-- The rows of the commands. -/
theorem rows_of_commands {inboundEventId : Nat} (hfaq : services.deliversFaq s = false)
    (hhuman : s.get "route" = .str "human_handoff" → hasHandoffAckCommand s = true)
    (h : services.buildOutboundMessages input inboundEventId s = .ok rows) :
    services.commandRows input inboundEventId s = .ok rows := by
  have hack : ((s.get "route").eqText "human_handoff" && !hasHandoffAckCommand s) = false := by
    by_cases hroute : s.get "route" = .str "human_handoff"
    · rw [hhuman hroute, Bool.not_true, Bool.and_false]
    · have heq : (s.get "route").eqText "human_handoff" = false := by
        rwa [← Bool.not_eq_true, Json.eqText_iff]
      rw [heq, Bool.false_and]
  have hempty : (if (s.get "route").eqText "faq" && (s.get "rag_context").truthy then
      services.faqRows s else []).isEmpty = true := by
    rw [deliversFaq] at hfaq
    split
    · rename_i hroute
      rw [hroute, Bool.true_and] at hfaq
      simpa using hfaq
    · rfl
  unfold buildOutboundMessages at h
  rw [hack] at h
  simp only [Bool.false_eq_true, if_false, hempty, if_true] at h
  exact h

/-- A state whose route is no FAQ acknowledges as its rows do. -/
theorem acknowledges_buildOutboundMessages {inboundEventId : Nat}
    (hfaq : s.get "route" ≠ .str "faq")
    (hroute : s.get "route" = .str "human_handoff" → hasHandoffAckCommand s = true)
    (h : services.buildOutboundMessages input inboundEventId s = .ok rows) :
    (∃ row ∈ rows, row.acknowledges = true) ↔ s.acknowledges = true := by
  have hno : (s.get "route").eqText "faq" = false := by
    rwa [← Bool.not_eq_true, Json.eqText_iff]
  refine acknowledges_commandRows (rows_of_commands ?_ hroute h)
  rw [deliversFaq, hno, Bool.false_and, Bool.false_and]

/-- A handoff of the event would be acknowledged: the gateway answers the event itself, or the
router hands it off, or the final reply fails for good.  What is left is the node of a workflow. -/
def AcknowledgesHandoff (services : ReplyServices) (input : GraphInput) : Prop :=
  services.buildPreGraphState input ≠ .ok none ∨
    ∀ routed result, services.routedState (input.buildGraphState services.rt) = .ok routed →
      services.handledState routed = .ok result →
      routed.get "route" = .str "human_handoff" ∨
        services.shouldHandoffForFailure (services.withPreview result) = true

theorem commands_withPreview (s : NodeState) : (services.withPreview s).commands = s.commands := by
  unfold withPreview
  split
  · rfl
  · split
    · rfl
    · rfl

theorem get_route_withPreview (s : NodeState) :
    (services.withPreview s).get "route" = s.get "route" := by
  unfold withPreview
  split
  · rfl
  · split
    · rw [withComposed, get_set, if_neg (by decide), get_set, if_neg (by decide), get_set,
        if_neg (by decide)]
    · rfl

/-- The rows of an event acknowledge the handoff that it requests exactly when no handler of a
workflow requests it. -/
theorem handoff_acknowledged_iff {inboundEventId : Nat}
    (h : services.processed input inboundEventId = .ok (state, rows))
    (hhandoff : CommandType.humanHandoffRequested ∈ state.types) :
    (∃ row ∈ rows, row.acknowledges = true) ↔ services.AcknowledgesHandoff input := by
  obtain ⟨final, hfinal, h⟩ := bind_eq_ok.mp h
  obtain ⟨built, hbuilt, h⟩ := bind_eq_ok.mp h
  rw [maybeStreamOfficialLivechatText_eq] at h
  cases h
  have hanswered (hanswers : AnswersHandoff state) : ∃ row ∈ rows, row.acknowledges = true := by
    obtain ⟨hroute, hack⟩ := hanswers hhandoff
    have hfaq : state.get "route" ≠ .str "faq" := by
      rw [hroute]
      simp
    exact (acknowledges_buildOutboundMessages hfaq (fun _ => hack) hbuilt).mpr
      (acknowledges_of_hasHandoffAckCommand hack)
  obtain ⟨state?, hstate, hfinal⟩ := bind_eq_ok.mp hfinal
  cases state? with
  | some pre =>
      cases hfinal
      refine iff_of_true (hanswered ?_) (.inl (by rw [hstate]; simp))
      exact answersHandoff_applyFinalReplyFailureHandoff
        (answersHandoff_runFinalReply (answersHandoff_buildPreGraphState hstate))
  | none =>
      obtain ⟨result, hresult, hfinal⟩ := bind_eq_ok.mp hfinal
      obtain ⟨routed, hrouted, hhandled⟩ := bind_eq_ok.mp hresult
      have hcondition : services.AcknowledgesHandoff input ↔
          routed.get "route" = .str "human_handoff" ∨
            services.shouldHandoffForFailure (services.withPreview result) = true := by
        rw [AcknowledgesHandoff, hstate, hrouted]
        constructor
        · rintro (hpre | hnodes)
          · exact absurd rfl hpre
          · exact hnodes routed result rfl hhandled
        · rintro hnodes
          refine .inr fun other otherResult hother hotherResult => ?_
          cases hother
          rw [hhandled] at hotherResult
          cases hotherResult
          exact hnodes
      rw [hcondition]
      cases hfinal
      by_cases hfails : services.shouldHandoffForFailure (services.withPreview result) = true
      · refine iff_of_true (hanswered ?_) (.inr hfails)
        rw [applyFinalReplyFailureHandoff, if_pos hfails]
        exact answersHandoff_buildAiServiceFailureHandoffState _
      · have hkept : services.applyFinalReplyFailureHandoff (services.withPreview result) =
            services.withPreview result := by
          rw [applyFinalReplyFailureHandoff, if_neg hfails]
        rw [hkept] at hhandoff hbuilt hanswered
        have hroute : (services.withPreview result).get "route" = routed.get "route" :=
          (get_route_withPreview result).trans
            (GraphServices.handledState_sameRoute hhandled).route
        have hcommands := @commands_withPreview services result
        obtain ⟨handled, hnode, htypes, hack, htext⟩ :=
          GraphServices.acknowledges_handledState hhandled
        have hmem : CommandType.humanHandoffRequested ∈ handled.types := by
          rwa [NodeState.types, hcommands, ← NodeState.types, htypes] at hhandoff
        rcases GraphServices.acknowledges_routeNode
          (GraphServices.handoff_not_mem_routedState rfl hrouted) hnode hmem with
          ⟨hhuman, hacked⟩ | ⟨hsop, hsilent⟩
        · refine iff_of_true (hanswered fun _ => ⟨hroute.trans hhuman, ?_⟩) (.inl hhuman)
          rw [hasHandoffAckCommand, hcommands, ← hasHandoffAckCommand, htext, hacked]
        · have hrows := acknowledges_buildOutboundMessages (s := services.withPreview result)
            (by simp [hroute, hsop]) (fun hhuman => by simp [hroute, hsop] at hhuman) hbuilt
          rw [hrows, NodeState.acknowledges, hcommands, ← NodeState.acknowledges, hack, hsilent,
            hsop]
          simp [hfails]

/-! ## A handoff without its acknowledgement -/

/-- A message of a customer who waits for a deposit, and has complained about it before. -/
def waitingMessage (text : String) : GraphInput :=
  .plain text (some "deposit_missing") (some "waiting_backend") (.ofList [("handoff_counters",
    .obj (.ofList [("waiting_backend_dispute_count", .int 1)]))])

/-- A customer who asks for a human gets the acknowledgement. -/
theorem handoff_acknowledged_on_request :
    ∃ state rows, plain.processed (waitingMessage "quiero un agente humano") 7 =
        .ok (state, rows) ∧
      ((∃ row ∈ rows, row.acknowledges = true) ↔
        plain.AcknowledgesHandoff (waitingMessage "quiero un agente humano")) := by
  have hprocessed : (plain.processed (waitingMessage "quiero un agente humano") 7).toOption.any
      (fun result => result.1.types.contains .humanHandoffRequested) = true := by
    decide +kernel
  obtain ⟨⟨state, rows⟩, hresult, hhandoff⟩ := toOption_any_eq_true.mp hprocessed
  exact ⟨state, rows, hresult,
    handoff_acknowledged_iff hresult (List.contains_iff_mem.mp hhandoff)⟩

/-- The second complaint requests a handoff, and no row acknowledges it. -/
theorem handoff_unacknowledged :
    (plain.processed (waitingMessage "mi deposito no llego, same problem") 7).toOption.any
      (fun result => result.1.types.contains .humanHandoffRequested &&
        !result.2.any OutboundMessage.acknowledges) = true := by
  have hpre : plain.buildPreGraphState
      (waitingMessage "mi deposito no llego, same problem") = .ok none := rfl
  unfold processed graphState
  rw [hpre]
  generalize hstart : (waitingMessage "mi deposito no llego, same problem").buildGraphState
    plain.rt = start
  -- The guards of the router, its decision and the nodes behind it are evaluated apart.
  have hleft : RouterSettings.isRouteLocked (plain.beforeRouter start) = false ∧
      plain.leftToWorkflow
        (plain.clearBackendDisputeOnAcceptance (plain.beforeRouter start)) = true := by
    subst hstart
    decide +kernel
  have hrouted : plain.routedState start = .ok (RouterSettings.guardedBy
      (plain.activeWorkflowDeterministicRoute
        (plain.clearBackendDisputeOnAcceptance (plain.beforeRouter start)))
      "missing_provider").declared := by
    change (plain.llmIntentRouterNode plain.limits .missingProvider (plain.beforeRouter start) >>=
      fun routed => pure routed.declared) = _
    rw [RouterSettings.llmIntentRouterNode_of_leftToWorkflow hleft.1 rfl hleft.2 rfl]
    rfl
  have hroute : plain.activeWorkflowDeterministicRoute
      (plain.clearBackendDisputeOnAcceptance (plain.beforeRouter start)) = _ :=
    RouterSettings.activeWorkflowDeterministicRoute_of_supplement (by subst hstart; decide +kernel)
  rw [GraphServices.runGraph, hrouted, hroute]
  subst hstart
  decide +kernel

end ReplyServices

end AiCustomerService
