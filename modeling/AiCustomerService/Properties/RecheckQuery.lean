import AiCustomerService.Graph.CommandTypes
import AiCustomerService.Services.KeptSlots
import AiCustomerService.Support.Steps

/-!
# The query of a recheck

When a dispute that marks a recheck as pending has the backend asked again.  The router marks the
recheck, and leaves the query to the handler of the message, which answers some disputes in
another way; the mark stays.
-/

namespace AiCustomerService

open Support

namespace SopSettings

variable {settings : SopSettings} {s r : NodeState}

/-- A waiting customer's message has the backend asked: it concerns a blocked withdrawal of an
account that is known, it adds something, and no money case was matched. -/
def waitingQueries (settings : SopSettings) (s : NodeState) (plan : SopDialoguePlan) : Prop :=
  settings.concernsCase s plan = true ∧ s.matchedTelegramMoneyCase = none ∧
    settings.hasSupplement s plan = true ∧
    s.activeWorkflow settings.rt = "withdrawal_blocked_or_rollover" ∧
    (getKey (settings.waitingMemory s plan) "account_or_phone").truthy = true

/-- A new message has the backend asked: it is about a blocked withdrawal, it changes no wallet,
and the account is known. -/
def newQueries (settings : SopSettings) (s : NodeState) : Prop :=
  getKey s.intentResult "intent" = .str "withdrawal_blocked_or_rollover" ∧
    settings.changesWallet s = false ∧
    (getKey (settings.blockedMemory s) "account_or_phone").truthy = true

/-- The handler of the message has the backend asked. -/
def queriesBackend (settings : SopSettings) (s : NodeState) : Prop :=
  if settings.isWaiting s = true then
    ∃ plan, planSopDialogueFromState settings.rt settings.tables s
        (s.activeWorkflow settings.rt) = .ok plan ∧ settings.waitingQueries s plan
  else settings.newQueries s

theorem query_mem_supplementTypes {memory : JsonObject} {plan : SopDialoguePlan} :
    CommandType.backendQuery ∈ settings.supplementTypes s memory plan ↔
      s.activeWorkflow settings.rt = "withdrawal_blocked_or_rollover" ∧
        (getKey memory "account_or_phone").truthy = true := by
  unfold supplementTypes
  split
  · rename_i hblocked
    simp [hblocked]
  · rename_i hblocked
    simp only [hblocked, iff_false]
    split
    · simp
    · split
      · simp
      · simp

theorem query_mem_caseTypes {plan : SopDialoguePlan} (hcase : settings.concernsCase s plan = true) :
    CommandType.backendQuery ∈ settings.caseTypes s plan ↔ settings.waitingQueries s plan := by
  unfold caseTypes waitingQueries
  simp only [hcase, true_and]
  cases hmatched : s.matchedTelegramMoneyCase with
  | some case => simp
  | none =>
      by_cases hsupplement : settings.hasSupplement s plan = true
      · simp only [Option.isSome_none, Bool.false_eq_true, if_false, hsupplement, if_true,
          true_and]
        exact query_mem_supplementTypes
      · simp only [Option.isSome_none, Bool.false_eq_true, if_false, hsupplement, false_and,
          and_false, iff_false]
        split
        · simp
        · simp

theorem query_mem_handleWaitingBackend (h : settings.handleWaitingBackend s = .ok r) :
    CommandType.backendQuery ∈ r.types ↔
      ∃ plan, planSopDialogueFromState settings.rt settings.tables s
        (s.activeWorkflow settings.rt) = .ok plan ∧ settings.waitingQueries s plan := by
  obtain ⟨plan, hplan, htypes⟩ := types_handleWaitingBackend h
  have hiff : CommandType.backendQuery ∈ r.types ↔ settings.waitingQueries s plan := by
    rw [htypes]
    split
    · rename_i hcase
      exact query_mem_caseTypes hcase
    · rename_i hcase
      exact iff_of_false List.not_mem_nil fun hqueries => hcase hqueries.1
  rw [hiff]
  constructor
  · exact fun hqueries => ⟨plan, hplan, hqueries⟩
  · rintro ⟨other, hother, hqueries⟩
    rw [hplan] at hother
    rwa [Except.ok.inj hother]

theorem query_mem_runSop (hcommands : s.commands = []) (h : settings.runSop s = .ok r) :
    CommandType.backendQuery ∈ r.types ↔ settings.newQueries s := by
  have hother {intent : String} (hintent : getKey s.intentResult "intent" = .str intent)
      (hne : intent ≠ "withdrawal_blocked_or_rollover") : ¬ settings.newQueries s := by
    rintro ⟨hblocked, -⟩
    exact hne (Json.str.inj (hintent.symm.trans hblocked))
  have hmoney {intent : String} (hmissing : settings.moneyMissingSop s intent = .ok r) :
      CommandType.backendQuery ∉ r.types := by
    intro hmem
    exact absurd (types_moneyMissingSop hmissing _ hmem) (by decide)
  unfold runSop at h
  split at h
  · rename_i hintent
    exact iff_of_false (hmoney h) (hother (Json.str?_eq_some.mp hintent) (by decide))
  · rename_i hintent
    exact iff_of_false (hmoney h) (hother (Json.str?_eq_some.mp hintent) (by decide))
  · rename_i hintent
    rw [← Except.ok.inj h, types_withdrawalBlockedSop, newQueries, Json.str?_eq_some.mp hintent]
    cases settings.changesWallet s with
    | true => simp
    | false => simp
  · rename_i hintent
    refine iff_of_false ?_ (hother (Json.str?_eq_some.mp hintent) (by decide))
    rw [← Except.ok.inj h]
    intro hmem
    exact absurd (types_pendingReplyLookupSop s _ hmem) (by decide)
  · rename_i hblocked _
    refine iff_of_false ?_ fun hqueries => hblocked (Json.str?_eq_some.mpr hqueries.1)
    rw [← Except.ok.inj h, types_withCommands, hcommands]
    exact List.not_mem_nil

theorem query_mem_sopNode (hcommands : s.commands = []) (h : settings.sopNode s = .ok r) :
    CommandType.backendQuery ∈ r.types ↔ settings.queriesBackend s := by
  unfold sopNode at h
  unfold queriesBackend
  split at h
  · rename_i hwaiting
    rw [if_pos hwaiting]
    exact query_mem_handleWaitingBackend h
  · rename_i hwaiting
    rw [if_neg hwaiting]
    exact query_mem_runSop hcommands h

end SopSettings

/-! ## The marking turn -/

namespace RouterSettings

open NodeState

variable {settings : RouterSettings} {s routed : NodeState}

/-- What the router hands on when it marks a recheck. -/
theorem routed_of_marksRecheck {limits : RouterLimits} {answer : RouterAnswer}
    {evaluation : DisputeEvaluation} (hmarks : settings.MarksRecheck s evaluation)
    (h : settings.llmIntentRouterNode limits answer s = .ok routed) :
    routed.get "route" = .str "sop" ∧ routed.commands = s.commands := by
  obtain ⟨hlocked, hevaluation, hhandoff, -⟩ := hmarks
  unfold llmIntentRouterNode at h
  rw [hlocked] at h
  obtain ⟨dispute?, hdispute, h⟩ := bind_eq_ok.mp h
  obtain ⟨evaluation?, hsame, hdispute⟩ := bind_eq_ok.mp hdispute
  rw [hevaluation] at hsame
  cases hsame
  cases hdispute
  cases h
  have hroute : (settings.disputeDecision evaluation).route = "sop" := by
    rw [disputeDecision, hhandoff]
    rfl
  constructor
  · rw [guardedBy, get_set, if_neg (by decide), get_route_withRoute, hroute]
  · rw [guardedBy, commands_set]
    unfold clearBackendDisputeOnAcceptance
    split
    · rfl
    · rfl

/-- The evaluation of `MarksRecheck`. -/
def marksRecheck (settings : RouterSettings) (s : NodeState) : Bool :=
  !isRouteLocked s &&
    match settings.evaluateBackendDispute (settings.clearBackendDisputeOnAcceptance s) with
    | .ok (some evaluation) => !evaluation.shouldHandoff && !evaluation.waitingForRecheck
    | _ => false

theorem marksRecheck_iff :
    settings.marksRecheck s = true ↔ ∃ evaluation, settings.MarksRecheck s evaluation := by
  unfold marksRecheck
  constructor
  · intro h
    rw [Bool.and_eq_true, Bool.not_eq_true'] at h
    obtain ⟨hlocked, h⟩ := h
    split at h
    · rename_i evaluation hevaluation
      rw [Bool.and_eq_true, Bool.not_eq_true', Bool.not_eq_true'] at h
      exact ⟨evaluation, hlocked, hevaluation, h.1, h.2⟩
    · cases h
  · rintro ⟨evaluation, hlocked, hevaluation, hhandoff, hwaiting⟩
    rw [hlocked, hevaluation]
    simp [hhandoff, hwaiting]

end RouterSettings

namespace GraphServices

open NodeState

variable {services : GraphServices} {s r : NodeState}

/-- A turn that marks a recheck is handled by the workflow, and finds no command. -/
theorem routed_of_marksRecheck {evaluation : RouterSettings.DisputeEvaluation}
    (hcommands : s.commands = [])
    (hmarks : services.MarksRecheck (services.beforeRouter s) evaluation)
    (h : services.routedState s = .ok r) : r.get "route" = .str "sop" ∧ r.commands = [] := by
  obtain ⟨routed, hrouted, h⟩ := bind_eq_ok.mp h
  cases h
  obtain ⟨hroute, hsame⟩ := RouterSettings.routed_of_marksRecheck hmarks hrouted
  constructor
  · rw [get_declared, if_pos (by decide), hroute]
  · have hidle : (services.beforeRouter s).commands = [] := by
      rcases @idleOrLocked_beforeRouter services s (.inl hcommands) with hidle | hlocked
      · exact hidle
      · rw [hmarks.1] at hlocked
        cases hlocked
    exact hsame.trans hidle

/-- The handler of a turn that marks a recheck has the backend asked exactly when its state says
so. -/
theorem query_mem_of_marksRecheck {evaluation : RouterSettings.DisputeEvaluation}
    {handled : NodeState} (hcommands : s.commands = [])
    (hmarks : services.MarksRecheck (services.beforeRouter s) evaluation)
    (h : services.routedState s = .ok r)
    (hhandled : services.llmSopNode services.slots r = .ok handled) :
    CommandType.backendQuery ∈ handled.types ↔
      services.queriesBackend (services.withPlannedSlots services.slots r) := by
  refine SopSettings.query_mem_sopNode ?_ hhandled
  exact (services.withPlannedSlots_plans services.slots r).commands.trans
    (routed_of_marksRecheck hcommands hmarks h).2

end GraphServices

/-! ## The turns of a conversation -/

namespace ReplyServices

open NodeState

variable {services : ReplyServices} {input : GraphInput} {s r result : NodeState}

/-! ### The queries -/

/-- The router of the turn marks a recheck. -/
def marksRecheck (services : ReplyServices) (input : GraphInput) : Bool :=
  match services.buildPreGraphState input with
  | .ok none => services.toGraphServices.marksRecheck
      (services.beforeRouter (input.buildGraphState services.rt))
  | _ => false

/-- The turn has the backend asked: the handler of the message does, and the final reply does not
fail for good, which replaces the commands by a handoff. -/
def AsksBackend (services : ReplyServices) (input : GraphInput) : Prop :=
  (∀ routed, services.routedState (input.buildGraphState services.rt) = .ok routed →
    services.queriesBackend (services.withPlannedSlots services.slots routed)) ∧
  ∀ result, services.runGraph (input.buildGraphState services.rt) = .ok result →
    services.shouldHandoffForFailure (services.withPreview result) = false

/-- A turn whose router marks no recheck raises no mark. -/
theorem unraised_graphState (hmarks : services.marksRecheck input = false)
    (h : services.graphState input = .ok r) (hmark : r.mark.truthy = true) :
    (recheckMark input.conversation.slotMemory).truthy = true := by
  have hkey : "backend_recheck_pending" ∈ keptKeys := by decide
  have hslot := slot_graphState hkey (fun _ hpre => ?_) (fun himage => absurd himage (by decide)) h
  · rcases hslot with hsame | hnone
    · exact (congrArg Json.truthy hsame).symm.trans hmark
    · have hfalse : r.mark.truthy = false := congrArg Json.truthy hnone
      rw [hfalse] at hmark
      cases hmark
  · rw [← RouterSettings.marksRecheck_iff]
    simpa [marksRecheck, hpre] using hmarks

theorem types_applyFinalReplyFailureHandoff (s : NodeState) :
    (services.applyFinalReplyFailureHandoff s).types =
      if services.shouldHandoffForFailure s then [.livechatSendText, .humanHandoffRequested]
      else s.types := by
  unfold applyFinalReplyFailureHandoff
  split
  · rfl
  · rfl

theorem types_withPreview (s : NodeState) : (services.withPreview s).types = s.types := by
  unfold withPreview
  split
  · rfl
  · split
    · rfl
    · rfl

/-- A turn that marks a recheck has the backend asked exactly when its handler does and its reply
does not fail. -/
theorem query_mem_graphState (hmarks : services.marksRecheck input = true)
    (h : services.graphState input = .ok r) :
    CommandType.backendQuery ∈ r.types ↔ services.AsksBackend input := by
  obtain ⟨state?, hstate, h⟩ := bind_eq_ok.mp h
  unfold marksRecheck at hmarks
  rw [hstate] at hmarks
  cases state? with
  | some state => cases hmarks
  | none =>
      obtain ⟨result, hresult, h⟩ := bind_eq_ok.mp h
      cases h
      obtain ⟨evaluation, hmarks⟩ := RouterSettings.marksRecheck_iff.mp hmarks
      obtain ⟨routed, hrouted, hhandled⟩ := bind_eq_ok.mp hresult
      obtain ⟨hroute, -⟩ := GraphServices.routed_of_marksRecheck rfl hmarks hrouted
      obtain ⟨handled, hnode, htypes⟩ :=
        GraphServices.mem_types_handledState (by decide : CommandType.backendQuery ≠ _) hhandled
      have hsop : services.llmSopNode services.slots routed = .ok handled := by
        rwa [GraphServices.routeNode, hroute] at hnode
      have hquery := GraphServices.query_mem_of_marksRecheck rfl hmarks hrouted hsop
      rw [types_applyFinalReplyFailureHandoff, types_withPreview, AsksBackend, hrouted, hresult]
      by_cases hfails : services.shouldHandoffForFailure (services.withPreview result) = true
      · simp [hfails]
      · simp [hfails, htypes, hquery]

end ReplyServices

/-! ## Runs -/

/-- What a conversation went through since a recheck was marked: the slot memory that its next
event finds, and whether the backend was asked. -/
structure RecheckHistory where
  memory : JsonObject
  queried : Bool

/-- What changes the slot memory of a conversation: a turn of the customer, or another writer, who
adds entries and removes keys, and marks no recheck. -/
inductive RecheckStep
  | turn (services : ReplyServices) (input : GraphInput)
  | update (added : JsonObject) (removed : List String) (unmarked : Unmarked added)

namespace RecheckHistory

/-- The history after a step.  Where the router marks a recheck, the queries of before do not
count. -/
def step (history : RecheckHistory) : RecheckStep → RecheckHistory
  | .turn services input =>
      let input := input.withMemory history.memory
      match services.graphState input with
      | .ok state =>
          let asked := state.types.contains .backendQuery
          ⟨state.slotMemory,
            if services.marksRecheck input then asked else history.queried || asked⟩
      | .error _ => history
  | .update added removed _ =>
      { history with memory := (history.memory.merge added).eraseAll removed }

/-- Behind a mark, the backend was asked. -/
def Queried (history : RecheckHistory) : Prop :=
  (recheckMark history.memory).truthy = true → history.queried = true

/-- A turn that marks a recheck has the backend asked. -/
def Answers (history : RecheckHistory) : RecheckStep → Prop
  | .turn services input => services.marksRecheck (input.withMemory history.memory) = true →
      services.AsksBackend (input.withMemory history.memory)
  | .update .. => True

theorem queried_step {history : RecheckHistory} (hqueried : history.Queried) (e : RecheckStep)
    (hanswers : history.Answers e) : (history.step e).Queried := by
  cases e with
  | update added removed unmarked =>
      intro hmark
      refine hqueried ?_
      simp only [step, recheckMark, getKey_eraseAll] at hmark
      split at hmark
      · cases hmark
      · exact recheckMark_merge history.memory unmarked ▸ hmark
  | turn services input =>
      intro hmark
      unfold step at hmark ⊢
      simp only at hmark ⊢
      cases hstate : services.graphState (input.withMemory history.memory) with
      | error e =>
          rw [hstate] at hmark
          exact hqueried hmark
      | ok state =>
          rw [hstate] at hmark
          simp only
          by_cases hmarks : services.marksRecheck (input.withMemory history.memory) = true
          · rw [if_pos hmarks]
            exact List.contains_iff_mem.mpr
              ((ReplyServices.query_mem_graphState hmarks hstate).mpr (hanswers hmarks))
          · rw [if_neg hmarks, Bool.or_eq_true]
            exact .inl (hqueried (ReplyServices.unraised_graphState (by simpa using hmarks) hstate
              hmark))

/-- The history of a conversation that no event has reached. -/
def start : RecheckHistory := ⟨∅, false⟩

/-- The handler of a message for which the router marks a recheck has the backend asked exactly
when its state says so.  In every run whose marking turns have the backend asked, the backend was
asked wherever a recheck is pending. -/
theorem recheck_queried (events : List RecheckStep) :
    (∀ (services : GraphServices) (input : GraphInput)
        (evaluation : RouterSettings.DisputeEvaluation) (routed handled : NodeState),
      services.MarksRecheck (services.beforeRouter (input.buildGraphState services.rt))
        evaluation →
      services.routedState (input.buildGraphState services.rt) = .ok routed →
      services.llmSopNode services.slots routed = .ok handled →
      (CommandType.backendQuery ∈ handled.types ↔
        services.queriesBackend (services.withPlannedSlots services.slots routed))) ∧
    (EveryStep Answers step start events → (runSteps step start events).Queried) := by
  constructor
  · intro services input evaluation routed handled hmarks hrouted hhandled
    exact GraphServices.query_mem_of_marksRecheck rfl hmarks hrouted hhandled
  · intro hanswers
    refine hanswers.invariant ?_ fun history e hqueried => queried_step hqueried e
    intro hmark
    cases hmark

/-! ## A dispute that nobody checks -/

/-- The slot memory behind a conclusion about a blocked withdrawal. -/
def concludedMemory : JsonObject := .ofList [("account_or_phone", .str "juan77"),
  ("backend_conclusion", .obj (.ofList [("fingerprint", .str "f1"),
    ("intent", .str "withdrawal_blocked_or_rollover")]))]

/-- A customer disputes the conclusion, in a conversation at some stage. -/
def dispute (workflowStage : Option String) : GraphInput :=
  .plain "sigue fallando" (some "withdrawal_blocked_or_rollover") workflowStage concludedMemory

/-- The conclusion is written. -/
def concluded : RecheckStep := .update concludedMemory [] (Unmarked.ofList (by decide))

/-- The conclusion is written, and then the customer disputes it. -/
def disputeAt (workflowStage : Option String) : List RecheckStep :=
  [concluded, .turn .plain (dispute workflowStage)]

/-- A message outside a waiting stage has the backend asked. -/
theorem recheck_queried_once : (runSteps step start (disputeAt none)).Queried := by
  refine (recheck_queried _).2 ?_
  have hconcluded : EveryStep Answers step start [concluded] := by
    refine everyStep_concat.mpr ⟨EveryStep.nil, ?_⟩
    trivial
  have hanswers : Answers (runSteps step start [concluded]) (.turn .plain (dispute none)) := by
    intro hmarks
    have hasked : (ReplyServices.plain.graphState (dispute none)).toOption.any
        (fun state => state.types.contains .backendQuery) = true := by
      decide +kernel
    obtain ⟨state, hstate, hquery⟩ := toOption_any_eq_true.mp hasked
    exact (ReplyServices.query_mem_graphState hmarks hstate).mp (List.contains_iff_mem.mp hquery)
  exact everyStep_concat.mpr ⟨hconcluded, hanswers⟩

/-- At the stage that the backend's reply leaves, the router marks a recheck and the handler only
answers; the recheck stays pending, and the backend is not asked. -/
theorem recheck_never_queried :
    GraphServices.plain.marksRecheck (GraphServices.plain.beforeRouter
        ((dispute (some "backend_replied")).buildGraphState .plain)) = true ∧
      ((GraphServices.plain.routedState
        ((dispute (some "backend_replied")).buildGraphState .plain)).bind
          (GraphServices.plain.llmSopNode GraphServices.plain.slots)).toOption.any
            (fun handled => !handled.types.contains .backendQuery) = true ∧
      ¬ (runSteps step start (disputeAt (some "backend_replied"))).Queried := by
  refine ⟨by decide +kernel, by decide +kernel, fun hqueried => ?_⟩
  exact absurd (hqueried (by decide +kernel)) (by decide +kernel)

end RecheckHistory

end AiCustomerService
