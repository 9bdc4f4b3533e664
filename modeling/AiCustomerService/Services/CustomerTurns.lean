import AiCustomerService.Db.CaseCandidates
import AiCustomerService.Db.CaseStatus
import AiCustomerService.Services.Gateway
import AiCustomerService.Workflows.WaitingBackend

/-!
# Turns of a customer

`GatewayService.process_event` for an event that runs the workflow graph: the candidates are
listed, the router and the node decide over the Telegram cases, and the outcome is committed.
-/

namespace AiCustomerService

open Support

/-- The parts of the workflow graph: what the money cases need, the other branches of the router,
and the buttons that the gateway answers itself. -/
structure GraphSettings where
  turn : TurnSettings
  branches : RouterBranches
  preGraph : StandardEvent → ConversationView → Except PyError (Option GatewayOutput)

/-- An event with what the graph takes from elsewhere: the fields of the state beside the memory
and the candidates, the times of the cases, and the rest of the commit. -/
structure CustomerTurn where
  context : TxContext
  inboundEventId : Nat
  event : StandardEvent
  inputs : TurnState
  updatedAt : Nat → Nat
  finish : TurnState → Option WaitingOutcome → Except PyError GatewayOutput

/-- The chat of the event, as its conversation knows it. -/
def CustomerTurn.chatId (turn : CustomerTurn) : String := textOr turn.event.chatId "unknown"

/-- The first transaction: the conversation is loaded. -/
def CustomerTurn.load (turn : CustomerTurn) (db : Database) : Database × ConversationView :=
  loadTransactionalConversation db turn.context turn.event

/-- `_with_money_case_candidates`. -/
def CustomerTurn.withMoneyCaseCandidates (settings : GraphSettings) (turn : CustomerTurn)
    (db : Database) (conversation : ConversationView) : Database × List MoneyCase :=
  if hasText turn.event.threadId && hasText turn.event.chatId then
    listMoneyCaseCandidates settings.turn.rt settings.turn.services turn.updatedAt db
      (textOr (some conversation.tenantId) (textOr turn.event.organizationId "default"))
      turn.chatId (turn.event.threadId.getD "")
  else (db, [])

/-- The state that the graph starts from. -/
def CustomerTurn.initialState (settings : GraphSettings) (turn : CustomerTurn) (db : Database) :
    TurnState :=
  let loaded := turn.load db
  { turn.inputs with
    slotMemory := loaded.2.slotMemory
    telegramMoneyCaseCandidates := (turn.withMoneyCaseCandidates settings loaded.1 loaded.2).2
    matchedTelegramMoneyCase := none }

/-- The state that the router hands on. -/
def CustomerTurn.routed (settings : GraphSettings) (turn : CustomerTurn) (db : Database) :
    TurnState :=
  intentRouter settings.turn settings.branches (turn.initialState settings db)

/-- What `handle_waiting_backend` returns, where the route comes to it. -/
def waitingOutcome (settings : GraphSettings) (routed : TurnState) :
    Except PyError (Option WaitingOutcome) :=
  if routed.route = some "sop" ∧ awaitsBackend settings.turn routed then
    some <$> handleWaitingBackend settings.turn routed
  else .ok none

/-- The part of the returned state that concerns the case and the memory. -/
def WaitingOutcome.committed (settings : GraphSettings) (routed : TurnState)
    (graphState : GraphState) (outcome : WaitingOutcome) : GraphState :=
  let memory := (settings.turn.planSopDialogue routed).slotMemory
  match outcome with
  | .resolved update =>
      { graphState with
        activeWorkflow := none
        workflowStage := some "completed"
        slotMemory := some (memory.set "customer_confirmed_resolved" (.bool true))
        telegramCaseUpdate := update }
  | .moneyCaseFollowup _ update =>
      { graphState with
        workflowStage := some "waiting_backend"
        slotMemory :=
          some (match routed.matchedTelegramMoneyCase with
            | some case => memory.set "telegram_internal_case_id" (.int case.id)
            | none => memory)
        telegramCaseUpdate := update }
  | _ => { graphState with telegramCaseUpdate := none }

/-- The graph: router, node and the rest. -/
def CustomerTurn.runGraph (settings : GraphSettings) (turn : CustomerTurn) (db : Database) :
    Except PyError GatewayOutput := do
  let routed := turn.routed settings db
  let outcome ← waitingOutcome settings routed
  let output ← turn.finish routed outcome
  pure
    { output with
      graphState :=
        match outcome with
        | some outcome => outcome.committed settings routed output.graphState
        | none => { output.graphState with telegramCaseUpdate := none } }

/-- The workflow of the turn. -/
def CustomerTurn.workflow (settings : GraphSettings) (turn : CustomerTurn) (db : Database) :
    Workflow where
  preGraph := settings.preGraph
  runGraph _ _ := turn.runGraph settings db

/-- The graph runs for the event: nobody has taken over, and no button answers it. -/
def CustomerTurn.runsGraph (settings : GraphSettings) (turn : CustomerTurn) (db : Database) :
    Bool :=
  let conversation := reopenClosedConversation (turn.load db).2 turn.event
  !isHumanAgentPublicReply turn.event && !isAutomationSuspended conversation &&
    (match settings.preGraph turn.event conversation with
      | .ok none => true
      | _ => false) &&
    (shouldEnqueueReply turn.event || turn.event.standardEventType = "FILE_RECEIVED")

/-- The database after the turn; an exception leaves what has been written before the commit. -/
def CustomerTurn.execute (settings : GraphSettings) (turn : CustomerTurn) (db : Database) :
    Database :=
  let loaded := turn.load db
  let listed := (turn.withMoneyCaseCandidates settings loaded.1 loaded.2).1
  match commitEvent settings.turn.rt (turn.workflow settings db) listed turn.context
      turn.inboundEventId turn.event loaded.2 with
  | .ok done => done.1
  | .error _ => listed

/-! ## What the router hands on -/

theorem telegramCases_load (turn : CustomerTurn) (db : Database) :
    (turn.load db).1.telegramCases = db.telegramCases := by
  simp only [CustomerTurn.load, loadTransactionalConversation, getOrCreateOnConnection_eq]
  exact telegramCases_entered db _ _

/-- A candidate of the turn is an open case of its chat. -/
theorem exists_row_of_initialState {settings : GraphSettings} {turn : CustomerTurn}
    {db : Database} {case : MoneyCase}
    (h : case ∈ (turn.initialState settings db).telegramMoneyCaseCandidates) :
    ∃ row ∈ db.telegramCases, row.id = case.id ∧ row.chatId = turn.chatId ∧ row.IsOpen := by
  simp only [CustomerTurn.initialState, CustomerTurn.withMoneyCaseCandidates] at h
  split at h
  · rw [← telegramCases_load turn db]
    exact exists_row_of_candidate h
  · cases h

/-- No other branch of the router matches a case. -/
def RouterBranches.MatchNothing (branches : RouterBranches) : Prop :=
  (∀ s routed, branches.earlier s = some routed →
      routed.matchedTelegramMoneyCase = s.matchedTelegramMoneyCase) ∧
    ∀ s, (branches.later s).matchedTelegramMoneyCase = s.matchedTelegramMoneyCase

theorem matchedCase_case {case case' : MoneyCase} {customerConfirmed : Bool} {kind : FollowUpKind}
    (h : matchedCase case customerConfirmed = .matched case' kind) : case = case' := by
  unfold matchedCase at h
  cases h
  rfl

/-- A matched case is one of the candidates. -/
theorem mem_candidates_of_matched {rt : Runtime} {tables : PatternTables}
    {services : StaffReplyServices} {candidates : List MoneyCase} {text : String}
    {inheritedRoot : Json} {case : MoneyCase} {kind : FollowUpKind}
    (h : resolveMoneyCaseFollowup rt tables services candidates text inheritedRoot =
      .matched case kind) : ∃ candidate ∈ candidates, candidate.id = case.id := by
  have heligible : case ∈ eligibleCases rt services (tables.isMoneyCaseFollowupText text)
      (tables.isConfirmationText text) candidates := by
    simp only [resolveMoneyCaseFollowup] at h
    split at h
    · cases h
    · split at h
      · cases h
      · split at h
        · rename_i hnamed
          exact (List.mem_filter.mp (matchedCase_case h ▸ mem_of_onlyOne? hnamed)).1
        · split at h
          · cases h
          · split at h
            · rename_i hroot
              exact (List.mem_filter.mp (matchedCase_case h ▸ mem_of_onlyOne? hroot)).1
            · split at h
              · rename_i hone
                exact matchedCase_case h ▸ mem_of_onlyOne? hone
              · cases h
  obtain ⟨candidate, hmem, rfl⟩ := List.mem_map.mp (List.mem_filter.mp heligible).1
  exact ⟨candidate, hmem, rfl⟩

/-- A case that the router matched is one of the candidates, and the memory names it. -/
theorem matched_of_intentRouter {settings : TurnSettings} {branches : RouterBranches}
    (hbranches : branches.MatchNothing) {s : TurnState} {case : MoneyCase}
    (hnone : s.matchedTelegramMoneyCase = none)
    (h : (intentRouter settings branches s).matchedTelegramMoneyCase = some case) :
    getKey (intentRouter settings branches s).slotMemory "telegram_internal_case_id" =
        .int case.id ∧
      ∃ candidate ∈ s.telegramMoneyCaseCandidates, candidate.id = case.id := by
  unfold intentRouter at h ⊢
  cases hearlier : branches.earlier s with
  | some routed =>
      rw [hearlier] at h
      have hsame := hbranches.1 s routed hearlier
      rw [hnone] at hsame
      exact absurd (hsame.symm.trans h) (by simp)
  | none =>
      rw [hearlier] at h
      simp only at h ⊢
      cases hroute : crossThreadMoneyCaseRoute settings s (strip s.text) with
      | none =>
          rw [hroute] at h
          have hsame := hbranches.2 s
          rw [hnone] at hsame
          exact absurd (hsame.symm.trans h) (by simp)
      | some routed =>
          rw [hroute] at h
          simp only at h ⊢
          unfold crossThreadMoneyCaseRoute at hroute
          split at hroute
          · cases hroute
          · split at hroute
            · cases hroute
            · cases hroute
              simp only at h
              rw [hnone] at h
              cases h
            · rename_i hresolution
              cases hroute
              simp only [Option.some.injEq] at h
              subst h
              exact ⟨by simp [getKey], mem_candidates_of_matched hresolution⟩

end AiCustomerService
