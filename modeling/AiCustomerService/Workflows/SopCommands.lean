import AiCustomerService.Workflows.SopHandlers

/-!
# The commands of the handlers

Which commands a message to a workflow issues: the handlers set the whole list, so the branch
that was taken tells the types of the commands.
-/

namespace AiCustomerService

open Support

/-- The types of the commands of a state. -/
def NodeState.types (s : NodeState) : List CommandType := s.commands.map WorkflowCommand.type

namespace SopSettings

variable {settings : SopSettings} {s r : NodeState}

@[simp]
theorem types_withReply (s : NodeState) (text : String) : (s.withReply text).types = [] := rfl

@[simp]
theorem types_withCommands (s : NodeState) (commands : List WorkflowCommand) :
    (s.withCommands commands).types = commands.map WorkflowCommand.type := rfl

@[simp]
theorem types_set (s : NodeState) (key : String) (value : Json) :
    (s.set key value).types = s.types := rfl

/-! ## Waiting for the backend -/

/-- The types of the commands of `supplementState`. -/
def supplementTypes (settings : SopSettings) (s : NodeState) (slotMemory : JsonObject)
    (plan : SopDialoguePlan) : List CommandType :=
  if s.activeWorkflow settings.rt = "withdrawal_blocked_or_rollover" ∧
      (getKey slotMemory "account_or_phone").truthy = true then [.backendQuery]
  else if (getKey slotMemory "telegram_case_id").truthy &&
      (getKey slotMemory "telegram_message_id").truthy then [.telegramAppendToCase]
  else if settings.asksForHuman s plan then [.humanHandoffRequested]
  else []

theorem types_supplementState (s : NodeState) (slotMemory : JsonObject) (plan : SopDialoguePlan) :
    (settings.supplementState s slotMemory plan).types =
      settings.supplementTypes s slotMemory plan := by
  unfold supplementState supplementTypes
  split
  · rfl
  · split
    · rfl
    · split
      · rfl
      · rfl

/-- A text that adds nothing hands a waiting customer to a human. -/
def idleHandsOff (settings : SopSettings) (s : NodeState) (slotMemory : JsonObject)
    (plan : SopDialoguePlan) : Bool :=
  let text := s.inputText settings.rt
  settings.asksForHuman s plan ||
    !(getKey slotMemory "backend_recheck_pending").truthy &&
      (decide ((settings.evaluateSopPolicy (s.activeWorkflow settings.rt) plan.slotMemory
          (s.get "status") (s.get "active_workflow") "waiting_backend" text
          s.attachments).action = "human_handoff") ||
        settings.isWaitingBackendDispute text &&
          (settings.incrementHandoffCounter slotMemory
            "waiting_backend_dispute_count").toOption.any fun counted => decide (2 ≤ counted.2))

theorem types_idleState {slotMemory : JsonObject} {plan : SopDialoguePlan}
    (h : settings.idleState s slotMemory plan = .ok r) :
    r.types = if settings.idleHandsOff s slotMemory plan then [.humanHandoffRequested] else [] := by
  unfold idleState at h
  unfold idleHandsOff
  simp only at h ⊢
  split at h
  · rename_i hasks
    cases h
    rw [hasks]
    rfl
  · rename_i hasks
    rw [Bool.not_eq_true] at hasks
    rw [hasks]
    split at h
    · rename_i hpending
      cases h
      rw [hpending]
      rfl
    · rename_i hpending
      rw [Bool.not_eq_true] at hpending
      rw [hpending]
      split at h
      · rename_i hpolicy
        cases h
        simp [hpolicy, buildHandoffState, command]
      · rename_i hpolicy
        split at h
        · rename_i hdispute
          obtain ⟨⟨counted, count⟩, hcount, h⟩ := bind_eq_ok.mp h
          simp only at h
          split at h
          · rename_i hrepeat
            cases h
            simp [hpolicy, hdispute, hcount, Except.toOption, hrepeat, buildHandoffState, command]
          · rename_i hrepeat
            cases h
            simp [hpolicy, hdispute, hcount, Except.toOption, hrepeat, waitingReply]
        · rename_i hdispute
          cases h
          simp [hpolicy, hdispute, waitingReply]

/-- The message comes to the branches of `handle_waiting_backend` for a case. -/
def concernsCase (settings : SopSettings) (s : NodeState) (plan : SopDialoguePlan) : Bool :=
  let text := s.inputText settings.rt
  let relation := waitingRelation s plan
  !isDelayedSupplementForResolvedCase settings.rt (turnState s) plan.slotMemory &&
    !(relation.eqText "current_workflow_resolution" &&
      settings.hasResolutionSignal s plan.slotMemory) &&
    !(relation.eqText "acknowledgement" || isAcknowledgement settings.turnSettings text) &&
    !(relation.eqText "contextual_followup" || isNameOfferFollowup settings.turnSettings text)

/-- The slot memory of a message that concerns a case. -/
def waitingMemory (settings : SopSettings) (s : NodeState) (plan : SopDialoguePlan) : JsonObject :=
  if awaitsSupplement s plan.slotMemory then
    settings.mergeWaitingSupplement plan.slotMemory (s.inputText settings.rt)
  else plan.slotMemory

/-- The types of the commands of a message that concerns a case. -/
def caseTypes (settings : SopSettings) (s : NodeState) (plan : SopDialoguePlan) :
    List CommandType :=
  let memory := settings.waitingMemory s plan
  if s.matchedTelegramMoneyCase.isSome then [.telegramRemindCase]
  else if settings.hasSupplement s plan then settings.supplementTypes s memory plan
  else if settings.idleHandsOff s memory plan then [.humanHandoffRequested]
  else []

theorem types_resolvedState {slotMemory : JsonObject}
    (h : settings.resolvedState s slotMemory = .ok r) : r.types = [] := by
  unfold resolvedState at h
  simp only at h
  split at h
  · cases h
    rfl
  · obtain ⟨caseId, -, h⟩ := bind_eq_ok.mp h
    cases h
    rfl

/-- The commands of a customer who waits. -/
theorem types_handleWaitingBackend (h : settings.handleWaitingBackend s = .ok r) :
    ∃ plan, planSopDialogueFromState settings.rt settings.tables s
        (s.activeWorkflow settings.rt) = .ok plan ∧
      r.types = if settings.concernsCase s plan then settings.caseTypes s plan else [] := by
  obtain ⟨plan, hplan, h⟩ := bind_eq_ok.mp h
  refine ⟨plan, hplan, ?_⟩
  simp only at h
  split at h
  · rename_i hdelayed
    have hother : settings.concernsCase s plan = false := by simp [concernsCase, hdelayed]
    cases h
    rw [hother]
    rfl
  · rename_i hdelayed
    split at h
    · rename_i hresolved
      have hother : settings.concernsCase s plan = false := by simp [concernsCase, hresolved]
      rw [hother, types_resolvedState h]
      rfl
    · rename_i hresolved
      split at h
      · rename_i hack
        have hother : settings.concernsCase s plan = false := by simp [concernsCase, hack]
        cases h
        rw [hother]
        rfl
      · rename_i hack
        split at h
        · rename_i hcontext
          have hother : settings.concernsCase s plan = false := by simp [concernsCase, hcontext]
          cases h
          rw [hother]
          rfl
        · rename_i hcontext
          have hcase : settings.concernsCase s plan = true := by
            simp only [Bool.not_eq_true] at hdelayed hresolved hack hcontext
            simp only [concernsCase, hdelayed, hresolved, hack, hcontext, Bool.not_false,
              Bool.and_self]
          rw [hcase, if_pos rfl]
          unfold caseTypes
          split at h
          · rename_i case hmatched
            cases h
            rw [hmatched]
            unfold moneyCaseFollowupState
            simp only
            split
            · rfl
            · rfl
          · rename_i hmatched
            split at h
            · rename_i hsupplement
              cases h
              rw [types_supplementState, hsupplement, hmatched]
              rfl
            · rename_i hsupplement
              rw [Bool.not_eq_true] at hsupplement
              rw [types_idleState h, hsupplement, hmatched]
              rfl

/-! ## Collecting slots -/

/-- The types of the commands of a message about money that is missing. -/
def moneyTypes : List CommandType := [.telegramSendCaseCard, .livechatSendImage, .livechatSendText]

theorem types_moneyMissingSop {intent : String} (h : settings.moneyMissingSop s intent = .ok r) :
    ∀ type ∈ r.types, type ∈ moneyTypes := by
  obtain ⟨plan, -, h⟩ := bind_eq_ok.mp h
  have hstates (c : Bool) {t t' : NodeState} (ht : ∀ type ∈ t.types, type ∈ moneyTypes)
      (ht' : ∀ type ∈ t'.types, type ∈ moneyTypes) :
      (if c = true then pure (atStage t intent "waiting_backend")
        else pure (atStage t' intent "collecting_slots") : Except PyError NodeState) = .ok r →
      ∀ type ∈ r.types, type ∈ moneyTypes := by
    intro h
    cases c with
    | true =>
        cases h
        exact ht
    | false =>
        cases h
        exact ht'
  simp only at h
  have hcommands (send intro : Prop) [Decidable send] [Decidable intro] (payload : JsonObject)
      (reply : String) : ∀ type ∈ (if send then
        [buildSopCommand .telegramSendCaseCard s intent payload ∅]
      else if intro then settings.depositIntroCommands s reply else []).map WorkflowCommand.type,
        type ∈ moneyTypes := by
    split
    · simp [buildSopCommand, command, moneyTypes]
    · split
      · simp [depositIntroCommands, moneyTypes]
      · simp
  refine hstates _ ?_ ?_ h
  · exact hcommands _ _ _ _
  · exact hcommands _ _ _ _

theorem types_withdrawalBlockedSop (s : NodeState) :
    (settings.withdrawalBlockedSop s).types =
      if !settings.changesWallet s &&
          (getKey (settings.blockedMemory s) "account_or_phone").truthy then [.backendQuery]
      else [] := by
  unfold withdrawalBlockedSop
  simp only
  split
  · rename_i hchanges
    rw [hchanges]
    rfl
  · rename_i hchanges
    rw [Bool.not_eq_true] at hchanges
    rw [hchanges]
    split
    · rename_i hidentity
      rw [Bool.not_eq_true'] at hidentity
      rw [hidentity]
      rfl
    · rename_i hidentity
      rw [Bool.not_eq_true', Bool.not_eq_false] at hidentity
      rw [hidentity]
      rfl

theorem types_pendingReplyLookupSop (s : NodeState) :
    ∀ type ∈ (settings.pendingReplyLookupSop s).types, type = .pendingReplyLookup := by
  unfold pendingReplyLookupSop
  dsimp only
  have hstates (c : Prop) [Decidable c] {t t' : NodeState} (ht : t.types = [])
      (ht' : t'.types = [.pendingReplyLookup]) :
      ∀ type ∈ (if c then t else t').types, type = .pendingReplyLookup := by
    split
    · simp [ht]
    · simp [ht']
  exact hstates _ rfl rfl

end SopSettings

end AiCustomerService
