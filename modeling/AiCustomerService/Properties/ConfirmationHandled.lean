import AiCustomerService.Properties.NegatedReceipt

/-!
# Confirmations of the router and of the handler

The router reads a text as the confirmation of a case with one pattern, and the handler reads it
again with another one.  A confirmation that only the router knows falls through to the branch
for complaints.
-/

namespace AiCustomerService

open Support

/-- The plans keep what the memory says about the case: its id, the last reply of the staff and
the times of the case. -/
def PlansKeepCase (settings : TurnSettings) : Prop :=
  ∀ s : TurnState, ∀ key ∈ ["telegram_internal_case_id", "last_telegram_staff_reply_type",
      "telegram_case_resolved_at", "telegram_case_created_at"],
    getKey (settings.planSopDialogue s).slotMemory key = getKey s.slotMemory key

/-- The router's money-case branch takes the text for a confirmation of the case. -/
def ConfirmedByRouter (settings : TurnSettings) (s : TurnState) (case : MoneyCase) : Prop :=
  resolveMoneyCaseFollowup settings.rt settings.tables settings.services
      s.telegramMoneyCaseCandidates (strip s.text)
      (getKey s.slotMemory "telegram_message_id") =
    .matched case .customerConfirmedResolved

/-- What the router hands on is turned into the resolved state of the case. -/
def HandledAsConfirmation (settings : TurnSettings) (s : TurnState) (case : MoneyCase) : Prop :=
  ∃ routed, crossThreadMoneyCaseRoute settings s (strip s.text) = some routed ∧
    handleWaitingBackend settings routed =
      .ok (.resolved (some ⟨case.id, "completed_confirmed_by_customer"⟩))

/-- The handler recognizes a resolution, and the text is not older than one. -/
def RecognizedByHandler (settings : TurnSettings) (s : TurnState) : Prop :=
  hasWorkflowResolutionSignal settings s s.text s.slotMemory = true ∧
    isDelayedSupplementForResolvedCase settings.rt s s.slotMemory = false

variable {settings : TurnSettings} {s : TurnState} {case : MoneyCase}

/-- The state of the confirmed case. -/
def confirmedTurn (s : TurnState) (case : MoneyCase) : TurnState :=
  { s with
    route := some "sop"
    workflowRelation := some "current_workflow_resolution"
    activeWorkflow := some case.intent
    workflowStage := some "waiting_backend"
    slotMemory := s.slotMemory.set "telegram_internal_case_id" (.int case.id)
    matchedTelegramMoneyCase := some case }

theorem route_of_confirmed (h : ConfirmedByRouter settings s case) :
    crossThreadMoneyCaseRoute settings s (strip s.text) = some (confirmedTurn s case) := by
  have hcandidates : s.telegramMoneyCaseCandidates ≠ [] := by
    intro hnone
    rw [ConfirmedByRouter, hnone] at h
    have hempty := (@resolveMoneyCaseFollowup_eq_none_iff settings.rt settings.tables
      settings.services [] (strip s.text) (getKey s.slotMemory "telegram_message_id")).mpr
      (Or.inr rfl)
    rw [hempty] at h
    cases h
  rw [crossThreadMoneyCaseRoute, if_neg (by simpa [List.isEmpty_iff] using hcandidates)]
  rw [ConfirmedByRouter] at h
  rw [h]
  simp [confirmedTurn]

section Handler

variable (hplans : PlansKeepCase settings)

include hplans

/-- The plan for the confirmed case reads the memory as the state does. -/
theorem plan_reads_memory {key : String}
    (hkey : key ∈ ["last_telegram_staff_reply_type", "telegram_case_resolved_at",
      "telegram_case_created_at"]) :
    getKey (settings.planSopDialogue (confirmedTurn s case)).slotMemory key =
      getKey s.slotMemory key := by
  rw [hplans _ key (List.mem_cons_of_mem _ hkey)]
  have hother : key ≠ "telegram_internal_case_id" := by
    rintro rfl
    simp at hkey
  simp [confirmedTurn, getKey, hother]

theorem plan_reads_caseId :
    getKey (settings.planSopDialogue (confirmedTurn s case)).slotMemory
      "telegram_internal_case_id" = .int case.id := by
  rw [hplans _ _ List.mem_cons_self]
  simp [confirmedTurn, getKey]

theorem signal_of_confirmedTurn :
    hasWorkflowResolutionSignal settings (confirmedTurn s case) (confirmedTurn s case).text
        (settings.planSopDialogue (confirmedTurn s case)).slotMemory =
      hasWorkflowResolutionSignal settings s s.text s.slotMemory := by
  rw [hasWorkflowResolutionSignal, plan_reads_memory hplans (by simp)]
  rfl

theorem delayed_of_confirmedTurn :
    isDelayedSupplementForResolvedCase settings.rt (confirmedTurn s case)
        (settings.planSopDialogue (confirmedTurn s case)).slotMemory =
      isDelayedSupplementForResolvedCase settings.rt s s.slotMemory := by
  rw [isDelayedSupplementForResolvedCase, isDelayedSupplementForResolvedCase,
    plan_reads_memory hplans (by simp), plan_reads_memory hplans (by simp)]
  rfl

theorem resolvedState_of_confirmedTurn :
    resolvedState settings.rt (settings.planSopDialogue (confirmedTurn s case)).slotMemory =
      .ok (.resolved (some ⟨case.id, "completed_confirmed_by_customer"⟩)) := by
  rw [resolvedState, plan_reads_caseId hplans]
  rfl

/-- A state of another branch is not the resolved one. -/
theorem handled_iff_recognized :
    handleWaitingBackend settings (confirmedTurn s case) =
        .ok (.resolved (some ⟨case.id, "completed_confirmed_by_customer"⟩)) ↔
      RecognizedByHandler settings s := by
  have hrelation : (confirmedTurn s case).relation
      (settings.planSopDialogue (confirmedTurn s case)) = some "current_workflow_resolution" := by
    simp [TurnState.relation, confirmedTurn]
  unfold handleWaitingBackend RecognizedByHandler
  simp only [hrelation, signal_of_confirmedTurn hplans, delayed_of_confirmedTurn hplans,
    resolvedState_of_confirmedTurn hplans]
  by_cases hdelayed : isDelayedSupplementForResolvedCase settings.rt s s.slotMemory = true
  · simp [hdelayed]
  · by_cases hsignal : hasWorkflowResolutionSignal settings s s.text s.slotMemory = true
    · simp [hdelayed, hsignal]
    · rw [if_neg hdelayed, if_neg (by simp [hsignal])]
      constructor
      · intro h
        split at h
        · cases h
        · split at h
          · cases h
          · simp only [confirmedTurn, moneyCaseFollowupState] at h
            split at h
            · cases h
            · cases h
      · rintro ⟨hsignal', -⟩
        exact absurd hsignal' hsignal

end Handler

/-- A confirmation of the router becomes the resolved state of its case exactly when the handler
recognizes a resolution as well and the text is not older than one. -/
theorem confirmation_handled_iff (settings : TurnSettings) (hplans : PlansKeepCase settings)
    (s : TurnState) (case : MoneyCase) (h : ConfirmedByRouter settings s case) :
    HandledAsConfirmation settings s case ↔ RecognizedByHandler settings s := by
  rw [HandledAsConfirmation, route_of_confirmed h, ← @handled_iff_recognized settings s case hplans]
  simp

/-! ## A confirmation that only the router knows -/

/-- A chat with one open withdrawal case, whose customer writes the text. -/
def turnOf (text : String) : TurnState := { deniedTurn with rawUserInput := some text }

/-- The case, with its status normalized. -/
def openCase : MoneyCase := ⟨7, "withdrawal_missing", some "under_review", some 100, ∅, ∅⟩

theorem plansKeepCase_plainTurns : PlansKeepCase plainTurns := fun _ _ _ => rfl

/-- The customer who has received the money is treated as one who complains. -/
theorem traditional_confirmation_is_a_reminder :
    ConfirmedByRouter plainTurns (turnOf "已經收到") openCase ∧
      handleWaitingBackend plainTurns (confirmedTurn (turnOf "已經收到") openCase) =
        .ok (.moneyCaseFollowup .pendingFollowUp none) ∧
      ¬ HandledAsConfirmation plainTurns (turnOf "已經收到") openCase := by
  have hconfirmed : ConfirmedByRouter plainTurns (turnOf "已經收到") openCase := by
    rfl
  have hhandled : handleWaitingBackend plainTurns (confirmedTurn (turnOf "已經收到") openCase) =
      .ok (.moneyCaseFollowup .pendingFollowUp none) := by
    rfl
  refine ⟨hconfirmed, hhandled, ?_⟩
  rintro ⟨routed, hrouted, hresolved⟩
  rw [route_of_confirmed hconfirmed] at hrouted
  cases hrouted
  rw [hhandled] at hresolved
  cases hresolved

/-- An English confirmation is known to both. -/
theorem english_confirmation_is_handled :
    HandledAsConfirmation plainTurns (turnOf "It has arrived") openCase :=
  (confirmation_handled_iff plainTurns plansKeepCase_plainTurns (turnOf "It has arrived") openCase
    (by rfl)).mpr ⟨by decide +kernel, by decide +kernel⟩

end AiCustomerService
