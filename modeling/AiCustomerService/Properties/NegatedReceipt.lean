import AiCustomerService.Workflows.WaitingBackend

/-!
# Texts that deny receipt

A money case is closed when its customer confirms that the money has arrived.  The patterns of
the confirmation know no negation: "I never received it" contains "received it".
-/

namespace AiCustomerService

open Support

/-- Each receipt phrase of the text is negated: `source_negated_success` matches, and without its
matches no confirmation is left. -/
def DeniesReceipt (tables : PatternTables) (text : String) : Prop :=
  tables.sourceNegatedSuccess.found text.toList = true ∧
    tables.customerConfirmedPattern.found (tables.sourceNegatedSuccess.remove text.toList) = false

instance (tables : PatternTables) (text : String) : Decidable (DeniesReceipt tables text) :=
  inferInstanceAs (Decidable (_ ∧ _))

/-- The text is confirmed for none of the candidates, and the turn closes no case. -/
def KeepsCasesOpen (settings : TurnSettings) (branches : RouterBranches) (s : TurnState) : Prop :=
  (resolveMoneyCaseFollowup settings.rt settings.tables settings.services
      s.telegramMoneyCaseCandidates (strip s.text)
      (getKey s.slotMemory "telegram_message_id")).followUpKind ≠
    some .customerConfirmedResolved ∧
  ∀ update, turnCaseUpdate settings branches s = .ok (some update) →
    update.status ≠ "completed_confirmed_by_customer"

/-- The candidates that the text may be about. -/
def openCases (settings : TurnSettings) (s : TurnState) : List MoneyCase :=
  eligibleCases settings.rt settings.services
    (settings.tables.isMoneyCaseFollowupText (strip s.text))
    (settings.tables.isConfirmationText (strip s.text)) s.telegramMoneyCaseCandidates

/-- The text reads as a confirmation, and one open case is singled out. -/
def ConfirmsCase (settings : TurnSettings) (s : TurnState) : Prop :=
  settings.tables.isConfirmationText (strip s.text) = true ∧
    SinglesOut settings.rt settings.tables (strip s.text)
      (getKey s.slotMemory "telegram_message_id") (openCases settings s)

/-- The router does not treat the text as one about a money case. -/
def PassesMoneyCases (settings : TurnSettings) (s : TurnState) : Prop :=
  (settings.tables.isMoneyCaseFollowupText (strip s.text) ||
      settings.tables.isConfirmationText (strip s.text)) = false ∨
    openCases settings s = []

/-- Another branch of the router chose the route, and its choice closes a case. -/
def ClosedElsewhere (settings : TurnSettings) (branches : RouterBranches) (s : TurnState) : Prop :=
  ∃ routed, (branches.earlier s = some routed ∨
      branches.earlier s = none ∧ PassesMoneyCases settings s ∧ branches.later s = routed) ∧
    routed.route = some "sop" ∧ awaitsBackend settings routed = true ∧
      TakenAsResolved settings routed

variable {settings : TurnSettings} {branches : RouterBranches}

/-! ## Routes -/

theorem crossThreadMoneyCaseRoute_eq_none_iff (s : TurnState) :
    crossThreadMoneyCaseRoute settings s (strip s.text) = none ↔ PassesMoneyCases settings s := by
  have hnone := @resolveMoneyCaseFollowup_eq_none_iff settings.rt settings.tables
    settings.services s.telegramMoneyCaseCandidates (strip s.text)
    (getKey s.slotMemory "telegram_message_id")
  unfold crossThreadMoneyCaseRoute PassesMoneyCases openCases
  rw [← hnone]
  split
  · rename_i hempty
    have hcandidates := List.isEmpty_iff.mp hempty
    rw [hnone, hcandidates]
    simp [eligibleCases]
  · split
    · rename_i hresolution
      simp [hresolution]
    · rename_i hresolution
      simp [hresolution]
    · rename_i case kind hresolution
      simp [hresolution]

/-- A route of the money cases is no resolution unless the text was taken for a confirmation. -/
theorem relation_of_moneyCaseRoute {s routed : TurnState}
    (h : crossThreadMoneyCaseRoute settings s (strip s.text) = some routed)
    (hopen : ¬ ConfirmsCase settings s) :
    routed.route ≠ some "sop" ∨ routed.workflowRelation = some "current_sop_supplement" := by
  have hkind := (@followUpKind_eq_confirmed_iff settings.rt settings.tables
    settings.services s.telegramMoneyCaseCandidates (strip s.text)
    (getKey s.slotMemory "telegram_message_id")).not.mpr hopen
  unfold crossThreadMoneyCaseRoute at h
  split at h
  · cases h
  · split at h
    · cases h
    · cases h
      left
      simp
    · rename_i case kind hresolution
      cases h
      right
      rw [hresolution] at hkind
      have hother : kind ≠ .customerConfirmedResolved := by
        intro heq
        exact hkind (by rw [heq]; rfl)
      simp [hother]

theorem turn_closes_iff (s : TurnState) :
    (∃ update, turnCaseUpdate settings branches s = .ok (some update) ∧
        update.status = "completed_confirmed_by_customer") ↔
      (intentRouter settings branches s).route = some "sop" ∧
        awaitsBackend settings (intentRouter settings branches s) = true ∧
        TakenAsResolved settings (intentRouter settings branches s) := by
  unfold turnCaseUpdate
  simp only
  generalize intentRouter settings branches s = routed
  rw [← handleWaitingBackend_closes_iff]
  by_cases hreached : routed.route = some "sop" ∧ awaitsBackend settings routed = true
  · rw [if_pos hreached]
    constructor
    · rintro ⟨update, hupdate, hstatus⟩
      obtain ⟨outcome, houtcome, hresult⟩ := bind_eq_ok.mp hupdate
      exact ⟨hreached.1, hreached.2, outcome, update, houtcome, Except.ok.inj hresult, hstatus⟩
    · rintro ⟨-, -, outcome, update, houtcome, hresult, hstatus⟩
      exact ⟨update, bind_eq_ok.mpr ⟨outcome, houtcome, congrArg Except.ok hresult⟩, hstatus⟩
  · rw [if_neg hreached]
    constructor
    · rintro ⟨update, hupdate, -⟩
      cases hupdate
    · rintro ⟨hroute, hawaits, -⟩
      exact absurd ⟨hroute, hawaits⟩ hreached

/-- Without a confirmed case, a turn closes a case exactly when another branch does. -/
theorem turn_closes_iff_elsewhere {s : TurnState} (hopen : ¬ ConfirmsCase settings s) :
    (∃ update, turnCaseUpdate settings branches s = .ok (some update) ∧
        update.status = "completed_confirmed_by_customer") ↔
      ClosedElsewhere settings branches s := by
  rw [turn_closes_iff]
  unfold ClosedElsewhere intentRouter
  cases hearlier : branches.earlier s with
  | some routed => simp
  | none =>
      simp only
      cases hroute : crossThreadMoneyCaseRoute settings s (strip s.text) with
      | none =>
          have hpasses := (crossThreadMoneyCaseRoute_eq_none_iff s).mp hroute
          simp [hpasses]
      | some routed =>
          have hstops : ¬ PassesMoneyCases settings s := by
            rw [← crossThreadMoneyCaseRoute_eq_none_iff, hroute]
            simp
          have hrelation := relation_of_moneyCaseRoute hroute hopen
          constructor
          · rintro ⟨hsop, -, -, hresolution, -⟩
            rcases hrelation with hroute | hsupplement
            · exact absurd hsop hroute
            · rw [TurnState.relation, hsupplement] at hresolution
              simp at hresolution
          · rintro ⟨_, h, -⟩
            simp [hstops] at h

/-- A text that denies receipt closes no case exactly when it does not read as a confirmation of
a case that is singled out, and no other branch of the router takes it for a resolution. -/
theorem denied_receipt_keeps_open_iff (settings : TurnSettings) (branches : RouterBranches)
    (s : TurnState) :
    (DeniesReceipt settings.tables (strip s.text) → KeepsCasesOpen settings branches s) ↔
      (DeniesReceipt settings.tables (strip s.text) →
        ¬ ConfirmsCase settings s ∧ ¬ ClosedElsewhere settings branches s) := by
  apply imp_congr_right
  intro _
  unfold KeepsCasesOpen
  rw [ne_eq, followUpKind_eq_confirmed_iff]
  apply and_congr_right
  intro hopen
  rw [← turn_closes_iff_elsewhere hopen]
  push Not
  rfl

/-- A chat with one open withdrawal case, whose customer writes. -/
def deniedTurn : TurnState where
  rewrittenQuestion := none
  rawUserInput := some "I never received it"
  slotMemory := ∅
  telegramMoneyCaseCandidates :=
    [⟨7, "withdrawal_missing", some "under_review", some 100, ∅, ∅⟩]
  matchedTelegramMoneyCase := none
  workflowRelation := none
  planRelations := []
  route := none
  activeWorkflow := none
  workflowStage := none
  occurredAt := .null
  recentMessages := []

/-- The planner that keeps the memory, on plain texts. -/
def plainTurns : TurnSettings where
  rt := .plain
  tables := .plain
  services :=
    { normalizeLanguageCode := fun _ => "en"
      process := fun _ text => ⟨"update", text, "rules"⟩
      asksCustomer := fun _ => false
      asksToWait := fun _ => false
      matchesCompletion := fun _ _ => false
      isTerminalOther := fun _ => false
      formatDatetime := toString }
  planSopDialogue := fun s => ⟨s.slotMemory, none⟩

/-- No other branch applies to the text. -/
def noOtherBranch : RouterBranches := ⟨fun _ => none, id⟩

theorem denied_receipt_closes_case :
    DeniesReceipt plainTurns.tables (strip deniedTurn.text) ∧
      (resolveMoneyCaseFollowup plainTurns.rt plainTurns.tables plainTurns.services
          deniedTurn.telegramMoneyCaseCandidates (strip deniedTurn.text) .null).followUpKind =
        some .customerConfirmedResolved ∧
      (turnCaseUpdate plainTurns noOtherBranch deniedTurn).toOption =
        some (some ⟨7, "completed_confirmed_by_customer"⟩) ∧
      ¬ KeepsCasesOpen plainTurns noOtherBranch deniedTurn := by
  have hkind : (resolveMoneyCaseFollowup plainTurns.rt plainTurns.tables plainTurns.services
      deniedTurn.telegramMoneyCaseCandidates (strip deniedTurn.text) .null).followUpKind =
        some .customerConfirmedResolved := by
    decide +kernel
  have hdenies : DeniesReceipt plainTurns.tables (strip deniedTurn.text) := by
    decide +kernel
  have hupdate : (turnCaseUpdate plainTurns noOtherBranch deniedTurn).toOption =
      some (some ⟨7, "completed_confirmed_by_customer"⟩) := by
    rfl
  exact ⟨hdenies, hkind, hupdate, fun hkeeps => hkeeps.1 hkind⟩

end AiCustomerService
