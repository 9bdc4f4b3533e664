import AiCustomerService.Services.TelegramCaseFollowup

/-!
# Waiting for the backend

The router's treatment of money cases of other threads in `app/graph/nodes.py`, and
`handle_waiting_backend` of `app/workflows/waiting_backend_classifier.py` up to the last branch
that may change a Telegram case.
-/

namespace AiCustomerService

open Support

/-- The fields of the graph state that decide over a Telegram case.  The relations of the two
dialogue plans are kept without the plans. -/
structure TurnState where
  rewrittenQuestion : Option String
  rawUserInput : Option String
  slotMemory : JsonObject
  telegramMoneyCaseCandidates : List MoneyCase
  matchedTelegramMoneyCase : Option MoneyCase
  workflowRelation : Option String
  planRelations : List String
  route : Option String
  activeWorkflow : Option String
  workflowStage : Option String
  occurredAt : Json
  recentMessages : List JsonObject

/-- `str(state.get("rewritten_question") or state.get("raw_user_input") or "")`. -/
def TurnState.text (s : TurnState) : String := textOr s.rewrittenQuestion (textOr s.rawUserInput "")

/-- What is read of the plan of `plan_sop_dialogue_from_state`. -/
structure DialoguePlan where
  slotMemory : JsonObject
  intentRelation : Option String

/-- The character tables, the text analysis of staff replies and the dialogue planner. -/
structure TurnSettings where
  rt : Runtime
  tables : PatternTables
  services : StaffReplyServices
  planSopDialogue : TurnState → DialoguePlan

/-! ## Patterns -/

/-- `_is_explicit_resolution_text`. -/
def isExplicitResolutionText (settings : TurnSettings) (text : String) : Bool :=
  let tables := settings.tables
  let raw := settings.rt.lower text
  strip raw ≠ "" && (Regex.oneOf (
    ["已到账", "已到帐", "到帐了", "到账了", "收到了", "已经收到", "已解决", "解决了", "处理好了",
      "已完成", "完成了"].map tables.literal ++
    ["got it", "received", "credited", "arrived", "it arrived", "resolved", "fixed", "done"].map
      (fun words => tables.wholeWords (tables.literal words)) ++
    [.seq [tables.phrase "ya lleg", tables.letterOf "oó"],
      .seq [tables.phrase "ya me lleg", tables.letterOf "oó"]] ++
    ["recibido", "acreditado", "resuelto", "listo"].map tables.literal)).found raw.toList

/-- `_is_resolution_update_text`. -/
def isResolutionUpdateText (settings : TurnSettings) (text : String) : Bool :=
  let tables := settings.tables
  let raw := settings.rt.lower text
  let anything : Regex Char := .many PatternTables.anyChar
  strip raw ≠ "" && (Regex.oneOf (
    ["已到账", "已到帐", "到账成功", "成功到账", "款项已到账", "已成功入账"].map tables.literal ++
    [.seq [tables.literal "已为您核实到", anything, tables.literal "到账"]] ++
    ["successfully credited", "has been credited", "deposit has been credited",
      "credited to your account"].map tables.literal ++
    [.seq [tables.phrase "ya se acredit", tables.letterOf "oó"],
      .seq [tables.literal "dep", tables.letterOf "oó", tables.literal "sito", anything,
        tables.literal "acreditado"]])).found raw.toList

/-- `_is_acknowledgement`. -/
def isAcknowledgement (settings : TurnSettings) (text : String) : Bool :=
  let normalized := (settings.rt.lower text).toList.filter fun c =>
    !(isPySpace c || ".!?。！？…".toList.contains c)
  ["ok", "okay", "好的", "好", "谢谢", "謝謝", "明白", "了解", "收到", "知道了", "thanks", "thankyou",
    "gracias", "vale", "bueno", "listo"].any fun word => word.toList = normalized

/-- `_is_name_offer_followup`. -/
def isNameOfferFollowup (settings : TurnSettings) (text : String) : Bool :=
  let tables := settings.tables
  let anything : Regex Char := .many PatternTables.anyChar
  let name := Regex.oneOf [tables.literal "姓名", tables.literal "名字"]
  (Regex.oneOf [
    tables.wholeWords (tables.literal "may i provide my name"),
    tables.wholeWords (tables.literal "can i provide my name"),
    tables.wholeWords (.seq [tables.literal "can i give ",
      .oneOf [tables.literal "you ", .nothing], tables.literal "my name"]),
    tables.wholeWords (tables.literal "would my name"),
    tables.wholeWords (.seq [tables.literal "name ", .oneOf [tables.literal "instead",
      tables.literal "enough", tables.literal "ok", tables.literal "okay"]]),
    .seq [tables.literal "可以", anything, name],
    .seq [name, anything, tables.literal "可以"]]).found (settings.rt.lower text).toList

/-! ## The handler -/

/-- The message of the staff or the assistant reports a success. -/
def reportsResolution (settings : TurnSettings) (message : JsonObject) : Bool :=
  let role := settings.rt.lower
    (((getKey message "sender_role").orElse (getKey message "role")).textOrEmpty settings.rt)
  role ∈ ["assistant", "telegram", "backend", "staff"] &&
    isResolutionUpdateText settings
      (((getKey message "text_content").orElse (getKey message "text")).textOrEmpty settings.rt)

/-- `has_workflow_resolution_signal`. -/
def hasWorkflowResolutionSignal (settings : TurnSettings) (s : TurnState) (text : String)
    (memory : JsonObject) : Bool :=
  isExplicitResolutionText settings text ||
    (settings.rt.lower ((getKey memory "last_telegram_staff_reply_type").textOrEmpty settings.rt) =
      "resolution" ||
    (s.recentMessages.drop (s.recentMessages.length - 8)).any (reportsResolution settings))

/-- `_parse_datetime`. -/
def TurnState.parseDatetime (rt : Runtime) (value : Json) : Option Nat :=
  if value.truthy then rt.fromIsoFormat (value.pyStr rt) else none

/-- `_is_delayed_supplement_for_resolved_case`. -/
def isDelayedSupplementForResolvedCase (rt : Runtime) (s : TurnState) (memory : JsonObject) : Bool :=
  match TurnState.parseDatetime rt (getKey memory "telegram_case_resolved_at"),
      TurnState.parseDatetime rt s.occurredAt with
  | some resolvedAt, some occurredAt =>
      match TurnState.parseDatetime rt (getKey memory "telegram_case_created_at") with
      | some createdAt =>
          if occurredAt ≤ createdAt then false else decide (occurredAt < resolvedAt)
      | none => decide (occurredAt < resolvedAt)
  | _, _ => false

/-- The states that `handle_waiting_backend` returns; `waiting` stands for those of the branches
after the matched case, which append to a case, hand off or reply. -/
inductive WaitingOutcome where
  | delayedResolvedSupplement
  | resolved (update : Option TelegramCaseUpdate)
  | acknowledgement
  | contextualFollowup
  | moneyCaseFollowup (kind : FollowUpKind) (update : Option TelegramCaseUpdate)
  | waiting

/-- `state.get("telegram_case_update")` of the returned state. -/
def WaitingOutcome.telegramCaseUpdate : WaitingOutcome → Option TelegramCaseUpdate
  | resolved update => update
  | moneyCaseFollowup _ update => update
  | _ => none

/-- `_resolved_state`. -/
def resolvedState (rt : Runtime) (memory : JsonObject) : Except PyError WaitingOutcome :=
  let caseId := getKey memory "telegram_internal_case_id"
  if caseId.isNull then .ok (.resolved none)
  else do
    let caseId ← caseId.toInt rt
    pure (.resolved (some ⟨caseId.toNat, "completed_confirmed_by_customer"⟩))

/-- `_money_case_followup_state`. -/
def moneyCaseFollowupState (case : MoneyCase) : WaitingOutcome :=
  if textOr case.status "under_review" = "completed_by_staff" then
    .moneyCaseFollowup .completionDispute (some ⟨case.id, "completion_disputed"⟩)
  else .moneyCaseFollowup .pendingFollowUp none

/-- The relation of the text to the current workflow. -/
def TurnState.relation (s : TurnState) (plan : DialoguePlan) : Option String :=
  if hasText s.workflowRelation then s.workflowRelation else plan.intentRelation

/-- `handle_waiting_backend`. -/
def handleWaitingBackend (settings : TurnSettings) (s : TurnState) :
    Except PyError WaitingOutcome :=
  let plan := settings.planSopDialogue s
  let relation := s.relation plan
  if isDelayedSupplementForResolvedCase settings.rt s plan.slotMemory then
    .ok .delayedResolvedSupplement
  else if relation = some "current_workflow_resolution" ∧
      hasWorkflowResolutionSignal settings s s.text plan.slotMemory then
    resolvedState settings.rt plan.slotMemory
  else if relation = some "acknowledgement" ∨ isAcknowledgement settings s.text then
    .ok .acknowledgement
  else if relation = some "contextual_followup" ∨ isNameOfferFollowup settings s.text then
    .ok .contextualFollowup
  else
    match s.matchedTelegramMoneyCase with
    | some case => .ok (moneyCaseFollowupState case)
    | none => .ok .waiting

/-! ## The router and the node -/

/-- `_cross_thread_money_case_route`. -/
def crossThreadMoneyCaseRoute (settings : TurnSettings) (s : TurnState) (text : String) :
    Option TurnState :=
  if s.telegramMoneyCaseCandidates.isEmpty then none
  else
    match resolveMoneyCaseFollowup settings.rt settings.tables settings.services
        s.telegramMoneyCaseCandidates text (getKey s.slotMemory "telegram_message_id") with
    | .none => none
    | .ambiguous => some { s with route := some "final_reply", workflowRelation := none }
    | .matched case kind =>
        some { s with
          route := some "sop"
          workflowRelation :=
            some (if kind = .customerConfirmedResolved then "current_workflow_resolution"
              else "current_sop_supplement")
          activeWorkflow := some case.intent
          workflowStage := some "waiting_backend"
          slotMemory := s.slotMemory.set "telegram_internal_case_id" (.int case.id)
          matchedTelegramMoneyCase := some case }

/-- The branches of the router before and after the money cases, those of the language model
included. -/
structure RouterBranches where
  earlier : TurnState → Option TurnState
  later : TurnState → TurnState

/-- `intent_router_node`, and the guarded node around the language model. -/
def intentRouter (settings : TurnSettings) (branches : RouterBranches) (s : TurnState) : TurnState :=
  match branches.earlier s with
  | some routed => routed
  | none =>
      match crossThreadMoneyCaseRoute settings s (strip s.text) with
      | some routed => routed
      | none => branches.later s

/-- `_current_workflow_resolution_relation`. -/
def currentWorkflowResolutionRelation (s : TurnState) : Bool :=
  s.workflowRelation = some "current_workflow_resolution" ||
    s.planRelations.contains "current_workflow_resolution"

/-- The stages in which a customer waits for the backend. -/
def waitingStages : List String :=
  ["waiting_backend", "backend_querying", "backend_replied", "waiting_customer_supplement"]

/-- `sop_node` hands the text to `handle_waiting_backend` and not to `run_sop`. -/
def awaitsBackend (settings : TurnSettings) (s : TurnState) : Bool :=
  hasText s.activeWorkflow && currentWorkflowResolutionRelation s &&
      hasWorkflowResolutionSignal settings s s.text s.slotMemory ||
    s.workflowStage.any waitingStages.contains

/-- The update of a Telegram case that a turn emits: the router, and then the node of the
route. -/
def turnCaseUpdate (settings : TurnSettings) (branches : RouterBranches) (s : TurnState) :
    Except PyError (Option TelegramCaseUpdate) :=
  let routed := intentRouter settings branches s
  if routed.route = some "sop" ∧ awaitsBackend settings routed then do
    let outcome ← handleWaitingBackend settings routed
    pure outcome.telegramCaseUpdate
  else .ok none

/-! ## When a case is closed -/

variable {settings : TurnSettings}

/-- The text is read as the resolution of the case in the memory. -/
def TakenAsResolved (settings : TurnSettings) (s : TurnState) : Prop :=
  let plan := settings.planSopDialogue s
  isDelayedSupplementForResolvedCase settings.rt s plan.slotMemory = false ∧
    s.relation plan = some "current_workflow_resolution" ∧
    hasWorkflowResolutionSignal settings s s.text plan.slotMemory = true ∧
    ∃ caseId, (getKey plan.slotMemory "telegram_internal_case_id").toInt settings.rt = .ok caseId

theorem resolvedState_closes_iff (rt : Runtime) (memory : JsonObject) :
    (∃ outcome update, resolvedState rt memory = .ok outcome ∧
        outcome.telegramCaseUpdate = some update ∧
        update.status = "completed_confirmed_by_customer") ↔
      ∃ caseId, (getKey memory "telegram_internal_case_id").toInt rt = .ok caseId := by
  unfold resolvedState
  by_cases hnull : (getKey memory "telegram_internal_case_id").isNull = true
  · have hvalue : getKey memory "telegram_internal_case_id" = .null := by
      revert hnull
      cases getKey memory "telegram_internal_case_id" <;> simp [Json.isNull]
    simp [hvalue, Json.isNull, Json.toInt, WaitingOutcome.telegramCaseUpdate]
  · simp only [hnull]
    constructor
    · rintro ⟨outcome, update, houtcome, -, -⟩
      obtain ⟨caseId, hcaseId, -⟩ := bind_eq_ok.mp houtcome
      exact ⟨caseId, hcaseId⟩
    · rintro ⟨caseId, hcaseId⟩
      exact ⟨_, _, bind_eq_ok.mpr ⟨caseId, hcaseId, rfl⟩, rfl, rfl⟩

theorem moneyCaseFollowupState_keeps_open (case : MoneyCase) {update : TelegramCaseUpdate}
    (h : (moneyCaseFollowupState case).telegramCaseUpdate = some update) :
    update.status ≠ "completed_confirmed_by_customer" := by
  unfold moneyCaseFollowupState at h
  split at h
  · cases h
    simp
  · cases h

/-- `handle_waiting_backend` closes a case exactly when it takes the text as a resolution. -/
theorem handleWaitingBackend_closes_iff (s : TurnState) :
    (∃ outcome update, handleWaitingBackend settings s = .ok outcome ∧
        outcome.telegramCaseUpdate = some update ∧
        update.status = "completed_confirmed_by_customer") ↔
      TakenAsResolved settings s := by
  unfold handleWaitingBackend TakenAsResolved
  simp only
  by_cases hdelayed : isDelayedSupplementForResolvedCase settings.rt s
      (settings.planSopDialogue s).slotMemory = true
  · simp [hdelayed, WaitingOutcome.telegramCaseUpdate]
  · by_cases hresolved : s.relation (settings.planSopDialogue s) = some "current_workflow_resolution" ∧
        hasWorkflowResolutionSignal settings s s.text (settings.planSopDialogue s).slotMemory = true
    · rw [if_neg hdelayed, if_pos hresolved, resolvedState_closes_iff]
      simp [hdelayed, hresolved]
    · rw [if_neg hdelayed, if_neg hresolved]
      constructor
      · rintro ⟨outcome, update, houtcome, hupdate, hstatus⟩
        split at houtcome
        · cases houtcome
          cases hupdate
        · split at houtcome
          · cases houtcome
            cases hupdate
          · split at houtcome
            · rename_i case _
              cases houtcome
              exact absurd hstatus (moneyCaseFollowupState_keeps_open case hupdate)
            · cases houtcome
              cases hupdate
      · rintro ⟨-, hrelation, hsignal, -⟩
        exact absurd ⟨hrelation, hsignal⟩ hresolved

end AiCustomerService
