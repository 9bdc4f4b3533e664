import AiCustomerService.Properties.StaffReply

/-!
# Late answers to an old case

The handler of an answer writes the workflow and the stage of its own case, and the transaction
overlays its slots on the stored ones.  Nobody looks at the case that the conversation is now in.
-/

namespace AiCustomerService

open Support

/-! ## A conversation in a case -/

/-- The workflows that send case cards. -/
def moneyWorkflows : List String := ["deposit_missing", "withdrawal_missing"]

/-- What a conversation remembers of the case that it is in. -/
structure StoredCase where
  workflow : String
  money : workflow ∈ moneyWorkflows
  caseId : Json
  messageId : Json
  cardText : Json

/-- The conversation is in the case. -/
structure ConversationRow.InCase (row : ConversationRow) (case : StoredCase) : Prop where
  workflow : row.activeWorkflow = some case.workflow
  caseId : row.slotMemory.get? "telegram_case_id" = some case.caseId
  messageId : row.slotMemory.get? "telegram_message_id" = some case.messageId
  cardText : row.slotMemory.get? "telegram_case_card_text" = some case.cardText

/-- The conversation is still in the case, at the same stage. -/
def KeepsCase (case : StoredCase) (before after : ConversationRow) : Prop :=
  after.workflowStage = before.workflowStage ∧ after.InCase case

/-! ## Answers -/

/-- An answer to a case: a result row with what was loaded for it, or a staff reply. -/
inductive CaseAnswer
  | external (row : ExternalResultRow) (slotMemory : JsonObject) (recordedAt : String)
  | staff (row : ExternalResultRow) (now : Nat) (reply : StaffReply)

/-- The row of the answer. -/
def CaseAnswer.row : CaseAnswer → ExternalResultRow
  | .external row _ _ => row
  | .staff row _ _ => row

/-- The conversation that the answer is committed to. -/
def CaseAnswer.conversationId (answer : CaseAnswer) : String :=
  conversationIdForChat (some answer.row.chatId) answer.row.threadId

/-- The handler of the answer. -/
def CaseAnswer.handler (rt : Runtime) (render : Renderer) (services : StaffReplyServices) :
    CaseAnswer → Except PyError ResultHandler
  | .external row slotMemory recordedAt => buildResultHandler rt render row slotMemory recordedAt
  | .staff _ now reply => .ok (buildStaffReplyHandler services now reply)

/-- `result_json.get("active_workflow") or result_json.get("intent")`. -/
def resultWorkflow (rt : Runtime) (result : JsonObject) : Option String :=
  ((getKey result "active_workflow").orElse (getKey result "intent")).columnText rt

/-- The workflow that a staff reply belongs to. -/
def StaffReply.workflow (reply : StaffReply) : Option String :=
  textOr? reply.activeWorkflow reply.intent

/-- The status that a staff reply gives its case. -/
def StaffReply.caseStatus (services : StaffReplyServices) (reply : StaffReply) : String :=
  classifyMoneyCaseStatus services (textOr reply.workflow "") reply.rawReply
    reply.telegramCaseStatus

/-- The stage of a case that stays open. -/
def openStage? (caseStatus : String) : Option String :=
  if caseStatus ∈ ["awaiting_review", "under_review", "completion_disputed"] then
    some "waiting_backend"
  else if caseStatus = "waiting_customer" then some "waiting_customer_supplement"
  else none

/-- The answer tells of the workflow, the stage and the card that the conversation is at anyway. -/
def TellsNothingNew (rt : Runtime) (services : StaffReplyServices) (case : StoredCase)
    (before : ConversationRow) : CaseAnswer → Prop
  | .external row _ _ =>
      resultWorkflow rt row.resultJson = some case.workflow ∧
        before.workflowStage = some "waiting_backend" ∧
        getKey row.resultJson "card_text" = case.cardText ∧
        (row.resultType = "telegram.append_to_case.result" ∨
          row.resultType = "telegram.case.created" ∧
            getKey row.resultJson "case_id" = case.caseId ∧
            getKey row.resultJson "telegram_message_id" = case.messageId)
  | .staff _ _ reply =>
      reply.workflow = some case.workflow ∧
        ∃ stage, openStage? (reply.caseStatus services) = some stage ∧
          before.workflowStage = some stage

/-! ## What the transaction writes -/

/-- The row of a conversation in a case after the transaction: as it was when it is locked, and
else with the state of the handler over it. -/
theorem conversation?_of_answer {db db' : Database} {ctx : TxContext} {ref : ResultRef}
    {graphState : GraphState} {messages : List OutboundMessage} {commands : List ExternalCommand}
    {summary : Option ConversationMessage} {result : TransactionResult}
    (h : processResultTransactionally db ctx ref graphState messages commands summary =
      .ok (db', result)) {before : ConversationRow} {case : StoredCase}
    (hbefore : db.conversation? (conversationIdForChat (some ref.chatId) ref.threadId) =
      some before) (hcase : before.InCase case) :
    db'.conversation? (conversationIdForChat (some ref.chatId) ref.threadId) =
      some (let entered := { before with currentThreadId := ref.threadId }
        if before.status.isLocked then entered
        else entered.withGraphState (graphState.mergedOver before.slotMemory)) := by
  have hensured : db.ensuredRow ref.chatId ref.threadId =
      { before with currentThreadId := ref.threadId } := by
    rw [Database.ensuredRow, Database.rowAfterInsert, hbefore]
  rcases processResult_cases h with hskipped | henqueued
  · have hlocked := hskipped.locked
    rw [hensured] at hlocked
    have hrow := conversation?_entered db ref.chatId ref.threadId
      (conversationIdForChat (some ref.chatId) ref.threadId)
    rw [if_pos rfl, hensured] at hrow
    simp only [Database.conversation?] at hrow ⊢
    rw [hskipped.states, hrow]
    exact congrArg some (if_pos hlocked).symm
  · have hfree := henqueued.free
    rw [hensured] at hfree
    have hviewed : (db.viewed ctx ref.chatId ref.threadId).slotMemory = before.slotMemory := by
      unfold Database.viewed
      rw [hensured]
      exact viewOf_slotMemory _ hcase.caseId
    rw [processResult_conversation? h henqueued.notSkipped, hensured, hviewed]
    refine congrArg some (if_neg ?_).symm
    intro hlocked
    exact absurd (hfree.symm.trans hlocked) Bool.false_ne_true

/-- Over a stored value, the transaction of a handler leaves the value. -/
def GraphState.Leaves (graphState : GraphState) (memory : JsonObject) (key : String)
    (value : Json) : Prop :=
  key ∉ graphState.deleteSlotMemoryKeys ∧ (memory.get? key).getD value = value

theorem get?_overlaid_iff {graphState : GraphState} {stored memory : JsonObject} {key : String}
    {value : Json} (hstored : stored.get? key = some value) :
    ((stored.merge memory).eraseAll graphState.deleteSlotMemoryKeys).get? key = some value ↔
      graphState.Leaves memory key value := by
  rw [Dict.get?_eraseAll, Dict.get?_merge, hstored, GraphState.Leaves]
  by_cases hdeleted : key ∈ graphState.deleteSlotMemoryKeys
  · simp [hdeleted]
  · cases hwritten : memory.get? key with
    | none => simp [hdeleted]
    | some written => simp [hdeleted]

/-- The state of a handler keeps the case exactly when it repeats the workflow and the stage, and
neither deletes a slot of the case nor writes another value. -/
theorem keepsCase_withGraphState_iff {graphState : GraphState} {memory : JsonObject}
    (hmemory : graphState.slotMemory = some memory) {before : ConversationRow} {case : StoredCase}
    (hcase : before.InCase case) (threadId : Option String) :
    KeepsCase case before
        (ConversationRow.withGraphState { before with currentThreadId := threadId }
          (graphState.mergedOver before.slotMemory)) ↔
      graphState.workflowStage = before.workflowStage ∧
        graphState.activeWorkflow = some case.workflow ∧
        graphState.Leaves memory "telegram_case_id" case.caseId ∧
        graphState.Leaves memory "telegram_message_id" case.messageId ∧
        graphState.Leaves memory "telegram_case_card_text" case.cardText := by
  rw [← get?_overlaid_iff hcase.caseId, ← get?_overlaid_iff hcase.messageId,
    ← get?_overlaid_iff hcase.cardText]
  simp only [GraphState.mergedOver, hmemory]
  constructor
  · rintro ⟨hstage, hafter⟩
    exact ⟨hstage, hafter.workflow, hafter.caseId, hafter.messageId, hafter.cardText⟩
  · rintro ⟨hstage, hworkflow, hid, hmessage, hcard⟩
    exact ⟨hstage, hworkflow, hid, hmessage, hcard⟩

theorem activeWorkflow_mergedOver (graphState : GraphState) (stored : JsonObject) :
    (graphState.mergedOver stored).activeWorkflow = graphState.activeWorkflow := by
  unfold GraphState.mergedOver
  split
  · rfl
  · rfl

/-! ## What the handlers write -/

/-- No other result is of a workflow that sends case cards. -/
theorem activeWorkflow_of_other {rt : Runtime} {render : Renderer} {row : ExternalResultRow}
    {slotMemory : JsonObject} {recordedAt : String} {handler : ResultHandler}
    (h : buildResultHandler rt render row slotMemory recordedAt = .ok handler)
    (hcreated : row.resultType ≠ "telegram.case.created")
    (happend : row.resultType ≠ "telegram.append_to_case.result") :
    ∀ workflow ∈ moneyWorkflows, handler.graphState.activeWorkflow ≠ some workflow := by
  unfold buildResultHandler at h
  simp only [if_neg hcreated, if_neg happend] at h
  split at h
  · unfold pendingReplyHandler at h
    obtain ⟨known, -, h⟩ := bind_eq_ok.mp h
    split at h
    · cases h
    · obtain ⟨stillOpen, -, h⟩ := bind_eq_ok.mp h
      cases h
      cases stillOpen with
      | true => simp [handlerState, moneyWorkflows]
      | false => simp [handlerState]
  · split at h
    · split at h
      · unfold backendFailedHandler at h
        obtain ⟨rendered, -, h⟩ := bind_eq_ok.mp h
        obtain ⟨escalation, -, h⟩ := bind_eq_ok.mp h
        cases h
        simp only
        split
        · simp [handlerState, moneyWorkflows]
        · simp [handlerState, moneyWorkflows]
      · split at h
        · cases h
        · unfold backendSuccessHandler at h
          obtain ⟨reply, -, h⟩ := bind_eq_ok.mp h
          obtain ⟨text, -, h⟩ := bind_eq_ok.mp h
          obtain ⟨escalation, -, h⟩ := bind_eq_ok.mp h
          obtain ⟨recheck, -, h⟩ := bind_eq_ok.mp h
          cases h
          simp only
          split
          · simp [handlerState, moneyWorkflows]
          · simp [handlerState]
    · split at h
      · cases h
      · rename_i mock hmock
        cases h
        have hmem := List.mem_of_find?_eq_some hmock
        have hall : ∀ mock ∈ resultHandlers, ∀ workflow ∈ moneyWorkflows,
            mock.activeWorkflow ≠ some workflow := by decide
        exact hall mock hmem

theorem caseCreatedHandler_ok {rt : Runtime} {result : JsonObject} {handler : ResultHandler}
    (h : caseCreatedHandler rt result = .ok handler) :
    handler.graphState = handlerState .waitingExternal (resultWorkflow rt result)
      (some "waiting_backend")
      (.ofList [
        ("telegram_case_id", getKey result "case_id"),
        ("telegram_message_id", getKey result "telegram_message_id"),
        ("telegram_target_chat_id", getKey result "target_chat_id"),
        ("telegram_message_thread_id", getKey result "message_thread_id"),
        ("telegram_case_card_text", getKey result "card_text"),
        ("telegram_case_status", .str "created")]) := by
  unfold caseCreatedHandler at h
  simp only at h
  split at h
  · cases h
  · cases h
    rfl

theorem appendToCaseHandler_ok {rt : Runtime} {result : JsonObject} {handler : ResultHandler}
    (h : appendToCaseHandler rt result = .ok handler) :
    handler.graphState = handlerState .waitingExternal (resultWorkflow rt result)
      (some "waiting_backend")
      (.ofList [
        ("telegram_append_status", getKey result "status"),
        ("last_telegram_append_message_id", getKey result "telegram_message_id"),
        ("telegram_case_card_text", getKey result "card_text")]) := by
  unfold appendToCaseHandler at h
  obtain ⟨accepted, -, h⟩ := bind_eq_ok.mp h
  split at h
  · cases h
  · cases h
    rfl

/-- An external result that is committed to an unlocked conversation. -/
theorem external_keepsCase_iff {rt : Runtime} {render : Renderer} {services : StaffReplyServices}
    {row : ExternalResultRow} {slotMemory : JsonObject} {recordedAt : String}
    {handler : ResultHandler}
    (h : buildResultHandler rt render row slotMemory recordedAt = .ok handler)
    {before : ConversationRow} {case : StoredCase} (hcase : before.InCase case)
    (threadId : Option String) :
    KeepsCase case before
        (ConversationRow.withGraphState { before with currentThreadId := threadId }
          (handler.graphState.mergedOver before.slotMemory)) ↔
      TellsNothingNew rt services case before (.external row slotMemory recordedAt) := by
  by_cases hcreated : row.resultType = "telegram.case.created"
  · have hstate := caseCreatedHandler_ok (by simpa [buildResultHandler, hcreated] using h)
    rw [keepsCase_withGraphState_iff (congrArg GraphState.slotMemory hstate) hcase]
    simp [hstate, handlerState, GraphState.Leaves, TellsNothingNew, hcreated, Dict.ofList]
    rw [eq_comm (a := some "waiting_backend")]
    tauto
  · by_cases happend : row.resultType = "telegram.append_to_case.result"
    · have hstate := appendToCaseHandler_ok (by simpa [buildResultHandler, happend] using h)
      rw [keepsCase_withGraphState_iff (congrArg GraphState.slotMemory hstate) hcase]
      simp [hstate, handlerState, GraphState.Leaves, TellsNothingNew, happend, Dict.ofList]
      rw [eq_comm (a := some "waiting_backend")]
      tauto
    · apply iff_of_false
      · rintro ⟨-, hafter⟩
        refine activeWorkflow_of_other h hcreated happend case.workflow case.money ?_
        rw [← activeWorkflow_mergedOver handler.graphState before.slotMemory]
        exact hafter.workflow
      · rintro ⟨-, -, -, hother | ⟨hother, -⟩⟩
        · exact happend hother
        · exact hcreated hother

/-- The memory of a case that stays open leaves the slots of the case. -/
theorem get?_openCaseSlotMemory (reply : StaffReply) (type source : String) :
    ∀ key ∈ ["telegram_case_id", "telegram_message_id", "telegram_case_card_text"],
      (openCaseSlotMemory reply type source).get? key = none := by
  intro key hkey
  apply Dict.get?_ofList_of_notMem
  revert key
  simp

/-- A staff reply that is committed to an unlocked conversation. -/
theorem staff_keepsCase_iff (rt : Runtime) (services : StaffReplyServices)
    (row : ExternalResultRow) (now : Nat) (reply : StaffReply) {before : ConversationRow}
    {case : StoredCase} (hcase : before.InCase case) (threadId : Option String) :
    KeepsCase case before
        (ConversationRow.withGraphState { before with currentThreadId := threadId }
          ((buildStaffReplyHandler services now reply).graphState.mergedOver
            before.slotMemory)) ↔
      TellsNothingNew rt services case before (.staff row now reply) := by
  have hstate : (buildStaffReplyHandler services now reply).graphState =
      staffReplyState services now reply
        (services.process reply.rawReply (replyLanguageOf services (some reply.language)))
        (reply.caseStatus services) := rfl
  generalize services.process reply.rawReply _ = polished at hstate
  have hopen := get?_openCaseSlotMemory reply polished.type polished.source
  simp only [List.forall_mem_cons] at hopen
  obtain ⟨hid, hmessage, hcard, -⟩ := hopen
  simp only [TellsNothingNew, openStage?, StaffReply.workflow]
  unfold staffReplyState at hstate
  simp only at hstate
  split at hstate
  · rename_i hreview
    rw [keepsCase_withGraphState_iff (congrArg GraphState.slotMemory hstate) hcase]
    simp only [if_pos hreview, hstate, GraphState.Leaves, hid, hmessage, hcard]
    simp [and_comm, eq_comm]
  · rename_i hreview
    rw [if_neg hreview]
    split at hstate
    · rename_i hcustomer
      rw [keepsCase_withGraphState_iff (congrArg GraphState.slotMemory hstate) hcase]
      simp only [if_pos hcustomer, hstate, GraphState.Leaves, hid, hmessage, hcard]
      simp [and_comm, eq_comm]
    · rename_i hcustomer
      rw [keepsCase_withGraphState_iff (congrArg GraphState.slotMemory hstate) hcase]
      simp [hcustomer, hstate]

/-! ## Committed answers -/

/-- The commit of an answer leaves the conversation in the case that it is in, at the same stage,
exactly if the conversation is locked or the answer tells of that case and stage anyway. -/
theorem late_answer_keeps_case_iff {rt : Runtime} {render : Renderer}
    {services : StaffReplyServices} {answer : CaseAnswer} {handler : ResultHandler}
    (hhandler : answer.handler rt render services = .ok handler) {db db' : Database}
    {before : ConversationRow} (hbefore : db.conversation? answer.conversationId = some before)
    {case : StoredCase} (hcase : before.InCase case) {ctx : TxContext}
    {messages : List OutboundMessage} {summary : ConversationMessage} {result : TransactionResult}
    (hcommit : processResultTransactionally db ctx answer.row.ref handler.graphState messages
      handler.externalCommands (some summary) = .ok (db', result)) :
    (∃ after, db'.conversation? answer.conversationId = some after ∧
        KeepsCase case before after) ↔
      before.status.isLocked = true ∨ TellsNothingNew rt services case before answer := by
  have hafter := conversation?_of_answer hcommit hbefore hcase
  simp only [CaseAnswer.conversationId, ExternalResultRow.ref] at hafter ⊢
  rw [hafter]
  simp only [Option.some.injEq, exists_eq_left']
  cases hlocked : before.status.isLocked with
  | true =>
      simp only [if_true, true_or, iff_true]
      exact ⟨rfl, hcase.workflow, hcase.caseId, hcase.messageId, hcase.cardText⟩
  | false =>
      simp only [Bool.false_eq_true, if_false, false_or]
      cases answer with
      | external row slotMemory recordedAt => exact external_keepsCase_iff hhandler hcase _
      | staff row now reply =>
          cases hhandler
          exact staff_keepsCase_iff rt services row now reply hcase _

/-! ## An answer to a withdrawal in the middle of a deposit -/

/-- The case of a deposit. -/
def depositCase : StoredCase where
  workflow := "deposit_missing"
  money := by decide
  caseId := .str "B"
  messageId := .int 9
  cardText := .str "deposit card"

/-- The conversation that is in it. -/
def depositRow : ConversationRow :=
  { ConversationRow.fresh 1 "livechat:C1:T1" "C1" (some "T1") with
    status := .waitingExternal
    activeWorkflow := some "deposit_missing"
    workflowStage := some "waiting_backend"
    slotMemory := .ofList [
      ("telegram_case_id", .str "B"),
      ("telegram_message_id", .int 9),
      ("telegram_case_card_text", .str "deposit card")] }

def depositDatabase : Database :=
  { Database.empty with
    conversationStates := ⟨[depositRow], by decide⟩ }

/-- A reply of the staff to a case of the conversation. -/
def caseReply (caseId : Nat) (workflow : String) : StaffReply where
  telegramCaseId := caseId
  telegramUpdateId := 100
  telegramMessageId := some 7
  replyToMessageId := 5
  sender := ⟨some 9, none, some "Ana", none⟩
  rawText := "still checking"
  caption := none
  attachmentFileIds := []
  telegramChatId := "-100"
  messageThreadId := none
  intent := some workflow
  activeWorkflow := some workflow
  telegramCaseStatus := "awaiting_review"
  language := "zh-Hans"

/-- Its row. -/
def caseReplyRow (reply : StaffReply) : ExternalResultRow where
  id := 1
  externalCommandId := 3
  tenantId := "default"
  conversationId := "livechat:C1:T1"
  chatId := "C1"
  threadId := some "T1"
  inboundEventId := some 11
  commandType := "telegram.staff_reply"
  resultType := "telegram.staff_reply.received"
  resultJson := reply.json
  status := .pending
  retryCount := 0
  lastError := none
  lease := .none
  dedupKey := "telegram.staff_reply:100"
  createdAt := 0

/-- The commit of a reply, with nothing for the customer. -/
def commitCaseReply (reply : StaffReply) : Except PyError (Database × TransactionResult) :=
  let handler := buildStaffReplyHandler plainReplySettings.services 0 reply
  processResultTransactionally depositDatabase ⟨none, false⟩ (caseReplyRow reply).ref
    handler.graphState [] [] (some (buildExternalResultSummaryMessage (caseReplyRow reply) handler))

theorem commitCaseReply_ok (reply : StaffReply) :
    ∃ db' result, commitCaseReply reply = .ok (db', result) := by
  have hmessages : ∀ message ∈ ([] : List OutboundMessage), message.chatId.isSome := by simp
  have hcommands : ∀ command ∈ ([] : List ExternalCommand), command.chatId.isSome := by simp
  unfold commitCaseReply
  exact processResult_of_chatId hmessages hcommands _ _ _ _ _

theorem depositRow_inCase : depositRow.InCase depositCase := ⟨rfl, rfl, rfl, rfl⟩

/-- The reply to another case of the customer, a withdrawal, takes the conversation out of the
deposit. -/
theorem withdrawal_reply_hijacks_deposit :
    depositRow.InCase depositCase ∧
      (caseReply 1 "withdrawal_missing").workflow ≠ some depositCase.workflow ∧
      ∃ db' result, commitCaseReply (caseReply 1 "withdrawal_missing") = .ok (db', result) ∧
        ∃ after, db'.conversation? "livechat:C1:T1" = some after ∧
          after.activeWorkflow = some "withdrawal_missing" ∧
          ¬KeepsCase depositCase depositRow after := by
  refine ⟨depositRow_inCase, by decide, ?_⟩
  obtain ⟨db', result, hcommit⟩ := commitCaseReply_ok (caseReply 1 "withdrawal_missing")
  have hbefore : depositDatabase.conversation? "livechat:C1:T1" = some depositRow := rfl
  unfold commitCaseReply at hcommit
  have hafter := conversation?_of_answer hcommit hbefore depositRow_inCase
  refine ⟨db', result, hcommit, _, hafter, rfl, ?_⟩
  rintro ⟨-, hstill⟩
  have hworkflow : some "withdrawal_missing" = some "deposit_missing" := hstill.workflow
  revert hworkflow
  decide

/-- A reply to the deposit itself that leaves it under review changes nothing. -/
theorem deposit_reply_keeps_deposit :
    ∃ db' result, commitCaseReply (caseReply 2 "deposit_missing") = .ok (db', result) ∧
      ∃ after, db'.conversation? "livechat:C1:T1" = some after ∧
        KeepsCase depositCase depositRow after := by
  obtain ⟨db', result, hcommit⟩ := commitCaseReply_ok (caseReply 2 "deposit_missing")
  refine ⟨db', result, hcommit, ?_⟩
  exact (@late_answer_keeps_case_iff .plain (fun _ _ _ => .ok "") plainReplySettings.services
    (.staff (caseReplyRow (caseReply 2 "deposit_missing")) 0 (caseReply 2 "deposit_missing")) _ rfl
    depositDatabase db' depositRow rfl depositCase depositRow_inCase ⟨none, false⟩ [] _ result
    hcommit).mpr (Or.inr ⟨rfl, "waiting_backend", rfl, rfl⟩)

end AiCustomerService
