import AiCustomerService.Db.Transactions

/-!
# Telegram cases

`TelegramCaseRepository` and `TelegramUpdateOffsetRepository`: the case that a
message of the staff group belongs to, and how far the updates of the bot have
been acknowledged.
-/

namespace AiCustomerService

open Support

/-! ## The case of a message -/

/-- The row that `find_by_reply_message` returns. -/
structure FoundCase where
  id : Nat
  tenantId : String
  conversationId : String
  chatId : String
  threadId : Option String
  inboundEventId : Option Nat
  externalCommandId : Nat
  intent : Option String
  activeWorkflow : Option String
  telegramChatId : String
  telegramMessageThreadId : Option Int
  rootMessageId : Int
  status : String
  replyLanguage : Option String

/-- `COALESCE(current_conversation_id, conversation_id)`. -/
def TelegramCaseRow.routedConversationId (row : TelegramCaseRow) : String :=
  row.currentConversationId.getD row.conversationId

/-- `_reply_language_from_slot_memory`. -/
def replyLanguageFromSlotMemory (rt : Runtime) (slotMemory : JsonObject) : Option String :=
  (["last_reply_language", "conversation_language", "last_user_language"].map fun key =>
    strip ((getKey slotMemory key).textOrEmpty rt)).find? fun value => value ≠ ""

/-- The case joined with the slot memory of its conversation. -/
def TelegramCaseRow.found (row : TelegramCaseRow) (replyLanguage : Option String) : FoundCase where
  id := row.id
  tenantId := row.tenantId
  conversationId := row.routedConversationId
  chatId := row.chatId
  threadId := row.currentThreadId.or row.threadId
  inboundEventId := row.inboundEventId
  externalCommandId := row.externalCommandId
  intent := row.intent
  activeWorkflow := row.activeWorkflow
  telegramChatId := row.telegramChatId
  telegramMessageThreadId := row.telegramMessageThreadId
  rootMessageId := row.rootMessageId
  status := row.status
  replyLanguage := replyLanguage

/-- The case row of a message: `telegram_case_messages m JOIN telegram_cases c`. -/
def Database.caseOfMessage? (db : Database) (telegramChatId : String) (messageId : Int) :
    Option TelegramCaseRow :=
  (db.telegramCaseMessages.find? (telegramChatId, messageId)).bind fun message =>
    db.telegramCases.find? fun row => row.id = message.telegramCaseId

/-- The threads of the case and of the message are both known and differ. -/
def threadMismatch (expected actual : Option Int) : Bool :=
  match expected, actual with
  | some expected, some actual => decide (expected ≠ actual)
  | _, _ => false

/-- `LEFT JOIN conversation_states s`, and the language that the row gets from it. -/
def Database.replyLanguageFor (rt : Runtime) (db : Database) (row : TelegramCaseRow) :
    Option String :=
  match db.conversation? row.routedConversationId with
  | some conversation => replyLanguageFromSlotMemory rt conversation.slotMemory
  | none => none

/-- `find_by_reply_message`. -/
def findByReplyMessage (rt : Runtime) (db : Database) (telegramChatId : String)
    (replyToMessageId : Int) (messageThreadId : Option Int) : Option FoundCase :=
  match db.caseOfMessage? telegramChatId replyToMessageId with
  | none => none
  | some row =>
      if threadMismatch row.telegramMessageThreadId messageThreadId then none
      else some (row.found (db.replyLanguageFor rt row))

/-- `_insert_case_message_on_connection`. -/
def insertCaseMessage (db : Database) (telegramCaseId : Nat) (telegramChatId : String)
    (messageThreadId : Option Int) (messageId : Int) (messageKind : String) : Database :=
  { db with
    telegramCaseMessages :=
      (db.telegramCaseMessages.insertIdempotent
        ⟨db.telegramCaseMessages.rows.length + 1, telegramCaseId, telegramChatId,
          messageThreadId, messageId, messageKind⟩).1 }

/-- `record_staff_reply_message`. -/
def recordStaffReplyMessage (db : Database) (telegramCaseId : Nat) (telegramChatId : String)
    (messageId : Int) (messageThreadId : Option Int) : Database :=
  insertCaseMessage db telegramCaseId telegramChatId messageThreadId messageId "staff_reply"

/-- `ExternalResultTransactionRepository.is_human_active`. -/
def isHumanActive (db : Database) (conversationId : String) : Bool :=
  (db.conversation? conversationId).any fun row => row.status = .humanActive

theorem isHumanActive_congr {db db' : Database}
    (h : db'.conversationStates = db.conversationStates) (conversationId : String) :
    isHumanActive db' conversationId = isHumanActive db conversationId := by
  simp only [isHumanActive, Database.conversation?, h]

/-! ## Acknowledged updates -/

/-- `get_offset`. -/
def getOffset (db : Database) (offsetKey : String) : Int :=
  (db.telegramUpdateOffsets.get? offsetKey).getD 0

/-- `save_offset`; `GREATEST` keeps the offset from going back. -/
def saveOffset (db : Database) (offsetKey : String) (lastUpdateId : Int) : Database :=
  { db with
    telegramUpdateOffsets :=
      db.telegramUpdateOffsets.set offsetKey
        (match db.telegramUpdateOffsets.get? offsetKey with
        | some stored => max stored lastUpdateId
        | none => lastUpdateId) }

/-- The saved offset has reached an update. -/
def Database.offsetReached (db : Database) (offsetKey : String) (updateId : Int) : Prop :=
  ∃ saved, db.telegramUpdateOffsets.get? offsetKey = some saved ∧ updateId ≤ saved

/-- An offset is only reached by saving an id that reaches it. -/
theorem offsetReached_saveOffset {db : Database} {offsetKey : String} {updateId lastUpdateId : Int}
    (h : (saveOffset db offsetKey lastUpdateId).offsetReached offsetKey updateId) :
    db.offsetReached offsetKey updateId ∨ updateId ≤ lastUpdateId := by
  obtain ⟨saved, hsaved, hle⟩ := h
  simp only [saveOffset, Dict.get?_set, ↓reduceIte, Option.some.injEq] at hsaved
  cases hstored : db.telegramUpdateOffsets.get? offsetKey with
  | none =>
      simp only [hstored] at hsaved
      exact Or.inr (hsaved ▸ hle)
  | some stored =>
      simp only [hstored] at hsaved
      rw [← hsaved, le_max_iff] at hle
      exact hle.imp (fun hle => ⟨stored, hstored, hle⟩) id

/-- Unless the offset has reached an update, `get_offset` answers less than its id,
or zero. -/
theorem getOffset_of_not_reached {db : Database} {offsetKey : String} {updateId : Int}
    (h : ¬db.offsetReached offsetKey updateId) :
    getOffset db offsetKey = 0 ∨ getOffset db offsetKey < updateId := by
  cases hstored : db.telegramUpdateOffsets.get? offsetKey with
  | none => exact Or.inl (by simp [getOffset, hstored])
  | some stored =>
      right
      have hlt : stored < updateId := by
        by_contra hle
        exact h ⟨stored, hstored, by omega⟩
      simpa [getOffset, hstored] using hlt

/-! ## What the transaction of a result leaves alone -/

/-- The routes of the cases, the tables that only the Telegram workers write and
the keys of the results are the same. -/
structure SameCases (db db' : Database) : Prop where
  messages : db'.telegramCaseMessages = db.telegramCaseMessages
  offsets : db'.telegramUpdateOffsets = db.telegramUpdateOffsets
  results : ∀ key, db'.externalCommandResults.hasKey key ↔ db.externalCommandResults.hasKey key
  cases : ∃ status : TelegramCaseRow → String,
    db'.telegramCases = db.telegramCases.map fun row => { row with status := status row }

theorem SameCases.of_eq {db db' : Database}
    (hmessages : db'.telegramCaseMessages = db.telegramCaseMessages)
    (hoffsets : db'.telegramUpdateOffsets = db.telegramUpdateOffsets)
    (hresults : ∀ key,
      db'.externalCommandResults.hasKey key ↔ db.externalCommandResults.hasKey key)
    (hcases : db'.telegramCases = db.telegramCases) : SameCases db db' := by
  refine ⟨hmessages, hoffsets, hresults, fun row => row.status, ?_⟩
  rw [hcases]
  exact (List.map_id _).symm

theorem SameCases.trans {a b c : Database} (hab : SameCases a b) (hbc : SameCases b c) :
    SameCases a c := by
  obtain ⟨first, hfirst⟩ := hab.cases
  obtain ⟨second, hsecond⟩ := hbc.cases
  refine ⟨hbc.messages.trans hab.messages, hbc.offsets.trans hab.offsets,
    fun key => (hbc.results key).trans (hab.results key),
    fun row => second { row with status := first row }, ?_⟩
  rw [hsecond, hfirst, List.map_map]
  rfl

theorem sameCases_entered (db : Database) (chatId : String) (threadId : Option String) :
    SameCases db (db.entered chatId threadId) := by
  unfold Database.entered Database.insertConversation
  split
  · exact .of_eq rfl rfl (fun _ => Iff.rfl) rfl
  · exact .of_eq rfl rfl (fun _ => Iff.rfl) rfl

theorem sameCases_applyCaseUpdate (db : Database) (update : Option TelegramCaseUpdate) :
    SameCases db (applyCaseUpdate db update) := by
  cases update with
  | none => exact .of_eq rfl rfl (fun _ => Iff.rfl) rfl
  | some update =>
      refine ⟨rfl, rfl, fun _ => Iff.rfl,
        fun row => if row.id = update.telegramCaseId then update.status else row.status, ?_⟩
      apply List.map_congr_left
      intro row _
      by_cases hid : row.id = update.telegramCaseId
      · simp [hid]
      · simp [hid]

theorem sameCases_insertMessageFor (db : Database) (conversationId : String)
    (message : Option ConversationMessage) :
    SameCases db (insertMessageFor db conversationId message).1 := by
  cases message with
  | none => exact .of_eq rfl rfl (fun _ => Iff.rfl) rfl
  | some message =>
      simp only [insertMessageFor, insertConversationMessage]
      split
      · exact .of_eq rfl rfl (fun _ => Iff.rfl) rfl
      · exact .of_eq rfl rfl (fun _ => Iff.rfl) rfl

theorem sameCases_enqueue {db db' : Database} {conversationId : String}
    {messages : List OutboundMessage} {commands : List ExternalCommand}
    {reports : List InsertReport × List InsertReport}
    (h : enqueue db conversationId messages commands = .ok (db', reports)) :
    SameCases db db' := by
  obtain ⟨mid, houtbound, hcommands⟩ := enqueue_ok h
  rw [insertExternalCommands_frame hcommands, insertOutbounds_frame houtbound]
  exact .of_eq rfl rfl (fun _ => Iff.rfl) rfl

theorem sameCases_markResultProcessed (db : Database) (resultId : Nat) :
    SameCases db (markResultProcessed db resultId) :=
  .of_eq rfl rfl (hasKey_updateResult db resultId _ _) rfl

/-- The transaction of a result writes the status of a case and nothing else that
the Telegram workers look at. -/
theorem processResult_sameCases {db db' : Database} {ctx : TxContext} {ref : ResultRef}
    {graphState : GraphState} {messages : List OutboundMessage}
    {commands : List ExternalCommand} {summary : Option ConversationMessage}
    {result : TransactionResult}
    (h : processResultTransactionally db ctx ref graphState messages commands summary =
      .ok (db', result)) : SameCases db db' := by
  unfold processResultTransactionally at h
  simp only [getOrCreateOnConnection_eq] at h
  have hentered := sameCases_entered db ref.chatId ref.threadId
  generalize viewOf _ _ = view at h
  split at h
  · simp only [Except.ok.injEq, Prod.mk.injEq] at h
    obtain ⟨rfl, rfl⟩ := h
    exact hentered.trans (sameCases_markResultProcessed _ _)
  · generalize graphState.mergedOver view.slotMemory = merged at h
    have hcase := hentered.trans (sameCases_applyCaseUpdate _ merged.telegramCaseUpdate)
    have hstate : ∀ conversationId, SameCases db (updateWorkflowStateOnConnection
        (applyCaseUpdate (db.entered ref.chatId ref.threadId) merged.telegramCaseUpdate) ctx
        conversationId merged).1 :=
      fun conversationId => hcase.trans (.of_eq rfl rfl (fun _ => Iff.rfl) rfl)
    split at h
    · simp only [Except.ok.injEq, Prod.mk.injEq] at h
      obtain ⟨rfl, rfl⟩ := h
      exact (hstate _).trans (sameCases_markResultProcessed _ _)
    · obtain ⟨⟨queued, reports⟩, henqueue, hpure⟩ := bind_eq_ok.mp h
      cases hpure
      have hmessage := (hstate view.conversationId).trans
        (sameCases_insertMessageFor _ view.conversationId summary)
      have hqueued := hmessage.trans (sameCases_enqueue henqueue)
      exact hqueued.trans (sameCases_markResultProcessed _ _)

/-- A message still belongs to the case that it belonged to. -/
theorem SameCases.caseOfMessage? {db db' : Database} (h : SameCases db db')
    {telegramChatId : String} {messageId : Int} {row : TelegramCaseRow}
    (hrow : db.caseOfMessage? telegramChatId messageId = some row) :
    ∃ status, db'.caseOfMessage? telegramChatId messageId = some { row with status } := by
  obtain ⟨status, hcases⟩ := h.cases
  refine ⟨status row, ?_⟩
  obtain ⟨message, hmessage, hfind⟩ := Option.bind_eq_some_iff.mp hrow
  apply Option.bind_eq_some_iff.mpr
  refine ⟨message, by rw [h.messages]; exact hmessage, ?_⟩
  rw [hcases, List.find?_map]
  change Option.map _ (db.telegramCases.find? fun row => row.id = message.telegramCaseId) = _
  rw [hfind]
  rfl

/-- A new conversation row is not in human hands. -/
theorem isHumanActive_entered (db : Database) (chatId : String) (threadId : Option String)
    (conversationId : String) :
    isHumanActive (db.entered chatId threadId) conversationId = isHumanActive db conversationId := by
  unfold isHumanActive
  rw [conversation?_entered]
  by_cases hid : conversationId = conversationIdForChat (some chatId) threadId
  · subst hid
    rw [if_pos rfl]
    unfold Database.ensuredRow Database.rowAfterInsert
    cases db.conversation? (conversationIdForChat (some chatId) threadId) with
    | none => rfl
    | some row => rfl
  · rw [if_neg hid]

/-- A transaction whose state is not `HUMAN_ACTIVE` takes no conversation over. -/
theorem isHumanActive_processResult {db db' : Database} {ctx : TxContext} {ref : ResultRef}
    {graphState : GraphState} {messages : List OutboundMessage}
    {commands : List ExternalCommand} {summary : Option ConversationMessage}
    {result : TransactionResult} {conversationId : String}
    (h : processResultTransactionally db ctx ref graphState messages commands summary =
      .ok (db', result))
    (hstatus : graphState.status ≠ some .humanActive)
    (hfree : isHumanActive db conversationId = false) :
    isHumanActive db' conversationId = false := by
  rw [← isHumanActive_entered db ref.chatId ref.threadId] at hfree
  rcases processResult_cases h with hskipped | henqueued
  · rw [isHumanActive_congr hskipped.states]
    exact hfree
  · rw [isHumanActive_congr henqueued.states]
    unfold isHumanActive at hfree ⊢
    rw [conversation?_updateGraphState]
    cases hrow : (db.entered ref.chatId ref.threadId).conversation? conversationId with
    | none => rfl
    | some row =>
        rw [hrow] at hfree
        simp only [Option.any_some, decide_eq_false_iff_not, Option.map_some] at hfree ⊢
        split
        · have hmerged : (graphState.mergedOver
              (db.viewed ctx ref.chatId ref.threadId).slotMemory).status = graphState.status := by
            unfold GraphState.mergedOver
            split
            · rfl
            · rfl
          cases hgraph : graphState.status with
          | none => simpa [ConversationRow.withGraphState, hmerged, hgraph] using hfree
          | some status =>
              simpa [ConversationRow.withGraphState, hmerged, hgraph] using hstatus
        · exact hfree

end AiCustomerService
