import AiCustomerService.Db.CaseSync

/-!
# The status of a case

What the transactions and the sync do to the status of one case.  The update of a status is
unconditional, and the sync writes a status only over `created`.
-/

namespace AiCustomerService

open Support

/-- The status of a case. -/
def Database.caseStatus? (db : Database) (caseId : Nat) : Option String :=
  (db.telegramCases.find? fun row => row.id = caseId).map TelegramCaseRow.status

theorem caseStatus?_congr {db db' : Database} (h : db'.telegramCases = db.telegramCases)
    (caseId : Nat) : db'.caseStatus? caseId = db.caseStatus? caseId := by
  rw [Database.caseStatus?, h, Database.caseStatus?]

/-- The status after an update of some rows that keeps their ids. -/
theorem caseStatus?_map {db db' : Database} {assign : TelegramCaseRow → TelegramCaseRow}
    (hcases : db'.telegramCases = db.telegramCases.map assign)
    (hid : ∀ row, (assign row).id = row.id) (caseId : Nat) :
    db'.caseStatus? caseId =
      (db.telegramCases.find? fun row => row.id = caseId).map fun row => (assign row).status := by
  rw [Database.caseStatus?, hcases, List.find?_map, Option.map_map]
  have hsame : ((fun row : TelegramCaseRow => decide (row.id = caseId)) ∘ assign) =
      fun row => decide (row.id = caseId) := by
    funext row
    simp [hid]
  rw [hsame]
  rfl

/-- The status that an update writes. -/
def TelegramCaseUpdate.over (update : TelegramCaseUpdate) (caseId : Nat) (status : String) :
    String :=
  if caseId = update.telegramCaseId then update.status else status

theorem caseStatus?_updateCaseStatus (db : Database) (update : TelegramCaseUpdate) (caseId : Nat) :
    (updateCaseStatus db update).caseStatus? caseId =
      (db.caseStatus? caseId).map (update.over caseId) := by
  rw [caseStatus?_map rfl (by intro row; split <;> rfl), Database.caseStatus?, Option.map_map]
  cases hrow : db.telegramCases.find? fun row => row.id = caseId with
  | none => rfl
  | some row =>
      have hid : row.id = caseId := by simpa using List.find?_some hrow
      simp only [Option.map_some, Function.comp, TelegramCaseUpdate.over, hid]
      split
      · rfl
      · rfl

/-! ## Transactions -/

/-- The case update that a transaction makes: none where the conversation is locked. -/
def Database.effectiveUpdate (db : Database) (chatId : String) (threadId : Option String)
    (update : Option TelegramCaseUpdate) : Option TelegramCaseUpdate :=
  if (db.ensuredRow chatId threadId).status.isLocked then none else update

theorem telegramCases_entered (db : Database) (chatId : String) (threadId : Option String) :
    (db.entered chatId threadId).telegramCases = db.telegramCases := by
  unfold Database.entered Database.insertConversation
  split
  · rfl
  · rfl

theorem telegramCases_insertMessageFor (db : Database) (conversationId : String)
    (message : Option ConversationMessage) :
    (insertMessageFor db conversationId message).1.telegramCases = db.telegramCases := by
  cases message with
  | none => rfl
  | some message =>
      simp only [insertMessageFor, insertConversationMessage]
      split
      · rfl
      · rfl

theorem telegramCases_insertMessagesFor (db : Database) (conversationId : String)
    (messages : List ConversationMessage) :
    (insertMessagesFor db conversationId messages).1.telegramCases = db.telegramCases := by
  induction messages generalizing db with
  | nil => rfl
  | cons message rest ih =>
      have hfirst := telegramCases_insertMessageFor db conversationId (some message)
      exact (ih _).trans hfirst

theorem telegramCases_enqueue {db db' : Database} {conversationId : String}
    {messages : List OutboundMessage} {commands : List ExternalCommand}
    {reports : List InsertReport × List InsertReport}
    (h : enqueue db conversationId messages commands = .ok (db', reports)) :
    db'.telegramCases = db.telegramCases := by
  obtain ⟨mid, houtbound, hcommands⟩ := enqueue_ok h
  rw [insertExternalCommands_frame hcommands, insertOutbounds_frame houtbound]

theorem telegramCases_applyCaseUpdate {db db' : Database}
    (h : db'.telegramCases = db.telegramCases) (update : Option TelegramCaseUpdate) :
    (applyCaseUpdate db' update).telegramCases = (applyCaseUpdate db update).telegramCases := by
  cases update with
  | none => exact h
  | some update => simp only [applyCaseUpdate, updateCaseStatus, h]

theorem mergedOver_telegramCaseUpdate (graphState : GraphState) (stored : JsonObject) :
    (graphState.mergedOver stored).telegramCaseUpdate = graphState.telegramCaseUpdate := by
  unfold GraphState.mergedOver
  split
  · rfl
  · rfl

/-- The transaction of a result makes its case update, unless it is skipped. -/
theorem telegramCases_processResult {db db' : Database} {ctx : TxContext} {ref : ResultRef}
    {graphState : GraphState} {messages : List OutboundMessage}
    {commands : List ExternalCommand} {summary : Option ConversationMessage}
    {result : TransactionResult}
    (h : processResultTransactionally db ctx ref graphState messages commands summary =
      .ok (db', result)) :
    db'.telegramCases = (applyCaseUpdate db
      (db.effectiveUpdate ref.chatId ref.threadId graphState.telegramCaseUpdate)).telegramCases := by
  have hentered := telegramCases_entered db ref.chatId ref.threadId
  unfold processResultTransactionally at h
  simp only [getOrCreateOnConnection_eq] at h
  unfold Database.effectiveUpdate
  cases hlock : (db.ensuredRow ref.chatId ref.threadId).status.isLocked with
  | true =>
      rw [if_pos (by rw [viewOf_isLocked]; exact hlock)] at h
      cases h
      exact hentered
  | false =>
      rw [if_neg (by rw [viewOf_isLocked, hlock]; simp)] at h
      simp only [mergedOver_telegramCaseUpdate] at h
      generalize viewOf _ _ = view at h
      have hcase := telegramCases_applyCaseUpdate hentered graphState.telegramCaseUpdate
      split at h
      · cases h
        exact hcase
      · obtain ⟨⟨queued, reports⟩, henqueue, hpure⟩ := bind_eq_ok.mp h
        cases hpure
        exact (telegramCases_enqueue henqueue).trans
          ((telegramCases_insertMessageFor _ _ _).trans hcase)

/-- The transaction of an event makes its case update, unless it is skipped. -/
theorem telegramCases_processEvent {db db' : Database} {ctx : TxContext} {inboundEventId : Nat}
    {event : InboundEvent} {customer : Option ConversationMessage}
    {messages : List OutboundMessage} {commands : List ExternalCommand}
    {graphState : Option GraphState} {assistant : List ConversationMessage}
    {result : TransactionResult}
    (h : processEventTransactionally db ctx inboundEventId event customer messages commands
      graphState assistant = .ok (db', result)) :
    db'.telegramCases = (applyCaseUpdate db
      (db.effectiveUpdate (textOr event.chatId "unknown") event.threadId
        (graphState.bind GraphState.telegramCaseUpdate))).telegramCases := by
  unfold processEventTransactionally at h
  generalize textOr event.chatId "unknown" = chatId at h ⊢
  have hentered := telegramCases_entered db chatId event.threadId
  simp only [getOrCreateOnConnection_eq] at h
  unfold Database.effectiveUpdate
  cases hlock : (db.ensuredRow chatId event.threadId).status.isLocked with
  | true =>
      rw [if_pos (by rw [viewOf_isLocked]; exact hlock)] at h
      cases h
      exact (telegramCases_insertMessageFor _ _ _).trans hentered
  | false =>
      rw [if_neg (by rw [viewOf_isLocked, hlock]; simp)] at h
      cases graphState with
      | none =>
          obtain ⟨⟨queued, reports⟩, henqueue, hpure⟩ := bind_eq_ok.mp h
          cases hpure
          exact (telegramCases_enqueue henqueue).trans ((telegramCases_insertMessagesFor _ _ _).trans
            ((telegramCases_insertMessageFor _ _ _).trans hentered))
      | some graphState =>
          simp only at h
          generalize viewOf _ _ = view at h
          have hcase := telegramCases_applyCaseUpdate hentered graphState.telegramCaseUpdate
          split at h
          · cases h
            exact (telegramCases_insertMessageFor _ _ _).trans hcase
          · obtain ⟨⟨queued, reports⟩, henqueue, hpure⟩ := bind_eq_ok.mp h
            cases hpure
            exact (telegramCases_enqueue henqueue).trans
              ((telegramCases_insertMessagesFor _ _ _).trans
                ((telegramCases_insertMessageFor _ _ _).trans hcase))

/-! ## The sync -/

/-- Every status but `created` is kept. -/
def StatusesKept (db db' : Database) : Prop :=
  ∀ caseId status, status ≠ "created" → db.caseStatus? caseId = some status →
    db'.caseStatus? caseId = some status

theorem StatusesKept.of_eq {db db' : Database} (h : db'.telegramCases = db.telegramCases) :
    StatusesKept db db' := by
  intro caseId status _ hstatus
  rw [caseStatus?_congr h]
  exact hstatus

theorem telegramCases_insertCaseMessages (db : Database) (caseId : Nat) (chatId : String)
    (threadId : Option Int) (kind : String) (messageIds : List Int) :
    (messageIds.foldl (fun db messageId =>
      insertCaseMessage db caseId chatId threadId messageId kind) db).telegramCases =
        db.telegramCases := by
  induction messageIds generalizing db with
  | nil => rfl
  | cons messageId rest ih => exact ih _

theorem statusesKept_upsertCase (db : Database) (new : TelegramCaseRow) :
    StatusesKept db (upsertCase db new).1 := by
  intro caseId status hstatus h
  unfold upsertCase
  split
  · rename_i stored _
    rw [caseStatus?_map rfl (by intro row; split <;> rfl)]
    rw [Database.caseStatus?] at h
    obtain ⟨row, hrow, rfl⟩ := Option.map_eq_some_iff.mp h
    rw [hrow, Option.map_some]
    split
    · simp [TelegramCaseRow.recreated, hstatus]
    · rfl
  · rw [Database.caseStatus?] at h ⊢
    obtain ⟨row, hrow, rfl⟩ := Option.map_eq_some_iff.mp h
    simp [List.find?_append, hrow]

theorem statusesKept_upsertFromExternalResult {rt : Runtime} {db db' : Database}
    {row : ExternalResultRow} (h : upsertFromExternalResult rt db row = .ok (some db')) :
    StatusesKept db db' := by
  unfold upsertFromExternalResult at h
  split at h
  · obtain ⟨created, hcreated, h⟩ := bind_eq_ok.mp h
    cases h
    simp only [upsertCaseCreated] at hcreated
    split at hcreated
    · cases hcreated
    · obtain ⟨rootMessageId, -, hcreated⟩ := bind_eq_ok.mp hcreated
      obtain ⟨threadId, -, hcreated⟩ := bind_eq_ok.mp hcreated
      obtain ⟨attachments, -, hcreated⟩ := bind_eq_ok.mp hcreated
      cases hcreated
      intro caseId status hstatus hcase
      rw [caseStatus?_congr (telegramCases_insertCaseMessages _ _ _ _ _ _)]
      exact statusesKept_upsertCase db _ caseId status hstatus hcase
  · split at h
    · simp only [recordAppendMessage] at h
      split at h
      · cases h
      · obtain ⟨threadId, -, h⟩ := bind_eq_ok.mp h
        obtain ⟨replyTo, -, h⟩ := bind_eq_ok.mp h
        split at h
        · cases h
        · obtain ⟨messageId, -, h⟩ := bind_eq_ok.mp h
          obtain ⟨attachments, -, h⟩ := bind_eq_ok.mp h
          cases h
          apply StatusesKept.of_eq
          rw [telegramCases_insertCaseMessages]
          split
          · rfl
          · rfl
    · cases h

end AiCustomerService
