import AiCustomerService.Db.TelegramCases

/-!
# Mapping case cards to cases

`sync_recent_external_results` of `TelegramCaseRepository`: the rows that the command worker
wrote about delivered cards become cases, and the messages of the cards become the messages
by which a reply of the staff finds its case.
-/

namespace AiCustomerService

open Support

/-- `SELECT ... ORDER BY created_at DESC, id DESC LIMIT %s`, reversed. -/
def recentExternalResults (db : Database) (limit : Nat) : List ExternalResultRow :=
  (((db.externalCommandResults.rows.filter fun row =>
    row.resultType = "telegram.case.created" ||
      row.resultType = "telegram.append_to_case.result").insertionSort fun a b =>
        decide (b.createdAt < a.createdAt) ||
          (decide (a.createdAt = b.createdAt) && decide (b.id ≤ a.id)) = true).take limit).reverse

/-- A number that may be missing. -/
def Json.toInt? (rt : Runtime) : Json → Except PyError (Option Int)
  | .null => .ok none
  | value => do
      let n ← value.toInt rt
      return some n

/-- The message id of an item of `attachment_results`. -/
def attachmentMessageId (item : Json) : Json :=
  match item with
  | .obj fields =>
      (getKey fields "message_id").orElse
        (getKey (getKey fields "result").dictOrEmpty "message_id")
  | _ => .null

/-- `_attachment_message_ids`. -/
def attachmentMessageIds (rt : Runtime) (resultJson : JsonObject) : Except PyError (List Int) := do
  let items ← match (getKey resultJson "attachment_results").orElse (.arr []) with
    | .arr items => .ok items
    | _ => .error (.typeError "object is not iterable")
  ((items.map attachmentMessageId).filter fun value => !value.isNull).mapM (Json.toInt rt)

/-- The case that `_upsert_case_created_on_connection` inserts. -/
def createdCase (rt : Runtime) (db : Database) (row : ExternalResultRow) (chatId : String)
    (threadId : Option Int) (rootMessageId : Int) : TelegramCaseRow where
  id := db.telegramCases.length + 1
  tenantId := textOr (some row.tenantId) "default"
  conversationId := row.conversationId
  currentConversationId := none
  chatId := row.chatId
  threadId := row.threadId
  currentThreadId := none
  inboundEventId := row.inboundEventId
  externalCommandId := row.externalCommandId
  intent := (getKey row.resultJson "intent").columnText rt
  activeWorkflow :=
    ((getKey row.resultJson "active_workflow").orElse (getKey row.resultJson "intent")).columnText
      rt
  telegramChatId := chatId
  telegramMessageThreadId := threadId
  rootMessageId := rootMessageId
  status := "awaiting_review"

/-- The assignments of the upsert to a case that exists. -/
def TelegramCaseRow.recreated (stored new : TelegramCaseRow) : TelegramCaseRow :=
  { stored with
    status := if stored.status = "created" then "awaiting_review" else stored.status
    activeWorkflow := new.activeWorkflow.or stored.activeWorkflow }

/-- `_upsert_case_created_on_connection`, with the id of the case. -/
def upsertCase (db : Database) (new : TelegramCaseRow) : Database × Nat :=
  match db.telegramCases.find? fun row =>
      row.telegramChatId = new.telegramChatId && row.rootMessageId = new.rootMessageId with
  | some stored =>
      ({ db with
        telegramCases := db.telegramCases.map fun row =>
          if row.id = stored.id then row.recreated new else row }, stored.id)
  | none => ({ db with telegramCases := db.telegramCases ++ [new] }, new.id)

/-- `upsert_case_created`. -/
def upsertCaseCreated (rt : Runtime) (db : Database) (row : ExternalResultRow) :
    Except PyError Database :=
  let json := row.resultJson
  if (getKey json "telegram_message_id").isNull || (getKey json "target_chat_id").isNull then
    .error (.valueError
      "telegram.case.created result missing target_chat_id or telegram_message_id")
  else do
    let chatId := (getKey json "target_chat_id").pyStr rt
    let rootMessageId ← (getKey json "telegram_message_id").toInt rt
    let threadId ← (getKey json "message_thread_id").toInt? rt
    let attachments ← attachmentMessageIds rt json
    let upserted := upsertCase db (createdCase rt db row chatId threadId rootMessageId)
    let rooted := insertCaseMessage upserted.1 upserted.2 chatId threadId rootMessageId "root"
    return attachments.foldl (fun db messageId =>
      insertCaseMessage db upserted.2 chatId threadId messageId "attachment") rooted

/-- `record_append_message`; the message is stored unless it was edited. -/
def recordAppendMessage (rt : Runtime) (db : Database) (row : ExternalResultRow) :
    Except PyError (Option Database) :=
  let json := row.resultJson
  if (getKey json "telegram_message_id").isNull || (getKey json "target_chat_id").isNull then
    .ok none
  else do
    let chatId := (getKey json "target_chat_id").pyStr rt
    let threadId ← (getKey json "message_thread_id").toInt? rt
    let replyTo ←
      ((getKey json "reply_to_message_id").orElse (getKey json "telegram_message_id")).toInt rt
    match findByReplyMessage rt db chatId replyTo threadId with
    | none => return none
    | some case =>
        let messageId ← (getKey json "telegram_message_id").toInt rt
        let attachments ← attachmentMessageIds rt json
        let appended :=
          if (getKey json "status").eqText "edited" then db
          else insertCaseMessage db case.id chatId threadId messageId "append"
        return some (attachments.foldl (fun db messageId =>
          insertCaseMessage db case.id chatId threadId messageId "attachment") appended)

/-- `upsert_from_external_result`; `none` counts as skipped. -/
def upsertFromExternalResult (rt : Runtime) (db : Database) (row : ExternalResultRow) :
    Except PyError (Option Database) :=
  if row.resultType = "telegram.case.created" then do
    let upserted ← upsertCaseCreated rt db row
    return some upserted
  else if row.resultType = "telegram.append_to_case.result" then recordAppendMessage rt db row
  else .ok none

/-! ## Cases are not forgotten -/

/-- Every message still belongs to a case of the same Telegram thread. -/
structure CasesGrow (db db' : Database) : Prop where
  messages : ∀ key row, db.telegramCaseMessages.find? key = some row →
    db'.telegramCaseMessages.find? key = some row
  cases : ∀ id row, (db.telegramCases.find? fun case => case.id = id) = some row →
    ∃ row', (db'.telegramCases.find? fun case => case.id = id) = some row' ∧
      row'.telegramMessageThreadId = row.telegramMessageThreadId

theorem CasesGrow.of_eq {db db' : Database}
    (hmessages : db'.telegramCaseMessages = db.telegramCaseMessages)
    (hcases : db'.telegramCases = db.telegramCases) : CasesGrow db db' := by
  constructor
  · intro key row h
    rw [hmessages]
    exact h
  · intro id row h
    exact ⟨row, by rw [hcases]; exact h, rfl⟩

theorem CasesGrow.refl (db : Database) : CasesGrow db db := .of_eq rfl rfl

theorem CasesGrow.trans {a b c : Database} (hab : CasesGrow a b) (hbc : CasesGrow b c) :
    CasesGrow a c := by
  constructor
  · intro key row h
    exact hbc.messages key row (hab.messages key row h)
  · intro id row h
    obtain ⟨middle, hmiddle, hthread⟩ := hab.cases id row h
    obtain ⟨last, hlast, hthread'⟩ := hbc.cases id middle hmiddle
    exact ⟨last, hlast, hthread'.trans hthread⟩

/-- An update of the cases that keeps their ids and threads. -/
theorem casesGrow_map {db db' : Database} {assign : TelegramCaseRow → TelegramCaseRow}
    (hmessages : db'.telegramCaseMessages = db.telegramCaseMessages)
    (hcases : db'.telegramCases = db.telegramCases.map assign)
    (hid : ∀ row, (assign row).id = row.id)
    (hthread : ∀ row, (assign row).telegramMessageThreadId = row.telegramMessageThreadId) :
    CasesGrow db db' := by
  constructor
  · intro key row h
    rw [hmessages]
    exact h
  · intro id row h
    refine ⟨assign row, ?_, hthread row⟩
    rw [hcases, List.find?_map]
    have hsame : ((fun case : TelegramCaseRow => decide (case.id = id)) ∘ assign) =
        fun case => decide (case.id = id) := by
      funext case
      simp [hid]
    rw [hsame, h]
    rfl

theorem casesGrow_insertCaseMessage (db : Database) (caseId : Nat) (chatId : String)
    (threadId : Option Int) (messageId : Int) (kind : String) :
    CasesGrow db (insertCaseMessage db caseId chatId threadId messageId kind) := by
  constructor
  · intro key row h
    exact Table.find?_insertIdempotent_of_find? _ h
  · intro id row h
    exact ⟨row, h, rfl⟩

theorem casesGrow_insertCaseMessages (db : Database) (caseId : Nat) (chatId : String)
    (threadId : Option Int) (kind : String) (messageIds : List Int) :
    CasesGrow db (messageIds.foldl (fun db messageId =>
      insertCaseMessage db caseId chatId threadId messageId kind) db) := by
  induction messageIds generalizing db with
  | nil => exact .refl db
  | cons messageId rest ih =>
      exact (casesGrow_insertCaseMessage db caseId chatId threadId messageId kind).trans (ih _)

theorem casesGrow_upsertCase (db : Database) (new : TelegramCaseRow) :
    CasesGrow db (upsertCase db new).1 := by
  unfold upsertCase
  split
  · refine casesGrow_map rfl rfl ?_ ?_
    · intro row
      split <;> rfl
    · intro row
      split <;> rfl
  · constructor
    · intro key row h
      exact h
    · intro id row h
      refine ⟨row, ?_, rfl⟩
      rw [List.find?_append, h]
      rfl

theorem casesGrow_upsertFromExternalResult {rt : Runtime} {db db' : Database}
    {row : ExternalResultRow} (h : upsertFromExternalResult rt db row = .ok (some db')) :
    CasesGrow db db' := by
  unfold upsertFromExternalResult at h
  split at h
  · obtain ⟨created, hcreated, h⟩ := bind_eq_ok.mp h
    cases h
    simp only [upsertCaseCreated] at hcreated
    split at hcreated
    · cases hcreated
    · obtain ⟨rootMessageId, -, hcreated⟩ := bind_eq_ok.mp hcreated
      obtain ⟨threadId, -, hcreated⟩ := bind_eq_ok.mp hcreated
      obtain ⟨attachments, -, hcreated⟩ := bind_eq_ok.mp hcreated
      cases hcreated
      exact (casesGrow_upsertCase db _).trans
        ((casesGrow_insertCaseMessage _ _ _ _ _ _).trans
          (casesGrow_insertCaseMessages _ _ _ _ _ _))
  · split at h
    · simp only [recordAppendMessage] at h
      split at h
      · cases h
      · obtain ⟨threadId, -, h⟩ := bind_eq_ok.mp h
        obtain ⟨replyTo, -, h⟩ := bind_eq_ok.mp h
        split at h
        · cases h
        · obtain ⟨messageId, -, h⟩ := bind_eq_ok.mp h
          obtain ⟨attachments, -, h⟩ := bind_eq_ok.mp h
          cases h
          refine CasesGrow.trans ?_ (casesGrow_insertCaseMessages _ _ _ _ _ _)
          split
          · exact .refl db
          · exact casesGrow_insertCaseMessage _ _ _ _ _ _
    · cases h

/-- The case of a reply that is found is found later. -/
theorem CasesGrow.found {rt : Runtime} {db db' : Database} (h : CasesGrow db db')
    {chatId : String} {messageId : Int} {threadId : Option Int}
    (hfound : (findByReplyMessage rt db chatId messageId threadId).isSome) :
    (findByReplyMessage rt db' chatId messageId threadId).isSome := by
  unfold findByReplyMessage at hfound
  split at hfound
  · cases hfound
  · rename_i row hrow
    obtain ⟨message, hmessage, hcase⟩ := Option.bind_eq_some_iff.mp hrow
    obtain ⟨row', hcase', hthread⟩ := h.cases _ row hcase
    have hrow' : db'.caseOfMessage? chatId messageId = some row' :=
      Option.bind_eq_some_iff.mpr ⟨message, h.messages _ message hmessage, hcase'⟩
    split at hfound
    · cases hfound
    · rename_i hmatch
      rw [← hthread] at hmatch
      simp [findByReplyMessage, hrow', hmatch]

theorem SameCases.grow {db db' : Database} (h : SameCases db db') : CasesGrow db db' := by
  obtain ⟨status, hcases⟩ := h.cases
  exact casesGrow_map h.messages hcases (fun _ => rfl) fun _ => rfl

end AiCustomerService
