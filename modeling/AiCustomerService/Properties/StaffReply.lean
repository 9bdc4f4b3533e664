import AiCustomerService.Support.Pool
import AiCustomerService.Workers.TelegramReplyConsumer

/-!
# Acknowledged staff replies

The offset of the bot must not pass a reply of the staff before the reply has
been committed for the customer.  The consumer stores the result row first and
commits it afterwards, and it takes a stored row for a finished one.
-/

namespace AiCustomerService

open Support

/-! ## The world -/

/-- The database, and the keys of the results whose transaction has committed,
each with `human_active_skipped`. -/
structure ReplyWorld where
  db : Database
  commits : List (String × Bool)

/-- What the schedule decides about an operation: its failure, what the transaction
reads elsewhere, and the answers of Telegram and of the model. -/
structure ReplyChoice where
  fault : Option (Fault ServiceError)
  context : TxContext
  updates : Except ServiceError (List TelegramUpdate)
  composed : Except ServiceError String

/-- The transaction of a result without a failure of the connection. -/
def commitStaffResult (choice : ReplyChoice) (w : ReplyWorld) (row : ExternalResultRow)
    (graphState : GraphState) (outboundMessages : List OutboundMessage)
    (summaryMessage : ConversationMessage) : Except ServiceError Unit × ReplyWorld :=
  match processResultTransactionally w.db choice.context row.ref graphState outboundMessages []
      (some summaryMessage) with
  | .ok (db, result) => (.ok (), ⟨db, (row.dedupKey, result.humanActiveSkipped) :: w.commits⟩)
  | .error e => (.error (.python e), w)

/-- Execute an operation; the transaction and `record_staff_reply_message` may fail. -/
def handleReplyOp (rt : Runtime) : (op : ReplyOp) → ReplyChoice → ReplyWorld →
    Except ServiceError op.Res × ReplyWorld
  | .getOffset offsetKey, _, w => (.ok (getOffset w.db offsetKey), w)
  | .getUpdates _ _, choice, w => (choice.updates, w)
  | .findByReplyMessage chatId messageId threadId, _, w =>
      (.ok (findByReplyMessage rt w.db chatId messageId threadId), w)
  | .isHumanActive conversationId, _, w => (.ok (isHumanActive w.db conversationId), w)
  | .insertResult result, _, w =>
      let inserted := insertExternalResult w.db result
      (.ok inserted.2, { w with db := inserted.1 })
  | .compose _ _, choice, w => (choice.composed, w)
  | .processResult row graphState outboundMessages summaryMessage, choice, w =>
      faulty choice.fault w
        (commitStaffResult choice w row graphState outboundMessages summaryMessage)
  | .markResultFailed resultId error, _, w =>
      (.ok (), { w with db := markResultFailed w.db resultId error })
  | .recordStaffReplyMessage caseId chatId messageId threadId, choice, w =>
      faulty choice.fault w
        (.ok (), { w with db := recordStaffReplyMessage w.db caseId chatId messageId threadId })
  | .saveOffset offsetKey updateId, _, w =>
      (.ok (), { w with db := saveOffset w.db offsetKey updateId })

/-- The consumer polls again and again; `get_me` answers or fails. -/
def replyMachine (settings : ReplySettings) (botUserId : Int) : Machine replyOps where
  World := ReplyWorld
  Choice := ReplyChoice
  Env := Empty
  Job := Bool × Nat
  handle := handleReplyOp settings.runtime
  environ e _ := e.elim
  start job w :=
    some (processTelegramUpdatesOnce settings ⟨if job.1 then some botUserId else none, job.2⟩
      >>= fun _ => .ret (), w)

/-- The reply has been committed: it was enqueued for the customer, unless the
transaction found the conversation in human hands. -/
def ReplyWorld.Committed (w : ReplyWorld) (key : String) : Prop :=
  (key, true) ∈ w.commits ∨
    (key, false) ∈ w.commits ∧
      ∃ suffix ∈ [":outbound", ":outbound:image"], w.db.outboundMessages.hasKey (key ++ suffix)

/-! ## A staff reply -/

/-- An update with a reply of the staff, the case that the answered message belongs
to and the conversation of that case. -/
structure StaffUpdate where
  update : TelegramUpdate
  message : TelegramMessage
  replyToMessageId : Int
  caseId : Nat
  conversationId : String

/-- The key of its result. -/
def StaffUpdate.key (u : StaffUpdate) : String :=
  buildTelegramStaffReplyDedupKey u.update u.caseId

/-- A reply of the staff that is not empty, in a chat that the consumer listens to. -/
structure StaffUpdate.Wellformed (u : StaffUpdate) (settings : ReplySettings)
    (botUserId : Int) : Prop where
  message_eq : u.update.message = some u.message
  target : settings.targetChatIds = [] ∨ u.message.telegramChatId ∈ settings.targetChatIds
  sender : u.message.sender.id ≠ some botUserId
  replyTo : u.message.replyTo.messageId = some u.replyToMessageId
  nonempty : ¬(messageText u.message = "" ∧ attachmentFileIds u.message = [])

/-- The message that is answered belongs to the case. -/
def StaffUpdate.KnownCase (u : StaffUpdate) (db : Database) : Prop :=
  ∃ row, db.caseOfMessage? u.message.telegramChatId u.replyToMessageId = some row ∧
    threadMismatch row.telegramMessageThreadId u.message.threadId = false ∧
    row.id = u.caseId ∧ row.routedConversationId = u.conversationId

/-- The reply is still to be processed. -/
structure StaffUpdate.Unsettled (u : StaffUpdate) (settings : ReplySettings) (db : Database) :
    Prop where
  known : u.KnownCase db
  free : isHumanActive db u.conversationId = false
  fresh : ¬db.externalCommandResults.hasKey u.key
  unreached : ¬db.offsetReached settings.offsetKey u.update.updateId

/-- Among the updates of a poll, the first that reaches the update is the update. -/
def FirstReaching (update : TelegramUpdate) : List TelegramUpdate → Prop
  | [] => True
  | first :: rest =>
      (update.updateId ≤ first.updateId → first = update) ∧
        (first.updateId < update.updateId → FirstReaching update rest)

/-- Telegram answers in the order of the ids and passes over no update that has not
been confirmed by a greater offset. -/
def Feeds (update : TelegramUpdate) (_ : ReplyWorld) (op : ReplyOp) (choice : ReplyChoice) :
    Prop :=
  ∀ offset limit updates, op = .getUpdates offset limit →
    (∀ confirmed, offset = some confirmed → confirmed ≤ update.updateId) →
    choice.updates = .ok updates → FirstReaching update updates

/-- The transaction of the result with a key only raises after it has committed. -/
def CommitsBeforeRaising (key : String) (_ : ReplyWorld) (op : ReplyOp) (choice : ReplyChoice) :
    Prop :=
  ∀ row graphState outboundMessages summaryMessage,
    op = .processResult row graphState outboundMessages summaryMessage → row.dedupKey = key →
    choice.fault.all Fault.applied = true

/-! ## Single operations -/

theorem StaffUpdate.KnownCase.find {u : StaffUpdate} {db : Database} (h : u.KnownCase db)
    (rt : Runtime) :
    ∃ case, findByReplyMessage rt db u.message.telegramChatId u.replyToMessageId
      u.message.threadId = some case ∧ case.id = u.caseId ∧
      case.conversationId = u.conversationId := by
  obtain ⟨row, hrow, hthread, hid, hconversation⟩ := h
  refine ⟨row.found (db.replyLanguageFor rt row), ?_, hid, hconversation⟩
  simp [findByReplyMessage, hrow, hthread]

theorem StaffUpdate.KnownCase.sameCases {u : StaffUpdate} {db db' : Database}
    (h : u.KnownCase db) (hsame : SameCases db db') : u.KnownCase db' := by
  obtain ⟨row, hrow, hthread, hid, hconversation⟩ := h
  obtain ⟨status, hrow'⟩ := hsame.caseOfMessage? hrow
  exact ⟨_, hrow', hthread, hid, hconversation⟩

/-- A message that is already known is not recorded again. -/
theorem StaffUpdate.KnownCase.record {u : StaffUpdate} {db : Database}
    (h : u.KnownCase db) (caseId : Nat) (chatId : String) (messageId : Int)
    (threadId : Option Int) :
    u.KnownCase (recordStaffReplyMessage db caseId chatId messageId threadId) := by
  obtain ⟨row, hrow, hrest⟩ := h
  refine ⟨row, ?_, hrest⟩
  obtain ⟨stored, hstored, hcase⟩ := Option.bind_eq_some_iff.mp hrow
  apply Option.bind_eq_some_iff.mpr
  exact ⟨stored, Table.find?_insertIdempotent_of_find? _ hstored, hcase⟩

/-- The outbound keys after the transaction of a result. -/
theorem hasKey_processResult {db db' : Database} {ctx : TxContext} {ref : ResultRef}
    {graphState : GraphState} {messages : List OutboundMessage}
    {summary : Option ConversationMessage} {result : TransactionResult}
    (h : processResultTransactionally db ctx ref graphState messages [] summary =
      .ok (db', result)) (key : String) :
    (db.outboundMessages.hasKey key → db'.outboundMessages.hasKey key) ∧
      (result.humanActiveSkipped = false →
        (∃ message ∈ messages, message.dedupKey = some key ∧ key ≠ "") →
        db'.outboundMessages.hasKey key) := by
  rcases processResult_cases h with hskipped | henqueued
  · constructor
    · rw [hskipped.outbound]
      exact id
    · intro hskip
      rw [hskipped.skipped] at hskip
      cases hskip
  · obtain ⟨base, queued, houtbound, -, henqueue, hdb', -⟩ := henqueued.queued
    obtain ⟨mid, hmessages, hcommands⟩ := enqueue_ok henqueue
    have hkeys := hasKey_insertOutbounds hmessages key
    rw [hdb', insertExternalCommands_frame hcommands]
    constructor
    · intro hkey
      apply hkeys.mpr
      rw [houtbound]
      exact Or.inl hkey
    · rintro - ⟨message, hmem, hdedup, hne⟩
      apply hkeys.mpr
      right
      rw [List.map_map, List.mem_map]
      refine ⟨message, hmem, ?_⟩
      simp [outboundDedupKey, hdedup, hne]

/-! ## The protocol of the consumer -/

/-- How far the consumer is with the reply: it has not met it, it has stored its row,
or the reply is committed. -/
inductive ReplyPhase
  | early
  | inserted
  | settled
  deriving DecidableEq

/-- What the consumer may do before it has met the reply. -/
def StaffUpdate.Allowed (u : StaffUpdate) (settings : ReplySettings) : ReplyOp → Prop
  | .getOffset offsetKey => offsetKey = settings.offsetKey
  | .getUpdates offset _ =>
      ∀ confirmed, offset = some confirmed → confirmed ≤ u.update.updateId
  | .processResult row graphState outboundMessages _ =>
      row.dedupKey ≠ u.key ∧ graphState.status ≠ some .humanActive ∧
        ∀ message ∈ outboundMessages, message.chatId.isSome
  | .saveOffset _ updateId => updateId < u.update.updateId
  | _ => True

/-- What the answers are then. -/
def StaffUpdate.Plausible (u : StaffUpdate) : (op : ReplyOp) → Except ServiceError op.Res → Prop
  | .getOffset _, r => ∃ n, r = .ok n ∧ (n = 0 ∨ n < u.update.updateId)
  | .getUpdates _ _, r => ∀ updates, r = .ok updates → FirstReaching u.update updates
  | .findByReplyMessage chatId messageId threadId, r =>
      chatId = u.message.telegramChatId → messageId = u.replyToMessageId →
        threadId = u.message.threadId →
          ∃ case, r = .ok (some case) ∧ case.id = u.caseId ∧
            case.conversationId = u.conversationId
  | .isHumanActive conversationId, r => conversationId = u.conversationId → r = .ok false
  | .insertResult result, r =>
      externalResultDedupKey result = u.key → ∃ report, r = .ok report ∧ report.inserted = true
  | _, _ => True

/-- Where an answer leads then. -/
def StaffUpdate.next (u : StaffUpdate) : ReplyOp → ReplyPhase
  | .insertResult result => if externalResultDedupKey result = u.key then .inserted else .early
  | _ => .early

theorem StaffUpdate.next_ne_settled (u : StaffUpdate) (op : ReplyOp) : u.next op ≠ .settled := by
  unfold StaffUpdate.next
  split
  · split
    · simp
    · simp
  · simp

/-- A result of the reply is committed with a message for the customer. -/
def Delivers (key : String) (outboundMessages : List OutboundMessage) : Prop :=
  (∀ message ∈ outboundMessages, message.chatId.isSome) ∧
    ∃ suffix ∈ [":outbound", ":outbound:image"], ∃ message ∈ outboundMessages,
      message.dedupKey = some (key ++ suffix)

/-- Once its row is stored, the reply is composed and committed. -/
def StaffUpdate.Protocol (u : StaffUpdate) (settings : ReplySettings) :
    Support.Protocol replyOps ReplyPhase := fun phase op r phase' =>
  match phase, op with
  | .settled, _ => phase' = .settled
  | .inserted, .compose _ _ => phase' = .inserted
  | .inserted, .processResult row _ outboundMessages _ =>
      row.dedupKey = u.key ∧ Delivers u.key outboundMessages ∧ phase' = .settled
  | .inserted, _ => False
  | .early, op => u.Allowed settings op ∧ (u.Plausible op r → phase' = u.next op)

section Follows

variable {settings : ReplySettings} {u : StaffUpdate} {α : Type}
  {Q : ReplyPhase → Except ServiceError α → Prop}

/-- A committed reply stays committed, whatever the consumer does. -/
theorem followsTo_settled (m : ReplyProg α) (hQ : ∀ r, Q .settled r) :
    FollowsTo (u.Protocol settings) Q .settled m := by
  have hall : Prog.All (I := replyOps) (fun _ => True) m :=
    Prog.all_of_forall (fun _ => trivial) m
  have hstays : FollowsTo (u.Protocol settings) (fun phase _ => phase = .settled) .settled m :=
    FollowsTo.of_all hall fun _ _ _ => rfl
  apply hstays.mono
  rintro phase r rfl
  exact hQ r

/-- Before the reply is met, only plausible answers need to be looked at. -/
theorem followsTo_early (op : ReplyOp) (hallowed : u.Allowed settings op) :
    FollowsTo (u.Protocol settings)
      (fun phase r => phase = .settled ∨ phase = u.next op ∧ u.Plausible op r) .early op.call := by
  apply FollowsTo.perform
  intro r
  by_cases hplausible : u.Plausible op r
  · exact ⟨u.next op, ⟨hallowed, fun _ => rfl⟩, Or.inr ⟨rfl, hplausible⟩⟩
  · exact ⟨.settled, ⟨hallowed, fun h => absurd h hplausible⟩, Or.inl rfl⟩

/-- The same for an operation that is followed by the rest of the program. -/
theorem followsTo_early_bind (op : ReplyOp) {f : op.Res → ReplyProg α}
    (hallowed : u.Allowed settings op) (hsettled : ∀ r, Q .settled r)
    (hok : ∀ a, u.Plausible op (.ok a) → FollowsTo (u.Protocol settings) Q (u.next op) (f a))
    (herror : ∀ e, u.Plausible op (.error e) → Q (u.next op) (.error e)) :
    FollowsTo (u.Protocol settings) Q .early (op.call >>= f) := by
  apply (followsTo_early op hallowed).bind
  · rintro phase a (rfl | ⟨rfl, hplausible⟩)
    · exact followsTo_settled (f a) hsettled
    · exact hok a hplausible
  · rintro phase e (rfl | ⟨rfl, hplausible⟩)
    · exact hsettled _
    · exact herror e hplausible

end Follows

/-! ## What the consumer does with an update -/

/-- No handler of a staff reply hands the conversation over. -/
theorem staffReplyState_status (services : StaffReplyServices) (now : Nat) (reply : StaffReply)
    (polished : PolishedReply) (caseStatus : String) :
    (staffReplyState services now reply polished caseStatus).status ≠ some .humanActive := by
  unfold staffReplyState
  dsimp only
  split
  · simp
  · split
    · simp
    · simp

/-- The messages for the customer carry keys that extend the key of the result. -/
theorem delivers_staffReplyOutbounds (row : ExternalResultRow) (reply : StaffReply)
    (text : String) : Delivers row.dedupKey (staffReplyOutbounds row reply text) := by
  unfold staffReplyOutbounds
  cases reply.attachmentFileIds with
  | nil =>
      refine ⟨?_, ":outbound", List.mem_cons_self, _, List.mem_cons_self, rfl⟩
      intro message hmem
      rw [List.mem_singleton.mp hmem]
      rfl
  | cons fileId rest =>
      have himage : ":outbound:image" ∈ [":outbound", ":outbound:image"] := by simp
      dsimp only
      split
      · refine ⟨?_, ":outbound:image", himage, _, List.mem_cons_self, rfl⟩
        intro message hmem
        rcases List.mem_pair.mp hmem with rfl | rfl
        · rfl
        · rfl
      · refine ⟨?_, ":outbound:image", himage, _, List.mem_cons_self, rfl⟩
        intro message hmem
        rw [List.mem_singleton.mp hmem]
        rfl

theorem externalResultDedupKey_buildResultRow (update : TelegramUpdate) (case : FoundCase)
    (reply : StaffReply) :
    externalResultDedupKey (buildResultRow update case reply) =
      buildTelegramStaffReplyDedupKey update case.id := by
  have hne : buildTelegramStaffReplyDedupKey update case.id ≠ "" := by
    unfold buildTelegramStaffReplyDedupKey
    generalize String.Slice.toString _ = digest
    intro hempty
    have hlength := congrArg String.length hempty
    simp at hlength
  unfold externalResultDedupKey buildResultRow
  generalize buildTelegramStaffReplyDedupKey update case.id = key at hne ⊢
  simp [hne]

section Update

variable {settings : ReplySettings} {u : StaffUpdate}

/-- Building a handler stays in a phase that allows the model call. -/
theorem followsTo_staffReplyHandler {phase : ReplyPhase} (now : Nat) (reply : StaffReply)
    (hcompose : ∀ rawText fallbackText r,
      u.Protocol settings phase (.compose rawText fallbackText) r phase) :
    FollowsTo (u.Protocol settings)
      (fun phase' r => phase' = phase ∧
        ∃ handler, r = .ok handler ∧ handler.graphState.status ≠ some .humanActive)
      phase (staffReplyHandler settings now reply) := by
  unfold staffReplyHandler
  split
  · generalize hhandler : buildStaffReplyHandler settings.services now reply = handler
    have hstatus : handler.graphState.status ≠ some .humanActive := by
      rw [← hhandler]
      exact staffReplyState_status _ _ _ _ _
    rcases finalizeStaffReplyHandler_cases settings reply handler with
      hkept | ⟨final, htext, hasked⟩
    · rw [hkept]
      exact ⟨rfl, handler, rfl, hstatus⟩
    · have hcall : FollowsTo (u.Protocol settings) (fun phase' _ => phase' = phase) phase
          (ReplyOp.compose (strip reply.rawReply) (strip handler.text)).call :=
        FollowsTo.perform fun r => ⟨phase, hcompose _ _ r, rfl⟩
      rw [hasked]
      apply hcall.attempt.bind
      · rintro phase' outcome ⟨-, -, rfl⟩
        refine ⟨rfl, _, rfl, ?_⟩
        obtain ⟨text, hfinal⟩ := htext outcome
        rw [hfinal]
        exact hstatus
      · rintro phase' e ⟨outcome, houtcome, -⟩
        cases houtcome
  · exact ⟨rfl, _, rfl, by simp [buildPhotoOnlyHandler]⟩

/-- The stored reply is committed next. -/
theorem followsTo_commit_inserted {row : ExternalResultRow} (hrow : row.dedupKey = u.key)
    (reply : StaffReply) (handler : ResultHandler) :
    FollowsTo (u.Protocol settings) (fun phase _ => phase = .settled) .inserted
      (commitStaffReply settings row reply handler) := by
  have hdelivers := delivers_staffReplyOutbounds row reply handler.text
  rw [hrow] at hdelivers
  have hcall : FollowsTo (u.Protocol settings) (fun phase _ => phase = .settled) .inserted
      (ReplyOp.processResult row handler.graphState
        (staffReplyOutbounds row reply handler.text)
        (buildExternalResultSummaryMessage row handler)).call :=
    FollowsTo.perform fun r => ⟨.settled, ⟨hrow, hdelivers, rfl⟩, rfl⟩
  apply hcall.tryCatch
  · rintro phase a rfl
    rfl
  · rintro phase e rfl
    exact followsTo_settled _ fun _ => rfl

/-- Another reply may be committed before this one is met. -/
theorem followsTo_commit_early {row : ExternalResultRow} (hrow : row.dedupKey ≠ u.key)
    (reply : StaffReply) {handler : ResultHandler}
    (hstatus : handler.graphState.status ≠ some .humanActive) :
    FollowsTo (u.Protocol settings) (fun phase _ => phase = .settled ∨ phase = .early) .early
      (commitStaffReply settings row reply handler) := by
  have hdelivers := delivers_staffReplyOutbounds row reply handler.text
  have hallowed : u.Allowed settings (.processResult row handler.graphState
      (staffReplyOutbounds row reply handler.text)
      (buildExternalResultSummaryMessage row handler)) := ⟨hrow, hstatus, hdelivers.1⟩
  apply (followsTo_early _ hallowed).tryCatch
  · rintro phase a (rfl | ⟨rfl, -⟩)
    · exact Or.inl rfl
    · exact Or.inr rfl
  · rintro phase e (rfl | ⟨rfl, -⟩)
    · exact followsTo_settled _ fun _ => Or.inl rfl
    · apply followsTo_early_bind (.markResultFailed row.id _) trivial
      · exact fun _ => Or.inl rfl
      · exact fun _ _ => Or.inr rfl
      · exact fun _ _ => Or.inr rfl

theorem followsTo_recordMessage (message : TelegramMessage) (case : FoundCase) :
    FollowsTo (u.Protocol settings) (fun phase _ => phase = .settled ∨ phase = .early) .early
      (recordMessage message case) := by
  unfold recordMessage
  split
  · exact Or.inr rfl
  · next messageId _ =>
      apply (followsTo_early (.recordStaffReplyMessage case.id message.telegramChatId
        messageId message.threadId) trivial).mono
      rintro phase r (rfl | ⟨rfl, -⟩)
      · exact Or.inl rfl
      · exact Or.inr rfl

/-- An update is over when the reply is settled, or when it was not the reply. -/
def StaffUpdate.Over (u : StaffUpdate) (update : TelegramUpdate) (phase : ReplyPhase)
    (_ : Except ServiceError UpdateReport) : Prop :=
  phase = .settled ∨ phase = .early ∧ update ≠ u.update

theorem followsTo_recordStaffReply (now : Nat) (update : TelegramUpdate)
    (message : TelegramMessage) (replyToMessageId : Int) (case : FoundCase)
    (hcase : update = u.update → case.id = u.caseId) :
    FollowsTo (u.Protocol settings) (u.Over update) .early
      (recordStaffReply settings now update message replyToMessageId case) := by
  unfold recordStaffReply
  dsimp only
  generalize staffReplyOf settings.services update message replyToMessageId case = reply
  have hkey := externalResultDedupKey_buildResultRow update case reply
  generalize buildResultRow update case reply = result at hkey
  have hother : externalResultDedupKey result ≠ u.key → update ≠ u.update := by
    rintro hne rfl
    rw [hkey, hcase rfl] at hne
    exact hne rfl
  have hsettled : ∀ r, u.Over update .settled r := fun _ => Or.inl rfl
  apply followsTo_early_bind (.insertResult result) trivial hsettled
  · intro insert hplausible
    by_cases hmine : externalResultDedupKey result = u.key
    · obtain ⟨report, hreport, hinserted⟩ := hplausible hmine
      cases hreport
      rw [StaffUpdate.next, if_pos hmine, if_neg (by simp [hinserted])]
      have hhandler := @followsTo_staffReplyHandler settings u .inserted now reply
        fun _ _ _ => rfl
      apply hhandler.bind
      · rintro phase handler ⟨rfl, -⟩
        apply (followsTo_commit_inserted hmine reply handler).bind
        · rintro phase _ rfl
          exact followsTo_settled _ hsettled
        · rintro phase e rfl
          exact hsettled _
      · rintro phase e ⟨-, handler, hhandler, -⟩
        cases hhandler
    · have hover : ∀ r, u.Over update .early r := fun _ => Or.inr ⟨rfl, hother hmine⟩
      rw [StaffUpdate.next, if_neg hmine]
      split
      · exact hover _
      · have hhandler := @followsTo_staffReplyHandler settings u .early now reply
          fun _ _ _ => ⟨trivial, fun _ => rfl⟩
        apply hhandler.bind
        · rintro phase handler ⟨rfl, chosen, hchosen, hstatus⟩
          cases hchosen
          apply (followsTo_commit_early hmine reply hstatus).bind
          · rintro phase _ (rfl | rfl)
            · exact followsTo_settled _ hsettled
            · apply (followsTo_recordMessage message case).bind
              · rintro phase _ (rfl | rfl)
                · exact hsettled _
                · exact hover _
              · rintro phase e (rfl | rfl)
                · exact hsettled _
                · exact hover _
          · rintro phase e (rfl | rfl)
            · exact hsettled _
            · exact hover _
        · rintro phase e ⟨-, handler, hhandler, -⟩
          cases hhandler
  · intro e hplausible
    by_cases hmine : externalResultDedupKey result = u.key
    · obtain ⟨report, hreport, -⟩ := hplausible hmine
      cases hreport
    · rw [StaffUpdate.next, if_neg hmine]
      exact Or.inr ⟨rfl, hother hmine⟩

theorem followsTo_processCaseReply (now : Nat) (update : TelegramUpdate)
    (message : TelegramMessage) (replyToMessageId : Int) (case : FoundCase)
    (hcase : update = u.update → case.id = u.caseId ∧ case.conversationId = u.conversationId)
    (hnonempty : update = u.update →
      ¬(messageText message = "" ∧ attachmentFileIds message = [])) :
    FollowsTo (u.Protocol settings) (u.Over update) .early
      (processCaseReply settings now update message replyToMessageId case) := by
  apply followsTo_early_bind (.isHumanActive case.conversationId) trivial
  · exact fun _ => Or.inl rfl
  · intro humanActive hplausible
    split
    · next hactive =>
        refine Or.inr ⟨rfl, ?_⟩
        rintro rfl
        cases hplausible (hcase rfl).2
        cases hactive
    · split
      · next hempty => exact Or.inr ⟨rfl, fun h => hnonempty h hempty⟩
      · exact followsTo_recordStaffReply now update message replyToMessageId case
          fun h => (hcase h).1
  · intro e hplausible
    refine Or.inr ⟨rfl, ?_⟩
    rintro rfl
    cases hplausible (hcase rfl).2

variable {botUserId : Int}

/-- Unless it is settled, a processed update was another one. -/
theorem followsTo_processSingleUpdate (hreply : u.Wellformed settings botUserId)
    (poll : PollContext) (hpoll : poll.botUserId = none ∨ poll.botUserId = some botUserId)
    (update : TelegramUpdate) :
    FollowsTo (u.Protocol settings) (u.Over update) .early
      (processSingleUpdate settings poll update) := by
  have hmine : update = u.update → update.message = some u.message := by
    rintro rfl
    exact hreply.message_eq
  unfold processSingleUpdate
  split
  · next hmessage => exact Or.inr ⟨rfl, fun h => by simp [hmine h] at hmessage⟩
  · next message hmessage =>
      have heq : update = u.update → message = u.message := by
        intro h
        rw [hmine h] at hmessage
        exact (Option.some.inj hmessage).symm
      split
      · next htarget =>
          refine Or.inr ⟨rfl, fun h => ?_⟩
          rw [heq h] at htarget
          exact hreply.target.elim htarget.1 htarget.2
      · split
        · next hself =>
            refine Or.inr ⟨rfl, fun h => ?_⟩
            rw [heq h] at hself
            rcases hpoll with hnone | hbot
            · exact hself.1 hnone
            · exact hreply.sender (hself.2.trans hbot)
        · split
          · next hreplyTo =>
              refine Or.inr ⟨rfl, fun h => ?_⟩
              rw [heq h, hreply.replyTo] at hreplyTo
              cases hreplyTo
          · next replyToMessageId hreplyTo =>
              have hanswered : update = u.update → replyToMessageId = u.replyToMessageId := by
                intro h
                rw [heq h, hreply.replyTo] at hreplyTo
                exact (Option.some.inj hreplyTo).symm
              apply followsTo_early_bind
                (.findByReplyMessage message.telegramChatId replyToMessageId
                  message.threadId) trivial
              · exact fun _ => Or.inl rfl
              · intro found hplausible
                have hfound : update = u.update → ∃ case, found = some case ∧
                    case.id = u.caseId ∧ case.conversationId = u.conversationId := by
                  intro h
                  have hchat : message.telegramChatId = u.message.telegramChatId := by rw [heq h]
                  have hthread : message.threadId = u.message.threadId := by rw [heq h]
                  obtain ⟨case, hcase, hids⟩ := hplausible hchat (hanswered h) hthread
                  exact ⟨case, Except.ok.inj hcase, hids⟩
                split
                · refine Or.inr ⟨rfl, fun h => ?_⟩
                  obtain ⟨case, hcase, -⟩ := hfound h
                  cases hcase
                · next case =>
                    apply followsTo_processCaseReply
                    · intro h
                      obtain ⟨known, hknown, hids⟩ := hfound h
                      cases hknown
                      exact hids
                    · intro h
                      rw [heq h]
                      exact hreply.nonempty
              · intro e hplausible
                refine Or.inr ⟨rfl, fun h => ?_⟩
                obtain ⟨case, hcase, -⟩ :=
                  hplausible (by rw [heq h]) (hanswered h) (by rw [heq h])
                cases hcase

/-- A batch saves no offset that reaches the reply before the reply is settled. -/
theorem followsTo_processTelegramUpdates (hreply : u.Wellformed settings botUserId)
    (poll : PollContext) (hpoll : poll.botUserId = none ∨ poll.botUserId = some botUserId)
    (updates : List TelegramUpdate) (hfirst : FirstReaching u.update updates) :
    FollowsTo (u.Protocol settings) (fun phase _ => phase ≠ .inserted) .early
      (processTelegramUpdates settings poll updates) := by
  have hsettled : ∀ r : Except ServiceError (List UpdateReport),
      (fun (phase : ReplyPhase) (_ : Except ServiceError (List UpdateReport)) =>
        phase ≠ .inserted) .settled r := fun _ => (by decide : ReplyPhase.settled ≠ .inserted)
  induction updates with
  | nil => exact (by decide : ReplyPhase.early ≠ .inserted)
  | cons update rest ih =>
      unfold processTelegramUpdates
      apply (followsTo_processSingleUpdate hreply poll hpoll update).attempt.bind
      · rintro phase outcome ⟨outcome', houtcome, hover⟩
        rcases hover with rfl | ⟨rfl, hother⟩
        · exact followsTo_settled _ hsettled
        · have hbefore : update.updateId < u.update.updateId := by
            by_contra hreached
            exact hother (hfirst.1 (by omega))
          have hrest : FollowsTo (u.Protocol settings) (fun phase _ => phase ≠ .inserted) .early
              (processTelegramUpdates settings poll rest) := ih (hfirst.2 hbefore)
          have hsave : FollowsTo (u.Protocol settings)
              (fun phase _ => phase = .settled ∨ phase = .early) .early
              (acknowledge settings update) := by
            unfold acknowledge
            split
            · apply (followsTo_early (.saveOffset settings.offsetKey update.updateId)
                hbefore).mono
              rintro phase r (rfl | ⟨rfl, -⟩)
              · exact Or.inl rfl
              · exact Or.inr rfl
            · exact Or.inr rfl
          split
          · exact (by decide : ReplyPhase.early ≠ .inserted)
          · apply hsave.bind
            · rintro phase _ (rfl | rfl)
              · exact followsTo_settled _ hsettled
              · apply hrest.bind
                · intro phase others hphase
                  exact hphase
                · intro phase e hphase
                  exact hphase
            · rintro phase e (rfl | rfl)
              · decide
              · decide
      · rintro phase e ⟨outcome, houtcome, -⟩
        cases houtcome

/-- The protocol of a whole poll. -/
theorem followsTo_processTelegramUpdatesOnce (hreply : u.Wellformed settings botUserId)
    (poll : PollContext) (hpoll : poll.botUserId = none ∨ poll.botUserId = some botUserId) :
    FollowsTo (u.Protocol settings) (fun phase _ => phase ≠ .inserted) .early
      (processTelegramUpdatesOnce settings poll) := by
  apply followsTo_early_bind (.getOffset settings.offsetKey) rfl
  · exact fun _ => by decide
  · intro lastUpdateId hplausible
    change Int at lastUpdateId
    have hlast : lastUpdateId = 0 ∨ lastUpdateId < u.update.updateId := by
      obtain ⟨n, hn, hlast⟩ := hplausible
      cases hn
      exact hlast
    have hrequest : u.Allowed settings
        (.getUpdates (requestOffset lastUpdateId) settings.limit) := by
      intro confirmed hconfirmed
      unfold requestOffset at hconfirmed
      split at hconfirmed
      · cases hconfirmed
      · cases hconfirmed
        omega
    apply followsTo_early_bind _ hrequest
    · exact fun _ => by decide
    · intro updates hfeed
      exact followsTo_processTelegramUpdates hreply poll hpoll updates (hfeed updates rfl)
    · exact fun _ _ => (by decide : ReplyPhase.early ≠ .inserted)
  · exact fun _ _ => (by decide : ReplyPhase.early ≠ .inserted)

end Update

/-! ## What the operations keep -/

section Operations

variable {rt : Runtime} {settings : ReplySettings} {u : StaffUpdate} {w : ReplyWorld}
  {choice : ReplyChoice}

/-- The inversion of a commit. -/
theorem commitStaffResult_cases (choice : ReplyChoice) (w : ReplyWorld)
    (row : ExternalResultRow) (graphState : GraphState)
    (outboundMessages : List OutboundMessage) (summaryMessage : ConversationMessage) :
    (∃ db result, processResultTransactionally w.db choice.context row.ref graphState
        outboundMessages [] (some summaryMessage) = .ok (db, result) ∧
      commitStaffResult choice w row graphState outboundMessages summaryMessage =
        (.ok (), ⟨db, (row.dedupKey, result.humanActiveSkipped) :: w.commits⟩)) ∨
    ∃ e, processResultTransactionally w.db choice.context row.ref graphState
        outboundMessages [] (some summaryMessage) = .error e ∧
      commitStaffResult choice w row graphState outboundMessages summaryMessage =
        (.error (.python e), w) := by
  unfold commitStaffResult
  cases h : processResultTransactionally w.db choice.context row.ref graphState outboundMessages
      [] (some summaryMessage) with
  | ok done => exact Or.inl ⟨done.1, done.2, rfl, rfl⟩
  | error e => exact Or.inr ⟨e, rfl, rfl⟩

/-- What is committed stays committed. -/
theorem committed_handleReplyOp {key : String} (op : ReplyOp) (h : w.Committed key) :
    (handleReplyOp rt op choice w).2.Committed key := by
  cases op with
  | processResult row graphState outboundMessages summaryMessage =>
      apply faulty_induction (motive := fun w => ReplyWorld.Committed w key) h
      rcases commitStaffResult_cases choice w row graphState outboundMessages summaryMessage
        with ⟨db, result, hcommit, hdone⟩ | ⟨e, -, hdone⟩
      · rw [hdone]
        rcases h with hskipped | ⟨hfree, suffix, hsuffix, hkey⟩
        · exact Or.inl (List.mem_cons_of_mem _ hskipped)
        · exact Or.inr ⟨List.mem_cons_of_mem _ hfree, suffix, hsuffix,
            (hasKey_processResult hcommit _).1 hkey⟩
      · rw [hdone]
        exact h
  | recordStaffReplyMessage caseId chatId messageId threadId =>
      apply faulty_induction (motive := fun w => ReplyWorld.Committed w key) h
      exact h
  | getOffset offsetKey => exact h
  | getUpdates offset limit => exact h
  | findByReplyMessage chatId messageId threadId => exact h
  | isHumanActive conversationId => exact h
  | insertResult result => exact h
  | compose rawText fallbackText => exact h
  | markResultFailed resultId error => exact h
  | saveOffset offsetKey updateId => exact h

/-- The transaction of the reply commits it, unless it raises without an effect. -/
theorem committed_processResult {row : ExternalResultRow} {graphState : GraphState}
    {outboundMessages : List OutboundMessage} {summaryMessage : ConversationMessage}
    (hdelivers : Delivers row.dedupKey outboundMessages)
    (happlied : choice.fault.all Fault.applied = true) :
    (handleReplyOp rt (.processResult row graphState outboundMessages summaryMessage) choice
      w).2.Committed row.dedupKey := by
  obtain ⟨hchat, suffix, hsuffix, message, hmem, hdedup⟩ := hdelivers
  have hdone : (commitStaffResult choice w row graphState outboundMessages
      summaryMessage).2.Committed row.dedupKey := by
    rcases commitStaffResult_cases choice w row graphState outboundMessages summaryMessage
      with ⟨db, result, hcommit, hdone⟩ | ⟨e, herror, -⟩
    · rw [hdone]
      cases hskip : result.humanActiveSkipped with
      | true => exact Or.inl List.mem_cons_self
      | false =>
          have hne : row.dedupKey ++ suffix ≠ "" := by
            intro hempty
            have hlength := congrArg String.length hempty
            rcases List.mem_pair.mp hsuffix with rfl | rfl
            · simp at hlength
            · simp at hlength
          exact Or.inr ⟨List.mem_cons_self, suffix, hsuffix,
            (hasKey_processResult hcommit _).2 hskip ⟨message, hmem, hdedup, hne⟩⟩
    · obtain ⟨db, result, hok⟩ := @processResult_of_chatId outboundMessages [] hchat (by simp)
        w.db choice.context row.ref graphState (some summaryMessage)
      rw [hok] at herror
      cases herror
  change (faulty choice.fault w _).2.Committed _
  cases hfault : choice.fault with
  | none => exact hdone
  | some fault =>
      have happlied : fault.applied = true := by simpa [hfault] using happlied
      simpa [faulty, happlied] using hdone

/-- The answers in a world where the reply is still to be processed. -/
theorem plausible_handleReplyOp {op : ReplyOp} (h : u.Unsettled settings w.db)
    (hfeed : Feeds u.update w op choice) (hallowed : u.Allowed settings op) :
    u.Plausible op (handleReplyOp rt op choice w).1 := by
  cases op with
  | getOffset offsetKey =>
      cases hallowed
      exact ⟨_, rfl, getOffset_of_not_reached h.unreached⟩
  | getUpdates offset limit =>
      intro updates hupdates
      exact hfeed offset limit updates rfl hallowed hupdates
  | findByReplyMessage chatId messageId threadId =>
      rintro rfl rfl rfl
      obtain ⟨case, hcase, hids⟩ := h.known.find rt
      exact ⟨case, congrArg Except.ok hcase, hids⟩
  | isHumanActive conversationId =>
      rintro rfl
      exact congrArg Except.ok h.free
  | insertResult result =>
      intro hkey
      refine ⟨_, rfl, ?_⟩
      have hfresh : ¬w.db.externalCommandResults.hasKey (externalResultDedupKey result) :=
        hkey ▸ h.fresh
      exact (Table.insertIdempotent_inserted_iff w.db.externalCommandResults
        (result.row (w.db.externalCommandResults.rows.length + 1) w.db.now)).mpr hfresh
  | compose rawText fallbackText => trivial
  | processResult row graphState outboundMessages summaryMessage => trivial
  | markResultFailed resultId error => trivial
  | recordStaffReplyMessage caseId chatId messageId threadId => trivial
  | saveOffset offsetKey updateId => trivial

/-- Operations that are allowed then, the insert of its own row apart, leave the reply
to be processed. -/
theorem unsettled_handleReplyOp {op : ReplyOp} (h : u.Unsettled settings w.db)
    (hallowed : u.Allowed settings op) (hnext : u.next op = .early) :
    u.Unsettled settings (handleReplyOp rt op choice w).2.db := by
  cases op with
  | insertResult result =>
      have hother : externalResultDedupKey result ≠ u.key := by
        intro hkey
        simp [StaffUpdate.next, hkey] at hnext
      refine ⟨h.known, h.free, ?_, h.unreached⟩
      change ¬(w.db.externalCommandResults.insertIdempotent _).1.hasKey u.key
      rw [Table.hasKey_insertIdempotent]
      rintro (hold | hnew)
      · exact h.fresh hold
      · exact hother hnew.symm
  | processResult row graphState outboundMessages summaryMessage =>
      refine faulty_induction (motive := fun w : ReplyWorld => u.Unsettled settings w.db) h ?_
      rcases commitStaffResult_cases choice w row graphState outboundMessages summaryMessage
        with ⟨db, result, hcommit, hdone⟩ | ⟨e, -, hdone⟩
      · rw [hdone]
        have hsame := processResult_sameCases hcommit
        refine ⟨h.known.sameCases hsame, isHumanActive_processResult hcommit hallowed.2.1 h.free,
          ?_, ?_⟩
        · rw [hsame.results]
          exact h.fresh
        · unfold Database.offsetReached
          rw [hsame.offsets]
          exact h.unreached
      · rw [hdone]
        exact h
  | markResultFailed resultId error =>
      have hkeys := hasKey_updateResult w.db resultId
        (fun row => { row with status := .failed, lastError := some error, lease := .none })
        (fun _ => rfl) u.key
      exact ⟨h.known, h.free, fun hkey => h.fresh (hkeys.mp hkey), h.unreached⟩
  | recordStaffReplyMessage caseId chatId messageId threadId =>
      refine faulty_induction (motive := fun w : ReplyWorld => u.Unsettled settings w.db) h ?_
      exact ⟨h.known.record caseId chatId messageId threadId, h.free, h.fresh, h.unreached⟩
  | saveOffset offsetKey updateId =>
      refine ⟨h.known, h.free, h.fresh, ?_⟩
      intro hreached
      by_cases hkey : offsetKey = settings.offsetKey
      · subst hkey
        rcases offsetReached_saveOffset hreached with hbefore | hlate
        · exact h.unreached hbefore
        · have hlt : updateId < u.update.updateId := hallowed
          omega
      · obtain ⟨saved, hsaved, hle⟩ := hreached
        have hne : settings.offsetKey ≠ offsetKey := fun heq => hkey heq.symm
        simp only [handleReplyOp, saveOffset, Dict.get?_set, hne, if_false] at hsaved
        exact h.unreached ⟨saved, hsaved, hle⟩
  | getOffset offsetKey => exact h
  | getUpdates offset limit => exact h
  | findByReplyMessage chatId messageId threadId => exact h
  | isHumanActive conversationId => exact h
  | compose rawText fallbackText => exact h

end Operations

/-! ## Runs -/

section Runs

variable {settings : ReplySettings} {botUserId : Int} {u : StaffUpdate}

/-- What each phase says about the world. -/
def ReplyInvariant (settings : ReplySettings) (u : StaffUpdate) (w : ReplyWorld)
    (phases : Unit → ReplyPhase) : Prop :=
  match phases () with
  | .early => u.Unsettled settings w.db
  | .inserted => ¬w.db.offsetReached settings.offsetKey u.update.updateId
  | .settled => w.Committed u.key

/-- What is assumed of every operation. -/
def ReplyAssumption (u : StaffUpdate) (w : ReplyWorld) (op : ReplyOp) (choice : ReplyChoice) :
    Prop :=
  Feeds u.update w op choice ∧ CommitsBeforeRaising u.key w op choice

theorem isInvariant_replyInvariant (hreply : u.Wellformed settings botUserId) :
    Machine.IsInvariant (M := replyMachine settings botUserId) (T := Unit)
      (u.Protocol settings) (fun phase => phase ≠ .inserted) (ReplyAssumption u)
      (ReplyInvariant settings u) := by
  refine ⟨?_, fun e => e.elim, ?_⟩
  · rintro w phases ⟨⟩ op choice phase hinv ⟨hfeed, hcommits⟩ hδ
    change ReplyInvariant settings u (handleReplyOp settings.runtime op choice w).2 _
    unfold ReplyInvariant at hinv ⊢
    rw [Function.update_self]
    cases hphase : phases () with
    | settled =>
        rw [hphase] at hinv hδ
        cases hδ
        exact committed_handleReplyOp op hinv
    | inserted =>
        rw [hphase] at hinv hδ
        cases op with
        | compose rawText fallbackText =>
            cases hδ
            exact hinv
        | processResult row graphState outboundMessages summaryMessage =>
            obtain ⟨hrow, hdelivers, rfl⟩ := hδ
            have happlied := hcommits row graphState outboundMessages summaryMessage rfl hrow
            rw [← hrow] at hdelivers
            have hdone := @committed_processResult settings.runtime w choice row graphState
              outboundMessages summaryMessage hdelivers happlied
            rwa [hrow] at hdone
        | _ => exact hδ.elim
    | early =>
        rw [hphase] at hinv hδ
        obtain ⟨hallowed, hnext⟩ := hδ
        cases hnext (plausible_handleReplyOp hinv hfeed hallowed)
        cases hresult : u.next op with
        | early => exact unsettled_handleReplyOp hinv hallowed hresult
        | settled => exact absurd hresult (u.next_ne_settled op)
        | inserted =>
            cases op with
            | insertResult result => exact hinv.unreached
            | _ => cases hresult
  · rintro w phases ⟨⟩ job prog w' hinv hfinal hstart
    cases hstart
    unfold ReplyInvariant at hinv ⊢
    have hpoll : (if job.1 then some botUserId else none) = none ∨
        (if job.1 then some botUserId else none) = some botUserId := by
      cases job.1 with
      | true => exact Or.inr rfl
      | false => exact Or.inl rfl
    have hprog := followsTo_processTelegramUpdatesOnce hreply
      ⟨if job.1 then some botUserId else none, job.2⟩ hpoll
    cases hphase : phases () with
    | settled =>
        rw [hphase] at hinv
        refine ⟨.settled, followsTo_settled _ fun _ => by decide, ?_⟩
        rw [Function.update_self]
        exact hinv
    | inserted => exact absurd hphase hfinal
    | early =>
        rw [hphase] at hinv
        refine ⟨.early, ?_, ?_⟩
        · apply hprog.bind
          · intro phase reports hend
            exact hend
          · intro phase e hend
            exact hend
        · rw [Function.update_self]
          exact hinv

/-- The consumer is between two polls. -/
def replyStart (settings : ReplySettings) (botUserId : Int) (db : Database) :
    Machine.Config (replyMachine settings botUserId) Unit :=
  Machine.idle (M := replyMachine settings botUserId) ⟨db, []⟩

/-- Over any number of polls, and wherever the transaction and
`record_staff_reply_message` fail, the saved offset reaches a staff reply only after
its transaction has committed, provided that the transaction of the reply itself never
raises without having committed. -/
theorem offset_waits_for_commit (hreply : u.Wellformed settings botUserId) {db : Database}
    (hdb : u.Unsettled settings db)
    {labels : List (Machine.Label (replyMachine settings botUserId) Unit)}
    (hfeeds : Machine.AllSteps (Machine.Executes (Feeds u.update))
      (replyStart settings botUserId db) labels)
    (hcommits : Machine.AllSteps (Machine.Executes (CommitsBeforeRaising u.key))
      (replyStart settings botUserId db) labels)
    {polled rest : List (Machine.Label (replyMachine settings botUserId) Unit)}
    (hlabels : labels = polled ++ rest)
    (hreached : Database.offsetReached
      (Machine.run (replyStart settings botUserId db) polled).world.db settings.offsetKey
      u.update.updateId) :
    ReplyWorld.Committed (Machine.run (replyStart settings botUserId db) polled).world u.key := by
  subst hlabels
  have hstart : Machine.Tracks (u.Protocol settings) (fun phase => phase ≠ .inserted)
      (ReplyInvariant settings u) (replyStart settings botUserId db) :=
    ⟨fun _ => .early, hdb, fun _ => (by decide : ReplyPhase.early ≠ .inserted)⟩
  have hassumed : Machine.AllSteps (Machine.Executes (ReplyAssumption u))
      (replyStart settings botUserId db) polled := by
    have hboth := (Machine.allSteps_append.mp hfeeds).1.and (Machine.allSteps_append.mp hcommits).1
    apply hboth.mono
    rintro c l ⟨hfeed, hcommit⟩
    cases l with
    | act t choice => exact fun op hop => ⟨hfeed op hop, hcommit op hop⟩
    | env e => trivial
    | spawn t job => trivial
  obtain ⟨phases, hinv, -⟩ := hstart.run (isInvariant_replyInvariant hreply) hassumed
  unfold ReplyInvariant at hinv
  cases hphase : phases () with
  | settled =>
      rw [hphase] at hinv
      exact hinv
  | inserted =>
      rw [hphase] at hinv
      exact absurd hreached hinv
  | early =>
      rw [hphase] at hinv
      exact absurd hreached hinv.unreached

end Runs

/-! ## A reply that is acknowledged and lost -/

/-- Plain settings: the staff only writes that it is still at work. -/
def plainReplySettings : ReplySettings where
  services :=
    { normalizeLanguageCode := fun _ => "unknown"
      process := fun _ _ => ⟨"long_wait",
        "我们已收到相关信息并正在为您确认，会在此对话内持续跟进。请放心，您的资金在我们的流程下是安全的。",
        "fallback"⟩
      asksCustomer := fun _ => false
      asksToWait := fun _ => false
      matchesCompletion := fun _ _ => false
      isTerminalOther := fun _ => false
      formatDatetime := toString }
  runtime := .plain
  offsetKey := "telegram:bot"
  targetChatIds := ["-100"]
  limit := 20
  llmFinalReplyEnabled := false

/-- A member of the staff answers message 5 of case 1. -/
def waitUpdate : StaffUpdate where
  update := ⟨100, some ⟨some 7, some (-100), ⟨some 9, none, some "Ana", none⟩, ⟨some 5, none⟩,
    none, some "wait", none, []⟩⟩
  message := ⟨some 7, some (-100), ⟨some 9, none, some "Ana", none⟩, ⟨some 5, none⟩,
    none, some "wait", none, []⟩
  replyToMessageId := 5
  caseId := 1
  conversationId := "livechat:C1:T1"

/-- The case of chat `C1` whose card is message 5. -/
def openCaseDatabase : Database :=
  { Database.empty with
    telegramCases :=
      [{ id := 1, tenantId := "default", conversationId := "livechat:C1:T1",
         currentConversationId := none, chatId := "C1", threadId := some "T1",
         currentThreadId := none, inboundEventId := some 11, externalCommandId := 3,
         intent := some "deposit_missing", activeWorkflow := some "deposit_missing",
         telegramChatId := "-100", telegramMessageThreadId := none, rootMessageId := 5,
         status := "awaiting_review" }]
    telegramCaseMessages := ⟨[⟨1, 1, "-100", none, 5, "root"⟩], by decide⟩ }

/-- Telegram answers with the reply; the transaction may fail. -/
def replyChoice (fault : Option (Fault ServiceError)) : ReplyChoice :=
  ⟨fault, ⟨none, false⟩, .ok [waitUpdate.update], .ok ""⟩

/-- Two polls; the transaction of the first one fails. -/
def twoPolls (fault : Fault ServiceError) :
    List (Machine.Label (replyMachine plainReplySettings 42) Unit) :=
  .spawn () (true, 0) :: List.replicate 5 (.act () (replyChoice none)) ++
    .act () (replyChoice (some fault)) :: .act () (replyChoice none) ::
    .spawn () (true, 0) :: List.replicate 6 (.act () (replyChoice none))

theorem wellformed_waitUpdate : waitUpdate.Wellformed plainReplySettings 42 where
  message_eq := rfl
  target := Or.inr (by decide)
  sender := by decide
  replyTo := rfl
  nonempty := by decide

theorem unsettled_waitUpdate : waitUpdate.Unsettled plainReplySettings openCaseDatabase where
  known := ⟨_, rfl, rfl, rfl, rfl⟩
  free := rfl
  fresh := List.not_mem_nil
  unreached := by
    rintro ⟨saved, hsaved, -⟩
    cases hsaved

/-- In every step of the two polls, Telegram answers with the reply, and a failure is the
given one. -/
theorem choice_twoPolls {fault : Fault ServiceError} {t : Unit} {choice : ReplyChoice}
    (h : .act t choice ∈ twoPolls fault) :
    choice.updates = .ok [waitUpdate.update] ∧
      (choice.fault = none ∨ choice.fault = some fault) := by
  simp only [twoPolls, List.cons_append, List.mem_cons, List.mem_append, List.mem_replicate,
    reduceCtorEq, false_or] at h
  rcases h with ⟨-, h⟩ | h | h | ⟨-, h⟩
  · cases h
    exact ⟨rfl, Or.inl rfl⟩
  · cases h
    exact ⟨rfl, Or.inr rfl⟩
  · cases h
    exact ⟨rfl, Or.inl rfl⟩
  · cases h
    exact ⟨rfl, Or.inl rfl⟩

theorem feeds_twoPolls (fault : Fault ServiceError) :
    Machine.AllSteps (Machine.Executes (Feeds waitUpdate.update))
      (replyStart plainReplySettings 42 openCaseDatabase) (twoPolls fault) := by
  apply Machine.allSteps_of_choices
  intro t choice hmem w op offset limit updates _ _ hupdates
  rw [(choice_twoPolls hmem).1] at hupdates
  cases hupdates
  exact ⟨fun _ => rfl, fun h => absurd h (by decide)⟩

/-- The transaction is rolled back in the first poll, the second poll finds the stored
row, and the update is acknowledged: the customer never gets the answer. -/
theorem failed_reply_is_acknowledged :
    let labels := twoPolls ⟨.other "Deadlock found", false⟩
    let start := replyStart plainReplySettings 42 openCaseDatabase
    let w : ReplyWorld := (Machine.run start labels).world
    waitUpdate.Wellformed plainReplySettings 42 ∧
      waitUpdate.Unsettled plainReplySettings openCaseDatabase ∧
      Machine.AllSteps (Machine.Executes (Feeds waitUpdate.update)) start labels ∧
      w.db.offsetReached plainReplySettings.offsetKey waitUpdate.update.updateId ∧
      ¬w.Committed waitUpdate.key ∧ w.db.outboundMessages.rows = [] := by
  have hcommits : (Machine.run (replyStart plainReplySettings 42 openCaseDatabase)
      (twoPolls ⟨.other "Deadlock found", false⟩)).world.commits = [] := by decide +kernel
  refine ⟨wellformed_waitUpdate, unsettled_waitUpdate, feeds_twoPolls _, ⟨100, ?_, ?_⟩, ?_, ?_⟩
  · decide +kernel
  · decide
  · rintro (hskipped | ⟨hfree, -⟩)
    · rw [hcommits] at hskipped
      cases hskipped
    · rw [hcommits] at hfree
      cases hfree
  · decide +kernel

/-- The same failure after the transaction has committed is harmless: the second poll
acknowledges a reply that the customer gets. -/
theorem committed_reply_is_acknowledged :
    ReplyWorld.Committed (Machine.run (replyStart plainReplySettings 42 openCaseDatabase)
      (twoPolls ⟨.other "Lost connection", true⟩)).world waitUpdate.key := by
  refine @offset_waits_for_commit plainReplySettings 42 waitUpdate wellformed_waitUpdate
    openCaseDatabase unsettled_waitUpdate (twoPolls ⟨.other "Lost connection", true⟩)
    (feeds_twoPolls _) ?_ (twoPolls ⟨.other "Lost connection", true⟩) [] (List.append_nil _).symm
    ⟨100, ?_, ?_⟩
  · apply Machine.allSteps_of_choices
    intro t choice hmem w op row graphState outboundMessages summaryMessage _ _
    rcases (choice_twoPolls hmem).2 with hnone | hsome
    · rw [hnone]
      rfl
    · rw [hsome]
      rfl
  · decide +kernel
  · decide

end AiCustomerService
