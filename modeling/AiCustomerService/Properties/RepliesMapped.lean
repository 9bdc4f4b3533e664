import AiCustomerService.Workers.TelegramPoll

/-!
# Replies to cards that are not mapped yet

A reply whose case is not found is reported as `case_not_found` and acknowledged.  A card is
mapped by the sync at the beginning of a poll, so a card that is delivered and answered while
the poll waits for updates is answered in vain.  The reply is safe if its card was mapped when
the updates were handed over.
-/

namespace AiCustomerService

open Support Support.Machine

variable {settings : ReplySettings} {botUserId : Int} {T : Type} [DecidableEq T]

/-- The case of a reply is found. -/
def PollWorld.Finds (rt : Runtime) (w : PollWorld) (update : TelegramUpdate) : Prop :=
  ∀ message ∈ update.message, ∀ messageId ∈ message.replyTo.messageId,
    (message.telegramChatId, messageId) ∈ w.cards →
      (findByReplyMessage rt w.replies.db message.telegramChatId messageId
        message.threadId).isSome

instance (rt : Runtime) (w : PollWorld) (update : TelegramUpdate) :
    Decidable (w.Finds rt update) :=
  inferInstanceAs (Decidable (∀ message ∈ update.message, ∀ messageId ∈ message.replyTo.messageId,
    _ → _))

/-- The updates that an operation is handed over. -/
def PollWorld.handedOver (w : PollWorld) : PollOp → List TelegramUpdate
  | .reply (.getUpdates offset limit) => w.pending offset limit
  | _ => []

/-- The updates that are handed over answer mapped cards only, if they answer cards. -/
def HandsOverMapped (rt : Runtime) (w : PollWorld) (op : PollOp) (_ : ReplyChoice) : Prop :=
  ∀ update ∈ w.handedOver op, w.Finds rt update

instance (rt : Runtime) (w : PollWorld) (op : PollOp) (choice : ReplyChoice) :
    Decidable (HandsOverMapped rt w op choice) :=
  inferInstanceAs (Decidable (∀ update ∈ w.handedOver op, _))

/-- The reply that an operation looks up. -/
def PollOp.lookedUp? : PollOp → Option (String × Int × Option Int)
  | .reply (.findByReplyMessage chatId messageId threadId) => some (chatId, messageId, threadId)
  | _ => none

/-- A reply to a card of the bot is not answered with `case_not_found`. -/
def CaseFound (rt : Runtime) (w : PollWorld) (op : PollOp) (_ : ReplyChoice) : Prop :=
  ∀ reply ∈ op.lookedUp?, (reply.1, reply.2.1) ∈ w.cards →
    (findByReplyMessage rt w.replies.db reply.1 reply.2.1 reply.2.2).isSome

instance (rt : Runtime) (w : PollWorld) (op : PollOp) (choice : ReplyChoice) :
    Decidable (CaseFound rt w op choice) :=
  inferInstanceAs (Decidable (∀ reply ∈ op.lookedUp?, _ → _))

/-! ## The updates in hand -/

/-- What a poll looks up is the target of an update in hand. -/
def LooksUp (updates : List TelegramUpdate) (op : PollOp) : Prop :=
  ∀ reply ∈ op.lookedUp?, ∃ update ∈ updates, ∃ message ∈ update.message,
    ∃ messageId ∈ message.replyTo.messageId,
      reply = (message.telegramChatId, messageId, message.threadId)

/-- The operation is not `get_updates`. -/
def PollOp.isGetUpdates : PollOp → Bool
  | .reply (.getUpdates _ _) => true
  | _ => false

/-- The operations of a poll between two calls of `get_updates`. -/
def InHand (updates : List TelegramUpdate) (op : PollOp) : Prop :=
  op.isGetUpdates = false ∧ LooksUp updates op

/-- An operation that looks nothing up. -/
theorem inHand_of_lookedUp? {updates : List TelegramUpdate} {op : PollOp}
    (hupdates : op.isGetUpdates = false) (h : op.lookedUp? = none) : InHand updates op := by
  refine ⟨hupdates, ?_⟩
  intro reply hreply
  rw [h] at hreply
  cases hreply

/-- The phase of a poll: the updates in hand. -/
def pollProtocol : Protocol pollOps (List TelegramUpdate)
  | updates, .reply (.getUpdates _ _), r, updates' =>
      updates' = match r with
        | .ok handed => handed
        | .error _ => updates
  | updates, op, _, updates' => updates' = updates ∧ LooksUp updates op

theorem pollProtocol_inHand {updates : List TelegramUpdate} {op : PollOp} (h : InHand updates op)
    (r : Except ServiceError op.Res) : pollProtocol updates op r updates := by
  obtain ⟨hupdates, hlooks⟩ := h
  cases op with
  | selectRecent limit => exact ⟨rfl, hlooks⟩
  | upsert row => exact ⟨rfl, hlooks⟩
  | reply op =>
      cases op with
      | getUpdates offset limit => cases hupdates
      | _ => exact ⟨rfl, hlooks⟩

/-! ## The consumer looks up what it has in hand -/

/-- The operations of the consumer that neither fetch updates nor look up a case. -/
def Quiet (op : ReplyOp) : Prop :=
  (PollOp.reply op).isGetUpdates = false ∧ (PollOp.reply op).lookedUp? = none

theorem quiet_finalizeStaffReplyHandler (reply : StaffReply) (handler : ResultHandler) :
    (finalizeStaffReplyHandler settings reply handler).All Quiet := by
  rcases finalizeStaffReplyHandler_cases settings reply handler with hkept | ⟨final, -, hasked⟩
  · rw [hkept]
    exact Prog.all_ret _
  · have hcompose : ((ReplyOp.compose (strip reply.rawReply) (strip handler.text)).tryCall).All
        Quiet := (Prog.all_perform ⟨rfl, rfl⟩).attempt
    rw [hasked]
    exact hcompose.bind fun composed => Prog.all_ret _

theorem quiet_staffReplyHandler (now : Nat) (reply : StaffReply) :
    (staffReplyHandler settings now reply).All Quiet := by
  unfold staffReplyHandler
  split
  · exact quiet_finalizeStaffReplyHandler reply _
  · exact Prog.all_ret _

theorem quiet_commitStaffReply (row : ExternalResultRow) (reply : StaffReply)
    (handler : ResultHandler) : (commitStaffReply settings row reply handler).All Quiet := by
  have hcommit : (ReplyOp.processResult row handler.graphState
      (staffReplyOutbounds row reply handler.text)
      (buildExternalResultSummaryMessage row handler)).call.All Quiet :=
    Prog.all_perform ⟨rfl, rfl⟩
  apply hcommit.tryCatch
  intro exc
  have hmark : (ReplyOp.markResultFailed row.id (exc.text settings.runtime)).call.All Quiet :=
    Prog.all_perform ⟨rfl, rfl⟩
  apply hmark.bind
  intro _
  exact Prog.all_raise _

theorem quiet_recordMessage (message : TelegramMessage) (case : FoundCase) :
    (recordMessage message case).All Quiet := by
  unfold recordMessage
  split
  · exact Prog.all_ret _
  · exact Prog.all_perform ⟨rfl, rfl⟩

theorem quiet_recordStaffReply (now : Nat) (update : TelegramUpdate) (message : TelegramMessage)
    (replyToMessageId : Int) (case : FoundCase) :
    (recordStaffReply settings now update message replyToMessageId case).All Quiet := by
  have hinsert : (ReplyOp.insertResult (buildResultRow update case
      (staffReplyOf settings.services update message replyToMessageId case))).call.All Quiet :=
    Prog.all_perform ⟨rfl, rfl⟩
  apply hinsert.bind
  intro report
  split
  · exact Prog.all_ret _
  · apply (quiet_staffReplyHandler now _).bind
    intro handler
    apply (quiet_commitStaffReply _ _ handler).bind
    intro _
    apply (quiet_recordMessage message case).bind
    intro _
    exact Prog.all_ret _

theorem quiet_processCaseReply (now : Nat) (update : TelegramUpdate) (message : TelegramMessage)
    (replyToMessageId : Int) (case : FoundCase) :
    (processCaseReply settings now update message replyToMessageId case).All Quiet := by
  have hactive : (ReplyOp.isHumanActive case.conversationId).call.All Quiet :=
    Prog.all_perform ⟨rfl, rfl⟩
  apply hactive.bind
  intro humanActive
  split
  · exact Prog.all_ret _
  · split
    · exact Prog.all_ret _
    · exact quiet_recordStaffReply now update message replyToMessageId case

theorem quiet_acknowledge (update : TelegramUpdate) :
    (acknowledge settings update).All Quiet := by
  unfold acknowledge
  split
  · exact Prog.all_perform ⟨rfl, rfl⟩
  · exact Prog.all_ret _

/-- What the consumer does with an update in hand. -/
def HandlesInHand (updates : List TelegramUpdate) (op : ReplyOp) : Prop :=
  InHand updates (.reply op)

theorem Quiet.handlesInHand {updates : List TelegramUpdate} (op : ReplyOp) (h : Quiet op) :
    HandlesInHand updates op :=
  inHand_of_lookedUp? h.1 h.2

theorem inHand_processSingleUpdate {updates : List TelegramUpdate} {update : TelegramUpdate}
    (poll : PollContext) (hmem : update ∈ updates) :
    (processSingleUpdate settings poll update).All (HandlesInHand updates) := by
  unfold processSingleUpdate
  split
  · exact Prog.all_ret _
  · rename_i message hmessage
    split
    · exact Prog.all_ret _
    · split
      · exact Prog.all_ret _
      · split
        · exact Prog.all_ret _
        · rename_i replyToMessageId hreplyTo
          have hfind : (ReplyOp.findByReplyMessage message.telegramChatId replyToMessageId
              message.threadId).call.All (HandlesInHand updates) := by
            apply Prog.all_perform
            refine ⟨rfl, ?_⟩
            intro reply hreply
            cases hreply
            exact ⟨update, hmem, message, hmessage, replyToMessageId, hreplyTo, rfl⟩
          apply hfind.bind
          intro found
          cases found with
          | none => exact Prog.all_ret _
          | some case =>
              exact (quiet_processCaseReply poll.now update message replyToMessageId case).mono
                Quiet.handlesInHand

theorem inHand_processTelegramUpdates {updates : List TelegramUpdate} (poll : PollContext)
    {rest : List TelegramUpdate} (hrest : ∀ update ∈ rest, update ∈ updates) :
    (processTelegramUpdates settings poll rest).All (HandlesInHand updates) := by
  induction rest with
  | nil => exact Prog.all_ret _
  | cons update rest ih =>
      apply (inHand_processSingleUpdate poll (hrest update List.mem_cons_self)).attempt.bind
      intro outcome
      cases outcome with
      | error exc => exact Prog.all_ret _
      | ok report =>
          apply ((quiet_acknowledge update).mono Quiet.handlesInHand).bind
          intro _
          apply (ih fun other hother => hrest other (List.mem_cons_of_mem _ hother)).bind
          intro others
          exact Prog.all_ret _

/-! ## Polls follow the protocol -/

theorem follows_inHand {α : Type} {updates : List TelegramUpdate} {m : PollProg α}
    (h : m.All (InHand updates)) :
    FollowsTo pollProtocol (fun updates' _ => updates' = updates) updates m :=
  .of_all h fun _ r hop => pollProtocol_inHand hop r

theorem inHand_syncRows (updates : List TelegramUpdate) (rows : List ExternalResultRow) :
    (syncRows rows).All (InHand updates) := by
  induction rows with
  | nil => exact Prog.all_ret _
  | cons row rest ih =>
      have hupsert : (PollOp.upsert row).call.All (InHand updates) :=
        Prog.all_perform (inHand_of_lookedUp? rfl rfl)
      apply hupsert.bind
      intro synced
      apply ih.bind
      intro others
      exact Prog.all_ret _

theorem inHand_sync (updates : List TelegramUpdate) (limit : Nat) :
    (syncRecentExternalResults limit).All (InHand updates) := by
  have hselect : (PollOp.selectRecent limit).call.All (InHand updates) :=
    Prog.all_perform (inHand_of_lookedUp? rfl rfl)
  apply hselect.bind
  intro rows
  exact inHand_syncRows updates rows

/-- The consumer looks up the updates that it was handed. -/
theorem follows_processTelegramUpdatesOnce (poll : PollContext) :
    Follows pollProtocol (fun _ => True) []
      (embedReply (processTelegramUpdatesOnce settings poll)) := by
  unfold processTelegramUpdatesOnce
  rw [embedReply_bind]
  have hoffset : (embedReply (ReplyOp.getOffset settings.offsetKey).call).All (InHand []) :=
    all_embedReply (Prog.all_perform (inHand_of_lookedUp? rfl rfl))
  apply (follows_inHand hoffset).bind
  · rintro _ lastUpdateId rfl
    rw [embedReply_bind]
    have hupdates : FollowsTo pollProtocol
        (fun updates' r => updates' = match r with
          | .ok handed => handed
          | .error _ => [])
        [] (embedReply (ReplyOp.getUpdates (requestOffset lastUpdateId) settings.limit).call) := by
      intro r
      cases r with
      | ok handed => exact ⟨handed, rfl, rfl⟩
      | error e => exact ⟨[], rfl, rfl⟩
    apply hupdates.bind
    · intro updates handed hupdates
      have hsame : updates = handed := hupdates
      subst hsame
      have hhandled : (embedReply (processTelegramUpdates settings poll updates)).All
          (InHand updates) :=
        all_embedReply (inHand_processTelegramUpdates poll fun update hmem => hmem)
      exact (follows_inHand hhandled).mono fun _ _ _ => trivial
    · intro _ _ _
      trivial
  · intro _ _ _
    trivial

theorem follows_syncAndProcess (poll : PollContext) :
    Follows pollProtocol (fun _ => True) []
      (syncAndProcess settings poll >>= fun _ => .ret ()) := by
  have hpoll : Follows pollProtocol (fun _ => True) [] (syncAndProcess settings poll) := by
    apply (follows_inHand (inHand_sync [] 200)).bind
    · rintro _ _ rfl
      exact follows_processTelegramUpdatesOnce poll
    · intro _ _ _
      trivial
  apply FollowsTo.bind hpoll
  · intro _ _ _
    trivial
  · intro _ _ _
    trivial

/-! ## What is found stays found -/

theorem handleReplyOp_grows (rt : Runtime) (op : ReplyOp) (choice : ReplyChoice)
    (w : ReplyWorld) : CasesGrow w.db (handleReplyOp rt op choice w).2.db := by
  cases op with
  | processResult row graphState outboundMessages summaryMessage =>
      apply faulty_induction (motive := fun w' : ReplyWorld => CasesGrow w.db w'.db)
      · exact .refl w.db
      · unfold commitStaffResult
        split
        · rename_i hcommit
          exact (processResult_sameCases hcommit).grow
        · exact .refl w.db
  | recordStaffReplyMessage caseId chatId messageId threadId =>
      apply faulty_induction (motive := fun w' : ReplyWorld => CasesGrow w.db w'.db)
      · exact .refl w.db
      · exact casesGrow_insertCaseMessage w.db caseId chatId threadId messageId "staff_reply"
  | getOffset offsetKey => exact .refl w.db
  | getUpdates offset limit => exact .refl w.db
  | findByReplyMessage chatId messageId threadId => exact .refl w.db
  | isHumanActive conversationId => exact .refl w.db
  | insertResult result => exact .of_eq rfl rfl
  | compose rawText fallbackText => exact .refl w.db
  | markResultFailed resultId error => exact .of_eq rfl rfl
  | saveOffset offsetKey updateId => exact .of_eq rfl rfl

/-- What an operation may do to the world. -/
structure PollGrows (w w' : PollWorld) : Prop where
  cases : CasesGrow w.replies.db w'.replies.db
  cards : w'.cards = w.cards
  updates : w'.updates = w.updates

theorem PollGrows.refl (w : PollWorld) : PollGrows w w := ⟨.refl _, rfl, rfl⟩

theorem handlePollOp_grows (rt : Runtime) (op : PollOp) (choice : ReplyChoice) (w : PollWorld) :
    PollGrows w (handlePollOp rt op choice w).2 := by
  cases op with
  | selectRecent limit =>
      exact faulty_induction (motive := fun w' : PollWorld => PollGrows w w') (.refl w) (.refl w)
  | upsert row =>
      apply faulty_induction (motive := fun w' : PollWorld => PollGrows w w') (.refl w)
      unfold handleUpsert
      split
      · rename_i hupsert
        exact ⟨casesGrow_upsertFromExternalResult hupsert, rfl, rfl⟩
      · exact .refl w
      · exact .refl w
  | reply op =>
      have hgrows := handleReplyOp_grows rt op choice w.replies
      cases op with
      | getUpdates offset limit =>
          exact faulty_induction (motive := fun w' : PollWorld => PollGrows w w') (.refl w)
            (.refl w)
      | _ => exact ⟨hgrows, rfl, rfl⟩

theorem PollGrows.finds {rt : Runtime} {w w' : PollWorld} (h : PollGrows w w')
    {update : TelegramUpdate} (hfinds : w.Finds rt update) : w'.Finds rt update := by
  intro message hmessage messageId hid hcard
  rw [h.cards] at hcard
  exact h.cases.found (hfinds message hmessage messageId hid hcard)

/-- The updates in hand were written, and their cases are found. -/
def InHandMapped (rt : Runtime) (w : PollWorld) (phases : T → List TelegramUpdate) : Prop :=
  ∀ t, ∀ update ∈ phases t, update ∈ w.updates ∧ w.Finds rt update

omit [DecidableEq T] in
theorem InHandMapped.grows {rt : Runtime} {w w' : PollWorld} {phases : T → List TelegramUpdate}
    (h : InHandMapped rt w phases) (hgrows : PollGrows w w') : InHandMapped rt w' phases := by
  intro t update hmem
  obtain ⟨hwritten, hfinds⟩ := h t update hmem
  exact ⟨by rw [hgrows.updates]; exact hwritten, hgrows.finds hfinds⟩

theorem InHandMapped.update {rt : Runtime} {w : PollWorld} {phases : T → List TelegramUpdate}
    (h : InHandMapped rt w phases) (t : T) {updates : List TelegramUpdate}
    (hupdates : ∀ update ∈ updates, update ∈ w.updates ∧ w.Finds rt update) :
    InHandMapped rt w (Function.update phases t updates) := by
  intro t' update hmem
  by_cases ht : t' = t
  · subst ht
    rw [Function.update_self] at hmem
    exact hupdates update hmem
  · rw [Function.update_of_ne ht] at hmem
    exact h t' update hmem

omit [DecidableEq T] in
/-- A card that is accepted is answered by nothing that is in hand. -/
theorem InHandMapped.after {rt : Runtime} {w : PollWorld} {phases : T → List TelegramUpdate}
    (h : InHandMapped rt w phases) (event : PollEvent) :
    InHandMapped rt (w.after event) phases := by
  cases event with
  | accept card =>
      simp only [PollWorld.after]
      split
      · exact h
      · rename_i hfresh
        intro t update hmem
        obtain ⟨hwritten, hfinds⟩ := h t update hmem
        refine ⟨hwritten, ?_⟩
        intro message hmessage messageId hid hcard
        rcases List.mem_cons.mp hcard with heq | hold
        · exfalso
          apply hfresh
          rw [List.any_eq_true]
          refine ⟨update, hwritten, ?_⟩
          have hanswers : update.answers? = some (message.telegramChatId, messageId) := by
            simp [TelegramUpdate.answers?, Option.mem_def.mp hmessage, Option.mem_def.mp hid]
          rw [hanswers, heq]
          simp
        · exact hfinds message hmessage messageId hid hold
  | insertResult result => exact h.grows ⟨.of_eq rfl rfl, rfl, rfl⟩
  | write update =>
      intro t other hmem
      obtain ⟨hwritten, hfinds⟩ := h t other hmem
      exact ⟨List.mem_append_left _ hwritten, hfinds⟩
  | elapse microseconds => exact h.grows ⟨.of_eq rfl rfl, rfl, rfl⟩

theorem inHandMapped_handed {rt : Runtime} {w : PollWorld} {offset : Option Int} {limit : Nat}
    {choice : ReplyChoice} {phases : T → List TelegramUpdate} {t : T}
    {updates : List TelegramUpdate} (h : InHandMapped rt w phases)
    (hcond : HandsOverMapped rt w (.reply (.getUpdates offset limit)) choice)
    (hphase : pollProtocol (phases t) (.reply (.getUpdates offset limit))
      (faulty choice.fault w (.ok (w.pending offset limit), w)).1 updates) :
    InHandMapped rt (faulty choice.fault w
      ((.ok (w.pending offset limit) : Except ServiceError (List TelegramUpdate)), w)).2
      (Function.update phases t updates) := by
  cases hfault : choice.fault with
  | none =>
      rw [hfault] at hphase
      cases hphase
      apply h.update
      intro update hmem
      exact ⟨List.mem_of_mem_filter (List.mem_of_mem_take hmem), hcond update hmem⟩
  | some fault =>
      rw [hfault] at hphase
      have hsame : updates = phases t := hphase
      rw [hsame, Function.update_eq_self]
      simp only [faulty, ite_self]
      exact h

theorem isInvariant_inHandMapped :
    (pollMachine settings botUserId).IsInvariant (T := T) pollProtocol (fun _ => True)
      (HandsOverMapped settings.runtime) (InHandMapped settings.runtime) where
  act {w phases t op choice updates} h hcond hphase := by
    have hgrows := handlePollOp_grows settings.runtime op choice w
    cases op with
    | selectRecent limit =>
        rw [hphase.1, Function.update_eq_self]
        exact h.grows hgrows
    | upsert row =>
        rw [hphase.1, Function.update_eq_self]
        exact h.grows hgrows
    | reply op =>
        cases op with
        | getUpdates offset limit => exact inHandMapped_handed h hcond hphase
        | _ =>
            rw [hphase.1, Function.update_eq_self]
            exact h.grows hgrows
  env event h := h.after event
  spawn {w phases} t {job prog w'} h _ hstart := by
    cases hstart
    refine ⟨[], follows_syncAndProcess _, ?_⟩
    apply h.update
    intro update hmem
    cases hmem

/-- If every update is handed over after its card has been mapped, no reply to a card is
answered with `case_not_found`. -/
theorem replies_find_their_case {w : PollWorld}
    {labels : List (Label (pollMachine settings botUserId) T)}
    (h : AllSteps (Executes (HandsOverMapped settings.runtime)) (idle w) labels) :
    AllSteps (Executes (CaseFound settings.runtime)) (idle w) labels := by
  have htracks : Tracks (M := pollMachine settings botUserId) (T := T) pollProtocol
      (fun _ => True) (InHandMapped settings.runtime) (idle w) := by
    refine ⟨fun _ => [], ?_, fun _ => trivial⟩
    intro t update hmem
    cases hmem
  apply htracks.allSteps isInvariant_inHandMapped ?_ h
  intro w phases t op choice updates hinv _ hphase reply hreply hcard
  cases op with
  | selectRecent limit => cases hreply
  | upsert row => cases hreply
  | reply op =>
      cases op with
      | getUpdates offset limit => cases hreply
      | _ =>
          obtain ⟨update, hmem, message, hmessage, messageId, hid, rfl⟩ :=
            hphase.2 reply hreply
          exact (hinv t update hmem).2 message hmessage messageId hid hcard

/-! ## A card that is answered during a poll -/

/-- The steps of one poll. -/
abbrev PollLabel := Label (pollMachine plainReplySettings 42) Unit

/-- The world before a card is delivered. -/
def pollStart : Config (pollMachine plainReplySettings 42) Unit := idle ⟨⟨.empty, []⟩, [], []⟩

/-- The row of the card. -/
def cardResult : ExternalResult where
  externalCommandId := 1
  tenantId := none
  conversationId := "livechat:C1:T1"
  chatId := "C1"
  threadId := some "T1"
  inboundEventId := some 1
  commandType := "telegram.send_case_card"
  resultType := "telegram.case.created"
  resultJson := .ofList [("telegram_message_id", .int 7), ("target_chat_id", .str "-100")]
  status := none
  lastError := none
  dedupKey := some "card"

/-- A reply of the staff to the card. -/
def cardReply : TelegramUpdate where
  updateId := 1
  message := some {
    messageId := some 8
    chatId := some (-100)
    sender := ⟨some 5, none, none, none⟩
    replyTo := ⟨some 7, none⟩
    messageThreadId := none
    text := some "paid"
    caption := none
    photos := [] }

/-- Operations that succeed. -/
def pollSteps (n : Nat) : List PollLabel :=
  List.replicate n (.act () ⟨none, ⟨none, false⟩, .ok [], .ok ""⟩)

/-- The card is delivered and answered after the sync, and its row is stored afterwards. -/
def answeredDuringPoll : List PollLabel :=
  .spawn () (true, 0) :: pollSteps 2 ++
    [.env (.accept ("-100", 7)), .env (.write cardReply)] ++ pollSteps 3 ++
    [.env (.insertResult cardResult)]

/-- The card is mapped by the sync of the poll that returns its reply. -/
def answeredAfterSync : List PollLabel :=
  [.env (.accept ("-100", 7)), .env (.insertResult cardResult), .env (.write cardReply),
    .spawn () (true, 0)] ++ pollSteps 5

/-- The reply to a card that is not mapped is answered with `case_not_found` and
acknowledged. -/
theorem reply_during_poll_is_missed :
    ¬AllSteps (Executes (CaseFound .plain)) pollStart answeredDuringPoll ∧
      (run pollStart answeredDuringPoll).world.replies.db.telegramUpdateOffsets.get?
        "telegram:bot" = some 1 := by
  constructor
  · decide +kernel
  · decide +kernel

theorem reply_after_sync_finds_its_case :
    AllSteps (Executes (CaseFound .plain)) pollStart answeredAfterSync := by
  apply @replies_find_their_case plainReplySettings
  decide +kernel

end AiCustomerService
