import AiCustomerService.Workers.ResultRuns

/-!
# Rows in hand

A worker has the row in hand that it has leased, or that it has stored for a reply of the staff.
It touches no other row, and it lets the row go once it has settled it or noted a failure.
-/

namespace AiCustomerService

open Support

/-- What an operation does to a row: it settles it, or it notes a failure. -/
inductive RowTouch
  | settles (resultId : Nat)
  | fails (resultId : Nat)
  deriving DecidableEq

/-- The row that the operation touches. -/
def ResultOp.touch? : ResultOp → Option RowTouch
  | .consumer (.markProcessed resultId) => some (.settles resultId)
  | .consumer (.processResult row _ _ _) => some (.settles row.id)
  | .consumer (.markProcessingFailed resultId _) => some (.fails resultId)
  | .reply (.processResult row _ _ _) => some (.settles row.id)
  | .reply (.markResultFailed resultId _) => some (.fails resultId)
  | _ => none

def ResultOp.Touches (op : ResultOp) (resultId : Nat) : Prop :=
  op.touch? = some (.settles resultId) ∨ op.touch? = some (.fails resultId)

/-- Which row a worker has in hand: one that it has leased, or one that it has stored. -/
inductive RowHold
  | free
  | leased (resultId : Nat)
  | own (resultId : Nat)
  deriving DecidableEq

def RowHold.Holds (hold : RowHold) (resultId : Nat) : Prop :=
  hold = .leased resultId ∨ hold = .own resultId

/-- How a worker that may execute the operation holds the row. -/
def ResultOp.holder (op : ResultOp) (resultId : Nat) : RowHold :=
  match op with
  | .consumer _ => .leased resultId
  | .reply _ => .own resultId

/-- A row that is settled is out of hand. -/
def settledHold {α : Type} (r : Except ServiceError α) (hold : RowHold) : RowHold :=
  match r with
  | .ok _ => .free
  | .error _ => hold

/-- A worker touches only the row in its hand, and lets it go once it is settled or its failure is
noted. -/
def RowProtocol : Protocol resultOps RowHold := fun hold op r hold' =>
  match op.touch? with
  | some (.settles resultId) => hold = op.holder resultId ∧ hold' = settledHold r hold
  | some (.fails resultId) => hold = op.holder resultId ∧ hold' = .free
  | none =>
      match op, r with
      | .reply (.insertResult result), .ok report =>
          hold = .free ∧ result.status = some .pending ∧
            hold' = if report.inserted then .own (report.id.getD 0) else .free
      | _, _ => hold' = hold

/-! ## The consumers follow the protocol -/

/-- The protocol, for the part of a result consumer. -/
def ConsumerProtocol : Protocol consumerOps RowHold := fun hold op r hold' =>
  RowProtocol hold (.consumer op) r hold'

/-- The protocol, for the part of the consumer of staff replies. -/
def ReplyRowProtocol : Protocol replyOps RowHold := fun hold op r hold' =>
  RowProtocol hold (.reply op) r hold'

/-- What the rest of a result consumer's work on a row touches. -/
theorem consumer_stays {α : Type} {m : ConsumerProg α} {hold : RowHold}
    (h : m.All fun op => (ResultOp.consumer op).touch? = none) :
    FollowsTo ConsumerProtocol (fun hold' _ => hold' = hold) hold m := by
  apply FollowsTo.of_all h
  intro op r hop
  simp only [ConsumerProtocol, RowProtocol, hop]

theorem untouched_call (op : ConsumerOp) (h : (ResultOp.consumer op).touch? = none) :
    op.call.All fun op => (ResultOp.consumer op).touch? = none :=
  @Prog.all_perform consumerOps _ op h

theorem untouched_loadRecentMessages (settings : ConsumerSettings) (row : ExternalResultRow) :
    (loadRecentMessages settings row).All fun op => (ResultOp.consumer op).touch? = none := by
  unfold loadRecentMessages
  split
  · exact untouched_call _ rfl
  · exact Prog.all_ret _

theorem untouched_applyBackendFinalReply (settings : ConsumerSettings) (row : ExternalResultRow)
    (handler : ResultHandler) :
    (applyBackendFinalReply settings row handler).All fun op =>
      (ResultOp.consumer op).touch? = none := by
  unfold applyBackendFinalReply
  dsimp only
  split
  · split
    · exact Prog.all_ret _
    · apply (untouched_call (.finalizeUserVisibleText _) rfl).bind
      intro text
      exact Prog.all_ret _
  · split
    · exact Prog.all_ret _
    · split
      · exact Prog.all_ret _
      · have hcompose : (composeBackendReply settings (strip handler.text)).All fun op =>
            (ResultOp.consumer op).touch? = none := by
          unfold composeBackendReply
          split
          · exact Prog.all_ret _
          · apply (untouched_call (.compose _) rfl).attempt.bind
            intro composed
            cases composed with
            | error e => exact Prog.all_ret _
            | ok finalText =>
                simp only
                split
                · exact Prog.all_ret _
                · exact Prog.all_ret _
        apply hcompose.bind
        intro text
        exact Prog.all_ret _

/-- An operation that settles the row in hand. -/
theorem consumer_settles {op : ConsumerOp} {resultId : Nat}
    (h : (ResultOp.consumer op).touch? = some (.settles resultId)) :
    FollowsTo ConsumerProtocol (fun hold' r => hold' = settledHold r (.leased resultId))
      (.leased resultId) op.call := by
  apply FollowsTo.perform
  intro r
  refine ⟨_, ?_, rfl⟩
  simp [ConsumerProtocol, RowProtocol, ResultOp.holder, h]

/-- After an operation, the worker returns. -/
theorem consumer_returns {op : ConsumerOp} {resultId : Nat} {β : Type} (b : β)
    (h : (ResultOp.consumer op).touch? = some (.settles resultId)) :
    FollowsTo ConsumerProtocol (fun hold' r => hold' = settledHold r (.leased resultId))
      (.leased resultId) (op.call >>= fun _ => (pure b : ConsumerProg β)) := by
  apply (consumer_settles h).bind
  · intro hold' a hhold
    exact hhold
  · intro hold' e hhold
    exact hhold

theorem follows_processRow (settings : ConsumerSettings) (row : ExternalResultRow) :
    FollowsTo ConsumerProtocol (fun hold' r => hold' = settledHold r (.leased row.id))
      (.leased row.id) (processRow settings row) := by
  unfold processRow
  apply (consumer_stays (untouched_call (.getOrCreate row.chatId row.threadId) rfl)).bind
  · rintro hold' view rfl
    split
    · exact consumer_returns _ rfl
    · unfold handleResult
      cases buildResultHandler settings.runtime settings.render row view.slotMemory
          settings.recordedAt with
      | error e => exact rfl
      | ok handler =>
          apply (consumer_stays (untouched_loadRecentMessages settings row)).bind
          · rintro hold' _ rfl
            apply (consumer_stays (untouched_applyBackendFinalReply settings row handler)).bind
            · rintro hold' replied rfl
              exact consumer_returns _ rfl
            · rintro hold' e rfl
              exact rfl
          · rintro hold' e rfl
            exact rfl
  · rintro hold' e rfl
    exact rfl

theorem follows_processLeased (settings : ConsumerSettings) (row : ExternalResultRow) :
    FollowsTo ConsumerProtocol (fun hold' _ => hold' = .free) (.leased row.id)
      (processOne settings row >>= fun _ => .ret ()) := by
  have hone : FollowsTo ConsumerProtocol (fun hold' _ => hold' = .free) (.leased row.id)
      (processOne settings row) := by
    unfold processOne
    apply (follows_processRow settings row).tryCatch
    · intro hold' report hhold
      exact hhold
    · rintro hold' exc rfl
      have hfail : FollowsTo ConsumerProtocol (fun hold' _ => hold' = .free) (.leased row.id)
          (ConsumerOp.markProcessingFailed row.id (exc.text settings.runtime)).call :=
        FollowsTo.perform fun r => ⟨.free, ⟨rfl, rfl⟩, rfl⟩
      apply hfail.bind
      · rintro hold' _ rfl
        exact rfl
      · rintro hold' e rfl
        exact rfl
  apply hone.bind
  · rintro hold' _ rfl
    exact rfl
  · rintro hold' e rfl
    exact rfl

/-- What the rest of the other consumer's work touches. -/
def Untouching : ReplyOp → Prop
  | .insertResult _ => False
  | op => (ResultOp.reply op).touch? = none

theorem reply_stays {α : Type} {m : ReplyProg α} {hold : RowHold} (h : m.All Untouching) :
    FollowsTo ReplyRowProtocol (fun hold' _ => hold' = hold) hold m := by
  apply FollowsTo.of_all h
  intro op r hop
  cases op with
  | insertResult result => exact absurd hop id
  | processResult row graphState messages summary => cases hop
  | markResultFailed resultId error => cases hop
  | _ => rfl

theorem untouching_call (op : ReplyOp) (h : Untouching op) : op.call.All Untouching :=
  @Prog.all_perform replyOps _ op h

/-- The handler of a reply is built without an exception: that of the model is caught. -/
theorem follows_staffReplyHandler (settings : ReplySettings) (now : Nat) (reply : StaffReply)
    (hold : RowHold) :
    FollowsTo ReplyRowProtocol (fun hold' r => hold' = hold ∧ ∃ handler, r = .ok handler) hold
      (staffReplyHandler settings now reply) := by
  unfold staffReplyHandler
  split
  · rcases finalizeStaffReplyHandler_cases settings reply
      (buildStaffReplyHandler settings.services now reply) with hkept | ⟨final, -, hasked⟩
    · rw [hkept]
      exact ⟨rfl, _, rfl⟩
    · rw [hasked]
      apply (FollowsTo.attempt (reply_stays (untouching_call (.compose _ _) rfl))).bind
      · rintro hold' composed ⟨outcome, -, rfl⟩
        exact ⟨rfl, _, rfl⟩
      · rintro hold' e ⟨outcome, houtcome, -⟩
        cases houtcome
  · exact ⟨rfl, _, rfl⟩

theorem untouching_recordMessage (message : TelegramMessage) (case : FoundCase) :
    (recordMessage message case).All Untouching := by
  unfold recordMessage
  split
  · exact Prog.all_ret _
  · exact untouching_call (.recordStaffReplyMessage _ _ _ _) rfl

/-- A reply whose row is stored is committed, or its failure is noted. -/
theorem follows_commitOwn (settings : ReplySettings) (row : ExternalResultRow)
    (reply : StaffReply) (handler : ResultHandler) :
    FollowsTo ReplyRowProtocol (fun hold' _ => hold' = .free) (.own row.id)
      (commitStaffReply settings row reply handler) := by
  have hcommit : FollowsTo ReplyRowProtocol
      (fun hold' r => hold' = settledHold r (.own row.id)) (.own row.id)
      (ReplyOp.processResult row handler.graphState (staffReplyOutbounds row reply handler.text)
        (buildExternalResultSummaryMessage row handler)).call :=
    FollowsTo.perform fun r => ⟨_, ⟨rfl, rfl⟩, rfl⟩
  apply hcommit.tryCatch
  · intro hold' _ hhold
    exact hhold
  · rintro hold' exc rfl
    have hfail : FollowsTo ReplyRowProtocol (fun hold' _ => hold' = .free) (.own row.id)
        (ReplyOp.markResultFailed row.id (exc.text settings.runtime)).call :=
      FollowsTo.perform fun r => ⟨.free, ⟨rfl, rfl⟩, rfl⟩
    apply hfail.bind
    · rintro hold' _ rfl
      exact rfl
    · rintro hold' e rfl
      exact rfl

/-- A worker whose insert reports a new row has it in hand. -/
def insertedHold : Except ServiceError InsertReport → RowHold
  | .ok report => if report.inserted then .own (report.id.getD 0) else .free
  | .error _ => .free

/-- Programs that let go of what they hold. -/
abbrev ReplyFrees {α : Type} (hold : RowHold) (m : ReplyProg α) : Prop :=
  FollowsTo ReplyRowProtocol (fun hold' _ => hold' = .free) hold m

theorem ReplyFrees.bind {α β : Type} {hold : RowHold} {m : ReplyProg α} {f : α → ReplyProg β}
    (hm : ReplyFrees hold m) (hf : ∀ a, ReplyFrees .free (f a)) : ReplyFrees hold (m >>= f) := by
  apply FollowsTo.bind hm
  · rintro hold' a rfl
    exact hf a
  · rintro hold' e rfl
    exact rfl

theorem replyFrees_of_untouching {α : Type} {m : ReplyProg α} (h : m.All Untouching) :
    ReplyFrees .free m :=
  reply_stays h

theorem follows_recordOwn (settings : ReplySettings) (now : Nat) (update : TelegramUpdate)
    (message : TelegramMessage) (replyToMessageId : Int) (case : FoundCase) :
    ReplyFrees .free
      (recordStaffReply settings now update message replyToMessageId case) := by
  unfold recordStaffReply
  generalize staffReplyOf settings.services update message replyToMessageId case = reply
  have hinsert : FollowsTo ReplyRowProtocol (fun hold' r => hold' = insertedHold r) .free
      (ReplyOp.insertResult (buildResultRow update case reply)).call := by
    apply FollowsTo.perform
    intro r
    cases r with
    | ok report => exact ⟨_, ⟨rfl, rfl, rfl⟩, rfl⟩
    | error e => exact ⟨.free, rfl, rfl⟩
  apply hinsert.bind
  · intro hold' report hhold
    simp only [insertedHold] at hhold
    cases hinserted : report.inserted with
    | false =>
        rw [hinserted] at hhold
        exact hhold
    | true =>
        rw [hinserted] at hhold
        subst hhold
        apply (follows_staffReplyHandler settings now reply _).bind
        · rintro hold' handler ⟨rfl, -⟩
          have hcommit : ReplyFrees (.own (report.id.getD 0)) _ :=
            follows_commitOwn settings
              ((buildResultRow update case reply).row (report.id.getD 0) now) reply handler
          apply hcommit.bind
          intro _
          apply (replyFrees_of_untouching (untouching_recordMessage message case)).bind
          intro _
          exact rfl
        · rintro hold' e ⟨-, handler, hhandler⟩
          cases hhandler
  · rintro hold' e rfl
    exact rfl

theorem follows_processOwn (settings : ReplySettings) (poll : PollContext)
    (update : TelegramUpdate) : ReplyFrees .free (processSingleUpdate settings poll update) := by
  unfold processSingleUpdate
  split
  · exact rfl
  · split
    · exact rfl
    · split
      · exact rfl
      · split
        · exact rfl
        · apply (replyFrees_of_untouching (untouching_call (.findByReplyMessage _ _ _) rfl)).bind
          intro found
          cases found with
          | none => exact rfl
          | some case =>
              unfold processCaseReply
              apply (replyFrees_of_untouching (untouching_call (.isHumanActive _) rfl)).bind
              intro humanActive
              split
              · exact rfl
              · split
                · exact rfl
                · exact follows_recordOwn _ _ _ _ _ _

theorem follows_processOwnUpdates (settings : ReplySettings) (poll : PollContext)
    (updates : List TelegramUpdate) :
    ReplyFrees .free (processTelegramUpdates settings poll updates) := by
  induction updates with
  | nil => exact rfl
  | cons update rest ih =>
      apply (FollowsTo.attempt (follows_processOwn settings poll update)).bind
      · rintro hold' outcome ⟨_, -, rfl⟩
        cases outcome with
        | error exc => exact rfl
        | ok report =>
            have hacknowledge : (acknowledge settings update).All Untouching := by
              unfold acknowledge
              split
              · exact untouching_call (.saveOffset _ _) rfl
              · exact Prog.all_ret _
            apply (replyFrees_of_untouching hacknowledge).bind
            intro _
            apply ih.bind
            intro others
            exact rfl
      · rintro hold' e ⟨_, houtcome, -⟩
        cases houtcome

theorem follows_pollOwn (settings : ReplySettings) (poll : PollContext) :
    ReplyFrees .free (processTelegramUpdatesOnce settings poll >>= fun _ => .ret ()) := by
  unfold processTelegramUpdatesOnce
  have hpoll : ReplyFrees .free (do
      let lastUpdateId : Int ← (ReplyOp.getOffset settings.offsetKey).call
      let updates : List TelegramUpdate ←
        (ReplyOp.getUpdates (requestOffset lastUpdateId) settings.limit).call
      processTelegramUpdates settings poll updates) := by
    apply (replyFrees_of_untouching (untouching_call (.getOffset _) rfl)).bind
    intro lastUpdateId
    apply (replyFrees_of_untouching (untouching_call (.getUpdates _ _) rfl)).bind
    intro updates
    exact follows_processOwnUpdates settings poll updates
  apply hpoll.bind
  intro _
  exact rfl

end AiCustomerService
