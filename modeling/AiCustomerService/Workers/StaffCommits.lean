import AiCustomerService.Workers.TelegramPoll

/-!
# The commits of the staff-reply consumer

Every transaction of the consumer commits a handler that was built from a staff reply, and the
result row holds that reply, with the status that its case had when the reply was looked up.
-/

namespace AiCustomerService

open Support

/-- The transaction commits what a staff reply was turned into. -/
def IsStaffCommit (services : StaffReplyServices) : ReplyOp → Prop
  | .processResult row graphState outboundMessages _ =>
      ∃ now reply text, row.resultJson = StaffReply.json reply ∧
        (graphState = (buildStaffReplyHandler services now reply).graphState ∨
          graphState = (buildPhotoOnlyHandler reply).graphState) ∧
        outboundMessages = staffReplyOutbounds row reply text
  | _ => True

variable {settings : ReplySettings}

/-- The model only rewrites the text. -/
theorem returns_finalizeStaffReplyHandler (reply : StaffReply) (handler : ResultHandler) :
    (finalizeStaffReplyHandler settings reply handler).Returns fun final =>
      final.graphState = handler.graphState := by
  rcases finalizeStaffReplyHandler_cases settings reply handler with hkept | ⟨final, htext, hasked⟩
  · rw [hkept]
    rfl
  · rw [hasked]
    apply (Prog.returns_true _).bind
    intro composed _
    obtain ⟨text, hfinal⟩ := htext composed
    change (final composed).graphState = handler.graphState
    rw [hfinal]

theorem returns_staffReplyHandler (now : Nat) (reply : StaffReply) :
    (staffReplyHandler settings now reply).Returns fun handler =>
      handler.graphState = (buildStaffReplyHandler settings.services now reply).graphState ∨
        handler.graphState = (buildPhotoOnlyHandler reply).graphState := by
  unfold staffReplyHandler
  split
  · exact (returns_finalizeStaffReplyHandler reply _).mono fun _ h => Or.inl h
  · exact Or.inr rfl

/-- An operation that is not a transaction. -/
theorem staffCommits_call (op : ReplyOp) (h : IsStaffCommit settings.services op) :
    op.call.All (IsStaffCommit settings.services) :=
  @Prog.all_perform replyOps (IsStaffCommit settings.services) op h

theorem staffCommits_staffReplyHandler (now : Nat) (reply : StaffReply) :
    (staffReplyHandler settings now reply).All (IsStaffCommit settings.services) := by
  unfold staffReplyHandler
  split
  · rcases finalizeStaffReplyHandler_cases settings reply
      (buildStaffReplyHandler settings.services now reply) with hkept | ⟨final, -, hasked⟩
    · rw [hkept]
      exact Prog.all_ret _
    · have hcompose : ((ReplyOp.compose (strip reply.rawReply) (strip
          (buildStaffReplyHandler settings.services now reply).text)).tryCall).All
            (IsStaffCommit settings.services) :=
        Prog.All.attempt (staffCommits_call (.compose _ _) trivial)
      rw [hasked]
      exact hcompose.bind fun composed => Prog.all_ret _
  · exact Prog.all_ret _

theorem staffCommits_commitStaffReply {now : Nat} {row : ExternalResultRow} {reply : StaffReply}
    {handler : ResultHandler} (hrow : row.resultJson = reply.json)
    (hhandler : handler.graphState =
        (buildStaffReplyHandler settings.services now reply).graphState ∨
      handler.graphState = (buildPhotoOnlyHandler reply).graphState) :
    (commitStaffReply settings row reply handler).All (IsStaffCommit settings.services) := by
  have hcommit : (ReplyOp.processResult row handler.graphState
      (staffReplyOutbounds row reply handler.text)
      (buildExternalResultSummaryMessage row handler)).call.All
        (IsStaffCommit settings.services) :=
    staffCommits_call (.processResult _ _ _ _) ⟨now, reply, handler.text, hrow, hhandler, rfl⟩
  apply hcommit.tryCatch
  intro exc
  apply (staffCommits_call (.markResultFailed _ _) trivial).bind
  intro _
  exact Prog.all_raise _

theorem staffCommits_recordStaffReply (now : Nat) (update : TelegramUpdate)
    (message : TelegramMessage) (replyToMessageId : Int) (case : FoundCase) :
    (recordStaffReply settings now update message replyToMessageId case).All
      (IsStaffCommit settings.services) := by
  unfold recordStaffReply
  apply (staffCommits_call (.insertResult _) trivial).bind
  intro report
  split
  · exact Prog.all_ret _
  · apply (staffCommits_staffReplyHandler now _).bind_of (returns_staffReplyHandler now _)
    intro handler hhandler
    apply (staffCommits_commitStaffReply rfl hhandler).bind
    intro _
    have hrecord : (recordMessage message case).All (IsStaffCommit settings.services) := by
      unfold recordMessage
      split
      · exact Prog.all_ret _
      · exact staffCommits_call (.recordStaffReplyMessage _ _ _ _) trivial
    apply hrecord.bind
    intro _
    exact Prog.all_ret _

theorem staffCommits_processSingleUpdate (poll : PollContext) (update : TelegramUpdate) :
    (processSingleUpdate settings poll update).All (IsStaffCommit settings.services) := by
  unfold processSingleUpdate
  split
  · exact Prog.all_ret _
  · split
    · exact Prog.all_ret _
    · split
      · exact Prog.all_ret _
      · split
        · exact Prog.all_ret _
        · apply (staffCommits_call (.findByReplyMessage _ _ _) trivial).bind
          intro found
          cases found with
          | none => exact Prog.all_ret _
          | some case =>
              unfold processCaseReply
              apply (staffCommits_call (.isHumanActive _) trivial).bind
              intro humanActive
              split
              · exact Prog.all_ret _
              · split
                · exact Prog.all_ret _
                · exact staffCommits_recordStaffReply _ _ _ _ _

theorem staffCommits_processTelegramUpdates (poll : PollContext) (updates : List TelegramUpdate) :
    (processTelegramUpdates settings poll updates).All (IsStaffCommit settings.services) := by
  induction updates with
  | nil => exact Prog.all_ret _
  | cons update rest ih =>
      apply (staffCommits_processSingleUpdate poll update).attempt.bind
      intro outcome
      cases outcome with
      | error exc => exact Prog.all_ret _
      | ok report =>
          have hacknowledge : (acknowledge settings update).All
              (IsStaffCommit settings.services) := by
            unfold acknowledge
            split
            · exact staffCommits_call (.saveOffset _ _) trivial
            · exact Prog.all_ret _
          apply hacknowledge.bind
          intro _
          apply ih.bind
          intro others
          exact Prog.all_ret _

/-- A poll commits only what staff replies were turned into. -/
def PollOp.IsStaffCommit (services : StaffReplyServices) : PollOp → Prop
  | .reply op => AiCustomerService.IsStaffCommit services op
  | _ => True

theorem staffCommits_syncRows (services : StaffReplyServices) (rows : List ExternalResultRow) :
    (syncRows rows).All (PollOp.IsStaffCommit services) := by
  induction rows with
  | nil => exact Prog.all_ret _
  | cons row rest ih =>
      have hupsert : (PollOp.upsert row).call.All (PollOp.IsStaffCommit services) :=
        Prog.all_perform trivial
      apply hupsert.bind
      intro synced
      apply ih.bind
      intro others
      exact Prog.all_ret _

theorem staffCommits_syncAndProcess (poll : PollContext) :
    (syncAndProcess settings poll).All (PollOp.IsStaffCommit settings.services) := by
  have hselect : (PollOp.selectRecent 200).call.All (PollOp.IsStaffCommit settings.services) :=
    Prog.all_perform trivial
  have hsync := hselect.bind fun rows => staffCommits_syncRows settings.services rows
  apply hsync.bind
  intro _
  apply all_embedReply
  unfold processTelegramUpdatesOnce
  apply (staffCommits_call (.getOffset _) trivial).bind
  intro lastUpdateId
  apply (staffCommits_call (.getUpdates _ _) trivial).bind
  intro updates
  exact staffCommits_processTelegramUpdates poll updates

end AiCustomerService
