import AiCustomerService.Support.Solo
import AiCustomerService.Workers.CommandRuns

/-!
# What the command worker executes

A worker names only its own command, and only the commands of one type call LiveChat,
send a case card or deliver a follow-up.
-/

namespace AiCustomerService

open Support

/-- The command that an operation names. -/
def WorkerOp.commandId? : WorkerOp → Option Nat
  | .releaseLease commandId => some commandId
  | .mergePayload commandId _ => some commandId
  | .transferChatToGroup commandId _ _ => some commandId
  | .markSent commandId => some commandId
  | .markDryRunDone commandId => some commandId
  | .markStatus commandId _ _ => some commandId
  | .markProcessingFailed commandId _ => some commandId
  | .commandStatus commandId => some commandId
  | .sendMessage message => message.cardOf
  | _ => none

/-- The command whose failure an operation counts. -/
def WorkerOp.failed? : WorkerOp → Option Nat
  | .markProcessingFailed commandId _ => some commandId
  | _ => none

/-- The result that an operation inserts. -/
def WorkerOp.result? : WorkerOp → Option ExternalResult
  | .insertResult result => some result
  | _ => none

/-- The deliveries that must not be repeated. -/
inductive Delivery
  | transfer
  | caseCard
  | followup
  deriving DecidableEq

/-- The delivery that an operation belongs to. -/
def WorkerOp.delivery? : WorkerOp → Option Delivery
  | .mergePayload _ _ => some .transfer
  | .transferChatToGroup _ _ _ => some .transfer
  | .sendMessage message => message.cardOf.map fun _ => .caseCard
  | .reserveFollowup _ => some .followup
  | .markFollowupSending _ => some .followup
  | .sendCaseFollowup _ _ _ => some .followup
  | .recordFollowupSent _ _ _ => some .followup
  | .markFollowupDeliveryUncertain _ _ => some .followup
  | .markFollowupRetryable _ _ => some .followup
  | .cancelFollowup _ _ => some .followup
  | _ => none

/-- The delivery of a command. -/
def deliveryOf (commandType : String) : Option Delivery :=
  if commandType = "telegram.remind_case" then some .followup
  else if commandType = "telegram.send_case_card" then some .caseCard
  else if commandType = "human_handoff.requested" then some .transfer
  else none

/-- The operation names no other command and belongs to no other delivery. -/
def WorkerOp.Within (commandId : Nat) (delivery : Option Delivery) (op : WorkerOp) : Prop :=
  (op.commandId? = none ∨ op.commandId? = some commandId) ∧
    (op.delivery? = none ∨ op.delivery? = delivery)

/-- Every operation of the program is within the command and its delivery. -/
abbrev RunsWithin {α : Type} (commandId : Nat) (delivery : Option Delivery)
    (prog : WorkerProg α) : Prop :=
  prog.All (WorkerOp.Within commandId delivery)

/-- The operation names no command and belongs to no delivery. -/
def WorkerOp.Neutral (op : WorkerOp) : Prop := op.commandId? = none ∧ op.delivery? = none

/-- Every operation of the program is neutral. -/
abbrev RunsNeutral {α : Type} (prog : WorkerProg α) : Prop := prog.All WorkerOp.Neutral

section Within

variable {commandId : Nat} {delivery : Option Delivery} {α β : Type}

theorem runsWithin_call {op : WorkerOp} (h : op.Within commandId delivery) :
    RunsWithin commandId delivery op.call :=
  Prog.all_perform h

theorem neutral_call {op : WorkerOp} (hcommand : op.commandId? = none)
    (hdelivery : op.delivery? = none) : RunsNeutral op.call :=
  Prog.all_perform ⟨hcommand, hdelivery⟩

theorem RunsNeutral.within {prog : WorkerProg α} (h : RunsNeutral prog) :
    RunsWithin commandId delivery prog :=
  h.mono fun _ hop => ⟨Or.inl hop.1, Or.inl hop.2⟩

/-- An operation on the row of the command. -/
theorem within_own {op : WorkerOp} (hcommand : op.commandId? = some commandId)
    (hdelivery : op.delivery? = none) : op.Within commandId delivery :=
  ⟨Or.inr hcommand, Or.inl hdelivery⟩

/-- An operation of the delivery that names no command. -/
theorem within_delivery {op : WorkerOp} (hcommand : op.commandId? = none)
    (hdelivery : op.delivery? = delivery) : op.Within commandId delivery :=
  ⟨Or.inl hcommand, Or.inr hdelivery⟩

theorem runsWithin_markCommand (status : QueueStatus) (error : Option String) :
    RunsWithin commandId delivery (markCommand commandId status error) := by
  unfold markCommand
  split
  · apply (runsWithin_call (within_own rfl rfl)).bind
    intro _
    apply (runsWithin_call (within_own rfl rfl)).bind
    intro _
    trivial
  · exact runsWithin_call (within_own rfl rfl)

theorem neutral_emitResult (settings : CommandSettings) (result : ExternalResult) :
    RunsNeutral (emitResult settings result) := by
  unfold emitResult
  split
  · apply (neutral_call rfl rfl).bind
    intro _
    trivial
  · trivial

theorem runsWithin_finishWith (command : ExternalCommandRow) (status : QueueStatus)
    (report error : String) :
    RunsWithin command.id delivery (finishWith command status report error) := by
  apply (runsWithin_markCommand status (some error)).bind
  intro _
  trivial

theorem neutral_lift (value : Except PyError α) : RunsNeutral (WorkerProg.lift value) := by
  cases value with
  | ok a => trivial
  | error e => trivial

/-- Store `SENT` and report it. -/
theorem runsWithin_sent (command : ExternalCommandRow) (report : CommandReport) :
    RunsWithin command.id delivery
      ((WorkerOp.markSent command.id).call >>= fun _ => (pure report : WorkerProg CommandReport)) := by
  apply (runsWithin_call (within_own rfl rfl)).bind
  intro _
  trivial

/-! ## The commands -/

theorem runsWithin_failHandoffAck (settings : CommandSettings) (command : ExternalCommandRow)
    (ack : Option (Nat × QueueStatus)) (reason : String) :
    RunsWithin command.id delivery (failHandoffAck settings command ack reason) := by
  apply (runsWithin_markCommand .failedDependency (some reason)).bind
  intro _
  split
  · apply (neutral_call rfl rfl).within.bind
    intro _
    apply (neutral_call rfl rfl).within.bind
    intro _
    trivial
  · trivial

theorem runsWithin_handoffAckDependency (settings : CommandSettings)
    (command : ExternalCommandRow) :
    RunsWithin command.id delivery (handoffAckDependency settings command) := by
  unfold handoffAckDependency
  split
  · trivial
  · split
    · trivial
    · apply (neutral_call rfl rfl).within.bind
      intro ack
      unfold checkHandoffAck
      split
      · exact (runsWithin_failHandoffAck settings command none _).bind fun _ => trivial
      · split
        · trivial
        · split
          · apply (runsWithin_call (within_own rfl rfl)).bind
            intro _
            trivial
          · exact (runsWithin_failHandoffAck settings command _ _).bind fun _ => trivial

theorem runsWithin_recordHandoffStage (stage : JsonObject) :
    RunsWithin commandId (some .transfer) (recordHandoffStage commandId stage) :=
  runsWithin_call ⟨Or.inr rfl, Or.inr rfl⟩

theorem runsWithin_completeHandoff (settings : CommandSettings) (command : ExternalCommandRow)
    (stage : JsonObject) (livechatResponse : Json) :
    RunsWithin command.id (some .transfer)
      (completeHandoff settings command stage livechatResponse) := by
  apply (runsWithin_recordHandoffStage _).bind
  intro _
  have hrest : RunsWithin command.id (some .transfer) (do
      recordHandoffStage command.id
        ((stage.set "transfer_succeeded" (.bool true)).set "conversation_state_updated" (.bool true))
      emitResult settings (transferResult settings command livechatResponse)
      recordHandoffStage command.id
        (((stage.set "transfer_succeeded" (.bool true)).set "conversation_state_updated"
          (.bool true)).set "result_emitted" (.bool settings.emitResult))
      (WorkerOp.markSent command.id).call) := by
    apply (runsWithin_recordHandoffStage _).bind
    intro _
    apply (neutral_emitResult settings _).within.bind
    intro _
    apply (runsWithin_recordHandoffStage _).bind
    intro _
    exact runsWithin_call (within_own rfl rfl)
  dsimp only
  split
  · exact (neutral_call rfl rfl).within.bind fun _ => hrest
  · exact hrest

theorem runsWithin_processHandoffCommand (settings : CommandSettings)
    (command : ExternalCommandRow) :
    RunsWithin command.id (some .transfer) (processHandoffCommand settings command) := by
  unfold processHandoffCommand
  split
  · exact runsWithin_finishWith command _ _ _
  · apply (runsWithin_handoffAckDependency settings command).bind
    intro report
    split
    · trivial
    · apply (neutral_lift _).within.bind
      intro stage
      split
      · exact runsWithin_finishWith command _ _ _
      · have htransfer : RunsWithin command.id (some .transfer)
            (attemptTransfer settings command (stage.set "transfer_attempted" (.bool true))) := by
          apply (runsWithin_recordHandoffStage _).bind
          intro _
          exact runsWithin_call ⟨Or.inr rfl, Or.inr rfl⟩
        apply htransfer.attempt.bind
        intro outcome
        split
        · exact runsWithin_finishWith command _ _ _
        · apply (runsWithin_completeHandoff settings command _ _).attempt.bind
          intro completed
          split
          · exact runsWithin_finishWith command _ _ _
          · trivial

theorem neutral_sendAttachments (card : TelegramCard) (replyToMessageId : Int) :
    RunsNeutral (sendAttachments card replyToMessageId) := by
  apply Prog.All.mapM
  intro attachment _
  apply (neutral_call rfl rfl).attempt.bind
  intro sent
  split
  · trivial
  · split
    · split
      · trivial
      · apply (neutral_call rfl rfl).bind
        intro _
        trivial
    · trivial

theorem runsWithin_deliverCaseCard (settings : CommandSettings) (command : ExternalCommandRow) :
    RunsWithin command.id (some .caseCard) (deliverCaseCard settings command) := by
  apply (neutral_call rfl rfl).within.bind
  intro now
  have hsend : RunsWithin command.id (some .caseCard)
      (sendCaseCard command.id (settings.caseCard command now)) := by
    apply (runsWithin_call ⟨Or.inr rfl, Or.inr rfl⟩).bind
    intro messageId
    exact (neutral_sendAttachments _ _).within.bind fun _ => trivial
  exact hsend.bind fun _ => trivial

theorem runsWithin_deliverAppend (settings : CommandSettings) (command : ExternalCommandRow) :
    RunsWithin command.id delivery (deliverAppend settings command) := by
  have htranslate (text : String) : RunsNeutral (translateSupplement text) := by
    apply (neutral_call rfl rfl).attempt.bind
    intro translated
    split
    · dsimp only
      split
      · trivial
      · trivial
    · trivial
  apply (htranslate _).within.bind
  intro text
  apply (neutral_call rfl rfl).within.bind
  intro now
  apply (neutral_call rfl rfl).within.bind
  intro edited
  apply (neutral_sendAttachments _ _).within.bind
  intro attachmentResults
  trivial

theorem runsWithin_processTelegramCommand (settings : CommandSettings)
    (command : ExternalCommandRow)
    (h : RunsWithin command.id delivery (deliverTelegram settings command)) :
    RunsWithin command.id delivery (processTelegramCommand settings command) := by
  unfold processTelegramCommand
  split
  · exact runsWithin_finishWith command _ _ _
  · apply h.attempt.bind
    intro outcome
    split
    · exact runsWithin_finishWith command _ _ _
    · apply (neutral_emitResult settings _).within.bind
      intro _
      exact runsWithin_sent command _

theorem neutral_translateUpdate (text : String) : RunsNeutral (translateUpdate text) := by
  apply (neutral_call rfl rfl).attempt.bind
  intro translated
  split
  · trivial
  · trivial

theorem runsWithin_sendFollowup (settings : CommandSettings) (command : ExternalCommandRow)
    (reservation : Reservation) (kind : String) :
    RunsWithin command.id (some .followup) (sendFollowup settings command reservation kind) := by
  apply (neutral_translateUpdate _).within.bind
  intro translated
  apply (neutral_call rfl rfl).within.bind
  intro now
  apply (runsWithin_call (within_delivery rfl rfl)).bind
  intro _
  have hdeliver (kind customerUpdate now : String) : RunsWithin command.id (some .followup)
      (deliverFollowup settings command reservation kind customerUpdate now) := by
    apply (runsWithin_call (within_delivery rfl rfl)).bind
    intro delivery
    apply (runsWithin_call (within_delivery rfl rfl)).bind
    intro _
    trivial
  apply (hdeliver _ _ _).attempt.bind
  intro outcome
  split
  · unfold followupFailed
    split
    · apply (runsWithin_call (within_delivery rfl rfl)).bind
      intro _
      exact runsWithin_finishWith command _ _ _
    · apply (runsWithin_call (within_delivery rfl rfl)).bind
      intro _
      exact runsWithin_finishWith command _ _ _
  · apply (neutral_emitResult settings _).within.bind
    intro _
    exact runsWithin_sent command _

theorem runsWithin_processFollowupCommand (settings : CommandSettings)
    (command : ExternalCommandRow) :
    RunsWithin command.id (some .followup) (processFollowupCommand settings command) := by
  unfold processFollowupCommand
  split
  · exact runsWithin_finishWith command _ _ _
  · apply (neutral_lift _).within.bind
    intro request
    apply (runsWithin_call (within_delivery rfl rfl)).bind
    intro reservation
    unfold continueFollowup
    split
    · exact runsWithin_sent command _
    · split
      · exact runsWithin_sent command _
      · split
        · apply (runsWithin_call (within_delivery rfl rfl)).bind
          intro _
          exact runsWithin_sent command _
        · exact runsWithin_sendFollowup settings command _ _

theorem runsWithin_processBackendQueryCommand (settings : CommandSettings)
    (command : ExternalCommandRow) :
    RunsWithin command.id delivery (processBackendQueryCommand settings command) := by
  unfold processBackendQueryCommand
  split
  · apply (neutral_emitResult settings _).within.bind
    intro _
    exact runsWithin_finishWith command _ _ _
  · apply (neutral_call rfl rfl).within.bind
    intro answer
    apply (neutral_emitResult settings _).within.bind
    intro _
    split
    · exact runsWithin_sent command _
    · apply (runsWithin_markCommand _ _).bind
      intro _
      trivial

theorem runsWithin_processPendingReplyLookupCommand (settings : CommandSettings)
    (command : ExternalCommandRow) :
    RunsWithin command.id delivery (processPendingReplyLookupCommand settings command) := by
  unfold processPendingReplyLookupCommand
  split
  · exact runsWithin_finishWith command _ _ _
  · apply (neutral_lift _).within.bind
    intro slotMemory
    apply (neutral_call rfl rfl).within.bind
    intro answer
    apply (neutral_emitResult settings _).within.bind
    intro _
    exact runsWithin_sent command _

theorem runsWithin_processRealCommand (settings : CommandSettings)
    (command : ExternalCommandRow) :
    RunsWithin command.id (deliveryOf command.commandType)
      (processRealCommand settings command) := by
  unfold processRealCommand
  split_ifs with hremind hcard hquery hlookup hhandoff
  · rw [deliveryOf, if_pos hremind]
    exact runsWithin_processFollowupCommand settings command
  · apply runsWithin_processTelegramCommand
    unfold deliverTelegram
    split_ifs with hsend
    · rw [deliveryOf, if_neg hremind, if_pos hsend]
      exact runsWithin_deliverCaseCard settings command
    · exact runsWithin_deliverAppend settings command
  · exact runsWithin_processBackendQueryCommand settings command
  · exact runsWithin_processPendingReplyLookupCommand settings command
  · have hdelivery : deliveryOf command.commandType = some .transfer := by
      rw [hhandoff]
      decide
    rw [hdelivery]
    exact runsWithin_processHandoffCommand settings command
  · exact runsWithin_finishWith command _ _ _

theorem runsWithin_processDryRunCommand (settings : CommandSettings)
    (command : ExternalCommandRow) :
    RunsWithin command.id delivery (processDryRunCommand settings command) := by
  apply (neutral_emitResult settings _).within.bind
  intro _
  apply (runsWithin_call (within_own rfl rfl)).bind
  intro _
  trivial

theorem neutral_commandBlockedByHumanActive (settings : CommandSettings)
    (command : ExternalCommandRow) :
    RunsNeutral (commandBlockedByHumanActive settings command) := by
  unfold commandBlockedByHumanActive
  split
  · trivial
  · apply (neutral_call rfl rfl).bind
    intro status
    trivial

/-- What surrounds the real execution names only the command. -/
theorem runsWithin_of_real {settings : CommandSettings} {command : ExternalCommandRow}
    (h : RunsWithin command.id delivery (processRealCommand settings command)) :
    RunsWithin command.id delivery (processOnePendingCommand settings command) := by
  have hbody : RunsWithin command.id delivery (processCommand settings command) := by
    apply (neutral_commandBlockedByHumanActive settings command).within.bind
    intro blocked
    split_ifs
    · exact runsWithin_finishWith command _ _ _
    · exact runsWithin_processDryRunCommand settings command
    · exact h
    · trivial
  apply hbody.tryCatch
  intro exc
  apply (runsWithin_call (within_own rfl rfl)).bind
  intro _
  trivial

/-- `_process_one_pending_command` stays within its command and the command's delivery. -/
theorem runsWithin_processOnePendingCommand (settings : CommandSettings)
    (command : ExternalCommandRow) :
    RunsWithin command.id (deliveryOf command.commandType)
      (processOnePendingCommand settings command) :=
  runsWithin_of_real (runsWithin_processRealCommand settings command)

end Within

/-! ## The rows of a command -/

section Rows

variable {settings : CommandSettings} {choice : CommandChoice} {w : CommandWorld}
  {commandId : Nat} {P : ExternalCommandRow → Prop}

/-- The statement reaches the database. -/
def CommandChoice.takesEffect (choice : CommandChoice) : Bool :=
  choice.fault.all Fault.applied

theorem faulty_effect {α : Type} (done : Except ServiceError α × CommandWorld) :
    (faulty choice.dbFault w done).2 = if choice.takesEffect = true then done.2 else w := by
  unfold CommandChoice.takesEffect CommandChoice.dbFault
  generalize choice.fault = fault
  cases fault with
  | none => rfl
  | some fault =>
      cases happlied : fault.applied with
      | true => simp [faulty, happlied]
      | false => simp [faulty, happlied]

/-- What holds before a statement and after its effect holds when it may fail. -/
theorem execute_induction {motive : CommandWorld → Prop} {db : Database} (hbefore : motive w)
    (hdone : motive { w with db }) : motive (choice.execute w db).2 :=
  faulty_induction hbefore hdone

/-- A statement that returns has taken effect. -/
theorem execute_ok {db : Database} {a : Unit} (h : (choice.execute w db).1 = .ok a) :
    (choice.execute w db).2 = { w with db } := by
  unfold CommandChoice.execute faulty at h ⊢
  cases hfault : choice.dbFault with
  | none => rfl
  | some fault =>
      rw [hfault] at h
      cases h

theorem executeOrRaise_induction {motive : CommandWorld → Prop} {db : Except PyError Database}
    (hbefore : motive w) (hdone : ∀ db', db = .ok db' → motive { w with db := db' }) :
    motive (choice.executeOrRaise w db).2 := by
  unfold CommandChoice.executeOrRaise
  split
  · exact execute_induction hbefore (hdone _ rfl)
  · exact hbefore

/-- What the statements on cases, follow-ups and conversations leave. -/
structure QueueFrame {β : Type} (f : Database → β) : Prop where
  followups : ∀ db rows, f { db with telegramCaseFollowups := rows } = f db
  cases : ∀ db rows, f { db with telegramCases := rows } = f db
  caseMessages : ∀ db rows, f { db with telegramCaseMessages := rows } = f db
  conversations : ∀ db rows, f { db with conversationStates := rows } = f db

theorem queueFrame_commands : QueueFrame Database.externalCommands :=
  ⟨fun _ _ => rfl, fun _ _ => rfl, fun _ _ => rfl, fun _ _ => rfl⟩

theorem queueFrame_results : QueueFrame Database.externalCommandResults :=
  ⟨fun _ _ => rfl, fun _ _ => rfl, fun _ _ => rfl, fun _ _ => rfl⟩

section Frame

variable {β : Type} {f : Database → β} (hf : QueueFrame f)
include hf

theorem reserveFollowup_frame {db db' : Database} {request : FollowupRequest}
    {reservation : Reservation} (h : reserveFollowup db request = .ok (db', reservation)) :
    f db' = f db := by
  unfold reserveFollowup at h
  split at h
  · cases h
  · split at h
    · cases h
    · split at h
      · cases h
        rfl
      · cases h
        exact hf.followups db _

theorem markFollowupSending_frame {db db' : Database} {followupId : Nat}
    (h : markFollowupSending db followupId = .ok db') : f db' = f db := by
  unfold markFollowupSending at h
  split at h
  · cases h
  · cases h
    exact (hf.cases _ _).trans (hf.followups db _)

omit hf in
theorem foldl_frame {insert : Database → Int → Database}
    (hinsert : ∀ db messageId, f (insert db messageId) = f db) (messageIds : List Int)
    (db : Database) : f (messageIds.foldl insert db) = f db := by
  induction messageIds generalizing db with
  | nil => rfl
  | cons messageId rest ih => rw [List.foldl_cons, ih, hinsert]

theorem recordFollowupSent_frame {db db' : Database} {followupId : Nat}
    {telegramMessageId : Int} {attachmentMessageIds : List Int} {customerUpdateEn : String}
    (h : recordFollowupSent db followupId telegramMessageId attachmentMessageIds
      customerUpdateEn = .ok db') : f db' = f db := by
  unfold recordFollowupSent at h
  split at h
  · cases h
  · split at h
    · cases h
    · cases h
      refine (foldl_frame (fun db messageId => ?_) _ _).trans ?_
      · exact hf.caseMessages db _
      · exact (hf.caseMessages _ _).trans (hf.followups db _)

theorem recordHandoffFailure_frame (db : Database) (conversationId : String)
    (failure : JsonObject) : f (recordHandoffFailure db conversationId failure).1 = f db := by
  unfold recordHandoffFailure
  split
  · rfl
  · split
    · rfl
    · exact hf.conversations db _

/-- An operation that neither names a command nor inserts a result. -/
theorem handle_frame {op : WorkerOp} (hop : op.commandId? = none) (hresult : op.result? = none) :
    f (handleWorkerOp settings op choice w).2.db = f w.db := by
  have hread {α : Type} (r : Except ServiceError α) :
      f (faulty choice.dbFault w (r, w)).2.db = f w.db :=
    faulty_induction (motive := fun w' : CommandWorld => f w'.db = f w.db) rfl rfl
  have hexecute {db : Database} (h : f db = f w.db) :
      f (choice.execute w db).2.db = f w.db :=
    execute_induction (motive := fun w' : CommandWorld => f w'.db = f w.db) rfl h
  have hraise {db : Except PyError Database} (h : ∀ db', db = .ok db' → f db' = f w.db) :
      f (choice.executeOrRaise w db).2.db = f w.db :=
    executeOrRaise_induction (motive := fun w' : CommandWorld => f w'.db = f w.db) rfl h
  cases op with
  | conversationStatus => exact hread _
  | fetchHandoffAck => exact hread _
  | recordHandoffFailure conversationId failure =>
      exact hexecute (recordHandoffFailure_frame hf w.db conversationId failure)
  | updateWorkflowState => exact hexecute (hf.conversations w.db _)
  | reserveFollowup request =>
      dsimp only [handleWorkerOp]
      split
      · next db reservation hreserve =>
        exact faulty_induction (motive := fun w' : CommandWorld => f w'.db = f w.db) rfl
          (reserveFollowup_frame hf hreserve)
      · rfl
  | markFollowupSending => exact hraise fun _ => markFollowupSending_frame hf
  | recordFollowupSent => exact hraise fun _ => recordFollowupSent_frame hf
  | markFollowupDeliveryUncertain => exact hexecute (hf.followups w.db _)
  | markFollowupRetryable => exact hexecute (hf.followups w.db _)
  | cancelFollowup => exact hexecute (hf.followups w.db _)
  | sendMessage message =>
      dsimp only [handleWorkerOp, CommandWorld.called]
      split
      · split
        · rfl
        · rfl
      · rfl
  | utcNow => rfl
  | translate => rfl
  | sendPhoto => rfl
  | editMessageText => rfl
  | executeBackendQuery => rfl
  | lookupPendingReply => rfl
  | sendCaseFollowup => rfl
  | insertResult => cases hresult
  | releaseLease => cases hop
  | mergePayload => cases hop
  | transferChatToGroup => cases hop
  | markSent => cases hop
  | markDryRunDone => cases hop
  | markStatus => cases hop
  | markProcessingFailed => cases hop
  | commandStatus => cases hop

end Frame

/-- The world has the same commands. -/
def SameCommands (w w' : CommandWorld) : Prop := w'.db.externalCommands = w.db.externalCommands

/-- An operation that names no command leaves the commands. -/
theorem handle_commands {op : WorkerOp} (hop : op.commandId? = none) :
    SameCommands w (handleWorkerOp settings op choice w).2 := by
  cases hresult : op.result? with
  | none => exact handle_frame queueFrame_commands hop hresult
  | some result =>
      cases op with
      | insertResult => exact faulty_induction (motive := SameCommands w) rfl rfl
      | _ => cases hresult

/-- An operation that inserts no result leaves the results. -/
theorem handle_results {op : WorkerOp} (hop : op.result? = none) :
    (handleWorkerOp settings op choice w).2.db.externalCommandResults =
      w.db.externalCommandResults := by
  cases hcommand : op.commandId? with
  | none => exact handle_frame queueFrame_results hcommand hop
  | some commandId =>
      have hexecute {db : Database}
          (h : db.externalCommandResults = w.db.externalCommandResults) :
          (choice.execute w db).2.db.externalCommandResults = w.db.externalCommandResults :=
        execute_induction (motive := fun w' : CommandWorld =>
          w'.db.externalCommandResults = w.db.externalCommandResults) rfl h
      cases op with
      | releaseLease => exact hexecute rfl
      | mergePayload => exact hexecute rfl
      | markSent => exact hexecute rfl
      | markDryRunDone => exact hexecute rfl
      | markStatus => exact hexecute rfl
      | markProcessingFailed => exact hexecute rfl
      | commandStatus =>
          exact faulty_induction (motive := fun w' : CommandWorld =>
            w'.db.externalCommandResults = w.db.externalCommandResults) rfl rfl
      | transferChatToGroup => rfl
      | sendMessage message =>
          dsimp only [handleWorkerOp, CommandWorld.called]
          split
          · split
            · rfl
            · rfl
          · rfl
      | _ => cases hcommand

/-- The services have seen the same calls. -/
structure SameCalls (w w' : CommandWorld) : Prop where
  transfers : w'.transfers = w.transfers
  cards : w'.cards = w.cards
  followups : w'.followups = w.followups

theorem sameCalls_of_db (w : CommandWorld) (db : Database) : SameCalls w { w with db } :=
  ⟨rfl, rfl, rfl⟩

theorem sameCalls_execute (db : Database) : SameCalls w (choice.execute w db).2 :=
  execute_induction (motive := SameCalls w) (sameCalls_of_db w w.db) (sameCalls_of_db w db)

/-- The calls that the world keeps. -/
def WorkerOp.isDelivery : WorkerOp → Bool
  | .transferChatToGroup _ _ _ => true
  | .sendMessage message => message.cardOf.isSome
  | .sendCaseFollowup _ _ _ => true
  | _ => false

/-- An operation that delivers nothing. -/
theorem handle_calls {op : WorkerOp} (hop : op.isDelivery = false) :
    SameCalls w (handleWorkerOp settings op choice w).2 := by
  have hread {α : Type} (r : Except ServiceError α) :
      SameCalls w (faulty choice.dbFault w (r, w)).2 :=
    faulty_induction (motive := SameCalls w) (sameCalls_of_db w w.db) (sameCalls_of_db w w.db)
  have hraise (db : Except PyError Database) : SameCalls w (choice.executeOrRaise w db).2 :=
    executeOrRaise_induction (motive := SameCalls w) (sameCalls_of_db w w.db)
      fun _ _ => sameCalls_of_db w _
  cases op with
  | conversationStatus => exact hread _
  | fetchHandoffAck => exact hread _
  | commandStatus => exact hread _
  | insertResult result =>
      exact faulty_induction (motive := SameCalls w) (sameCalls_of_db w w.db) (sameCalls_of_db w _)
  | reserveFollowup request =>
      dsimp only [handleWorkerOp]
      split
      · exact faulty_induction (motive := SameCalls w) (sameCalls_of_db w w.db)
          (sameCalls_of_db w _)
      · exact sameCalls_of_db w w.db
  | markFollowupSending => exact hraise _
  | recordFollowupSent => exact hraise _
  | sendMessage message =>
      have hcard : message.cardOf = none := by simpa [WorkerOp.isDelivery] using hop
      dsimp only [handleWorkerOp, CommandWorld.called]
      rw [hcard]
      exact sameCalls_of_db w w.db
  | transferChatToGroup => cases hop
  | sendCaseFollowup => cases hop
  | utcNow => exact sameCalls_of_db w w.db
  | translate => exact sameCalls_of_db w w.db
  | sendPhoto => exact sameCalls_of_db w w.db
  | editMessageText => exact sameCalls_of_db w w.db
  | executeBackendQuery => exact sameCalls_of_db w w.db
  | lookupPendingReply => exact sameCalls_of_db w w.db
  | releaseLease => exact sameCalls_execute _
  | recordHandoffFailure => exact sameCalls_execute _
  | mergePayload => exact sameCalls_execute _
  | updateWorkflowState => exact sameCalls_execute _
  | markSent => exact sameCalls_execute _
  | markDryRunDone => exact sameCalls_execute _
  | markStatus => exact sameCalls_execute _
  | markProcessingFailed => exact sameCalls_execute _
  | markFollowupDeliveryUncertain => exact sameCalls_execute _
  | markFollowupRetryable => exact sameCalls_execute _
  | cancelFollowup => exact sameCalls_execute _

/-- The events call no service. -/
theorem sameCalls_after (event : CommandEvent) : SameCalls w (w.after event) := by
  cases event with
  | elapse => exact sameCalls_of_db w _
  | recoverExpiredLeases => exact sameCalls_of_db w _
  | takeover => exact sameCalls_of_db w _
  | updateCaseStatus => exact sameCalls_of_db w _

/-- A statement on the row of a command. -/
theorem commandAll_execute {updatedId : Nat} {Q : ExternalCommandRow → Prop}
    {assign : ExternalCommandRow → ExternalCommandRow}
    {hkey : ∀ row, (assign row).dedupKey = row.dedupKey} (h : w.db.CommandAll commandId P)
    (hbefore : ∀ row, P row → Q row) (hassign : ∀ row, P row → Q (assign row))
    (hid : ∀ row, (assign row).id = row.id) :
    (choice.execute w (w.db.updateCommand updatedId assign hkey)).2.db.CommandAll commandId Q := by
  apply execute_induction (motive := fun w' => w'.db.CommandAll commandId Q)
  · exact fun row hmem hrow => hbefore row (h row hmem hrow)
  · exact commandAll_updateCommand updatedId h hassign hid fun _ => hbefore

/-- What an operation on another command leaves of the rows of a command. -/
theorem commandAll_other {op : WorkerOp} (hop : op.commandId? ≠ some commandId)
    (h : w.db.CommandAll commandId P) :
    (handleWorkerOp settings op choice w).2.db.CommandAll commandId P := by
  have hupdate {updatedId : Nat} (hne : updatedId ≠ commandId)
      {assign : ExternalCommandRow → ExternalCommandRow}
      {hkey : ∀ row, (assign row).dedupKey = row.dedupKey} (hid : ∀ row, (assign row).id = row.id) :
      (choice.execute w (w.db.updateCommand updatedId assign hkey)).2.db.CommandAll commandId P := by
    apply execute_induction (motive := fun w' => w'.db.CommandAll commandId P) h
    apply commandAll_update (fun row => decide (row.id = updatedId)) assign hkey rfl
      (fun row hmem hrow => And.intro hrow (h row hmem hrow)) _ hid fun row _ _ hrow => hrow.2
    intro row hselect hrow
    exact absurd ((of_decide_eq_true hselect).symm.trans hrow.1) hne
  have hne {other : Nat} (hother : op.commandId? = some other) : other ≠ commandId :=
    fun heq => hop (heq ▸ hother)
  cases hcommand : op.commandId? with
  | none =>
      have hsame : SameCommands w (handleWorkerOp settings op choice w).2 :=
        handle_commands hcommand
      intro row hmem hrow
      rw [hsame] at hmem
      exact h row hmem hrow
  | some other =>
      cases op with
      | releaseLease => exact hupdate (hne rfl) fun _ => rfl
      | mergePayload => exact hupdate (hne rfl) fun _ => rfl
      | markSent => exact hupdate (hne rfl) fun _ => rfl
      | markDryRunDone => exact hupdate (hne rfl) fun _ => rfl
      | markStatus => exact hupdate (hne rfl) fun _ => rfl
      | markProcessingFailed => exact hupdate (hne rfl) fun _ => rfl
      | commandStatus =>
          exact faulty_induction (motive := fun w' : CommandWorld => w'.db.CommandAll commandId P)
            h h
      | transferChatToGroup => exact h
      | sendMessage message =>
          dsimp only [handleWorkerOp, CommandWorld.called]
          split
          · split
            · exact h
            · exact h
          · exact h
      | _ => cases hcommand

/-- What a human takeover does to the commands. -/
theorem markHumanActive_commands (db : Database) (event : InboundEvent) :
    (markHumanActiveOnConnection db event).externalCommands =
      db.externalCommands.updateWhere
        (fun row => row.conversationId = conversationIdForChat event.chatId event.threadId &&
          row.status.isOpen)
        (fun row =>
          { row with
            status := .skippedHumanActive
            lastError := some "conversation is HUMAN_ACTIVE; external command skipped"
            lease := .none })
        fun _ => rfl := by
  have hinserted (conversationId chatId : String) (threadId : Option String)
      (stored : Option String → Option String) :
      (db.insertConversation conversationId chatId threadId stored).externalCommands =
        db.externalCommands := by
    unfold Database.insertConversation
    split
    · rfl
    · rfl
  unfold markHumanActiveOnConnection Database.cancelQueued Database.cancelResults
    Database.cancelCommands Database.cancelOutbound Database.updateConversation
  dsimp only
  rw [hinserted]

/-- A property of the rows that neither a lease nor a closing status touches survives the
events. -/
theorem commandAll_after (event : CommandEvent) (h : w.db.CommandAll commandId P)
    (hlease : ∀ row lease, P row → P { row with lease })
    (hclose : ∀ row lastError, P row →
      P { row with status := .skippedHumanActive, lastError, lease := .none }) :
    (w.after event).db.CommandAll commandId P := by
  cases event with
  | elapse => exact h
  | recoverExpiredLeases =>
      exact commandAll_update _ (fun row => { row with lease := .none }) (fun _ => rfl) rfl h
        (fun row _ hrow => hlease row .none hrow) (fun _ => rfl) fun _ _ _ hrow => hrow
  | takeover event =>
      exact commandAll_update _ _ _ (markHumanActive_commands w.db event) h
        (fun row _ hrow => hclose row _ hrow) (fun _ => rfl) fun _ _ _ hrow => hrow
  | updateCaseStatus => exact h

/-- A job that is started: the open row that it leased and its program. -/
theorem commandMachine_start {job : CommandJob} {prog : WorkerProg Unit} {w' : CommandWorld}
    (h : (commandMachine settings).start job w = some (prog, w')) :
    ∃ stored ∈ w.db.externalCommands.rows, stored.id = job.commandId ∧
      stored.status.isOpen = true ∧
      prog = (processOnePendingCommand settings
        { stored with lease := .taken job.workerId w.db.now job.leaseSeconds } >>= fun _ =>
          .ret ()) ∧
      w'.db = w.db.updateCommand job.commandId
        (fun row => { row with lease := .taken job.workerId w.db.now job.leaseSeconds })
        (fun _ => rfl) ∧ SameCalls w w' := by
  obtain ⟨⟨db, row⟩, hleased, heq⟩ := Option.map_eq_some_iff.mp h
  cases heq
  obtain ⟨⟨stored, hmem, hid, hopen, hrow⟩, hdb⟩ := leaseCommand?_eq_some hleased
  exact ⟨stored, hmem, hid, hopen, by rw [← hrow], hdb, ⟨rfl, rfl, rfl⟩⟩

/-- Starting a job leaves everything but the lease of its row. -/
theorem commandAll_start {job : CommandJob} {prog : WorkerProg Unit} {w' : CommandWorld}
    (hstart : (commandMachine settings).start job w = some (prog, w'))
    (h : w.db.CommandAll commandId P) (hlease : ∀ row lease, P row → P { row with lease }) :
    w'.db.CommandAll commandId P := by
  obtain ⟨_, _, _, _, _, hdb, _⟩ := commandMachine_start hstart
  rw [hdb]
  exact commandAll_updateCommand job.commandId h (fun row hrow => hlease row _ hrow)
    (fun _ => rfl) fun _ _ hrow => hrow

/-! ## Closing a command -/

/-- No row of the command is open. -/
def CommandWorld.Finished (w : CommandWorld) (commandId : Nat) : Prop :=
  w.db.CommandAll commandId fun row => row.status.isOpen = false

/-- `mark_processing_failed` takes effect and exhausts the retries. -/
def ExhaustsRetries (settings : CommandSettings) (commandId : Nat) (w : CommandWorld)
    (choice : CommandChoice) : Prop :=
  choice.fault = none ∧
    w.db.CommandAll commandId fun row => settings.maxRetries ≤ row.retryCount + 2

instance (settings : CommandSettings) (commandId : Nat) (w : CommandWorld)
    (choice : CommandChoice) : Decidable (ExhaustsRetries settings commandId w choice) :=
  inferInstanceAs (Decidable (_ ∧ ∀ row ∈ w.db.externalCommands.rows, row.id = commandId →
    settings.maxRetries ≤ row.retryCount + 2))

theorem finished_execute {updatedId : Nat} {assign : ExternalCommandRow → ExternalCommandRow}
    {hkey : ∀ row, (assign row).dedupKey = row.dedupKey} (h : w.Finished commandId)
    (hassign : ∀ row, row.status.isOpen = false → (assign row).status.isOpen = false)
    (hid : ∀ row, (assign row).id = row.id) :
    (choice.execute w (w.db.updateCommand updatedId assign hkey)).2.Finished commandId :=
  commandAll_execute h (fun _ hrow => hrow) hassign hid

/-- A statement that returns has closed the command. -/
theorem finished_of_execute_ok {assign : ExternalCommandRow → ExternalCommandRow}
    {hkey : ∀ row, (assign row).dedupKey = row.dedupKey}
    (h : (choice.execute w (w.db.updateCommand commandId assign hkey)).1.isOk = true)
    (hassign : ∀ row, (assign row).status.isOpen = false)
    (hid : ∀ row, (assign row).id = row.id) :
    (choice.execute w (w.db.updateCommand commandId assign hkey)).2.Finished commandId := by
  cases hr : (choice.execute w (w.db.updateCommand commandId assign hkey)).1 with
  | error e =>
      rw [hr] at h
      cases h
  | ok a =>
      rw [execute_ok hr]
      have hany : w.db.CommandAll commandId fun _ => True := fun _ _ _ => trivial
      exact commandAll_updateCommand commandId hany (fun row _ => hassign row) hid
        fun hne => absurd rfl hne

/-- The last failure of a command. -/
theorem finished_of_exhausted (error : String) (h : ExhaustsRetries settings commandId w choice) :
    (handleWorkerOp settings (.markProcessingFailed commandId error) choice w).2.Finished
      commandId := by
  obtain ⟨hfault, hretries⟩ := h
  have heffect : (handleWorkerOp settings (.markProcessingFailed commandId error) choice w).2 =
      { w with
        db := (markCommandProcessingFailed w.db commandId error settings.maxRetries) } := by
    dsimp only [handleWorkerOp, CommandChoice.execute, CommandChoice.dbFault]
    rw [hfault]
    rfl
  rw [heffect]
  exact closed_of_processingFailed error hretries

end Rows

/-- A command is leased again only when its last worker has finished. -/
def LeasedAlone (settings : CommandSettings) (commandId : Nat) {T : Type} :
    Machine.Config (commandMachine settings) T → Machine.Label (commandMachine settings) T → Prop :=
  Machine.StartsAlone fun op : WorkerOp => op.commandId? = some commandId

end AiCustomerService
