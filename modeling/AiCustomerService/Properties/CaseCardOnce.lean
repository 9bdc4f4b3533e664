import AiCustomerService.Workers.CommandSteps

/-!
# One card for a case

The main message of a case card, its attachments, the result and the status of the
command are separate steps.  A failure after Telegram has accepted the card makes the
command retryable, and a retry sends the card again.
-/

namespace AiCustomerService

open Support Support.Machine

/-- How far a worker is with the card of a command. -/
inductive CardPhase
  | ready
  | sent
  | done
  deriving DecidableEq

/-- A statement that finishes the command. -/
def CardPhase.finish (returned : Bool) : CardPhase → CardPhase
  | .ready => .ready
  | .sent => if returned then .done else .sent
  | .done => .done

/-- The phase after an operation of the worker, or `none` when it may not be executed. -/
def CardPhase.next (commandId : Nat) (p : CardPhase) :
    (op : WorkerOp) → Except ServiceError op.Res → Option CardPhase
  | .sendMessage message, _ =>
      if message.cardOf = some commandId then if p = .ready then some .sent else none
      else some p
  | .markSent finished, r => some (if finished = commandId then p.finish r.isOk else p)
  | .markStatus finished status _, r =>
      if finished ≠ commandId ∨ p = .ready then some p
      else if status.isOpen then none
      else some (p.finish r.isOk)
  | .markProcessingFailed failed _, _ => some (if failed = commandId then p.finish true else p)
  | _, _ => some p

/-- The steps of a worker that sends a card at most once. -/
def cardProtocol (commandId : Nat) : Protocol workerOps CardPhase :=
  fun p op r p' => p.next commandId op r = some p'

/-- The worker has no card that is sent and not settled. -/
abbrev CardPhase.IsFinal (p : CardPhase) : Prop := p ≠ .sent

/-- A failure after the card was accepted is only counted when it is the last one. -/
def NoRetryAfterCard (settings : CommandSettings) (commandId : Nat) (w : CommandWorld)
    (op : WorkerOp) (choice : CommandChoice) : Prop :=
  op.failed? = some commandId → commandId ∈ w.cards → ExhaustsRetries settings commandId w choice

instance (settings : CommandSettings) (commandId : Nat) (w : CommandWorld) (op : WorkerOp)
    (choice : CommandChoice) : Decidable (NoRetryAfterCard settings commandId w op choice) :=
  inferInstanceAs (Decidable (_ → _ → _))

/-- What holds while a worker is in a phase. -/
structure CardInvariant (commandId : Nat) (w : CommandWorld) (p : CardPhase) : Prop where
  once : w.cards.count commandId ≤ 1
  ready : p = .ready → commandId ∉ w.cards
  done : p = .done → commandId ∈ w.cards → w.Finished commandId

section Follows

variable {settings : CommandSettings} {commandId : Nat} {p : CardPhase} {α : Type}

/-- An operation that neither sends the card nor settles the command keeps the phase. -/
theorem next_of_commandId? {op : WorkerOp} (r : Except ServiceError op.Res)
    (hop : op.commandId? ≠ some commandId) : p.next commandId op r = some p := by
  cases op with
  | sendMessage message => exact if_neg hop
  | markSent finished => exact congrArg some (if_neg fun heq => hop (congrArg some heq))
  | markStatus finished => exact if_pos (Or.inl fun heq => hop (congrArg some heq))
  | markProcessingFailed failed => exact congrArg some (if_neg fun heq => hop (congrArg some heq))
  | _ => rfl

/-- An operation of another delivery keeps a worker ready. -/
theorem next_ready {op : WorkerOp} (r : Except ServiceError op.Res)
    (hop : op.delivery? ≠ some .caseCard) :
    CardPhase.ready.next commandId op r = some .ready := by
  cases op with
  | sendMessage message =>
      apply if_neg
      intro hcard
      apply hop
      rw [WorkerOp.delivery?, hcard]
      rfl
  | markSent finished => exact congrArg some (ite_self _)
  | markStatus finished => exact if_pos (Or.inr rfl)
  | markProcessingFailed failed => exact congrArg some (ite_self _)
  | _ => rfl

/-- A program about other commands keeps the phase. -/
theorem follows_of_leavesAlone {prog : WorkerProg α}
    (h : prog.All fun op : WorkerOp => op.commandId? ≠ some commandId) :
    FollowsTo (cardProtocol commandId) (fun p' _ => p' = p) p prog :=
  .of_all h fun _ r hop => next_of_commandId? r hop

/-- A settled outcome: either the worker raised or the card is settled. -/
def SettledUnlessRaised (p : CardPhase) (r : Except ServiceError α) : Prop :=
  r.isOk = true → p.IsFinal

/-- The report after `mark_sent`. -/
theorem follows_sent {command : ExternalCommandRow} (report : CommandReport) :
    FollowsTo (cardProtocol command.id) SettledUnlessRaised p
      ((WorkerOp.markSent command.id).call >>= fun _ =>
        (pure report : WorkerProg CommandReport)) := by
  have hsent : FollowsTo (cardProtocol command.id) SettledUnlessRaised p
      (WorkerOp.markSent command.id).call := by
    apply FollowsTo.perform
    intro r
    refine ⟨p.finish r.isOk, congrArg some (if_pos rfl), ?_⟩
    intro hok
    rw [hok]
    cases p <;> decide
  apply hsent.bind
  · intro p' a hp _
    exact hp rfl
  · intro p' e _ herror
    cases herror

/-- An error of Telegram is retryable, or it closes the command. -/
theorem classifyTelegramError_closed (rt : Runtime) (exc : ServiceError) :
    classifyTelegramError rt exc = .retryable ∨ (classifyTelegramError rt exc).isOpen = false := by
  unfold classifyTelegramError
  split
  · split_ifs
    · exact Or.inr rfl
    · exact Or.inl rfl
    · exact Or.inr rfl
    · exact Or.inr rfl
  · exact Or.inl rfl
  · split_ifs
    · exact Or.inl rfl
    · exact Or.inr rfl

/-- Storing a status that is retryable or closed settles the card. -/
theorem follows_finishWith {command : ExternalCommandRow} {status : QueueStatus}
    (report error : String) (hstatus : status = .retryable ∨ status.isOpen = false) :
    FollowsTo (cardProtocol command.id) SettledUnlessRaised p
      (finishWith command status report error) := by
  have hmark : FollowsTo (cardProtocol command.id) SettledUnlessRaised p
      (markCommand command.id status (some error)) := by
    unfold markCommand
    split_ifs with hretryable
    · have hfailed : FollowsTo (cardProtocol command.id) (fun p' _ => p'.IsFinal) p
          (WorkerOp.markProcessingFailed command.id (textOr (some error) "RETRYABLE")).call := by
        apply FollowsTo.perform
        intro r
        refine ⟨p.finish true, congrArg some (if_pos rfl), ?_⟩
        cases p <;> decide
      apply hfailed.bind
      · intro p' _ hfinal
        have hread : FollowsTo (cardProtocol command.id) (fun p'' _ => p'' = p') p'
            (WorkerOp.commandStatus command.id).call :=
          FollowsTo.perform fun _ => ⟨p', rfl, rfl⟩
        apply hread.bind
        · rintro _ _ rfl _
          exact hfinal
        · intro _ _ _ herror
          cases herror
      · intro _ _ _ herror
        cases herror
    · apply FollowsTo.perform
      intro r
      by_cases hready : p = .ready
      · refine ⟨p, if_pos (Or.inr hready), ?_⟩
        intro _
        rw [hready]
        decide
      · refine ⟨p.finish r.isOk, ?_, ?_⟩
        · change (if command.id ≠ command.id ∨ p = .ready then some p
            else if status.isOpen then none else some (p.finish r.isOk)) = _
          rw [if_neg (by simpa using hready), if_neg (by simp [hstatus.resolve_left hretryable])]
        · intro hok
          rw [hok]
          cases p <;> decide
  apply hmark.bind
  · intro p' _ hfinal _
    exact hfinal rfl
  · intro _ _ _ herror
    cases herror

/-- The delivery of a card: the main message is sent once, then the attachments follow. -/
theorem follows_deliverCaseCard (command : ExternalCommandRow) :
    FollowsTo (cardProtocol command.id) (fun _ _ => True) .ready
      (deliverCaseCard settings command) := by
  have hnow : FollowsTo (cardProtocol command.id) (fun p' _ => p' = .ready) .ready
      WorkerOp.utcNow.call := FollowsTo.perform fun _ => ⟨.ready, rfl, rfl⟩
  apply hnow.bind
  · rintro _ now rfl
    have hsend : FollowsTo (cardProtocol command.id) (fun p' _ => p' = .sent) .ready
        (sendCaseCard command.id (settings.caseCard command now)) := by
      have hmain : FollowsTo (cardProtocol command.id) (fun p' _ => p' = .sent) .ready
          (WorkerOp.sendMessage
            { chatId := (settings.caseCard command now).chatId
              text := (settings.caseCard command now).text
              messageThreadId := (settings.caseCard command now).threadId
              replyToMessageId := none
              cardOf := some command.id }).call :=
        FollowsTo.perform fun _ => ⟨.sent, if_pos rfl, rfl⟩
      apply hmain.bind
      · rintro _ messageId rfl
        have hattachments : FollowsTo (cardProtocol command.id) (fun p' _ => p' = .sent) .sent
            (sendAttachments (settings.caseCard command now) messageId) := by
          apply follows_of_leavesAlone
          apply (neutral_sendAttachments _ _).mono
          intro op hop
          rw [hop.1]
          simp
        apply hattachments.bind
        · rintro _ _ rfl
          rfl
        · intro _ _ h
          exact h
      · intro _ _ h
        exact h
    apply hsend.bind
    · intro _ _ _
      trivial
    · intro _ _ _
      trivial
  · intro _ _ _
    trivial

/-- A program of another delivery stays ready. -/
theorem follows_ready {ownId : Nat} {delivery : Option Delivery} {prog : WorkerProg α}
    (h : RunsWithin ownId delivery prog) (hdelivery : delivery ≠ some .caseCard) :
    FollowsTo (cardProtocol commandId) (fun p' _ => p' = .ready) .ready prog := by
  refine .of_all h fun op r hop => next_ready r ?_
  rcases hop.2 with hnone | hsome
  · rw [hnone]
    simp
  · rw [hsome]
    exact hdelivery

/-- `_process_real_telegram_command` for a card. -/
theorem follows_processTelegramCommand {command : ExternalCommandRow}
    (htype : command.commandType = "telegram.send_case_card") :
    FollowsTo (cardProtocol command.id) SettledUnlessRaised .ready
      (processTelegramCommand settings command) := by
  unfold processTelegramCommand
  split
  · apply (follows_ready (runsWithin_finishWith command _ _ _) (by decide : none ≠ _)).mono
    rintro _ _ rfl _
    decide
  · rw [deliverTelegram, if_pos htype]
    apply (follows_deliverCaseCard command).attempt.bind
    · rintro p' outcome -
      cases outcome with
      | error exc => exact follows_finishWith _ _ (classifyTelegramError_closed _ _)
      | ok result =>
          have hemit : FollowsTo (cardProtocol command.id) (fun p'' _ => p'' = p') p'
              (emitResult settings result) := by
            apply follows_of_leavesAlone
            apply (neutral_emitResult settings result).mono
            intro op hop
            rw [hop.1]
            simp
          apply hemit.bind
          · rintro _ _ rfl
            exact follows_sent _
          · intro _ _ _ herror
            cases herror
    · intro _ _ _ herror
      cases herror

/-- The worker sends the card of its command at most once; it settles it or raises. -/
theorem follows_processCommand {command : ExternalCommandRow}
    (htype : command.commandType = "telegram.send_case_card") :
    FollowsTo (cardProtocol command.id) SettledUnlessRaised .ready
      (processCommand settings command) := by
  have hready {prog : WorkerProg CommandReport} (h : RunsWithin command.id none prog) :
      FollowsTo (cardProtocol command.id) SettledUnlessRaised .ready prog := by
    apply (follows_ready h (by decide : none ≠ _)).mono
    rintro _ _ rfl _
    decide
  have hblocked : FollowsTo (cardProtocol command.id) (fun p' _ => p' = .ready) .ready
      (commandBlockedByHumanActive settings command) := by
    apply follows_of_leavesAlone
    apply (neutral_commandBlockedByHumanActive settings command).mono
    intro op hop
    rw [hop.1]
    simp
  apply hblocked.bind
  · rintro _ blocked rfl
    split_ifs
    · exact hready (runsWithin_finishWith command _ _ _)
    · exact hready (runsWithin_processDryRunCommand settings command)
    · rw [processRealCommand, if_neg (by rw [htype]; decide), if_pos (Or.inl htype)]
      exact follows_processTelegramCommand htype
    · intro herror
      cases herror
  · intro _ _ _ herror
    cases herror

/-- `_process_one_pending_command` settles the card of its command. -/
theorem follows_processOnePendingCommand (command : ExternalCommandRow) :
    Follows (cardProtocol command.id) CardPhase.IsFinal .ready
      (processOnePendingCommand settings command >>= fun _ => .ret ()) := by
  have hprocess : FollowsTo (cardProtocol command.id) (fun p' _ => p'.IsFinal) .ready
      (processOnePendingCommand settings command) := by
    by_cases htype : command.commandType = "telegram.send_case_card"
    · apply (follows_processCommand htype).tryCatch
      · intro p' _ hsettled
        exact hsettled rfl
      · intro p' exc _
        have hfailed : FollowsTo (cardProtocol command.id) (fun p'' _ => p''.IsFinal) p'
            (WorkerOp.markProcessingFailed command.id (exc.text settings.runtime)).call := by
          apply FollowsTo.perform
          intro r
          refine ⟨p'.finish true, congrArg some (if_pos rfl), ?_⟩
          cases p' <;> decide
        apply hfailed.bind
        · intro _ _ hfinal
          exact hfinal
        · intro _ _ hfinal
          exact hfinal
    · have hdelivery : deliveryOf command.commandType ≠ some .caseCard := by
        unfold deliveryOf
        split_ifs <;> simp
      apply (follows_ready (runsWithin_processOnePendingCommand settings command) hdelivery).mono
      rintro _ _ rfl
      decide
  apply hprocess.bind
  · intro _ _ hfinal
    exact hfinal
  · intro _ _ hfinal
    exact hfinal

end Follows

/-! ## The invariant -/

section Invariant

variable {settings : CommandSettings} {commandId : Nat} {w : CommandWorld} {p : CardPhase}
  {choice : CommandChoice}

/-- An operation that names the command and does not send its card. -/
theorem CardInvariant.own_other {op : WorkerOp} (h : CardInvariant commandId w p)
    (hcalls : op.isDelivery = false)
    (hdone : p = .done → commandId ∈ w.cards →
      (handleWorkerOp settings op choice w).2.Finished commandId) :
    CardInvariant commandId (handleWorkerOp settings op choice w).2 p := by
  have hsame : SameCalls w (handleWorkerOp settings op choice w).2 := handle_calls hcalls
  refine ⟨?_, ?_, ?_⟩
  · rw [hsame.cards]
    exact h.once
  · rw [hsame.cards]
    exact h.ready
  · rw [hsame.cards]
    exact hdone

/-- A statement that finishes the command. -/
theorem CardInvariant.finish {op : WorkerOp} (h : CardInvariant commandId w p)
    (hcalls : op.isDelivery = false) {returned : Bool}
    (hkeep : commandId ∈ w.cards → w.Finished commandId →
      (handleWorkerOp settings op choice w).2.Finished commandId)
    (hclose : returned = true → commandId ∈ w.cards →
      (handleWorkerOp settings op choice w).2.Finished commandId) :
    CardInvariant commandId (handleWorkerOp settings op choice w).2 (p.finish returned) := by
  have hsame : SameCalls w (handleWorkerOp settings op choice w).2 := handle_calls hcalls
  refine ⟨?_, ?_, ?_⟩
  · rw [hsame.cards]
    exact h.once
  · rw [hsame.cards]
    intro hready
    apply h.ready
    cases p with
    | ready => rfl
    | sent =>
        cases returned with
        | true => cases hready
        | false => cases hready
    | done => cases hready
  · rw [hsame.cards]
    intro hdone hcard
    cases p with
    | ready => cases hdone
    | sent =>
        cases returned with
        | true => exact hclose rfl hcard
        | false => cases hdone
    | done => exact hkeep hcard (h.done rfl hcard)

/-- The main message of the card. -/
theorem CardInvariant.send {message : TelegramPost} (h : CardInvariant commandId w .ready)
    (hcard : message.cardOf = some commandId) :
    CardInvariant commandId
      (handleWorkerOp settings (.sendMessage message) choice w).2 .sent := by
  have hnone : commandId ∉ w.cards := h.ready rfl
  refine ⟨?_, ?_, ?_⟩
  · dsimp only [handleWorkerOp, CommandWorld.called]
    rw [hcard]
    dsimp only
    split
    · rw [List.count_cons_self, List.count_eq_zero_of_not_mem hnone]
    · exact h.once
  · intro hready
    cases hready
  · intro hdone
    cases hdone

/-- What an operation on the command leaves of the invariant. -/
theorem CardInvariant.own {op : WorkerOp} {p' : CardPhase} (h : CardInvariant commandId w p)
    (hcond : NoRetryAfterCard settings commandId w op choice)
    (hnext : p.next commandId op (handleWorkerOp settings op choice w).1 = some p')
    (hop : op.commandId? = some commandId) :
    CardInvariant commandId (handleWorkerOp settings op choice w).2 p' := by
  cases op with
  | sendMessage message =>
      have hcard : message.cardOf = some commandId := hop
      dsimp only [CardPhase.next] at hnext
      rw [if_pos hcard] at hnext
      split_ifs at hnext with hready
      cases hnext
      subst hready
      exact h.send hcard
  | markSent finished =>
      cases hop
      dsimp only [CardPhase.next] at hnext
      rw [if_pos rfl] at hnext
      cases hnext
      apply h.finish rfl
      · intro _ hfinished
        exact finished_execute hfinished (fun _ _ => rfl) fun _ => rfl
      · intro hok _
        exact finished_of_execute_ok hok (fun _ => rfl) fun _ => rfl
  | markStatus finished status error =>
      cases hop
      dsimp only [CardPhase.next] at hnext
      by_cases hready : p = .ready
      · rw [if_pos (Or.inr hready)] at hnext
        cases hnext
        apply h.own_other rfl
        intro hdone
        rw [hready] at hdone
        cases hdone
      · rw [if_neg (by simpa using hready)] at hnext
        split_ifs at hnext with hopen
        cases hnext
        have hclosed : status.isOpen = false := by simpa using hopen
        apply h.finish rfl
        · intro _ hfinished
          exact finished_execute hfinished (fun _ _ => hclosed) fun _ => rfl
        · intro hok _
          exact finished_of_execute_ok hok (fun _ => hclosed) fun _ => rfl
  | markProcessingFailed failed error =>
      cases hop
      dsimp only [CardPhase.next] at hnext
      rw [if_pos rfl] at hnext
      cases hnext
      have hclose (hcard : commandId ∈ w.cards) : (handleWorkerOp settings
          (.markProcessingFailed commandId error) choice w).2.Finished commandId :=
        finished_of_exhausted error (hcond rfl hcard)
      exact h.finish rfl (fun hcard _ => hclose hcard) fun _ => hclose
  | releaseLease =>
      cases hop
      cases hnext
      apply h.own_other rfl
      intro hdone hcard
      exact finished_execute (h.done hdone hcard) (fun _ hrow => hrow) fun _ => rfl
  | mergePayload =>
      cases hop
      cases hnext
      apply h.own_other rfl
      intro hdone hcard
      exact finished_execute (h.done hdone hcard) (fun _ hrow => hrow) fun _ => rfl
  | markDryRunDone =>
      cases hop
      cases hnext
      apply h.own_other rfl
      intro hdone hcard
      exact finished_execute (h.done hdone hcard) (fun _ _ => rfl) fun _ => rfl
  | commandStatus =>
      cases hnext
      apply h.own_other rfl
      intro hdone hcard
      exact faulty_induction (motive := fun w' : CommandWorld => w'.Finished commandId)
        (h.done hdone hcard) (h.done hdone hcard)
  | transferChatToGroup =>
      cases hnext
      exact ⟨h.once, h.ready, h.done⟩
  | _ => cases hop

/-- Another card. -/
theorem count_cards_other {op : WorkerOp} (hop : op.commandId? ≠ some commandId) :
    (handleWorkerOp settings op choice w).2.cards.count commandId = w.cards.count commandId := by
  cases hdelivery : op.isDelivery with
  | false =>
      have hsame : SameCalls w (handleWorkerOp settings op choice w).2 := handle_calls hdelivery
      rw [hsame.cards]
  | true =>
      cases op with
      | sendMessage message =>
          dsimp only [handleWorkerOp, CommandWorld.called]
          split
          · next other hcard =>
            have hne : other ≠ commandId := fun heq => hop (hcard.trans (congrArg some heq))
            split
            · exact List.count_cons_of_ne hne
            · rfl
          · rfl
      | transferChatToGroup => rfl
      | sendCaseFollowup => rfl
      | _ => cases hdelivery

/-- The invariant depends on the accepted cards and on the rows of the command. -/
theorem CardInvariant.congr {w' : CommandWorld} (h : CardInvariant commandId w p)
    (hcards : w'.cards.count commandId = w.cards.count commandId)
    (hfinished : w.Finished commandId → w'.Finished commandId) : CardInvariant commandId w' p := by
  have hmem : commandId ∈ w'.cards ↔ commandId ∈ w.cards := by
    rw [← List.count_pos_iff, hcards, List.count_pos_iff]
  refine ⟨?_, ?_, ?_⟩
  · rw [hcards]
    exact h.once
  · rw [hmem]
    exact h.ready
  · rw [hmem]
    intro hdone hcard
    exact hfinished (h.done hdone hcard)

theorem CardInvariant.start {job : CommandJob} {prog : WorkerProg Unit} {w' : CommandWorld}
    (h : CardInvariant commandId w p)
    (hstart : (commandMachine settings).start job w = some (prog, w')) :
    CardInvariant commandId w' p := by
  obtain ⟨_, _, _, _, _, _, hcalls⟩ := commandMachine_start hstart
  apply h.congr (congrArg (List.count commandId) hcalls.cards)
  intro hfinished
  exact commandAll_start hstart hfinished fun _ _ hrow => hrow

theorem isSoloInvariant_card (settings : CommandSettings) (commandId : Nat) :
    @IsSoloInvariant workerOps (commandMachine settings) CardPhase
      (fun op => op.commandId? = some commandId) (cardProtocol commandId) CardPhase.IsFinal
      (NoRetryAfterCard settings commandId) (CardInvariant commandId) where
  own hw hcond hnext hop := hw.own hcond hnext hop
  other hw _ hop := hw.congr (count_cards_other hop) fun hfinished => commandAll_other hop hfinished
  phase p op r p' hnext hop := by
    have hkeep : p.next commandId op r = some p := next_of_commandId? r hop
    exact Option.some.inj (hnext.symm.trans hkeep)
  env {w p} event hw := by
    have hcalls : SameCalls w (w.after event) := sameCalls_after event
    apply hw.congr (congrArg (List.count commandId) hcalls.cards)
    intro hfinished
    exact commandAll_after event hfinished (fun _ _ hrow => hrow) fun _ _ _ => rfl
  beside hw hstart _ := hw.start hstart
  spawn {w p job prog w'} hw hfinal hstart := by
    obtain ⟨stored, hmem, hid, hopen, rfl, -, -⟩ := commandMachine_start hstart
    have hkeep : CardInvariant commandId w' p := hw.start hstart
    by_cases hjob : job.commandId = commandId
    · refine ⟨.ready, ?_, ?_⟩
      · have hown : stored.id = commandId := hid.trans hjob
        rw [← hown]
        exact follows_processOnePendingCommand
          { stored with lease := .taken job.workerId w.db.now job.leaseSeconds }
      · refine ⟨hkeep.once, fun _ => ?_, fun hdone => nomatch hdone⟩
        cases p with
        | ready => exact hkeep.ready rfl
        | sent => exact absurd rfl hfinal
        | done =>
            intro hcard
            obtain ⟨_, _, _, _, _, _, hcalls⟩ := commandMachine_start hstart
            rw [hcalls.cards] at hcard
            have hclosed : stored.status.isOpen = false :=
              hw.done rfl hcard stored hmem (hid.trans hjob)
            rw [hopen] at hclosed
            cases hclosed
    · refine ⟨p, ?_, hkeep⟩
      have hothers : FollowsTo (cardProtocol commandId) (fun p' _ => p' = p) p
          (processOnePendingCommand settings
            { stored with lease := .taken job.workerId w.db.now job.leaseSeconds }) := by
        apply follows_of_leavesAlone
        apply (runsWithin_processOnePendingCommand settings _).mono
        intro op hop
        rcases hop.1 with hnone | hsome
        · rw [hnone]
          simp
        · rw [hsome]
          intro heq
          exact hjob (hid.symm.trans (Option.some.inj heq))
      apply hothers.bind
      · rintro _ _ rfl
        exact hfinal
      · rintro _ _ rfl
        exact hfinal

end Invariant

/-! ## Runs -/

/-- A row of `external_commands`. -/
def cardCommand : ExternalCommandRow := pendingCommand 1 "telegram.send_case_card" ∅

abbrev CardLabel := Label (commandMachine .plain) Unit

/-- A worker leases the command. -/
def leaseCard : CardLabel := .spawn () ⟨1, "worker", 60⟩

/-- The worker takes a step. -/
def cardStep (choice : CommandChoice) : CardLabel := .act () choice

/-- The `429` of Telegram. -/
def tooManyRequests : ServiceError := .telegramApi "Too Many Requests" (some 429) (some 429) none true

/-- Telegram rejects the attachment for the moment, and the command is retried. -/
def retriedCard : List CardLabel :=
  [leaseCard, cardStep .good, cardStep .good, cardStep (.serviceError tooManyRequests),
    cardStep .good, cardStep .good, leaseCard, cardStep .good, cardStep .good]

/-- The attachment and the command go through. -/
def settledCard : List CardLabel :=
  [leaseCard, cardStep .good, cardStep .good, cardStep .good, cardStep .good, cardStep .good]

end AiCustomerService
