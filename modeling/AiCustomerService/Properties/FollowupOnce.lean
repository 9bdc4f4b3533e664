import AiCustomerService.Workers.CommandSteps

/-!
# One delivery of a follow-up

A follow-up is reserved, the update is translated, the row is marked `sending` and then
Telegram is called.  The row is the only guard, and it is read before the translation:
two holders of a command that both read `reserved` both send.
-/

namespace AiCustomerService

open Support Support.Machine

/-! ## The follow-up rows -/

/-- The calls that sent a follow-up, the latest first: whether they were rejected with a
`429`. -/
def CommandWorld.followupsOf (w : CommandWorld) (followupId : Nat) : List Bool :=
  (w.followups.filter fun call => call.1 = followupId).map Prod.snd

/-- A further call is only made after a `429`. -/
def CommandWorld.DeliveredOnce (w : CommandWorld) (followupId : Nat) : Prop :=
  (w.followupsOf followupId).Pairwise fun _ older => older = true

instance (w : CommandWorld) (followupId : Nat) : Decidable (w.DeliveredOnce followupId) :=
  inferInstanceAs (Decidable (List.Pairwise _ _))

/-- The ids of the follow-ups count the rows. -/
def Database.FollowupIds (db : Database) : Prop :=
  ∀ row ∈ db.telegramCaseFollowups, row.id ≤ db.telegramCaseFollowups.length

/-- The follow-up exists, and its status satisfies a property. -/
def Database.FollowupIs (db : Database) (followupId : Nat) (P : FollowupStatus → Prop) : Prop :=
  (∃ row ∈ db.telegramCaseFollowups, row.id = followupId) ∧
    ∀ row ∈ db.telegramCaseFollowups, row.id = followupId → P row.status

/-- The follow-up that an operation claims or gives up. -/
def WorkerOp.claims? : WorkerOp → Option Nat
  | .markFollowupSending followupId => some followupId
  | .cancelFollowup followupId _ => some followupId
  | _ => none

/-- A follow-up is only marked `sending`, or canceled, while it is not being delivered. -/
def ClaimsFree (followupId : Nat) (w : CommandWorld) (op : WorkerOp) (_ : CommandChoice) : Prop :=
  op.claims? = some followupId →
    ∀ row ∈ w.db.telegramCaseFollowups, row.id = followupId → row.status.isUnderway = false

instance (followupId : Nat) (w : CommandWorld) (op : WorkerOp) (choice : CommandChoice) :
    Decidable (ClaimsFree followupId w op choice) :=
  inferInstanceAs (Decidable (_ → ∀ row ∈ w.db.telegramCaseFollowups, _))

/-! ## Phases -/

/-- How far a worker is with the delivery of a follow-up; `lost` is never reached. -/
inductive FollowupPhase
  | free
  | marked
  | limited
  | called
  | lost
  deriving DecidableEq

/-- The worker relies on the status `sending`. -/
def FollowupPhase.isUnderway : FollowupPhase → Bool
  | .marked => true
  | .limited => true
  | _ => false

/-- The phase after an operation on the follow-up, or `none` when it may not be executed. -/
def FollowupPhase.act (p : FollowupPhase) :
    (op : WorkerOp) → Except ServiceError op.Res → Option FollowupPhase
  | .markFollowupSending _, r =>
      if p = .free then some (if r.isOk then .marked else .free) else none
  | .sendCaseFollowup _ _ _, r =>
      if p = .marked then some (if isRateLimitedCall r then .limited else .called) else none
  | .markFollowupRetryable _ _, _ => if p = .limited then some .free else none
  | .recordFollowupSent _ _ _, r =>
      if p = .called then some (if isRateLimitedCall r then .lost else .called) else none
  | .markFollowupDeliveryUncertain _ _, _ => if p = .called then some .called else none
  | .cancelFollowup _ _, _ => if p = .free then some .free else none
  | _, _ => some p

/-- The follow-up that an operation names. -/
def WorkerOp.followupId? : WorkerOp → Option Nat
  | .markFollowupSending followupId => some followupId
  | .sendCaseFollowup followupId _ _ => some followupId
  | .recordFollowupSent followupId _ _ => some followupId
  | .markFollowupDeliveryUncertain followupId _ => some followupId
  | .markFollowupRetryable followupId _ => some followupId
  | .cancelFollowup followupId _ => some followupId
  | _ => none

/-- The steps of a worker that delivers a follow-up. -/
def followupProtocol (followupId : Nat) : Protocol workerOps FollowupPhase :=
  fun p op r p' =>
    p = .lost ∧ p' = .lost ∨
      p ≠ .lost ∧ (if op.followupId? = some followupId then p.act op r else some p) = some p'

/-- The worker does not rely on the status. -/
abbrev FollowupPhase.IsFinal (p : FollowupPhase) : Prop := p.isUnderway = false

/-- What holds while the workers are in their phases. -/
structure FollowupInvariant {T : Type} (followupId : Nat) (w : CommandWorld)
    (phases : T → FollowupPhase) : Prop where
  once : w.DeliveredOnce followupId
  ids : w.db.FollowupIds
  unique : ∀ t t', (phases t).isUnderway = true → (phases t').isUnderway = true → t = t'
  sending : ∀ t, (phases t).isUnderway = true →
    w.db.FollowupIs followupId fun status => status = .sending
  settled : false ∈ w.followupsOf followupId →
    (w.db.FollowupIs followupId fun status => status.isUnderway = true) ∧
      ∀ t, (phases t).isUnderway = false
  called : ∀ t, phases t = .called → false ∈ w.followupsOf followupId
  kept : ∀ t, phases t ≠ .lost

section Follows

variable {settings : CommandSettings} {followupId : Nat} {p : FollowupPhase} {α : Type}

/-- An operation that does not name the follow-up keeps the phase. -/
theorem followupProtocol_other {op : WorkerOp} (r : Except ServiceError op.Res)
    (hop : op.followupId? ≠ some followupId) : followupProtocol followupId p op r p := by
  by_cases hp : p = .lost
  · exact Or.inl ⟨hp, hp⟩
  · exact Or.inr ⟨hp, if_neg hop⟩

theorem followup_follows_other {prog : WorkerProg α}
    (h : prog.All fun op : WorkerOp => op.followupId? ≠ some followupId) :
    FollowsTo (followupProtocol followupId) (fun p' _ => p' = p) p prog :=
  .of_all h fun _ r hop => followupProtocol_other r hop

theorem delivery_of_followupId {op : WorkerOp} (hop : op.followupId? = some followupId) :
    op.delivery? = some .followup := by
  cases op <;> first | rfl | cases hop

/-- A program of another delivery names no follow-up. -/
theorem followup_follows_within {ownId : Nat} {delivery : Option Delivery} {prog : WorkerProg α}
    (h : RunsWithin ownId delivery prog) (hdelivery : delivery ≠ some .followup) :
    FollowsTo (followupProtocol followupId) (fun p' _ => p' = p) p prog := by
  apply followup_follows_other
  apply h.mono
  intro op hop hname
  have hsome : op.delivery? = some .followup := delivery_of_followupId hname
  rcases hop.2 with hnone | hown
  · rw [hsome] at hnone
    cases hnone
  · exact hdelivery (hown.symm.trans hsome)

/-- Where a worker on another follow-up stays. -/
def phaseAt (followupId ownId : Nat) (p : FollowupPhase) : FollowupPhase :=
  if ownId = followupId then p else .free

/-- An operation on the follow-up of the worker. -/
theorem follows_act {op : WorkerOp} {ownId : Nat} (hop : op.followupId? = some ownId)
    (hp : p ≠ .lost) {R : FollowupPhase → Except ServiceError op.Res → Prop}
    (h : ∀ r, ∃ p', p.act op r = some p' ∧ R (phaseAt followupId ownId p') r) :
    FollowsTo (followupProtocol followupId) R (phaseAt followupId ownId p) op.call := by
  apply FollowsTo.perform
  intro r
  obtain ⟨p', hact, hR⟩ := h r
  refine ⟨phaseAt followupId ownId p', ?_, hR⟩
  unfold phaseAt
  by_cases hown : ownId = followupId
  · rw [if_pos hown, if_pos hown]
    exact Or.inr ⟨hp, (if_pos (by rw [hop, hown])).trans hact⟩
  · rw [if_neg hown, if_neg hown]
    apply followupProtocol_other
    rw [hop]
    exact fun heq => hown (Option.some.inj heq)

/-- The call and the record of its success. -/
theorem followup_follows_deliver (command : ExternalCommandRow) (reservation : Reservation)
    (kind customerUpdate now : String) :
    FollowsTo (followupProtocol followupId)
      (fun p' r => (isRateLimitedCall r = true ∧
          p' = phaseAt followupId reservation.followup.id .limited) ∨
        (isRateLimitedCall r = false ∧
          p' = phaseAt followupId reservation.followup.id .called) ∨
        p' = phaseAt followupId reservation.followup.id .lost)
      (phaseAt followupId reservation.followup.id .marked)
      (deliverFollowup settings command reservation kind customerUpdate now) := by
  have hsend : FollowsTo (followupProtocol followupId)
      (fun p' r => p' = phaseAt followupId reservation.followup.id
        (if isRateLimitedCall r then .limited else .called))
      (phaseAt followupId reservation.followup.id .marked)
      (WorkerOp.sendCaseFollowup reservation.followup.id
        (settings.caseFollowup command reservation.case
          { reservation.followup with followUpKind := kind } customerUpdate now)
        reservation.case.rootMessageId).call := by
    apply follows_act rfl (by decide)
    intro r
    exact ⟨if isRateLimitedCall r then .limited else .called, rfl, rfl⟩
  apply hsend.bind
  · rintro _ delivery rfl
    have hrecord : FollowsTo (followupProtocol followupId)
        (fun p' r => p' = phaseAt followupId reservation.followup.id
          (if isRateLimitedCall r then .lost else .called))
        (phaseAt followupId reservation.followup.id .called)
        (WorkerOp.recordFollowupSent reservation.followup.id delivery customerUpdate).call := by
      apply follows_act rfl (by decide)
      intro r
      exact ⟨if isRateLimitedCall r then .lost else .called, rfl, rfl⟩
    apply hrecord.bind
    · rintro _ _ rfl
      exact Or.inr (Or.inl ⟨rfl, rfl⟩)
    · rintro _ exc rfl
      cases hlimited : isRateLimited exc with
      | true => exact Or.inr (Or.inr (by simp [isRateLimitedCall, hlimited]))
      | false =>
          exact Or.inr (Or.inl ⟨hlimited, by simp [isRateLimitedCall, hlimited]⟩)
  · rintro _ exc rfl
    cases hlimited : isRateLimited exc with
    | true => exact Or.inl ⟨hlimited, by simp [isRateLimitedCall, hlimited]⟩
    | false => exact Or.inr (Or.inl ⟨hlimited, by simp [isRateLimitedCall, hlimited]⟩)

theorem phaseAt_isFinal {ownId : Nat} (h : p.IsFinal) : (phaseAt followupId ownId p).IsFinal := by
  unfold phaseAt
  split
  · exact h
  · rfl

/-- A program of the worker that leaves the follow-ups alone. -/
theorem followup_follows_final {ownId : Nat} {prog : WorkerProg α}
    (h : RunsWithin ownId none prog) (hp : p.IsFinal) :
    FollowsTo (followupProtocol followupId) (fun p' _ => p'.IsFinal) p prog := by
  apply (followup_follows_within h (by decide : none ≠ _)).mono
  rintro _ _ rfl
  exact hp

theorem followup_follows_free {ownId : Nat} {prog : WorkerProg α}
    (h : RunsWithin ownId none prog) :
    FollowsTo (followupProtocol followupId)
      (fun p' _ => p' = phaseAt followupId ownId .free) (phaseAt followupId ownId .free) prog :=
  followup_follows_within h (by decide : none ≠ _)

/-- A lost worker may do anything. -/
theorem followup_follows_lost (prog : WorkerProg α) :
    FollowsTo (followupProtocol followupId) (fun p' _ => p'.IsFinal) .lost prog := by
  have hall : prog.All fun _ => True := Prog.all_of_forall (fun _ => trivial) prog
  have hlost : FollowsTo (followupProtocol followupId) (fun p' _ => p' = .lost) .lost prog :=
    .of_all hall fun _ _ _ => Or.inl ⟨rfl, rfl⟩
  apply hlost.mono
  rintro _ _ rfl
  rfl

theorem followup_follows_retryable (command : ExternalCommandRow) (ownId : Nat)
    (exc : ServiceError) (hlimited : isRateLimited exc = true) :
    FollowsTo (followupProtocol followupId) (fun p' _ => p'.IsFinal)
      (phaseAt followupId ownId .limited) (followupFailed settings command ownId exc) := by
  rw [followupFailed, if_pos hlimited]
  have hmark : FollowsTo (followupProtocol followupId) (fun p' _ => p'.IsFinal)
      (phaseAt followupId ownId .limited)
      (WorkerOp.markFollowupRetryable ownId (exc.text settings.runtime)).call := by
    apply follows_act rfl (by decide)
    intro r
    exact ⟨.free, rfl, phaseAt_isFinal rfl⟩
  apply hmark.bind
  · intro p' _ hfinal
    exact followup_follows_final (runsWithin_finishWith command _ _ _) hfinal
  · intro _ _ hfinal
    exact hfinal

theorem followup_follows_uncertain (command : ExternalCommandRow) (ownId : Nat)
    (exc : ServiceError) (hlimited : isRateLimited exc = false) :
    FollowsTo (followupProtocol followupId) (fun p' _ => p'.IsFinal)
      (phaseAt followupId ownId .called) (followupFailed settings command ownId exc) := by
  rw [followupFailed, if_neg (by simp [hlimited])]
  have hmark : FollowsTo (followupProtocol followupId) (fun p' _ => p'.IsFinal)
      (phaseAt followupId ownId .called)
      (WorkerOp.markFollowupDeliveryUncertain ownId (exc.text settings.runtime)).call := by
    apply follows_act rfl (by decide)
    intro r
    exact ⟨.called, rfl, phaseAt_isFinal rfl⟩
  apply hmark.bind
  · intro p' _ hfinal
    exact followup_follows_final (runsWithin_finishWith command _ _ _) hfinal
  · intro _ _ hfinal
    exact hfinal

/-- The `except` clause of the delivery. -/
theorem followup_follows_failed (command : ExternalCommandRow) (ownId : Nat) (exc : ServiceError)
    (h : (isRateLimited exc = true ∧ p = phaseAt followupId ownId .limited) ∨
      (isRateLimited exc = false ∧ p = phaseAt followupId ownId .called) ∨
      p = phaseAt followupId ownId .lost) :
    FollowsTo (followupProtocol followupId) (fun p' _ => p'.IsFinal) p
      (followupFailed settings command ownId exc) := by
  rcases h with ⟨hlimited, rfl⟩ | ⟨hlimited, rfl⟩ | rfl
  · exact followup_follows_retryable command ownId exc hlimited
  · exact followup_follows_uncertain command ownId exc hlimited
  · by_cases hown : ownId = followupId
    · rw [phaseAt, if_pos hown]
      exact followup_follows_lost _
    · -- on another follow-up every phase is `free`
      have hfree (p : FollowupPhase) : phaseAt followupId ownId .lost =
          phaseAt followupId ownId p := by
        rw [phaseAt, if_neg hown, phaseAt, if_neg hown]
      cases hlimited : isRateLimited exc with
      | true =>
          rw [hfree .limited]
          exact followup_follows_retryable command ownId exc hlimited
      | false =>
          rw [hfree .called]
          exact followup_follows_uncertain command ownId exc hlimited

/-- Mark the follow-up, send it and finish the command. -/
theorem followup_follows_send (command : ExternalCommandRow) (reservation : Reservation)
    (kind : String) :
    FollowsTo (followupProtocol followupId) (fun p' _ => p'.IsFinal)
      (phaseAt followupId reservation.followup.id .free)
      (sendFollowup settings command reservation kind) := by
  apply (followup_follows_free (neutral_translateUpdate _).within).bind
  · rintro _ translated rfl
    apply (followup_follows_free (neutral_call rfl rfl).within).bind
    · rintro _ now rfl
      have hmark : FollowsTo (followupProtocol followupId)
          (fun p' r => p' = phaseAt followupId reservation.followup.id
            (if r.isOk then .marked else .free))
          (phaseAt followupId reservation.followup.id .free)
          (WorkerOp.markFollowupSending reservation.followup.id).call := by
        apply follows_act rfl (by decide)
        intro r
        exact ⟨if r.isOk then .marked else .free, rfl, rfl⟩
      apply hmark.bind
      · rintro _ _ rfl
        apply (followup_follows_deliver command reservation kind _ now).attempt.bind
        · rintro p' delivered ⟨outcome, houtcome, hp⟩
          cases houtcome
          cases delivered with
          | error exc => exact followup_follows_failed command _ exc hp
          | ok delivery =>
              have hfinal : p'.IsFinal := by
                rcases hp with ⟨hlimited, -⟩ | ⟨-, rfl⟩ | rfl
                · cases hlimited
                · exact phaseAt_isFinal rfl
                · exact phaseAt_isFinal rfl
              have hfinish : RunsWithin command.id none (do
                  emitResult settings (followupResult command reservation kind delivery)
                  (WorkerOp.markSent command.id).call
                  pure (⟨command.id, "SENT", none⟩ : CommandReport)) := by
                apply (neutral_emitResult settings _).within.bind
                intro _
                exact runsWithin_sent command _
              exact followup_follows_final hfinish hfinal
        · rintro _ _ ⟨_, houtcome, -⟩
          cases houtcome
      · rintro _ _ rfl
        exact phaseAt_isFinal rfl
    · rintro _ _ rfl
      exact phaseAt_isFinal rfl
  · rintro _ _ rfl
    exact phaseAt_isFinal rfl

/-- `_process_real_telegram_followup_command`. -/
theorem followup_follows_processFollowup (command : ExternalCommandRow) :
    FollowsTo (followupProtocol followupId) (fun p' _ => p'.IsFinal) .free
      (processFollowupCommand settings command) := by
  have hfree {β : Type} {prog : WorkerProg β}
      (h : prog.All fun op : WorkerOp => op.followupId? ≠ some followupId) :
      FollowsTo (followupProtocol followupId) (fun p' _ => p' = .free) .free prog :=
    followup_follows_other h
  unfold processFollowupCommand
  split
  · exact followup_follows_final (runsWithin_finishWith command _ _ _) rfl
  · have hlift : FollowsTo (followupProtocol followupId) (fun p' _ => p' = .free) .free
        (WorkerProg.lift (followupRequest settings.runtime command)) := by
      apply hfree
      apply (neutral_lift _).mono
      intro op hop hname
      have hnone := hop.2
      rw [delivery_of_followupId hname] at hnone
      cases hnone
    apply hlift.bind
    · rintro _ request rfl
      have hreserve : FollowsTo (followupProtocol followupId) (fun p' _ => p' = .free) .free
          (WorkerOp.reserveFollowup request).call :=
        hfree (Prog.all_perform (by simp [WorkerOp.followupId?]))
      apply hreserve.bind
      · rintro _ reservation rfl
        have hphase : FollowupPhase.free = phaseAt followupId reservation.followup.id .free := by
          rw [phaseAt, ite_self]
        unfold continueFollowup
        split
        · exact followup_follows_final (runsWithin_sent command _) rfl
        · split
          · exact followup_follows_final (runsWithin_sent command _) rfl
          · rw [hphase]
            split
            · have hcancel (reason : String) : FollowsTo (followupProtocol followupId)
                  (fun p' _ => p'.IsFinal) (phaseAt followupId reservation.followup.id .free)
                  (WorkerOp.cancelFollowup reservation.followup.id reason).call := by
                apply follows_act rfl (by decide)
                intro r
                exact ⟨.free, rfl, phaseAt_isFinal rfl⟩
              apply (hcancel _).bind
              · intro p' _ hfinal
                exact followup_follows_final (runsWithin_sent command _) hfinal
              · intro _ _ hfinal
                exact hfinal
            · exact followup_follows_send command reservation _
      · rintro _ _ rfl
        rfl
    · rintro _ _ rfl
      rfl

/-- `_process_one_pending_command` marks, sends and records a follow-up in this order. -/
theorem followup_follows_processOne (command : ExternalCommandRow) :
    Follows (followupProtocol followupId) FollowupPhase.IsFinal .free
      (processOnePendingCommand settings command >>= fun _ => .ret ()) := by
  have hfree {β : Type} {prog : WorkerProg β} (h : RunsWithin command.id none prog) :
      FollowsTo (followupProtocol followupId) (fun p' _ => p' = .free) .free prog :=
    followup_follows_within h (by decide : none ≠ _)
  have hprocess : FollowsTo (followupProtocol followupId) (fun p' _ => p'.IsFinal) .free
      (processOnePendingCommand settings command) := by
    by_cases htype : command.commandType = "telegram.remind_case"
    · have hbody : FollowsTo (followupProtocol followupId) (fun p' _ => p'.IsFinal) .free
          (processCommand settings command) := by
        apply (hfree (neutral_commandBlockedByHumanActive settings command).within).bind
        · rintro _ blocked rfl
          split_ifs
          · exact followup_follows_final (runsWithin_finishWith command _ _ _) rfl
          · exact followup_follows_final (runsWithin_processDryRunCommand settings command) rfl
          · rw [processRealCommand, if_pos htype]
            exact followup_follows_processFollowup command
          · rfl
        · rintro _ _ rfl
          rfl
      apply hbody.tryCatch
      · intro _ _ hfinal
        exact hfinal
      · intro p' exc hfinal
        have hcount : RunsWithin command.id none (do
            (WorkerOp.markProcessingFailed command.id (exc.text settings.runtime)).call
            pure (⟨command.id, "FAILED", some (exc.text settings.runtime)⟩ : CommandReport)) := by
          apply (runsWithin_call (within_own rfl rfl)).bind
          intro _
          trivial
        exact followup_follows_final hcount hfinal
    · have hdelivery : deliveryOf command.commandType ≠ some .followup := by
        rw [deliveryOf, if_neg htype]
        split_ifs <;> simp
      apply (followup_follows_within (runsWithin_processOnePendingCommand settings command)
        hdelivery).mono
      rintro _ _ rfl
      rfl
  apply hprocess.bind
  · intro _ _ hfinal
    exact hfinal
  · intro _ _ hfinal
    exact hfinal

end Follows

/-! ## The rows after an operation -/

section Rows

variable {settings : CommandSettings} {choice : CommandChoice} {w : CommandWorld}
  {followupId : Nat} {P : FollowupStatus → Prop}

/-- The status that an operation stores. -/
def WorkerOp.followupStatus : WorkerOp → FollowupStatus
  | .markFollowupSending _ => .sending
  | .recordFollowupSent _ _ _ => .sent
  | .markFollowupDeliveryUncertain _ _ => .deliveryUncertain
  | .cancelFollowup _ _ => .canceled
  | _ => .reserved

/-- The rows of a follow-up got a status, and nothing else happened to the rows. -/
def FollowupStored (followupId : Nat) (status : FollowupStatus) (db db' : Database) : Prop :=
  ∃ assign : FollowupRow → FollowupRow, (∀ row, (assign row).id = row.id) ∧
    (∀ row, (assign row).status = status) ∧
    db'.telegramCaseFollowups = db.telegramCaseFollowups.map fun row =>
      if row.id = followupId then assign row else row

theorem followupStored_setStatus (db : Database) (followupId : Nat) (status : FollowupStatus)
    (error : String) : FollowupStored followupId status db
      (setFollowupStatus db followupId status error) :=
  ⟨fun row => { row with status, lastError := some (error.take 2000).toString },
    fun _ => rfl, fun _ => rfl, rfl⟩

theorem followupStored_sending {db db' : Database}
    (h : markFollowupSending db followupId = .ok db') :
    FollowupStored followupId .sending db db' ∧
      ∃ row ∈ db.telegramCaseFollowups, row.id = followupId := by
  unfold markFollowupSending at h
  split at h
  · cases h
  · next followup hfound =>
    cases h
    refine ⟨⟨fun row => { row with status := .sending, lastError := none }, fun _ => rfl,
      fun _ => rfl, rfl⟩, followup, List.mem_of_find?_eq_some hfound, ?_⟩
    simpa using List.find?_some hfound

theorem followupStored_sent {db db' : Database} {telegramMessageId : Int}
    {attachmentMessageIds : List Int} {customerUpdateEn : String}
    (h : recordFollowupSent db followupId telegramMessageId attachmentMessageIds
      customerUpdateEn = .ok db') : FollowupStored followupId .sent db db' := by
  unfold recordFollowupSent at h
  split at h
  · cases h
  · split at h
    · cases h
    · cases h
      refine ⟨fun row => { row with
        status := .sent
        telegramMessageId := some telegramMessageId
        customerUpdateEn := some customerUpdateEn
        lastError := none }, fun _ => rfl, fun _ => rfl, ?_⟩
      refine (foldl_frame (f := Database.telegramCaseFollowups) (fun db messageId => ?_) _ _).trans
        rfl
      rfl

theorem FollowupStored.ids {status : FollowupStatus} {db db' : Database}
    (h : FollowupStored followupId status db db') (hids : db.FollowupIds) : db'.FollowupIds := by
  obtain ⟨assign, hid, -, hrows⟩ := h
  unfold Database.FollowupIds
  rw [hrows, List.length_map]
  intro row hmem
  obtain ⟨old, hold, rfl⟩ := List.mem_map.mp hmem
  have hle := hids old hold
  split
  · rw [hid]
    exact hle
  · exact hle

/-- The stored status. -/
theorem FollowupStored.self {status : FollowupStatus} {db db' : Database}
    (h : FollowupStored followupId status db db')
    (hexists : ∃ row ∈ db.telegramCaseFollowups, row.id = followupId) (hP : P status) :
    db'.FollowupIs followupId P := by
  obtain ⟨assign, hid, hstatus, hrows⟩ := h
  unfold Database.FollowupIs
  rw [hrows]
  constructor
  · obtain ⟨row, hmem, hrow⟩ := hexists
    refine ⟨_, List.mem_map_of_mem hmem, ?_⟩
    rw [if_pos hrow, hid]
    exact hrow
  · intro row hmem hrow
    obtain ⟨old, hold, rfl⟩ := List.mem_map.mp hmem
    by_cases hown : old.id = followupId
    · rw [if_pos hown, hstatus]
      exact hP
    · rw [if_neg hown] at hrow
      exact absurd hrow hown

/-- The status of another follow-up. -/
theorem FollowupStored.other {status : FollowupStatus} {db db' : Database} {storedId : Nat}
    (h : FollowupStored storedId status db db') (hne : storedId ≠ followupId)
    (hrows : db.FollowupIs followupId P) : db'.FollowupIs followupId P := by
  obtain ⟨assign, hid, -, heq⟩ := h
  unfold Database.FollowupIs
  rw [heq]
  constructor
  · obtain ⟨row, hmem, hrow⟩ := hrows.1
    refine ⟨_, List.mem_map_of_mem hmem, ?_⟩
    rw [if_neg fun hstored => hne (hstored.symm.trans hrow)]
    exact hrow
  · intro row hmem hrow
    obtain ⟨old, hold, rfl⟩ := List.mem_map.mp hmem
    by_cases hown : old.id = storedId
    · rw [if_pos hown, hid] at hrow
      exact absurd (hown.symm.trans hrow) hne
    · rw [if_neg hown] at hrow ⊢
      exact hrows.2 old hold hrow

/-- A reservation keeps the rows and may append one with a new id. -/
theorem reserveFollowup_rows {db db' : Database} {request : FollowupRequest}
    {reservation : Reservation} (h : reserveFollowup db request = .ok (db', reservation)) :
    db'.telegramCaseFollowups = db.telegramCaseFollowups ∨
      ∃ row : FollowupRow, row.id = db.telegramCaseFollowups.length + 1 ∧
        db'.telegramCaseFollowups = db.telegramCaseFollowups ++ [row] := by
  unfold reserveFollowup at h
  split at h
  · cases h
  · split at h
    · cases h
    · split at h
      · cases h
        exact Or.inl rfl
      · cases h
        exact Or.inr ⟨_, rfl, rfl⟩

/-- The follow-ups are the same. -/
def SameFollowups (w w' : CommandWorld) : Prop :=
  w'.db.telegramCaseFollowups = w.db.telegramCaseFollowups

/-- What an operation on a follow-up does to the rows. -/
theorem handle_stored {op : WorkerOp} {storedId : Nat} (hop : op.followupId? = some storedId) :
    SameFollowups w (handleWorkerOp settings op choice w).2 ∨
      FollowupStored storedId op.followupStatus w.db (handleWorkerOp settings op choice w).2.db := by
  have hexecute {db : Database} {status : FollowupStatus}
      (h : FollowupStored storedId status w.db db) :
      SameFollowups w (choice.execute w db).2 ∨
        FollowupStored storedId status w.db (choice.execute w db).2.db :=
    execute_induction (motive := fun w' : CommandWorld =>
      SameFollowups w w' ∨ FollowupStored storedId status w.db w'.db) (Or.inl rfl) (Or.inr h)
  have hraise {db : Except PyError Database} {status : FollowupStatus}
      (h : ∀ db', db = .ok db' → FollowupStored storedId status w.db db') :
      SameFollowups w (choice.executeOrRaise w db).2 ∨
        FollowupStored storedId status w.db (choice.executeOrRaise w db).2.db :=
    executeOrRaise_induction (motive := fun w' : CommandWorld =>
      SameFollowups w w' ∨ FollowupStored storedId status w.db w'.db) (Or.inl rfl)
      fun db' hdb' => Or.inr (h db' hdb')
  cases op with
  | markFollowupSending named =>
      cases hop
      exact hraise fun db' hdb' => (followupStored_sending hdb').1
  | sendCaseFollowup => exact Or.inl rfl
  | recordFollowupSent named =>
      cases hop
      exact hraise fun db' hdb' => followupStored_sent hdb'
  | markFollowupDeliveryUncertain named =>
      cases hop
      exact hexecute (followupStored_setStatus w.db _ _ _)
  | markFollowupRetryable named =>
      cases hop
      exact hexecute (followupStored_setStatus w.db _ _ _)
  | cancelFollowup named =>
      cases hop
      exact hexecute (followupStored_setStatus w.db _ _ _)
  | _ => cases hop

/-- The other operations reserve follow-ups at most. -/
theorem handle_unnamed {op : WorkerOp} (hop : op.followupId? = none) :
    SameFollowups w (handleWorkerOp settings op choice w).2 ∨
      ∃ row : FollowupRow, row.id = w.db.telegramCaseFollowups.length + 1 ∧
        (handleWorkerOp settings op choice w).2.db.telegramCaseFollowups =
          w.db.telegramCaseFollowups ++ [row] := by
  have hread {α : Type} (r : Except ServiceError α) :
      SameFollowups w (faulty choice.dbFault w (r, w)).2 :=
    faulty_induction (motive := SameFollowups w) rfl rfl
  have hexecute {db : Database} (h : db.telegramCaseFollowups = w.db.telegramCaseFollowups) :
      SameFollowups w (choice.execute w db).2 :=
    execute_induction (motive := SameFollowups w) rfl h
  cases op with
  | reserveFollowup request =>
      dsimp only [handleWorkerOp]
      split
      · next db reservation hreserve =>
        exact faulty_induction (motive := fun w' : CommandWorld => SameFollowups w w' ∨
          ∃ row : FollowupRow, row.id = w.db.telegramCaseFollowups.length + 1 ∧
            w'.db.telegramCaseFollowups = w.db.telegramCaseFollowups ++ [row]) (Or.inl rfl)
          (reserveFollowup_rows hreserve)
      · exact Or.inl rfl
  | conversationStatus => exact Or.inl (hread _)
  | fetchHandoffAck => exact Or.inl (hread _)
  | commandStatus => exact Or.inl (hread _)
  | recordHandoffFailure conversationId failure =>
      left
      apply hexecute
      unfold recordHandoffFailure
      split
      · rfl
      · split
        · rfl
        · rfl
  | insertResult result => exact Or.inl (faulty_induction (motive := SameFollowups w) rfl rfl)
  | sendMessage message =>
      left
      dsimp only [handleWorkerOp, CommandWorld.called]
      split
      · split
        · rfl
        · rfl
      · rfl
  | updateWorkflowState => exact Or.inl (hexecute rfl)
  | releaseLease => exact Or.inl (hexecute rfl)
  | mergePayload => exact Or.inl (hexecute rfl)
  | markSent => exact Or.inl (hexecute rfl)
  | markDryRunDone => exact Or.inl (hexecute rfl)
  | markStatus => exact Or.inl (hexecute rfl)
  | markProcessingFailed => exact Or.inl (hexecute rfl)
  | transferChatToGroup => exact Or.inl rfl
  | utcNow => exact Or.inl rfl
  | translate => exact Or.inl rfl
  | sendPhoto => exact Or.inl rfl
  | editMessageText => exact Or.inl rfl
  | executeBackendQuery => exact Or.inl rfl
  | lookupPendingReply => exact Or.inl rfl
  | markFollowupSending => cases hop
  | sendCaseFollowup => cases hop
  | recordFollowupSent => cases hop
  | markFollowupDeliveryUncertain => cases hop
  | markFollowupRetryable => cases hop
  | cancelFollowup => cases hop

theorem followupIs_append {db db' : Database} {row : FollowupRow} (hids : db.FollowupIds)
    (hid : row.id = db.telegramCaseFollowups.length + 1)
    (heq : db'.telegramCaseFollowups = db.telegramCaseFollowups ++ [row])
    (h : db.FollowupIs followupId P) : db'.FollowupIs followupId P := by
  obtain ⟨⟨old, hold, hown⟩, hall⟩ := h
  have hlt : followupId ≤ db.telegramCaseFollowups.length := hown ▸ hids old hold
  unfold Database.FollowupIs
  rw [heq]
  constructor
  · exact ⟨old, List.mem_append_left _ hold, hown⟩
  · intro other hmem hother
    rcases List.mem_append.mp hmem with hmem | hmem
    · exact hall other hmem hother
    · rw [List.mem_singleton] at hmem
      subst hmem
      omega

theorem followupIds_append {db db' : Database} {row : FollowupRow} (hids : db.FollowupIds)
    (hid : row.id = db.telegramCaseFollowups.length + 1)
    (heq : db'.telegramCaseFollowups = db.telegramCaseFollowups ++ [row]) : db'.FollowupIds := by
  unfold Database.FollowupIds
  rw [heq, List.length_append, List.length_singleton]
  intro other hmem
  rcases List.mem_append.mp hmem with hmem | hmem
  · have hle := hids other hmem
    omega
  · rw [List.mem_singleton] at hmem
    subst hmem
    omega

/-- The ids keep counting the rows. -/
theorem handle_followupIds (op : WorkerOp) (hids : w.db.FollowupIds) :
    (handleWorkerOp settings op choice w).2.db.FollowupIds := by
  have hsame (h : SameFollowups w (handleWorkerOp settings op choice w).2) :
      (handleWorkerOp settings op choice w).2.db.FollowupIds := by
    unfold Database.FollowupIds
    rw [h]
    exact hids
  cases hop : op.followupId? with
  | none =>
      rcases @handle_unnamed settings choice w op hop with h | ⟨row, hid, heq⟩
      · exact hsame h
      · exact followupIds_append hids hid heq
  | some storedId =>
      rcases @handle_stored settings choice w op storedId hop with h | h
      · exact hsame h
      · exact h.ids hids

theorem followupIs_same {w' : CommandWorld} (h : SameFollowups w w')
    (hrows : w.db.FollowupIs followupId P) : w'.db.FollowupIs followupId P := by
  unfold Database.FollowupIs
  rw [h]
  exact hrows

/-- An operation on something else. -/
theorem handle_followupIs_other {op : WorkerOp} (hop : op.followupId? ≠ some followupId)
    (hids : w.db.FollowupIds) (h : w.db.FollowupIs followupId P) :
    (handleWorkerOp settings op choice w).2.db.FollowupIs followupId P := by
  cases hnamed : op.followupId? with
  | none =>
      rcases @handle_unnamed settings choice w op hnamed with hsame | ⟨row, hid, heq⟩
      · exact followupIs_same hsame h
      · exact followupIs_append hids hid heq h
  | some storedId =>
      rcases @handle_stored settings choice w op storedId hnamed with hsame | hstored
      · exact followupIs_same hsame h
      · exact hstored.other (fun heq => hop (heq ▸ hnamed)) h

/-- An operation on the follow-up whose status has the property. -/
theorem handle_followupIs_own {op : WorkerOp} (hop : op.followupId? = some followupId)
    (h : w.db.FollowupIs followupId P) (hP : P op.followupStatus) :
    (handleWorkerOp settings op choice w).2.db.FollowupIs followupId P := by
  rcases @handle_stored settings choice w op followupId hop with hsame | hstored
  · exact followupIs_same hsame h
  · exact hstored.self h.1 hP

/-- The calls after an operation that does not send the follow-up. -/
theorem followupsOf_handle {op : WorkerOp}
    (hop : ∀ card rootMessageId, op ≠ .sendCaseFollowup followupId card rootMessageId) :
    (handleWorkerOp settings op choice w).2.followupsOf followupId = w.followupsOf followupId := by
  cases hdelivery : op.isDelivery with
  | false =>
      have hsame : SameCalls w (handleWorkerOp settings op choice w).2 := handle_calls hdelivery
      rw [CommandWorld.followupsOf, hsame.followups, CommandWorld.followupsOf]
  | true =>
      cases op with
      | sendCaseFollowup named card rootMessageId =>
          have hne : named ≠ followupId := fun heq => hop card rootMessageId (heq ▸ rfl)
          unfold CommandWorld.followupsOf
          dsimp only [handleWorkerOp, CommandWorld.called]
          rw [List.filter_cons_of_neg (by simpa using hne)]
      | sendMessage message =>
          dsimp only [handleWorkerOp, CommandWorld.called]
          split
          · split
            · rfl
            · rfl
          · rfl
      | transferChatToGroup => rfl
      | _ => cases hdelivery

end Rows

/-! ## The invariant -/

section Invariant

variable {settings : CommandSettings} {choice : CommandChoice} {w : CommandWorld}
  {followupId : Nat} {T : Type} [DecidableEq T] {phases : T → FollowupPhase} {t : T}
  {p : FollowupPhase}

omit [DecidableEq T] in
/-- The calls, the ids and the status of the follow-up decide the invariant. -/
theorem FollowupInvariant.congr {w' : CommandWorld} (h : FollowupInvariant followupId w phases)
    (hcalls : w'.followupsOf followupId = w.followupsOf followupId) (hids : w'.db.FollowupIds)
    (hrows : ∀ P, w.db.FollowupIs followupId P → w'.db.FollowupIs followupId P) :
    FollowupInvariant followupId w' phases := by
  refine ⟨?_, hids, h.unique, fun t ht => hrows _ (h.sending t ht), ?_, ?_, h.kept⟩
  · rw [CommandWorld.DeliveredOnce, hcalls]
    exact h.once
  · rw [hcalls]
    intro hsettled
    exact ⟨hrows _ (h.settled hsettled).1, (h.settled hsettled).2⟩
  · rw [hcalls]
    exact h.called

/-- A worker that no longer relies on the status. -/
theorem FollowupInvariant.leave {w' : CommandWorld} (h : FollowupInvariant followupId w phases)
    (hcalls : w'.followupsOf followupId = w.followupsOf followupId) (hids : w'.db.FollowupIds)
    (hp : p.isUnderway = false) (hlost : p ≠ .lost)
    (hcalled : p = .called → false ∈ w.followupsOf followupId)
    (hothers : ∀ t', t' ≠ t → (phases t').isUnderway = true →
      w'.db.FollowupIs followupId fun status => status = .sending)
    (hsettled : false ∈ w.followupsOf followupId →
      w'.db.FollowupIs followupId fun status => status.isUnderway = true) :
    FollowupInvariant followupId w' (Function.update phases t p) := by
  have hunderway (t' : T) (ht' : (Function.update phases t p t').isUnderway = true) :
      t' ≠ t ∧ (phases t').isUnderway = true := by
    by_cases heq : t' = t
    · subst heq
      rw [Function.update_self, hp] at ht'
      cases ht'
    · rw [Function.update_of_ne heq] at ht'
      exact ⟨heq, ht'⟩
  refine ⟨?_, hids, ?_, ?_, ?_, ?_, ?_⟩
  · rw [CommandWorld.DeliveredOnce, hcalls]
    exact h.once
  · intro t₁ t₂ h₁ h₂
    exact h.unique t₁ t₂ (hunderway t₁ h₁).2 (hunderway t₂ h₂).2
  · intro t' ht'
    exact hothers t' (hunderway t' ht').1 (hunderway t' ht').2
  · rw [hcalls]
    intro hlog
    refine ⟨hsettled hlog, ?_⟩
    intro t'
    by_contra ht'
    have hold := (hunderway t' (by simpa using ht')).2
    rw [(h.settled hlog).2 t'] at hold
    cases hold
  · rw [hcalls]
    intro t' ht'
    by_cases heq : t' = t
    · subst heq
      rw [Function.update_self] at ht'
      exact hcalled ht'
    · rw [Function.update_of_ne heq] at ht'
      exact h.called t' ht'
  · intro t' ht'
    by_cases heq : t' = t
    · subst heq
      rw [Function.update_self] at ht'
      exact hlost ht'
    · rw [Function.update_of_ne heq] at ht'
      exact h.kept t' ht'

/-- A worker that is the only one to rely on the status. -/
theorem FollowupInvariant.enter {w' : CommandWorld} (h : FollowupInvariant followupId w phases)
    (hcalls : ∃ rejected, w'.followupsOf followupId = rejected ++ w.followupsOf followupId ∧
      ∀ call ∈ rejected, call = true) (hids : w'.db.FollowupIds)
    (hp : p.isUnderway = true)
    (hothers : ∀ t', t' ≠ t → (phases t').isUnderway = false)
    (hrows : w'.db.FollowupIs followupId fun status => status = .sending)
    (hopen : false ∉ w.followupsOf followupId) :
    FollowupInvariant followupId w' (Function.update phases t p) := by
  obtain ⟨rejected, hlog, hrejected⟩ := hcalls
  have hall : ∀ call ∈ w'.followupsOf followupId, call = true := by
    rw [hlog]
    intro call hmem
    rcases List.mem_append.mp hmem with hmem | hmem
    · exact hrejected call hmem
    · cases call with
      | true => rfl
      | false => exact absurd hmem hopen
  have hopen' : false ∉ w'.followupsOf followupId := fun hmem => by cases hall _ hmem
  have honly (t' : T) (ht' : (Function.update phases t p t').isUnderway = true) : t' = t := by
    by_contra heq
    rw [Function.update_of_ne heq, hothers t' heq] at ht'
    cases ht'
  refine ⟨?_, hids, ?_, fun _ _ => hrows, fun hmem => absurd hmem hopen', ?_, ?_⟩
  · exact List.pairwise_of_forall_mem_list fun _ _ older hmem => hall older hmem
  · intro t₁ t₂ h₁ h₂
    exact (honly t₁ h₁).trans (honly t₂ h₂).symm
  · intro t' ht'
    by_cases heq : t' = t
    · subst heq
      rw [Function.update_self] at ht'
      rw [ht'] at hp
      cases hp
    · rw [Function.update_of_ne heq] at ht'
      exact absurd (h.called t' ht') hopen
  · intro t' ht'
    by_cases heq : t' = t
    · subst heq
      rw [Function.update_self] at ht'
      rw [ht'] at hp
      cases hp
    · rw [Function.update_of_ne heq] at ht'
      exact h.kept t' ht'

omit [DecidableEq T] in
/-- While the status is free nobody relies on it, and no call was accepted. -/
theorem FollowupInvariant.free_of_claim (h : FollowupInvariant followupId w phases)
    (hfree : ∀ row ∈ w.db.telegramCaseFollowups, row.id = followupId →
      row.status.isUnderway = false) :
    (∀ t, (phases t).isUnderway = false) ∧ false ∉ w.followupsOf followupId := by
  constructor
  · intro t
    by_contra ht
    obtain ⟨⟨row, hmem, hrow⟩, hall⟩ := h.sending t (by simpa using ht)
    have hnot := hfree row hmem hrow
    rw [hall row hmem hrow] at hnot
    cases hnot
  · intro hlog
    obtain ⟨⟨row, hmem, hrow⟩, hall⟩ := (h.settled hlog).1
    have hnot := hfree row hmem hrow
    rw [hall row hmem hrow] at hnot
    cases hnot

/-- Marking the follow-up. -/
theorem FollowupInvariant.mark (h : FollowupInvariant followupId w phases)
    (hcond : ClaimsFree followupId w (.markFollowupSending followupId) choice) :
    FollowupInvariant followupId
      (handleWorkerOp settings (.markFollowupSending followupId) choice w).2
      (Function.update phases t (if (handleWorkerOp settings (.markFollowupSending followupId)
        choice w).1.isOk then .marked else .free)) := by
  obtain ⟨hnobody, hopen⟩ := h.free_of_claim (hcond rfl)
  have hcalls : (handleWorkerOp settings (.markFollowupSending followupId) choice w).2.followupsOf
      followupId = w.followupsOf followupId :=
    followupsOf_handle fun _ _ => by simp
  have hids := @handle_followupIds settings choice w (.markFollowupSending followupId) h.ids
  split_ifs with hok
  · refine h.enter ⟨[], hcalls, fun _ hmem => by cases hmem⟩ hids rfl (fun t' _ => hnobody t') ?_
      hopen
    dsimp only [handleWorkerOp, CommandChoice.executeOrRaise] at hok ⊢
    cases hmark : markFollowupSending w.db followupId with
    | error e =>
        rw [hmark] at hok
        cases hok
    | ok db =>
        rw [hmark] at hok
        dsimp only at hok ⊢
        obtain ⟨hstored, hexists⟩ := followupStored_sending hmark
        cases hr : (choice.execute w db).1 with
        | error e =>
            rw [hr] at hok
            cases hok
        | ok a =>
            rw [execute_ok hr]
            exact hstored.self hexists rfl
  · refine h.leave hcalls hids rfl (by decide) ?_ ?_ ?_
    · intro heq
      cases heq
    · intro t' _ ht'
      rw [hnobody t'] at ht'
      cases ht'
    · intro hlog
      exact absurd hlog hopen

/-- The only worker that relies on the status calls Telegram. -/
theorem FollowupInvariant.send {card : TelegramCard} {rootMessageId : Int}
    (h : FollowupInvariant followupId w phases) (hmarked : phases t = .marked) (rejected : Bool)
    (hr : isRateLimitedCall (handleWorkerOp settings
      (.sendCaseFollowup followupId card rootMessageId) choice w).1 = rejected) :
    FollowupInvariant followupId
      (handleWorkerOp settings (.sendCaseFollowup followupId card rootMessageId) choice w).2
      (Function.update phases t (if rejected then .limited else .called)) := by
  have hunderway : (phases t).isUnderway = true := by rw [hmarked]; rfl
  have hopen : false ∉ w.followupsOf followupId := by
    intro hlog
    have hnot := (h.settled hlog).2 t
    rw [hunderway] at hnot
    cases hnot
  have hothers (t' : T) (ht' : t' ≠ t) : (phases t').isUnderway = false := by
    by_contra hother
    exact ht' (h.unique t' t (by simpa using hother) hunderway)
  have hrows := h.sending t hunderway
  have hlog : (handleWorkerOp settings (.sendCaseFollowup followupId card rootMessageId) choice
      w).2.followupsOf followupId = rejected :: w.followupsOf followupId := by
    unfold CommandWorld.followupsOf
    dsimp only [handleWorkerOp, CommandWorld.called] at hr ⊢
    rw [List.filter_cons_of_pos (by simp), List.map_cons, hr]
  cases rejected with
  | true =>
      refine h.enter ⟨[true], hlog, ?_⟩ h.ids rfl hothers hrows hopen
      intro call hmem
      exact List.mem_singleton.mp hmem
  | false =>
      have hquiet (t' : T) : (Function.update phases t FollowupPhase.called t').isUnderway =
          false := by
        by_cases heq : t' = t
        · subst heq
          rw [Function.update_self]
          rfl
        · rw [Function.update_of_ne heq]
          exact hothers t' heq
      have hmem : false ∈ (handleWorkerOp settings
          (.sendCaseFollowup followupId card rootMessageId) choice w).2.followupsOf
            followupId := by
        rw [hlog]
        exact List.mem_cons_self
      refine ⟨?_, h.ids, ?_, ?_, ?_, fun _ _ => hmem, ?_⟩
      · rw [CommandWorld.DeliveredOnce, hlog, List.pairwise_cons]
        refine ⟨?_, h.once⟩
        intro older holder
        cases older with
        | true => rfl
        | false => exact absurd holder hopen
      · intro t₁ _ h₁
        change (Function.update phases t FollowupPhase.called t₁).isUnderway = true at h₁
        rw [hquiet t₁] at h₁
        cases h₁
      · intro t' ht'
        change (Function.update phases t FollowupPhase.called t').isUnderway = true at ht'
        rw [hquiet t'] at ht'
        cases ht'
      · intro _
        refine ⟨⟨hrows.1, ?_⟩, hquiet⟩
        intro row hrow hown
        rw [hrows.2 row hrow hown]
        rfl
      · intro t' ht'
        change Function.update phases t FollowupPhase.called t' = .lost at ht'
        by_cases heq : t' = t
        · subst heq
          rw [Function.update_self] at ht'
          cases ht'
        · rw [Function.update_of_ne heq] at ht'
          exact h.kept t' ht'

/-- The record of an outcome while nobody relies on the status. -/
theorem FollowupInvariant.record {op : WorkerOp} (h : FollowupInvariant followupId w phases)
    (hop : op.followupId? = some followupId)
    (hsend : ∀ card rootMessageId, op ≠ .sendCaseFollowup followupId card rootMessageId)
    (hcalled : phases t = .called) (hstatus : op.followupStatus.isUnderway = true) :
    FollowupInvariant followupId (handleWorkerOp settings op choice w).2
      (Function.update phases t .called) := by
  have hsettled := h.settled (h.called t hcalled)
  refine h.leave (followupsOf_handle hsend) (handle_followupIds op h.ids) rfl (by decide)
    (fun _ => h.called t hcalled) ?_ ?_
  · intro t' _ ht'
    rw [hsettled.2 t'] at ht'
    cases ht'
  · exact fun _ => handle_followupIs_own hop hsettled.1 hstatus

/-- A statement of the database does not answer with a `429`. -/
theorem executeOrRaise_not_limited (db : Except PyError Database) :
    isRateLimitedCall (choice.executeOrRaise w db).1 = false := by
  unfold CommandChoice.executeOrRaise CommandChoice.execute CommandChoice.dbFault faulty
  cases db with
  | error e => rfl
  | ok db =>
      generalize choice.fault = fault
      cases fault with
      | none => rfl
      | some fault => rfl

/-- What an operation on the follow-up leaves of the invariant. -/
theorem FollowupInvariant.own {op : WorkerOp} (h : FollowupInvariant followupId w phases)
    (hcond : ClaimsFree followupId w op choice) (hop : op.followupId? = some followupId)
    (hact : (phases t).act op (handleWorkerOp settings op choice w).1 = some p) :
    FollowupInvariant followupId (handleWorkerOp settings op choice w).2
      (Function.update phases t p) := by
  cases op with
  | markFollowupSending named =>
      cases hop
      simp only [FollowupPhase.act] at hact
      by_cases hfree : phases t = .free
      · rw [if_pos hfree] at hact
        cases hact
        exact h.mark hcond
      · rw [if_neg hfree] at hact
        cases hact
  | sendCaseFollowup named card rootMessageId =>
      cases hop
      simp only [FollowupPhase.act] at hact
      by_cases hmarked : phases t = .marked
      · rw [if_pos hmarked] at hact
        cases hact
        exact h.send hmarked _ rfl
      · rw [if_neg hmarked] at hact
        cases hact
  | markFollowupRetryable named error =>
      cases hop
      simp only [FollowupPhase.act] at hact
      split_ifs at hact with hlimited
      cases hact
      have hunderway : (phases t).isUnderway = true := by rw [hlimited]; rfl
      refine h.leave (followupsOf_handle fun _ _ => by simp) (handle_followupIds _ h.ids) rfl
        (by decide) ?_ ?_ ?_
      · intro heq
        cases heq
      · intro t' hne ht'
        exact absurd (h.unique t' t ht' hunderway) hne
      · intro hlog
        have hnot := (h.settled hlog).2 t
        rw [hunderway] at hnot
        cases hnot
  | recordFollowupSent named delivery customerUpdateEn =>
      cases hop
      simp only [FollowupPhase.act] at hact
      split_ifs at hact with hcalled hlimited
      · have hnot : isRateLimitedCall (handleWorkerOp settings
            (.recordFollowupSent followupId delivery customerUpdateEn) choice w).1 = false :=
          executeOrRaise_not_limited _
        rw [hnot] at hlimited
        cases hlimited
      · cases hact
        exact h.record rfl (fun _ _ => by simp) hcalled rfl
  | markFollowupDeliveryUncertain named error =>
      cases hop
      simp only [FollowupPhase.act] at hact
      split_ifs at hact with hcalled
      cases hact
      exact h.record rfl (fun _ _ => by simp) hcalled rfl
  | cancelFollowup named reason =>
      cases hop
      simp only [FollowupPhase.act] at hact
      split_ifs at hact with hfree
      cases hact
      obtain ⟨hnobody, hopen⟩ := h.free_of_claim (hcond rfl)
      refine h.leave (followupsOf_handle fun _ _ => by simp) (handle_followupIds _ h.ids) rfl
        (by decide) ?_ ?_ ?_
      · intro heq
        cases heq
      · intro t' _ ht'
        rw [hnobody t'] at ht'
        cases ht'
      · exact fun hlog => absurd hlog hopen
  | _ => cases hop

/-- The events leave the follow-ups and the calls. -/
theorem followups_after (event : CommandEvent) : SameFollowups w (w.after event) := by
  cases event with
  | elapse => rfl
  | recoverExpiredLeases => rfl
  | updateCaseStatus => rfl
  | takeover event =>
      change (markHumanActiveOnConnection w.db event).telegramCaseFollowups = _
      have hinserted (conversationId chatId : String) (threadId : Option String)
          (stored : Option String → Option String) :
          (w.db.insertConversation conversationId chatId threadId stored).telegramCaseFollowups =
            w.db.telegramCaseFollowups := by
        unfold Database.insertConversation
        split
        · rfl
        · rfl
      exact hinserted _ _ _ _

omit [DecidableEq T] in
/-- A world with the same follow-ups and the same calls. -/
theorem FollowupInvariant.same {w' : CommandWorld} (h : FollowupInvariant followupId w phases)
    (hcalls : SameCalls w w') (hrows : SameFollowups w w') :
    FollowupInvariant followupId w' phases := by
  apply h.congr
  · rw [CommandWorld.followupsOf, hcalls.followups, CommandWorld.followupsOf]
  · unfold Database.FollowupIds
    rw [hrows]
    exact h.ids
  · exact fun P hP => followupIs_same hrows hP

theorem isInvariant_followup (settings : CommandSettings) (followupId : Nat) (T : Type)
    [DecidableEq T] :
    @IsInvariant workerOps (commandMachine settings) T _ FollowupPhase
      (followupProtocol followupId) FollowupPhase.IsFinal (ClaimsFree followupId)
      (FollowupInvariant followupId) where
  act {w phases t op choice p} hw hcond hnext := by
    rcases hnext with ⟨hlost, -⟩ | ⟨-, hnext⟩
    · exact absurd hlost (hw.kept t)
    · by_cases hop : WorkerOp.followupId? op = some followupId
      · rw [if_pos hop] at hnext
        exact hw.own hcond hop hnext
      · rw [if_neg hop] at hnext
        cases hnext
        rw [Function.update_eq_self]
        refine hw.congr (followupsOf_handle ?_) (handle_followupIds op hw.ids)
          fun P hP => handle_followupIs_other hop hw.ids hP
        rintro card rootMessageId rfl
        exact hop rfl
  env event hw := hw.same (sameCalls_after event) (followups_after event)
  spawn {w phases} t {job prog w'} hw hfinal hstart := by
    obtain ⟨stored, -, -, -, rfl, hdb, hcalls⟩ := commandMachine_start hstart
    refine ⟨.free, followup_follows_processOne _, ?_⟩
    have hrows : SameFollowups w w' := by
      change (CommandWorld.db w').telegramCaseFollowups = _
      rw [hdb]
      rfl
    have hw' : FollowupInvariant followupId w' phases := hw.same hcalls hrows
    refine hw'.leave rfl hw'.ids rfl (by decide) ?_ ?_ ?_
    · intro heq
      cases heq
    · exact fun t' _ ht' => hw'.sending t' ht'
    · exact fun hlog => (hw'.settled hlog).1

end Invariant

/-! ## Runs -/

/-- The workers are idle and no follow-up has been called. -/
theorem followupInvariant_start {T : Type} {followupId : Nat} {db : Database}
    (hdb : db.FollowupIds) :
    FollowupInvariant followupId ⟨db, [], [], []⟩ fun _ : T => .free where
  once := List.Pairwise.nil
  ids := hdb
  unique _ _ ht _ := nomatch ht
  sending _ ht := nomatch ht
  settled hmem := nomatch hmem
  called _ ht := nomatch ht
  kept _ ht := nomatch ht

/-- The command of a follow-up. -/
def remindCommand : ExternalCommandRow :=
  pendingCommand 1 "telegram.remind_case" (.ofList [
    ("telegram_case_id", .int 5), ("raw_user_input", .str "any news?")])

/-- The case that the customer asks about. -/
def remindedCase : TelegramCaseRow where
  id := 5
  tenantId := "default"
  conversationId := "livechat:C1:T0"
  currentConversationId := none
  chatId := "C1"
  threadId := some "T0"
  currentThreadId := none
  inboundEventId := none
  externalCommandId := 9
  intent := some "deposit"
  activeWorkflow := none
  telegramChatId := "-100"
  telegramMessageThreadId := none
  rootMessageId := 11
  status := "under_review"

def remindDatabase : Database :=
  { databaseWith remindCommand with telegramCases := [remindedCase] }

abbrev RemindLabel := Label (commandMachine .plain) Bool

/-- A worker leases the command. -/
def leaseRemind (thread : Bool) : RemindLabel := .spawn thread ⟨1, "worker", 60⟩

/-- A worker takes steps while nothing fails. -/
def remindSteps (thread : Bool) (count : Nat) : List RemindLabel :=
  List.replicate count (.act thread .good)

/-- The lease of the first holder expires after it has read the reservation. -/
def expiredHolder : List RemindLabel :=
  leaseRemind false :: remindSteps false 1 ++ .env (.elapse (seconds 61)) :: leaseRemind true ::
    remindSteps true 1 ++ remindSteps false 4 ++ remindSteps true 4

/-- The `429` of Telegram. -/
def rejectedCall : CommandChoice :=
  .serviceError (.telegramApi "Too Many Requests" (some 429) (some 429) none true)

/-- The first call is rejected, and the command is leased again. -/
def rejectedFollowup : List RemindLabel :=
  leaseRemind false :: remindSteps false 4 ++ .act false rejectedCall :: remindSteps false 3 ++
    leaseRemind true :: remindSteps true 5

end AiCustomerService
