import AiCustomerService.Workers.SenderRuns

/-!
# Finished rows of the outbound queue

A row that has been sent, skipped or given up is not looked at again, provided that nobody
sets its status back.  One statement does: `mark_failed` with a retryable status, which is
keyed by the id, so that a holder whose lease has expired opens a row that another worker or
a takeover has finished.
-/

namespace AiCustomerService

open Support Support.Machine

variable {settings : SenderSettings} {T : Type} [DecidableEq T]

instance (db : Database) (outboundMessageId : Nat) :
    Decidable (db.outboundFinished outboundMessageId) :=
  inferInstanceAs (Decidable (∃ row ∈ db.outboundMessages.rows, _ ∧ _))

/-- The row that an operation leaves open, whatever its status was. -/
def SenderOp.reopens? : SenderOp → Option Nat
  | .markFailed outboundMessageId status _ _ =>
      if status.isOpen then some outboundMessageId else none
  | _ => none

/-- The statement is executed. -/
def SenderChoice.takesEffect (choice : SenderChoice) : Bool :=
  match choice.fault with
  | none => true
  | some fault => fault.applied

/-- An operation that leaves a row open finds it unfinished. -/
def FailsOpenRows (w : SenderWorld) (op : SenderOp) (choice : SenderChoice) : Prop :=
  ∀ outboundMessageId ∈ op.reopens?, choice.takesEffect = true →
    ¬w.db.outboundFinished outboundMessageId

instance (w : SenderWorld) (op : SenderOp) (choice : SenderChoice) :
    Decidable (FailsOpenRows w op choice) :=
  inferInstanceAs (Decidable (∀ _ ∈ op.reopens?, _ → _))

/-- The row is finished where the run has come to. -/
def RowFinished (outboundMessageId : Nat) (c : Config (senderMachine settings) T) : Prop :=
  c.world.db.outboundFinished outboundMessageId

/-! ## Operations -/

theorem execute_effect (choice : SenderChoice) (w : SenderWorld) (db : Database) :
    (choice.execute w db).2 = if choice.takesEffect then { w with db } else w := by
  unfold SenderChoice.execute SenderChoice.takesEffect SenderChoice.dbFault
  cases choice.fault with
  | none => rfl
  | some fault => rfl

theorem outboundFinished_execute {choice : SenderChoice} {w : SenderWorld} {db : Database}
    {outboundMessageId : Nat} (h : w.db.outboundFinished outboundMessageId)
    (hdb : choice.takesEffect = true → db.outboundFinished outboundMessageId) :
    (choice.execute w db).2.db.outboundFinished outboundMessageId := by
  rw [execute_effect]
  split
  · rename_i heffect
    exact hdb heffect
  · exact h

/-- A failure that is recorded leaves the row with the status that it gives. -/
theorem outboundFinished_markFailed {db : Database} {outboundMessageId failedId : Nat}
    {status : QueueStatus} (error : String) (retryable : Bool)
    (hstatus : failedId = outboundMessageId → status.isOpen = false)
    (h : db.outboundFinished outboundMessageId) :
    (markOutboundFailed settings.periods db failedId status error
      retryable).outboundFinished outboundMessageId := by
  refine outboundFinished_updateOutbound ?_ ?_ h
  · intro row
    exact id_failed row settings.periods db.now status error retryable
  · intro row _ hselect hrow _
    rw [status_failed]
    exact hstatus ((of_decide_eq_true hselect).symm.trans hrow)

theorem not_outboundFinished_markFailed {db : Database} {outboundMessageId : Nat}
    {status : QueueStatus} (error : String) (retryable : Bool) (hstatus : status.isOpen = true) :
    ¬(markOutboundFailed settings.periods db outboundMessageId status error
      retryable).outboundFinished outboundMessageId := by
  rintro ⟨row, hmem, hrow, hclosed⟩
  obtain ⟨old, -, rfl⟩ := List.mem_map.mp hmem
  by_cases hid : old.id = outboundMessageId
  · rw [if_pos (decide_eq_true hid), status_failed, hstatus] at hclosed
    cases hclosed
  · rw [if_neg (by simpa using hid)] at hrow
    exact hid hrow

/-- An operation that leaves open only rows that it finds open keeps the others finished. -/
theorem outboundFinished_handle {w : SenderWorld} {op : SenderOp} {choice : SenderChoice}
    {outboundMessageId : Nat} (hop : FailsOpenRows w op choice)
    (h : w.db.outboundFinished outboundMessageId) :
    (handleSenderOp settings op choice w).2.db.outboundFinished outboundMessageId := by
  cases op with
  | leasePendingGroups limit workerId leaseSeconds =>
      have hleased : (leasePendingGroups settings.periods w.db limit workerId leaseSeconds
          settings.maxPerConversation).1.outboundFinished outboundMessageId :=
        outboundFinished_leaseGroups h
      simp only [handleSenderOp, SenderChoice.lease]
      split
      · exact hleased
      · split
        · exact hleased
        · exact h
  | isConversationHumanActive conversationId =>
      exact faulty_induction (motive := fun w : SenderWorld =>
        w.db.outboundFinished outboundMessageId) h h
  | downloadFile telegramFileId => exact h
  | send request => exact h
  | markSentWithMessage sentId message lastError =>
      apply outboundFinished_execute h
      intro _
      apply outboundFinished_insertConversationMessage
      refine outboundFinished_updateOutbound ?_ ?_ h
      · intro row
        rfl
      · intro row _ _ _ _
        rfl
  | markFailed failedId status error retryable =>
      apply outboundFinished_execute h
      intro heffect
      apply outboundFinished_markFailed error retryable ?_ h
      intro hid
      by_contra hopen
      have hreopens : failedId ∈ (SenderOp.markFailed failedId status error retryable).reopens? := by
        simp only [SenderOp.reopens?]
        rw [if_pos (by simpa using hopen)]
        rfl
      apply hop failedId hreopens heffect
      rw [hid]
      exact h
  | releaseLease releasedId =>
      apply outboundFinished_execute h
      intro _
      refine outboundFinished_updateOutbound ?_ ?_ h
      · intro row
        rfl
      · intro row _ _ _ hclosed
        exact hclosed

/-- An operation that opens a finished row breaks it. -/
theorem exists_reopened {w : SenderWorld} {op : SenderOp} {choice : SenderChoice}
    (hop : ¬FailsOpenRows w op choice) :
    ∃ outboundMessageId, w.db.outboundFinished outboundMessageId ∧
      ¬(handleSenderOp settings op choice w).2.db.outboundFinished outboundMessageId := by
  unfold FailsOpenRows at hop
  push Not at hop
  obtain ⟨outboundMessageId, hreopens, heffect, hfinished⟩ := hop
  refine ⟨outboundMessageId, hfinished, ?_⟩
  cases op with
  | markFailed failedId status error retryable =>
      simp only [SenderOp.reopens?] at hreopens
      split at hreopens
      · rename_i hopen
        cases hreopens
        simp only [handleSenderOp]
        rw [execute_effect, if_pos heffect]
        exact not_outboundFinished_markFailed error retryable hopen
      · cases hreopens
  | leasePendingGroups limit workerId leaseSeconds => cases hreopens
  | isConversationHumanActive conversationId => cases hreopens
  | downloadFile telegramFileId => cases hreopens
  | send request => cases hreopens
  | markSentWithMessage sentId message lastError => cases hreopens
  | releaseLease releasedId => cases hreopens

/-! ## Events -/

theorem outboundFinished_insertOutbound {db db' : Database} {message : OutboundMessage}
    {report : InsertReport} {outboundMessageId : Nat}
    (hinsert : insertOutbound db message = .ok (db', report))
    (h : db.outboundFinished outboundMessageId) : db'.outboundFinished outboundMessageId := by
  obtain ⟨row, hmem, hrow⟩ := h
  refine ⟨row, ?_, hrow⟩
  unfold insertOutbound at hinsert
  obtain ⟨chatId, -, hinsert⟩ := bind_eq_ok.mp hinsert
  cases hinsert
  rw [Table.mem_rows_iff_find?]
  exact Table.find?_insertIdempotent_of_find? _ (Table.find?_of_mem hmem)

theorem outboundMessages_insertConversation (db : Database) (conversationId chatId : String)
    (threadId : Option String) (route : Option String → Option String) :
    (db.insertConversation conversationId chatId threadId route).outboundMessages =
      db.outboundMessages := by
  unfold Database.insertConversation
  split
  · rfl
  · rfl

theorem outboundFinished_takeover {db : Database} {event : InboundEvent}
    {outboundMessageId : Nat} (h : db.outboundFinished outboundMessageId) :
    (markHumanActiveOnConnection db event).outboundFinished outboundMessageId := by
  obtain ⟨row, hmem, hrow, hclosed⟩ := h
  refine ⟨row, ?_, hrow, hclosed⟩
  unfold markHumanActiveOnConnection Database.cancelQueued Database.cancelResults
    Database.cancelCommands Database.cancelOutbound Database.updateConversation
  simp only [outboundMessages_insertConversation, Table.rows_updateWhere]
  refine List.mem_map.mpr ⟨row, hmem, ?_⟩
  rw [if_neg (by simp [hclosed])]

theorem outboundFinished_apply {w : SenderWorld} {outboundMessageId : Nat} (event : SenderEvent)
    (h : w.db.outboundFinished outboundMessageId) :
    (event.apply w).db.outboundFinished outboundMessageId := by
  cases event with
  | tick microseconds => exact h
  | recover =>
      refine outboundFinished_updateOutbound ?_ ?_ h
      · intro row
        rfl
      · intro row _ _ _ hclosed
        exact hclosed
  | takeover event => exact outboundFinished_takeover h
  | queue message =>
      simp only [SenderEvent.apply]
      split
      · rename_i hinsert
        exact outboundFinished_insertOutbound hinsert h
      · exact h

/-! ## Runs -/

theorem start_db {job : SenderJob} {w w' : SenderWorld} {prog : SenderProg Unit}
    (h : (senderMachine settings).start job w = some (prog, w')) : w'.db = w.db := by
  cases job with
  | batch =>
      cases h
      rfl
  | group index =>
      simp only [senderMachine] at h
      split at h
      · cases h
        rfl
      · cases h

theorem rowFinished_step {outboundMessageId : Nat} {c : Config (senderMachine settings) T}
    {l : Label (senderMachine settings) T} (hl : Executes FailsOpenRows c l)
    (h : RowFinished outboundMessageId c) : RowFinished outboundMessageId (step c l) := by
  cases l with
  | act t choice =>
      cases hprog : c.threads t with
      | ret a => rwa [step_act_finished (by rw [hprog]; rfl)]
      | raise e => rwa [step_act_finished (by rw [hprog]; rfl)]
      | call op k =>
          rw [step_act hprog]
          exact outboundFinished_handle (hl op (by rw [hprog]; rfl)) h
  | env e => exact outboundFinished_apply e h
  | spawn t job =>
      cases hhead : (c.threads t).head? with
      | some op => rwa [step_spawn_of_head_eq_some hhead]
      | none =>
          cases hstart : (senderMachine settings).start job c.world with
          | none => rwa [step_spawn_of_start_eq_none hstart]
          | some started =>
              rw [step_spawn hhead hstart, RowFinished, start_db hstart]
              exact h

theorem exists_reopened_step {c : Config (senderMachine settings) T}
    {l : Label (senderMachine settings) T} (hl : ¬Executes FailsOpenRows c l) :
    ∃ outboundMessageId, RowFinished outboundMessageId c ∧
      ¬RowFinished outboundMessageId (step c l) := by
  cases l with
  | act t choice =>
      simp only [Executes] at hl
      push Not at hl
      obtain ⟨op, hhead, hop⟩ := hl
      cases hprog : c.threads t with
      | ret a => simp [hprog, Prog.head?] at hhead
      | raise e => simp [hprog, Prog.head?] at hhead
      | call op' k =>
          have hop' : op' = op := by simpa [hprog, Prog.head?] using hhead
          subst hop'
          rw [step_act hprog]
          exact exists_reopened hop
  | env e => exact absurd trivial hl
  | spawn t job => exact absurd trivial hl

/-- In a run of the workers every row that is finished stays finished exactly when each
failure that is recorded as retryable finds its row still open. -/
theorem finished_rows_stay_iff (c : Config (senderMachine settings) T)
    (labels : List (Label (senderMachine settings) T)) :
    Persists RowFinished c labels ↔ AllSteps (Executes FailsOpenRows) c labels := by
  apply persists_iff_allSteps fun _ => True
  · intro _ _ _
    trivial
  · intro outboundMessageId c l _ hl h
    exact rowFinished_step hl h
  · intro c l _ hl
    exact exists_reopened_step hl
  · trivial

/-! ## A holder whose lease has expired -/

/-- Settings of a worker. -/
def SenderSettings.plain (workerId : String) : SenderSettings where
  runtime := .plain
  limit := 20
  workerId := workerId
  leaseSeconds := 300
  maxPerConversation := 5
  periods := ⟨0, 5, 60⟩
  maxRetries := 20
  imageTextFallback := false
  menuForPayload _ := .ok ∅
  fallbackText _ := ""
  assistantMessage row _ :=
    { conversationId := row.conversationId.getD "", tenantId := none, channelType := none
      chatId := some row.chatId, threadId := row.threadId, inboundEventId := row.inboundEventId
      outboundMessageId := some row.id, externalCommandResultId := none
      senderRole := "assistant", messageType := none, textContent := none, source := "sender" }

/-- A database with one message to send. -/
def queuedText : Database :=
  match insertOutbound .empty
    { chatId := some "C", threadId := some "T", actionType := "reply", messageType := "text"
      payloadJson := .ofList [("text", .str "hello")], status := .pending
      inboundEventId := some 1, conversationId := none, tenantId := none, dedupKey := some "reply"
      blockIndex := none, messageKind := none, commandType := none } with
  | .ok (db, _) => db
  | .error _ => .empty

/-- A statement that is executed, or a call that is answered. -/
def SenderChoice.good : SenderChoice := ⟨none, .ok (.ofList [("event_id", .str "E")])⟩

/-- A call that times out. -/
def SenderChoice.timedOut : SenderChoice := ⟨none, .error (.timeout "timed out")⟩

/-- The world before the workers start. -/
def senderStart : Config (senderMachine (.plain "worker")) Bool := idle ⟨queuedText, []⟩

/-- The first worker leases the message and calls LiveChat; when its lease has expired the
second worker leases the message and sends it. -/
def sentBySecond : List (Label (senderMachine (.plain "worker")) Bool) :=
  [.spawn false .batch, .act false .good, .spawn false (.group 0),
    .env (.tick (seconds 301)),
    .spawn true .batch, .act true .good, .spawn true (.group 0), .act true .good,
    .act true .good]

/-- The call of the first worker times out, and the failure is recorded. -/
def failedByFirst : List (Label (senderMachine (.plain "worker")) Bool) :=
  [.act false .timedOut, .act false .good]

/-- The row that the second worker has sent is retryable again. -/
theorem sent_row_is_reopened : ¬Persists RowFinished senderStart (sentBySecond ++ failedByFirst) := by
  intro hpersists
  have hsent : RowFinished 1 (run senderStart sentBySecond) := by
    unfold RowFinished
    decide +kernel
  have hstays := hpersists 1 sentBySecond failedByFirst [] (by simp) hsent
  unfold RowFinished at hstays
  revert hstays
  decide +kernel

end AiCustomerService
