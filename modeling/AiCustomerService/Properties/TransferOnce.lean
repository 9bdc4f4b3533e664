import AiCustomerService.Workers.CommandSteps

/-!
# One transfer of a chat

A stage marker in the payload of the command says that LiveChat has transferred the chat.
The marker is a write of its own.  When it is lost, only the status
`FAILED_AFTER_EXTERNAL_SUCCESS` protects the command, and that is a write as well.
-/

namespace AiCustomerService

open Support Support.Machine

/-! ## The marker -/

/-- The stored stage says that the chat was transferred. -/
def ExternalCommandRow.TransferMarked (row : ExternalCommandRow) : Prop :=
  (getKey (getKey row.payloadJson "human_handoff_stage").dictOrEmpty
    "transfer_succeeded").isTrue = true

/-- The patch of a stage that is marked. -/
def MarksTransfer (patch : JsonObject) : Prop :=
  ∃ stage, patch = .ofList [("human_handoff_stage", .obj stage)] ∧
    SetsTrue "transfer_succeeded" stage

/-- The merge of a marked stage marks the row. -/
theorem transferMarked_merge {patch : JsonObject} (h : MarksTransfer patch)
    (row : ExternalCommandRow) :
    { row with payloadJson := mergeEntries row.payloadJson patch.entries }.TransferMarked := by
  obtain ⟨stage, rfl, hstage⟩ := h
  have hmerged : getKey (mergeEntries row.payloadJson
      [("human_handoff_stage", .obj stage)]) "human_handoff_stage" =
        .obj (mergeEntries (getKey row.payloadJson "human_handoff_stage").dictOrEmpty
          stage.entries) := by
    rw [mergeEntries, mergeEntries, if_neg (by simp [Json.isNull])]
    unfold getKey
    rw [Dict.get?_set, if_pos rfl]
    rfl
  change (getKey (getKey (mergeEntries row.payloadJson [("human_handoff_stage", .obj stage)])
    "human_handoff_stage").dictOrEmpty "transfer_succeeded").isTrue = true
  rw [hmerged]
  change (getKey (mergeEntries _ stage.entries) "transfer_succeeded").isTrue = true
  rw [getKey_mergeEntries hstage.1 (Or.inl hstage.2)]
  rfl

/-- The worker reads the marker of a marked row. -/
theorem mappingOrEmpty_marked {row : ExternalCommandRow} (h : row.TransferMarked) :
    ∃ stage, (getKey row.payloadJson "human_handoff_stage").mappingOrEmpty = .ok stage ∧
      (getKey stage "transfer_succeeded").truthy = true := by
  unfold ExternalCommandRow.TransferMarked at h
  cases hvalue : getKey row.payloadJson "human_handoff_stage" with
  | obj fields =>
      rw [hvalue] at h
      have hkey : getKey fields "transfer_succeeded" = .bool true := by
        have htrue : (getKey fields "transfer_succeeded").isTrue = true := h
        unfold Json.isTrue at htrue
        split at htrue
        · assumption
        · cases htrue
      refine ⟨fields, ?_, ?_⟩
      · have htruthy : (Json.obj fields).truthy = true := by
          have hsome : fields.get? "transfer_succeeded" = some (.bool true) := by
            unfold getKey at hkey
            cases hget : fields.get? "transfer_succeeded" with
            | none =>
                rw [hget] at hkey
                cases hkey
            | some value =>
                rw [hget] at hkey
                exact congrArg some hkey
          simp [Json.truthy, Dict.isEmpty_eq_false_of_get? hsome]
        rw [Json.mappingOrEmpty, Json.orElse, if_pos htruthy]
      · rw [hkey]
        rfl
  | _ =>
      rw [hvalue] at h
      cases h

/-! ## Phases -/

/-- How far a worker is with the transfer of a command. -/
inductive TransferPhase
  | ready
  | called
  | marked
  | done
  deriving DecidableEq

/-- A statement that finishes the command. -/
def TransferPhase.finish (returned : Bool) : TransferPhase → TransferPhase
  | .called => if returned then .done else .called
  | p => p

/-- The phases in which a transfer is not at stake. -/
def TransferPhase.isQuiet : TransferPhase → Bool
  | .ready => true
  | .marked => true
  | _ => false

open scoped Classical in
/-- The phase after the merge of a patch. -/
noncomputable def TransferPhase.merge (patch : JsonObject) (returned : Bool) :
    TransferPhase → Option TransferPhase
  | .ready => some .ready
  | .called =>
      if MarksTransfer patch then some (if returned then .marked else .called) else none
  | .marked => if MarksTransfer patch then some .marked else none
  | .done => none

/-- The phase after an operation of the worker, or `none` when it may not be executed. -/
noncomputable def TransferPhase.next (commandId : Nat) (p : TransferPhase) :
    (op : WorkerOp) → Except ServiceError op.Res → Option TransferPhase
  | .transferChatToGroup named _ _, r =>
      if named = commandId then
        if p = .ready then some (if r.isOk then .called else .ready) else none
      else some p
  | .mergePayload named patch, r =>
      if named = commandId then p.merge patch r.isOk else some p
  | .markSent named, r => some (if named = commandId then p.finish r.isOk else p)
  | .markStatus named status _, r =>
      if named ≠ commandId ∨ p.isQuiet = true then some p
      else if status.isOpen then none
      else some (p.finish r.isOk)
  | .markProcessingFailed named _, _ => some (if named = commandId then p.finish true else p)
  | _, _ => some p

/-- The steps of a worker that transfers a chat at most once. -/
def transferProtocol (commandId : Nat) : Protocol workerOps TransferPhase :=
  fun p op r p' => p.next commandId op r = some p'

/-- No transfer is without a record. -/
abbrev TransferPhase.IsFinal (p : TransferPhase) : Prop := p ≠ .called

/-- The transfer calls of a command, the latest first: whether they returned. -/
def CommandWorld.transfersOf (w : CommandWorld) (commandId : Nat) : List Bool :=
  (w.transfers.filter fun call => call.1 = commandId).map Prod.snd

/-- The chat of the command was transferred. -/
def CommandWorld.Transferred (w : CommandWorld) (commandId : Nat) : Prop :=
  true ∈ w.transfersOf commandId

/-- No transfer of the command was called after one that returned. -/
def CommandWorld.TransferredOnce (w : CommandWorld) (commandId : Nat) : Prop :=
  (w.transfersOf commandId).Pairwise fun _ older => older = false

/-- The rows of the command are marked. -/
def CommandWorld.Marked (w : CommandWorld) (commandId : Nat) : Prop :=
  w.db.CommandAll commandId ExternalCommandRow.TransferMarked

/-- A failure after the transfer is only counted when the transfer is marked, or when it is
the last failure. -/
def NoRetryAfterTransfer (settings : CommandSettings) (commandId : Nat) (w : CommandWorld)
    (op : WorkerOp) (choice : CommandChoice) : Prop :=
  op.failed? = some commandId → w.Transferred commandId →
    w.Marked commandId ∨ ExhaustsRetries settings commandId w choice

instance (row : ExternalCommandRow) : Decidable row.TransferMarked :=
  inferInstanceAs (Decidable (_ = true))

instance (w : CommandWorld) (commandId : Nat) : Decidable (w.Transferred commandId) :=
  inferInstanceAs (Decidable (_ ∈ _))

instance (w : CommandWorld) (commandId : Nat) : Decidable (w.TransferredOnce commandId) :=
  inferInstanceAs (Decidable (List.Pairwise _ _))

instance (settings : CommandSettings) (commandId : Nat) (w : CommandWorld) (op : WorkerOp)
    (choice : CommandChoice) : Decidable (NoRetryAfterTransfer settings commandId w op choice) :=
  have : Decidable (w.Marked commandId) := inferInstanceAs
    (Decidable (∀ row ∈ w.db.externalCommands.rows, row.id = commandId → row.TransferMarked))
  inferInstanceAs (Decidable (_ → _ → _ ∨ _))

/-- What holds while a worker is in a phase. -/
structure TransferInvariant (commandId : Nat) (w : CommandWorld) (p : TransferPhase) : Prop where
  once : w.TransferredOnce commandId
  ready : p = .ready → ¬w.Transferred commandId
  marked : p = .marked → w.Marked commandId
  done : p = .done → w.Transferred commandId → w.Marked commandId ∨ w.Finished commandId

/-! ## The worker follows the phases -/

section Follows

variable {settings : CommandSettings} {commandId : Nat} {p : TransferPhase} {α : Type}

/-- An operation on another command keeps the phase. -/
theorem transfer_next_other {op : WorkerOp} (r : Except ServiceError op.Res)
    (hop : op.commandId? ≠ some commandId) : p.next commandId op r = some p := by
  cases op with
  | transferChatToGroup named => exact if_neg fun heq => hop (congrArg some heq)
  | mergePayload named => exact if_neg fun heq => hop (congrArg some heq)
  | markSent named => exact congrArg some (if_neg fun heq => hop (congrArg some heq))
  | markStatus named => exact if_pos (Or.inl fun heq => hop (congrArg some heq))
  | markProcessingFailed named => exact congrArg some (if_neg fun heq => hop (congrArg some heq))
  | _ => rfl

theorem finish_of_isQuiet (hquiet : p.isQuiet = true) (returned : Bool) :
    p.finish returned = p := by
  cases p with
  | ready => rfl
  | marked => rfl
  | called => cases hquiet
  | done => cases hquiet

/-- An operation that is no part of the transfer keeps a quiet phase. -/
theorem transfer_next_quiet {op : WorkerOp} (r : Except ServiceError op.Res)
    (hquiet : p.isQuiet = true) (hop : op.delivery? ≠ some .transfer) :
    p.next commandId op r = some p := by
  have hfinish (returned : Bool) (named : Nat) :
      (if named = commandId then p.finish returned else p) = p := by
    rw [finish_of_isQuiet hquiet, ite_self]
  cases op with
  | transferChatToGroup => exact absurd rfl hop
  | mergePayload => exact absurd rfl hop
  | markSent named => exact congrArg some (hfinish _ named)
  | markStatus named => exact if_pos (Or.inr hquiet)
  | markProcessingFailed named => exact congrArg some (hfinish _ named)
  | _ => rfl

theorem transfer_follows_other {prog : WorkerProg α}
    (h : prog.All fun op : WorkerOp => op.commandId? ≠ some commandId) :
    FollowsTo (transferProtocol commandId) (fun p' _ => p' = p) p prog :=
  .of_all h fun _ r hop => transfer_next_other r hop

/-- A program of another delivery keeps a quiet phase. -/
theorem transfer_follows_quiet {ownId : Nat} {delivery : Option Delivery}
    {prog : WorkerProg α} (h : RunsWithin ownId delivery prog)
    (hdelivery : delivery ≠ some .transfer) (hquiet : p.isQuiet = true) :
    FollowsTo (transferProtocol commandId) (fun p' _ => p' = p) p prog := by
  refine .of_all h fun op r hop => transfer_next_quiet r hquiet ?_
  rcases hop.2 with hnone | hsome
  · rw [hnone]
    simp
  · rw [hsome]
    exact hdelivery

/-- A marked row is never transferred. -/
theorem runsWithin_of_marked {command : ExternalCommandRow} (h : command.TransferMarked) :
    RunsWithin command.id none (processHandoffCommand settings command) := by
  unfold processHandoffCommand
  split
  · exact runsWithin_finishWith command _ _ _
  · apply (runsWithin_handoffAckDependency settings command).bind
    intro report
    cases report with
    | some report => trivial
    | none =>
        obtain ⟨stage, hstage, htruthy⟩ := mappingOrEmpty_marked h
        dsimp only [transferFromStage]
        rw [hstage]
        dsimp only [WorkerProg.lift]
        rw [Prog.bind_ret, if_pos htruthy]
        exact runsWithin_finishWith command _ _ _

/-- The record of the stage before the transfer, and the transfer. -/
theorem transfer_follows_attempt (command : ExternalCommandRow) (stage : JsonObject) :
    FollowsTo (transferProtocol command.id)
      (fun p' r => p' = if r.isOk then .called else .ready) .ready
      (attemptTransfer settings command stage) := by
  have hrecord : FollowsTo (transferProtocol command.id) (fun p' _ => p' = .ready) .ready
      (recordHandoffStage command.id stage) :=
    FollowsTo.perform fun _ => ⟨.ready, if_pos rfl, rfl⟩
  apply hrecord.bind
  · rintro _ _ rfl
    apply FollowsTo.perform
    intro r
    refine ⟨if r.isOk then .called else .ready, ?_, rfl⟩
    exact (if_pos rfl).trans (if_pos rfl)
  · rintro _ _ rfl
    rfl

/-- The stages after the transfer carry the marker. -/
theorem transfer_follows_record (command : ExternalCommandRow) {stage : JsonObject}
    (hstage : SetsTrue "transfer_succeeded" stage) :
    FollowsTo (transferProtocol command.id) (fun p' _ => p' = .marked) .marked
      (recordHandoffStage command.id stage) :=
  FollowsTo.perform fun _ => ⟨.marked, (if_pos rfl).trans (if_pos ⟨stage, rfl, hstage⟩), rfl⟩

/-- The marker is the first record after the transfer. -/
theorem transfer_follows_mark (command : ExternalCommandRow) (stage : JsonObject) :
    FollowsTo (transferProtocol command.id)
      (fun p' r => p' = if r.isOk then .marked else .called) .called
      (recordHandoffStage command.id (stage.set "transfer_succeeded" (.bool true))) := by
  apply FollowsTo.perform
  intro r
  refine ⟨if r.isOk then .marked else .called, ?_, rfl⟩
  exact (if_pos rfl).trans (if_pos ⟨_, rfl, setsTrue_set _ stage⟩)

/-- What follows a transfer: either the marker is lost, or everything happens under it. -/
theorem transfer_follows_complete (command : ExternalCommandRow) (stage : JsonObject)
    (livechatResponse : Json) :
    FollowsTo (transferProtocol command.id)
      (fun p' r => p' = .marked ∨ p' = .called ∧ r.isOk = false) .called
      (completeHandoff settings command stage livechatResponse) := by
  have hset : SetsTrue "transfer_succeeded" (stage.set "transfer_succeeded" (.bool true)) :=
    setsTrue_set _ stage
  have hupdated := hset.set_other
    (by decide : "conversation_state_updated" ≠ "transfer_succeeded") (.bool true)
  have hemitted := hupdated.set_other
    (by decide : "result_emitted" ≠ "transfer_succeeded") (.bool settings.emitResult)
  have hquiet {β : Type} {prog : WorkerProg β} (h : RunsWithin command.id none prog) :
      FollowsTo (transferProtocol command.id) (fun p' _ => p' = .marked) .marked prog :=
    transfer_follows_quiet h (by decide : none ≠ _) rfl
  have hrest : FollowsTo (transferProtocol command.id) (fun p' _ => p' = .marked) .marked (do
      recordHandoffStage command.id
        ((stage.set "transfer_succeeded" (.bool true)).set "conversation_state_updated" (.bool true))
      emitResult settings (transferResult settings command livechatResponse)
      recordHandoffStage command.id
        (((stage.set "transfer_succeeded" (.bool true)).set "conversation_state_updated"
          (.bool true)).set "result_emitted" (.bool settings.emitResult))
      (WorkerOp.markSent command.id).call) := by
    apply (transfer_follows_record command hupdated).bind
    · rintro _ _ rfl
      apply (hquiet (neutral_emitResult settings _).within).bind
      · rintro _ _ rfl
        apply (transfer_follows_record command hemitted).bind
        · rintro _ _ rfl
          exact hquiet (runsWithin_call (within_own rfl rfl))
        · intro _ _ h
          exact h
      · intro _ _ h
        exact h
    · intro _ _ h
      exact h
  apply (transfer_follows_mark command stage).bind
  · rintro _ _ rfl
    change FollowsTo (transferProtocol command.id) _ .marked _
    dsimp only
    split
    · apply (hquiet (neutral_call rfl rfl).within).bind
      · rintro _ _ rfl
        exact hrest.mono fun _ _ h => Or.inl h
      · intro _ _ h
        exact Or.inl h
    · exact hrest.mono fun _ _ h => Or.inl h
  · rintro _ e rfl
    exact Or.inr ⟨rfl, rfl⟩

/-- Either the worker raised or nothing is left without a record. -/
def RecordedUnlessRaised (p : TransferPhase) (r : Except ServiceError α) : Prop :=
  r.isOk = true → p.IsFinal

/-- `FAILED_AFTER_EXTERNAL_SUCCESS` is stored, or the worker raises. -/
theorem transfer_follows_failed (command : ExternalCommandRow) (report error : String) :
    FollowsTo (transferProtocol command.id) RecordedUnlessRaised .called
      (finishWith command .failedAfterExternalSuccess report error) := by
  have hmark : FollowsTo (transferProtocol command.id)
      (fun p' r => p' = if r.isOk then .done else .called) .called
      (markCommand command.id .failedAfterExternalSuccess (some error)) := by
    rw [markCommand, if_neg (by decide)]
    apply FollowsTo.perform
    intro r
    refine ⟨if r.isOk then .done else .called, ?_, rfl⟩
    exact (if_neg (by simp [TransferPhase.isQuiet])).trans (if_neg (by decide))
  apply hmark.bind
  · rintro _ _ rfl _
    change TransferPhase.IsFinal .done
    decide
  · intro _ _ _ herror
    cases herror

/-- The handoff of a command: one transfer at most, and a record of it unless the worker
raises. -/
theorem transfer_follows_processHandoff (command : ExternalCommandRow) :
    FollowsTo (transferProtocol command.id) RecordedUnlessRaised .ready
      (processHandoffCommand settings command) := by
  have hready {β : Type} {prog : WorkerProg β} (h : RunsWithin command.id none prog) :
      FollowsTo (transferProtocol command.id) (fun p' _ => p' = .ready) .ready prog :=
    transfer_follows_quiet h (by decide : none ≠ _) rfl
  have hreport {prog : WorkerProg CommandReport} (h : RunsWithin command.id none prog) :
      FollowsTo (transferProtocol command.id) RecordedUnlessRaised .ready prog := by
    apply (hready h).mono
    rintro _ _ rfl _
    decide
  unfold processHandoffCommand
  split
  · exact hreport (runsWithin_finishWith command _ _ _)
  · apply (hready (runsWithin_handoffAckDependency settings command)).bind
    · rintro _ report rfl
      cases report with
      | some report =>
          intro _
          decide
      | none =>
          apply (hready (neutral_lift _).within).bind
          · rintro _ stage rfl
            split
            · exact hreport (runsWithin_finishWith command _ _ _)
            · apply (transfer_follows_attempt command _).attempt.bind
              · rintro p' attempted ⟨outcome, houtcome, hp⟩
                cases houtcome
                subst hp
                cases attempted with
                | error exc => exact hreport (runsWithin_finishWith command _ _ _)
                | ok livechatResponse =>
                    apply (transfer_follows_complete command _ livechatResponse).attempt.bind
                    · rintro p'' completed ⟨outcome, houtcome, hp⟩
                      cases houtcome
                      cases completed with
                      | ok done =>
                          rcases hp with rfl | ⟨-, herror⟩
                          · intro _
                            decide
                          · cases herror
                      | error exc =>
                          rcases hp with rfl | ⟨rfl, -⟩
                          · apply (transfer_follows_quiet
                              (runsWithin_finishWith command _ _ _) (by decide : none ≠ _)
                              rfl).mono
                            rintro _ _ rfl _
                            decide
                          · exact transfer_follows_failed command _ _
                    · rintro _ _ ⟨_, houtcome, -⟩
                      cases houtcome
              · rintro _ _ ⟨_, houtcome, -⟩
                cases houtcome
          · rintro _ _ rfl _
            decide
    · rintro _ _ rfl _
      decide

end Follows

/-! ## The invariant -/

section Invariant

variable {settings : CommandSettings} {commandId : Nat} {w : CommandWorld} {p : TransferPhase}
  {choice : CommandChoice}

theorem SameCalls.transfersOf {w' : CommandWorld} (h : SameCalls w w') :
    w'.transfersOf commandId = w.transfersOf commandId := by
  rw [CommandWorld.transfersOf, h.transfers, CommandWorld.transfersOf]

theorem TransferInvariant.congr {w' : CommandWorld} (h : TransferInvariant commandId w p)
    (hsame : w'.transfersOf commandId = w.transfersOf commandId)
    (hmarked : w.Marked commandId → w'.Marked commandId)
    (hfinished : w.Finished commandId → w'.Finished commandId) :
    TransferInvariant commandId w' p := by
  have htransferred : w'.Transferred commandId ↔ w.Transferred commandId := by
    rw [CommandWorld.Transferred, hsame, CommandWorld.Transferred]
  refine ⟨?_, ?_, ?_, ?_⟩
  · rw [CommandWorld.TransferredOnce, hsame]
    exact h.once
  · rw [htransferred]
    exact h.ready
  · intro hp
    exact hmarked (h.marked hp)
  · rw [htransferred]
    intro hp hw
    exact (h.done hp hw).imp hmarked hfinished

/-- The calls of a command after an operation on another one. -/
theorem transfersOf_other {op : WorkerOp} (hop : op.commandId? ≠ some commandId) :
    (handleWorkerOp settings op choice w).2.transfersOf commandId = w.transfersOf commandId := by
  cases hdelivery : op.isDelivery with
  | false =>
      have hsame : SameCalls w (handleWorkerOp settings op choice w).2 := handle_calls hdelivery
      exact hsame.transfersOf
  | true =>
      cases op with
      | transferChatToGroup named =>
          have hne : named ≠ commandId := fun heq => hop (congrArg some heq)
          unfold CommandWorld.transfersOf
          dsimp only [handleWorkerOp, CommandWorld.called]
          rw [List.filter_cons_of_neg (by simpa using hne)]
      | sendMessage message =>
          dsimp only [handleWorkerOp, CommandWorld.called]
          split
          · split
            · rfl
            · rfl
          · rfl
      | sendCaseFollowup => rfl
      | _ => cases hdelivery

/-- A statement on the command that neither marks nor closes it. -/
theorem TransferInvariant.statement {op : WorkerOp} (h : TransferInvariant commandId w p)
    (hcalls : op.isDelivery = false)
    (hmarked : w.Marked commandId → (handleWorkerOp settings op choice w).2.Marked commandId)
    (hfinished : w.Finished commandId →
      (handleWorkerOp settings op choice w).2.Finished commandId) :
    TransferInvariant commandId (handleWorkerOp settings op choice w).2 p := by
  have hsame : SameCalls w (handleWorkerOp settings op choice w).2 := handle_calls hcalls
  exact h.congr hsame.transfersOf hmarked hfinished

/-- A phase that the transfer has reached. -/
theorem TransferInvariant.move {p' : TransferPhase} (h : TransferInvariant commandId w p)
    (hready : p' ≠ .ready) (hmarked : p' = .marked → w.Marked commandId)
    (hdone : p' = .done → w.Transferred commandId →
      w.Marked commandId ∨ w.Finished commandId) : TransferInvariant commandId w p' :=
  ⟨h.once, fun hp => absurd hp hready, hmarked, hdone⟩

theorem marked_execute {updatedId : Nat} {assign : ExternalCommandRow → ExternalCommandRow}
    {hkey : ∀ row, (assign row).dedupKey = row.dedupKey} (h : w.Marked commandId)
    (hpayload : ∀ row, (assign row).payloadJson = row.payloadJson)
    (hid : ∀ row, (assign row).id = row.id) :
    (choice.execute w (w.db.updateCommand updatedId assign hkey)).2.Marked commandId := by
  refine commandAll_execute h (fun _ hrow => hrow) ?_ hid
  intro row hrow
  rw [ExternalCommandRow.TransferMarked, hpayload]
  exact hrow

/-- A statement that closes the command or leaves the phase. -/
theorem TransferInvariant.close {op : WorkerOp} (h : TransferInvariant commandId w p)
    (hcalls : op.isDelivery = false) {returned : Bool}
    (hmarked : w.Marked commandId → (handleWorkerOp settings op choice w).2.Marked commandId)
    (hkeep : p = .done → w.Transferred commandId → w.Finished commandId →
      (handleWorkerOp settings op choice w).2.Marked commandId ∨
        (handleWorkerOp settings op choice w).2.Finished commandId)
    (hclose : returned = true → p = .called → w.Transferred commandId →
      (handleWorkerOp settings op choice w).2.Marked commandId ∨
        (handleWorkerOp settings op choice w).2.Finished commandId) :
    TransferInvariant commandId (handleWorkerOp settings op choice w).2 (p.finish returned) := by
  have hsame : SameCalls w (handleWorkerOp settings op choice w).2 := handle_calls hcalls
  have hcallsOf : (handleWorkerOp settings op choice w).2.transfersOf commandId =
      w.transfersOf commandId := hsame.transfersOf
  have htransferred : (handleWorkerOp settings op choice w).2.Transferred commandId ↔
      w.Transferred commandId := by
    rw [CommandWorld.Transferred, hcallsOf, CommandWorld.Transferred]
  refine ⟨?_, ?_, ?_, ?_⟩
  · rw [CommandWorld.TransferredOnce, hcallsOf]
    exact h.once
  · rw [htransferred]
    intro hp
    apply h.ready
    cases p with
    | ready => rfl
    | called =>
        cases returned with
        | true => cases hp
        | false => cases hp
    | marked => cases hp
    | done => cases hp
  · intro hp
    apply hmarked
    apply h.marked
    cases p with
    | marked => rfl
    | called =>
        cases returned with
        | true => cases hp
        | false => cases hp
    | ready => cases hp
    | done => cases hp
  · rw [htransferred]
    intro hp hw
    cases p with
    | called =>
        cases returned with
        | true => exact hclose rfl rfl hw
        | false => cases hp
    | done =>
        rcases h.done rfl hw with hrows | hrows
        · exact Or.inl (hmarked hrows)
        · exact hkeep rfl hw hrows
    | ready => cases hp
    | marked => cases hp

/-- The transfer is called. -/
theorem TransferInvariant.transfer {chatId : String} {groupId : Int}
    (h : TransferInvariant commandId w .ready) (r : Bool)
    (hr : (handleWorkerOp settings (.transferChatToGroup commandId chatId groupId) choice
      w).1.isOk = r) :
    TransferInvariant commandId
      (handleWorkerOp settings (.transferChatToGroup commandId chatId groupId) choice w).2
      (if r then .called else .ready) := by
  have hnone : ¬w.Transferred commandId := h.ready rfl
  have hcalls : (handleWorkerOp settings (.transferChatToGroup commandId chatId groupId) choice
      w).2.transfersOf commandId = r :: w.transfersOf commandId := by
    unfold CommandWorld.transfersOf
    dsimp only [handleWorkerOp, CommandWorld.called] at hr ⊢
    rw [List.filter_cons_of_pos (by simp), List.map_cons, hr]
  have honce : (r :: w.transfersOf commandId).Pairwise fun _ older => older = false := by
    rw [List.pairwise_cons]
    constructor
    · intro older hmem
      cases older with
      | false => rfl
      | true => exact absurd hmem hnone
    · exact h.once
  refine ⟨?_, ?_, ?_, ?_⟩
  · rw [CommandWorld.TransferredOnce, hcalls]
    exact honce
  · rw [CommandWorld.Transferred, hcalls]
    cases r with
    | true => intro hp; cases hp
    | false =>
        intro _ hmem
        rcases List.mem_cons.mp hmem with heq | hmem
        · cases heq
        · exact hnone hmem
  · cases r with
    | true => intro hp; cases hp
    | false => intro hp; cases hp
  · cases r with
    | true => intro hp; cases hp
    | false => intro hp; cases hp

/-- The merge of a stage. -/
theorem TransferInvariant.merge {patch : JsonObject} {p' : TransferPhase}
    (h : TransferInvariant commandId w p)
    (hnext : p.merge patch (handleWorkerOp settings (.mergePayload commandId patch) choice
      w).1.isOk = some p') :
    TransferInvariant commandId
      (handleWorkerOp settings (.mergePayload commandId patch) choice w).2 p' := by
  have hsame : SameCalls w (handleWorkerOp settings (.mergePayload commandId patch) choice w).2 :=
    handle_calls rfl
  have hcalls : (handleWorkerOp settings (.mergePayload commandId patch) choice
      w).2.transfersOf commandId = w.transfersOf commandId := hsame.transfersOf
  have honce : (handleWorkerOp settings (.mergePayload commandId patch) choice
      w).2.TransferredOnce commandId := by
    rw [CommandWorld.TransferredOnce, hcalls]
    exact h.once
  cases p with
  | ready =>
      cases hnext
      refine ⟨honce, ?_, (fun hp => nomatch hp), (fun hp => nomatch hp)⟩
      rw [CommandWorld.Transferred, hcalls]
      exact fun _ => h.ready rfl
  | called =>
      unfold TransferPhase.merge at hnext
      split_ifs at hnext with hmarks hok
      · cases hnext
        refine ⟨honce, (fun hp => nomatch hp), ?_, (fun hp => nomatch hp)⟩
        intro _
        cases hr : (choice.execute w (mergePayloadJson w.db commandId patch)).1 with
        | error e =>
            rw [show (handleWorkerOp settings (.mergePayload commandId patch) choice w).1 = _
              from hr] at hok
            cases hok
        | ok a =>
            change ((choice.execute w (mergePayloadJson w.db commandId patch)).2).Marked commandId
            rw [execute_ok hr]
            have hany : w.db.CommandAll commandId fun _ => True := fun _ _ _ => trivial
            exact commandAll_updateCommand commandId hany
              (fun row _ => transferMarked_merge hmarks row) (fun _ => rfl)
              fun hne => absurd rfl hne
      · cases hnext
        exact ⟨honce, (fun hp => nomatch hp), (fun hp => nomatch hp), (fun hp => nomatch hp)⟩
  | marked =>
      simp only [TransferPhase.merge] at hnext
      split_ifs at hnext with hmarks
      cases hnext
      refine ⟨honce, (fun hp => nomatch hp), ?_, (fun hp => nomatch hp)⟩
      intro _
      exact commandAll_execute (h.marked rfl) (fun _ hrow => hrow)
        (fun row _ => transferMarked_merge hmarks row) fun _ => rfl
  | done => cases hnext

/-- What an operation on the command leaves of the invariant. -/
theorem TransferInvariant.own {op : WorkerOp} {p' : TransferPhase}
    (h : TransferInvariant commandId w p)
    (hcond : NoRetryAfterTransfer settings commandId w op choice)
    (hnext : p.next commandId op (handleWorkerOp settings op choice w).1 = some p')
    (hop : op.commandId? = some commandId) :
    TransferInvariant commandId (handleWorkerOp settings op choice w).2 p' := by
  cases op with
  | transferChatToGroup named chatId groupId =>
      cases hop
      dsimp only [TransferPhase.next] at hnext
      rw [if_pos rfl] at hnext
      by_cases hready : p = .ready
      · rw [if_pos hready] at hnext
        cases hnext
        subst hready
        exact h.transfer _ rfl
      · rw [if_neg hready] at hnext
        cases hnext
  | mergePayload named patch =>
      cases hop
      dsimp only [TransferPhase.next] at hnext
      rw [if_pos rfl] at hnext
      exact h.merge hnext
  | markSent named =>
      cases hop
      dsimp only [TransferPhase.next] at hnext
      rw [if_pos rfl] at hnext
      cases hnext
      apply h.close rfl
      · exact fun hmarked => marked_execute hmarked (fun _ => rfl) fun _ => rfl
      · intro _ _ hfinished
        exact Or.inr (finished_execute hfinished (fun _ _ => rfl) fun _ => rfl)
      · intro hok _ _
        exact Or.inr (finished_of_execute_ok hok (fun _ => rfl) fun _ => rfl)
  | markStatus named status error =>
      cases hop
      dsimp only [TransferPhase.next] at hnext
      by_cases hquiet : p.isQuiet = true
      · rw [if_pos (Or.inr hquiet)] at hnext
        cases hnext
        rw [← finish_of_isQuiet hquiet true]
        apply h.close rfl
        · exact fun hmarked => marked_execute hmarked (fun _ => rfl) fun _ => rfl
        · rintro rfl
          cases hquiet
        · rintro _ rfl
          cases hquiet
      · rw [if_neg (by simpa using hquiet)] at hnext
        split_ifs at hnext with hopen
        cases hnext
        have hclosed : status.isOpen = false := by simpa using hopen
        apply h.close rfl
        · exact fun hmarked => marked_execute hmarked (fun _ => rfl) fun _ => rfl
        · intro _ _ hfinished
          exact Or.inr (finished_execute hfinished (fun _ _ => hclosed) fun _ => rfl)
        · intro hok _ _
          exact Or.inr (finished_of_execute_ok hok (fun _ => hclosed) fun _ => rfl)
  | markProcessingFailed named error =>
      cases hop
      dsimp only [TransferPhase.next] at hnext
      rw [if_pos rfl] at hnext
      cases hnext
      have hmarked (hrows : w.Marked commandId) : (handleWorkerOp settings
          (.markProcessingFailed commandId error) choice w).2.Marked commandId :=
        marked_execute hrows (fun _ => rfl) fun _ => rfl
      have hclose (hw : w.Transferred commandId) :
          (handleWorkerOp settings (.markProcessingFailed commandId error) choice w).2.Marked
            commandId ∨
          (handleWorkerOp settings (.markProcessingFailed commandId error) choice w).2.Finished
            commandId :=
        (hcond rfl hw).imp hmarked fun hexhausts => finished_of_exhausted error hexhausts
      exact h.close rfl hmarked (fun _ hw _ => hclose hw) fun _ _ hw => hclose hw
  | releaseLease =>
      cases hop
      cases hnext
      exact h.statement rfl (fun hmarked => marked_execute hmarked (fun _ => rfl) fun _ => rfl)
        fun hfinished => finished_execute hfinished (fun _ hrow => hrow) fun _ => rfl
  | markDryRunDone =>
      cases hop
      cases hnext
      exact h.statement rfl (fun hmarked => marked_execute hmarked (fun _ => rfl) fun _ => rfl)
        fun hfinished => finished_execute hfinished (fun _ _ => rfl) fun _ => rfl
  | commandStatus =>
      cases hnext
      apply h.statement rfl
      · exact fun hmarked =>
          faulty_induction (motive := fun w' : CommandWorld => w'.Marked commandId) hmarked hmarked
      · exact fun hfinished =>
          faulty_induction (motive := fun w' : CommandWorld => w'.Finished commandId) hfinished
            hfinished
  | sendMessage message =>
      cases hnext
      dsimp only [handleWorkerOp, CommandWorld.called]
      split
      · split
        · exact h.congr rfl id id
        · exact h
      · exact h
  | _ => cases hop

theorem TransferInvariant.start {job : CommandJob} {prog : WorkerProg Unit} {w' : CommandWorld}
    (h : TransferInvariant commandId w p)
    (hstart : (commandMachine settings).start job w = some (prog, w')) :
    TransferInvariant commandId w' p := by
  obtain ⟨_, _, _, _, _, _, hcalls⟩ := commandMachine_start hstart
  apply h.congr hcalls.transfersOf
  · exact fun hmarked => commandAll_start hstart hmarked fun _ _ hrow => hrow
  · exact fun hfinished => commandAll_start hstart hfinished fun _ _ hrow => hrow

/-- A worker that raises or returns counts or reports what it has done. -/
theorem transfer_follows_processOne (command : ExternalCommandRow) :
    Follows (transferProtocol command.id) TransferPhase.IsFinal .ready
      (processOnePendingCommand settings command >>= fun _ => .ret ()) := by
  have hready {β : Type} {prog : WorkerProg β} (h : RunsWithin command.id none prog) :
      FollowsTo (transferProtocol command.id) (fun p' _ => p' = .ready) .ready prog :=
    transfer_follows_quiet h (by decide : none ≠ _) rfl
  have hreport {prog : WorkerProg CommandReport} (h : RunsWithin command.id none prog) :
      FollowsTo (transferProtocol command.id) RecordedUnlessRaised .ready prog := by
    apply (hready h).mono
    rintro _ _ rfl _
    decide
  have hprocess : FollowsTo (transferProtocol command.id) (fun p' _ => p'.IsFinal) .ready
      (processOnePendingCommand settings command) := by
    by_cases htype : command.commandType = "human_handoff.requested"
    · have hbody : FollowsTo (transferProtocol command.id) RecordedUnlessRaised .ready
          (processCommand settings command) := by
        apply (hready (neutral_commandBlockedByHumanActive settings command).within).bind
        · rintro _ blocked rfl
          split_ifs
          · exact hreport (runsWithin_finishWith command _ _ _)
          · exact hreport (runsWithin_processDryRunCommand settings command)
          · unfold processRealCommand
            rw [if_neg (by rw [htype]; decide), if_neg (by rw [htype]; decide),
              if_neg (by rw [htype]; decide), if_neg (by rw [htype]; decide), if_pos htype]
            exact transfer_follows_processHandoff command
          · intro herror
            cases herror
        · intro _ _ _ herror
          cases herror
      apply hbody.tryCatch
      · intro p' _ hrecorded
        exact hrecorded rfl
      · intro p' exc _
        have hfailed : FollowsTo (transferProtocol command.id) (fun p'' _ => p''.IsFinal) p'
            (WorkerOp.markProcessingFailed command.id (exc.text settings.runtime)).call := by
          apply FollowsTo.perform
          intro r
          refine ⟨p'.finish true, congrArg some (if_pos rfl), ?_⟩
          cases p' <;> decide
        apply hfailed.bind
        · intro _ _ hfinal
          exact hfinal
        · intro _ _ hfinal
          exact hfinal
    · have hdelivery : deliveryOf command.commandType ≠ some .transfer := by
        unfold deliveryOf
        split_ifs <;> simp
      apply (transfer_follows_quiet (runsWithin_processOnePendingCommand settings command)
        hdelivery rfl).mono
      rintro _ _ rfl
      decide
  apply hprocess.bind
  · intro _ _ hfinal
    exact hfinal
  · intro _ _ hfinal
    exact hfinal

/-- The worker of a marked row transfers nothing. -/
theorem transfer_follows_marked {command : ExternalCommandRow} (h : command.TransferMarked) :
    Follows (transferProtocol command.id) TransferPhase.IsFinal .marked
      (processOnePendingCommand settings command >>= fun _ => .ret ()) := by
  have hprocess : FollowsTo (transferProtocol command.id) (fun p' _ => p' = .marked) .marked
      (processOnePendingCommand settings command) := by
    by_cases htype : command.commandType = "human_handoff.requested"
    · have hreal : RunsWithin command.id none (processRealCommand settings command) := by
        unfold processRealCommand
        rw [if_neg (by rw [htype]; decide), if_neg (by rw [htype]; decide),
          if_neg (by rw [htype]; decide), if_neg (by rw [htype]; decide), if_pos htype]
        exact runsWithin_of_marked h
      exact transfer_follows_quiet (runsWithin_of_real hreal) (by decide : none ≠ _) rfl
    · have hdelivery : deliveryOf command.commandType ≠ some .transfer := by
        unfold deliveryOf
        split_ifs <;> simp
      exact transfer_follows_quiet (runsWithin_processOnePendingCommand settings command)
        hdelivery rfl
  apply hprocess.bind
  · rintro _ _ rfl
    change TransferPhase.IsFinal .marked
    decide
  · rintro _ _ rfl
    decide

theorem isSoloInvariant_transfer (settings : CommandSettings) (commandId : Nat) :
    @IsSoloInvariant workerOps (commandMachine settings) TransferPhase
      (fun op => op.commandId? = some commandId) (transferProtocol commandId)
      TransferPhase.IsFinal (NoRetryAfterTransfer settings commandId)
      (TransferInvariant commandId) where
  own hw hcond hnext hop := hw.own hcond hnext hop
  other hw _ hop := hw.congr (transfersOf_other hop) (commandAll_other hop) (commandAll_other hop)
  phase p op r p' hnext hop := by
    have hkeep : p.next commandId op r = some p := transfer_next_other r hop
    exact Option.some.inj (hnext.symm.trans hkeep)
  env {w p} event hw := by
    have hcalls : SameCalls w (w.after event) := sameCalls_after event
    apply hw.congr hcalls.transfersOf
    · exact fun hmarked => commandAll_after event hmarked (fun _ _ hrow => hrow)
        fun _ _ hrow => hrow
    · exact fun hfinished => commandAll_after event hfinished (fun _ _ hrow => hrow)
        fun _ _ _ => rfl
  beside hw hstart _ := hw.start hstart
  spawn {w p job prog w'} hw hfinal hstart := by
    obtain ⟨stored, hmem, hid, hopen, rfl, -, hcalls⟩ := commandMachine_start hstart
    have hkeep : TransferInvariant commandId w' p := hw.start hstart
    by_cases hjob : job.commandId = commandId
    · have hown : stored.id = commandId := hid.trans hjob
      have hmarked (hrows : w.Marked commandId) : ∃ p', Follows (transferProtocol commandId)
          TransferPhase.IsFinal p' (processOnePendingCommand settings
            { stored with lease := .taken job.workerId w.db.now job.leaseSeconds } >>= fun _ =>
              .ret ()) ∧ TransferInvariant commandId w' p' := by
        refine ⟨.marked, ?_, ?_⟩
        · rw [← hown]
          exact @transfer_follows_marked settings
            { stored with lease := .taken job.workerId w.db.now job.leaseSeconds }
            (hrows stored hmem hown)
        · apply hkeep.move (by decide)
          · exact fun _ => commandAll_start hstart hrows fun _ _ hrow => hrow
          · intro hp
            cases hp
      have hready (hnone : ¬w.Transferred commandId) : ∃ p', Follows (transferProtocol commandId)
          TransferPhase.IsFinal p' (processOnePendingCommand settings
            { stored with lease := .taken job.workerId w.db.now job.leaseSeconds } >>= fun _ =>
              .ret ()) ∧ TransferInvariant commandId w' p' := by
        refine ⟨.ready, ?_, ?_⟩
        · rw [← hown]
          exact transfer_follows_processOne
            { stored with lease := .taken job.workerId w.db.now job.leaseSeconds }
        · refine ⟨hkeep.once, fun _ => ?_, (fun hp => nomatch hp), (fun hp => nomatch hp)⟩
          change true ∉ CommandWorld.transfersOf w' commandId
          rw [hcalls.transfersOf]
          exact hnone
      cases p with
      | ready => exact hready (hw.ready rfl)
      | called => exact absurd rfl hfinal
      | marked => exact hmarked (hw.marked rfl)
      | done =>
          by_cases htransferred : w.Transferred commandId
          · rcases hw.done rfl htransferred with hrows | hfinished
            · exact hmarked hrows
            · have hclosed : stored.status.isOpen = false := hfinished stored hmem hown
              rw [hopen] at hclosed
              cases hclosed
          · exact hready htransferred
    · refine ⟨p, ?_, hkeep⟩
      have hothers : FollowsTo (transferProtocol commandId) (fun p' _ => p' = p) p
          (processOnePendingCommand settings
            { stored with lease := .taken job.workerId w.db.now job.leaseSeconds }) := by
        apply transfer_follows_other
        apply (runsWithin_processOnePendingCommand settings _).mono
        intro op hop
        rcases hop.1 with hnone | hsome
        · rw [hnone]
          simp
        · rw [hsome]
          intro heq
          exact hjob (hid.symm.trans (Option.some.inj heq))
      apply hothers.bind
      · rintro _ _ rfl
        exact hfinal
      · rintro _ _ rfl
        exact hfinal

end Invariant

/-! ## Runs -/

/-- When a command is not leased while it is still being processed, and a failure after its
transfer is only counted when the transfer is marked or when it is the last failure, no
transfer is called after one that returned. -/
theorem transferred_once {T : Type} [DecidableEq T] (settings : CommandSettings)
    (commandId : Nat) (db : Database) (labels : List (Label (commandMachine settings) T))
    (hlabels : AllSteps (fun c l => Executes (NoRetryAfterTransfer settings commandId) c l ∧
      LeasedAlone settings commandId c l) (commandStart settings T db) labels) :
    (commandWorld db labels).TransferredOnce commandId := by
  have hstart : TracksSolo (fun op : WorkerOp => op.commandId? = some commandId)
      (transferProtocol commandId) TransferPhase.IsFinal (TransferInvariant commandId)
      (commandStart settings T db) := by
    apply tracksSolo_idle (p := .ready)
    · exact ⟨List.Pairwise.nil, fun _ => List.not_mem_nil, (fun hp => nomatch hp),
        (fun hp => nomatch hp)⟩
    · decide
  obtain ⟨p, hworld, -⟩ := hstart.run (isSoloInvariant_transfer settings commandId) hlabels
  exact hworld.once

/-- A row of `external_commands`. -/
def handoffCommand : ExternalCommandRow :=
  pendingCommand 1 "human_handoff.requested" (.ofList [("handoff_ack_mode", .str "direct_notice")])

abbrev HandoffLabel := Label (commandMachine .plain) Unit

/-- A worker leases the command. -/
def leaseHandoff : HandoffLabel := .spawn () ⟨1, "worker", 60⟩

/-- The worker takes a step. -/
def handoffStep (choice : CommandChoice) : HandoffLabel := .act () choice

/-- The marker and the status are both lost. -/
def lostMarker : List HandoffLabel :=
  [leaseHandoff, handoffStep .good, handoffStep .good, handoffStep .lost, handoffStep .lost,
    handoffStep .good, leaseHandoff, handoffStep .good, handoffStep .good]

/-- A transfer that is neither marked nor reported is repeated. -/
theorem unmarked_transfer_is_repeated :
    (commandWorld (databaseWith handoffCommand) lostMarker).transfersOf 1 = [true, true] ∧
      ¬(commandWorld (databaseWith handoffCommand) lostMarker).TransferredOnce 1 := by
  decide +kernel

/-- The marker is lost, but the status is stored. -/
def reportedTransfer : List HandoffLabel :=
  [leaseHandoff, handoffStep .good, handoffStep .good, handoffStep .lost, handoffStep .good,
    leaseHandoff]

theorem reported_transfer_is_not_repeated :
    (commandWorld (databaseWith handoffCommand) reportedTransfer).transfersOf 1 = [true] ∧
      (commandWorld (databaseWith handoffCommand) reportedTransfer).TransferredOnce 1 := by
  constructor
  · decide +kernel
  · apply transferred_once
    apply AllSteps.and
    · decide +kernel
    · have hidle : AllSteps StartsIdle
          (commandStart .plain Unit (databaseWith handoffCommand)) reportedTransfer := by
        decide +kernel
      exact hidle.mono fun c l hstart => hstart.startsAlone _

end AiCustomerService
