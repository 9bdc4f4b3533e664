import AiCustomerService.Support.Pool
import AiCustomerService.Workers.ResultConsumer

/-!
# Repeated backend failures

Failed backend queries of a conversation are counted in its slot memory, and the
second one hands the conversation over.  The count is read before the model is asked
and written by a later transaction, so two rows of a batch can write the same count.
-/

namespace AiCustomerService

open Support

/-! ## The world -/

/-- The database, and the rows whose transaction has committed, each with
`human_active_skipped`. -/
structure CountWorld where
  db : Database
  commits : List (Nat × Bool)

/-- The failures that have been counted. -/
def CountWorld.counted (w : CountWorld) : Nat := (w.commits.filter fun commit => !commit.2).length

/-- What the schedule decides about an operation. -/
structure CountChoice where
  fault : Option (Fault ServiceError)
  unchanged : Bool
  composed : Except ServiceError String

/-- The transaction of a row without a failure of the connection. -/
def commitHandler (previous : Option ConversationRow) (choice : CountChoice) (w : CountWorld)
    (row : ExternalResultRow) (handler : ResultHandler) (outboundMessages : List OutboundMessage) :
    Except ServiceError Unit × CountWorld :=
  match processResultTransactionally w.db ⟨previous, choice.unchanged⟩ row.ref
      handler.graphState outboundMessages handler.externalCommands
      (some (buildExternalResultSummaryMessage row handler)) with
  | .ok (db, result) => (.ok (), ⟨db, (row.id, result.humanActiveSkipped) :: w.commits⟩)
  | .error e => (.error (.python e), w)

/-- Execute an operation; every statement may fail. -/
def handleConsumerOp (settings : ConsumerSettings) (previous : Option ConversationRow) :
    (op : ConsumerOp) → CountChoice → CountWorld → Except ServiceError op.Res × CountWorld
  | .getOrCreate chatId threadId, choice, w =>
      let loaded := getOrCreateOnConnection w.db ⟨previous, choice.unchanged⟩ chatId threadId
      faulty choice.fault w (.ok loaded.2, { w with db := loaded.1 })
  | .markProcessed resultId, choice, w =>
      faulty choice.fault w (.ok (), { w with db := markResultProcessed w.db resultId })
  | .fetchRecent _, choice, w => faulty choice.fault w (.ok (), w)
  | .compose _, choice, w => (choice.composed, w)
  | .finalizeUserVisibleText _, choice, w => (choice.composed, w)
  | .processResult row _ handler outboundMessages, choice, w =>
      faulty choice.fault w (commitHandler previous choice w row handler outboundMessages)
  | .markProcessingFailed resultId error, choice, w =>
      faulty choice.fault w
        (.ok (), { w with db := markResultProcessingFailed w.db resultId error settings.maxRetries })

/-- A worker leases a row; the columns that `process_one` reads never change. -/
structure LeaseJob where
  index : Nat
  workerId : String
  leaseSeconds : Nat

/-- Any number of workers lease the rows and process them; an event lets time pass. -/
def countMachine (settings : ConsumerSettings) (previous : Option ConversationRow)
    (rows : List ExternalResultRow) : Machine consumerOps where
  World := CountWorld
  Choice := CountChoice
  Env := Nat
  Job := LeaseJob
  handle := handleConsumerOp settings previous
  environ elapsed w := { w with db := { w.db with now := w.db.now + elapsed } }
  start job w :=
    match rows[job.index]? with
    | none => none
    | some row =>
        (w.db.leaseResult? row.id job.workerId job.leaseSeconds).map fun db =>
          (processOne settings row >>= fun _ => .ret (), { w with db })

/-! ## Counters -/

/-- `int(slot_memory.get("backend_query_failed_count") or 0)`. -/
def failedCount (rt : Runtime) (slotMemory : JsonObject) : Except PyError Int :=
  (getKey slotMemory "backend_query_failed_count").intOrZero rt

/-- `bool(slot_memory.get("backend_not_found_handoff_requested"))`. -/
def handoffFlag (slotMemory : JsonObject) : Bool :=
  (getKey slotMemory "backend_not_found_handoff_requested").truthy

/-- The rows of the property: failed backend queries of one conversation. -/
structure FailedQuery (chatId : String) (threadId : Option String) (row : ExternalResultRow) :
    Prop where
  resultType : row.resultType = "backend.query.result"
  failed : (getKey row.resultJson "status").eqText "failed" = true
  chatId_eq : row.chatId = chatId
  threadId_eq : row.threadId = threadId
  conversationId_eq : row.conversationId = conversationIdForChat (some chatId) threadId

/-- The command of a handoff after `count` failures. -/
def failedHandoffCommand (row : ExternalResultRow) (count : Int) : ExternalCommand :=
  resultCommand row (.ofList [
    ("reason", .str failedLookup.handoffReason),
    ("trigger", .str failedLookup.name),
    ("threshold", .int backendNotFoundHandoffThreshold),
    ("count", .int count)])

/-- The failure after `existing` ones hands the conversation over. -/
def handsOver (existing : Int) (slotMemory : JsonObject) : Bool :=
  decide (backendNotFoundHandoffThreshold ≤ existing + 1) && !handoffFlag slotMemory

/-- What the handler of a failed query does after `existing` failures. -/
structure CountsFailure (row : ExternalResultRow) (slotMemory : JsonObject) (existing : Int)
    (handler : ResultHandler) : Prop where
  memory : ∃ updated, handler.graphState.slotMemory = some updated ∧
    updated.get? "backend_query_failed_count" = some (.int (existing + 1)) ∧
    (handsOver existing slotMemory = false →
      updated.get? "backend_not_found_handoff_requested" = none)
  kept : handler.graphState.deleteSlotMemoryKeys = []
  status : handler.graphState.status =
    some (if handsOver existing slotMemory then .handoffRequested else .waitingExternal)
  commands : handler.externalCommands =
    if handsOver existing slotMemory then [failedHandoffCommand row (existing + 1)] else []

/-- The text of a reply does not matter. -/
theorem CountsFailure.with_text {row : ExternalResultRow} {slotMemory : JsonObject}
    {existing : Int} {handler : ResultHandler} (h : CountsFailure row slotMemory existing handler)
    (text : String) : CountsFailure row slotMemory existing { handler with text } :=
  ⟨h.memory, h.kept, h.status, h.commands⟩

/-- The handler of a failed query counts it. -/
theorem countsFailure_of_build {rt : Runtime} {render : Renderer} {chatId : String}
    {threadId : Option String} {row : ExternalResultRow} {slotMemory : JsonObject}
    {recordedAt : String} {handler : ResultHandler} (hrow : FailedQuery chatId threadId row)
    (h : buildResultHandler rt render row slotMemory recordedAt = .ok handler) :
    ∃ existing, failedCount rt slotMemory = .ok existing ∧
      CountsFailure row slotMemory existing handler := by
  have hbuild : backendFailedHandler rt render row slotMemory = .ok handler := by
    unfold buildResultHandler at h
    simpa [hrow.resultType, hrow.failed] using h
  unfold backendFailedHandler at hbuild
  obtain ⟨rendered, -, hbuild⟩ := bind_eq_ok.mp hbuild
  obtain ⟨escalation, hescalation, hpure⟩ := bind_eq_ok.mp hbuild
  obtain ⟨existing, count, hexisting, hcount, hshould, hmemory, hcommands⟩ :=
    countLookup_ok hescalation
  have hcount : count = existing + 1 := hcount rfl
  subst hcount
  have hshould : escalation.shouldHandoff = handsOver existing slotMemory := hshould
  cases hpure
  refine ⟨existing, hexisting, ?_⟩
  rw [hshould] at hmemory hcommands ⊢
  cases hover : handsOver existing slotMemory with
  | true =>
      rw [hover] at hmemory hcommands
      refine ⟨⟨_, rfl, ?_, fun h => by simp [hover] at h⟩, rfl, by simp [hover, handlerState], ?_⟩
      · simp [hmemory, failedLookup, Dict.ofList, Dict.get?_set]
      · simp [hcommands, hover, failedHandoffCommand]
  | false =>
      rw [hover] at hmemory hcommands
      refine ⟨⟨_, rfl, ?_, fun _ => ?_⟩, rfl, by simp [hover, handlerState], ?_⟩
      · simp [hmemory, failedLookup, Dict.ofList, Dict.get?_set]
      · simp [hmemory, failedLookup, Dict.ofList, Dict.get?_set]
      · simp [hcommands, hover]

/-! ## What a commit does -/

/-- A conversation that is waiting is not continued from an earlier thread. -/
theorem viewOf_of_busy {row : ConversationRow} (hbusy : row.status ≠ .aiActive)
    (previous : Option ConversationRow) : (viewOf row previous).toConversationRow = row := by
  cases previous with
  | none => rfl
  | some previous =>
      have hfresh : isFreshAiState row = false := by simp [isFreshAiState, hbusy]
      change inheritUnfinishedThreadState row previous = row
      simp [inheritUnfinishedThreadState, hfresh]

/-- What the next transaction sees of a conversation after a commit. -/
theorem viewed_of_commit {db db' : Database} {ctx ctx' : TxContext} {ref : ResultRef}
    {graphState : GraphState} {messages : List OutboundMessage}
    {commands : List ExternalCommand} {summary : Option ConversationMessage}
    {result : TransactionResult} {status : ConversationStatus} {updated : JsonObject}
    (h : processResultTransactionally db ctx ref graphState messages commands summary =
      .ok (db', result))
    (hskip : result.humanActiveSkipped = false) (hstatus : graphState.status = some status)
    (hbusy : status ≠ .aiActive) (hmemory : graphState.slotMemory = some updated)
    (hkept : graphState.deleteSlotMemoryKeys = []) :
    (db'.conversation? (conversationIdForChat (some ref.chatId) ref.threadId)).map
        ConversationRow.status = some status ∧
      (db'.viewed ctx' ref.chatId ref.threadId).status = status ∧
      (db'.viewed ctx' ref.chatId ref.threadId).slotMemory =
        (db.viewed ctx ref.chatId ref.threadId).slotMemory.merge updated := by
  have hrow := processResult_conversation? h hskip
  generalize hnew : (db.ensuredRow ref.chatId ref.threadId).withGraphState
    (graphState.mergedOver (db.viewed ctx ref.chatId ref.threadId).slotMemory) = row at hrow
  have hnewStatus : row.status = status := by
    rw [← hnew]
    simp [ConversationRow.withGraphState, GraphState.mergedOver, hmemory, hstatus]
  have hnewMemory : row.slotMemory =
      (db.viewed ctx ref.chatId ref.threadId).slotMemory.merge updated := by
    rw [← hnew]
    simp [ConversationRow.withGraphState, GraphState.mergedOver, hmemory, hkept, Dict.eraseAll]
  have hensured : db'.ensuredRow ref.chatId ref.threadId =
      { row with currentThreadId := ref.threadId } := by
    rw [Database.ensuredRow, Database.rowAfterInsert, hrow]
  have hview : (db'.viewed ctx' ref.chatId ref.threadId).toConversationRow =
      { row with currentThreadId := ref.threadId } := by
    have hbusyRow : (db'.ensuredRow ref.chatId ref.threadId).status ≠ .aiActive := by
      rw [hensured]
      exact hnewStatus ▸ hbusy
    rw [Database.viewed, viewOf_of_busy hbusyRow, hensured]
  refine ⟨by rw [hrow, Option.map_some, hnewStatus], ?_, ?_⟩
  · rw [hview]
    exact hnewStatus
  · rw [hview]
    exact hnewMemory

/-- The command asks for a handoff of the conversation. -/
def isHandoffCommand (conversationId : String) (row : ExternalCommandRow) : Bool :=
  decide (row.commandType = CommandType.humanHandoffRequested.text) &&
    decide (row.conversationId = conversationId)

/-- The handoff commands of a conversation. -/
def handoffCommands (db : Database) (conversationId : String) : Nat :=
  (db.externalCommands.rows.filter (isHandoffCommand conversationId)).length

/-- The handoff command of a row after two failures, as it is stored. -/
def secondFailureCommand (row : ExternalResultRow) : ExternalCommand :=
  { failedHandoffCommand row backendNotFoundHandoffThreshold with
    conversationId := conversationIdForChat (some row.chatId) row.threadId }

/-- The external commands after a commit that was not skipped. -/
theorem commands_of_commit {db db' : Database} {ctx : TxContext} {ref : ResultRef}
    {graphState : GraphState} {messages : List OutboundMessage}
    {commands : List ExternalCommand} {summary : Option ConversationMessage}
    {result : TransactionResult}
    (h : processResultTransactionally db ctx ref graphState messages commands summary =
      .ok (db', result)) (hskip : result.humanActiveSkipped = false) :
    ∃ mid : Database, mid.externalCommands = db.externalCommands ∧ ∃ last inserts,
      insertEach insertExternalCommand mid (commands.map fun command =>
        { command with conversationId := conversationIdForChat (some ref.chatId) ref.threadId }) =
          .ok (last, inserts) ∧
        db'.externalCommands = last.externalCommands := by
  rcases processResult_cases h with hskipped | henqueued
  · rw [hskipped.skipped] at hskip
    cases hskip
  · obtain ⟨base, queued, -, hbase, henqueue, -, hdb'⟩ := henqueued.queued
    obtain ⟨mid, hmessages, hcommands⟩ := enqueue_ok henqueue
    refine ⟨mid, ?_, queued, _, hcommands, hdb'⟩
    rw [insertOutbounds_frame hmessages]
    exact hbase

/-- A commit without commands. -/
theorem commands_of_commit_nil {db db' : Database} {ctx : TxContext} {ref : ResultRef}
    {graphState : GraphState} {messages : List OutboundMessage}
    {summary : Option ConversationMessage} {result : TransactionResult}
    (h : processResultTransactionally db ctx ref graphState messages [] summary =
      .ok (db', result)) (hskip : result.humanActiveSkipped = false) :
    db'.externalCommands = db.externalCommands := by
  obtain ⟨mid, hmid, last, inserts, hinsert, hdb'⟩ := commands_of_commit h hskip
  cases hinsert
  exact hdb'.trans hmid

/-- A commit with the handoff command of the second failure. -/
theorem handoffCommands_of_commit {db db' : Database} {ctx : TxContext}
    {row : ExternalResultRow} {graphState : GraphState} {messages : List OutboundMessage}
    {summary : Option ConversationMessage} {result : TransactionResult}
    (h : processResultTransactionally db ctx row.ref graphState messages
      [failedHandoffCommand row backendNotFoundHandoffThreshold] summary = .ok (db', result))
    (hskip : result.humanActiveSkipped = false)
    (hfree : ¬db.externalCommands.hasKey (externalCommandDedupKey (secondFailureCommand row))) :
    handoffCommands db' (conversationIdForChat (some row.chatId) row.threadId) =
      handoffCommands db (conversationIdForChat (some row.chatId) row.threadId) + 1 := by
  obtain ⟨mid, hmid, last, inserts, hinsert, hdb'⟩ := commands_of_commit h hskip
  obtain ⟨first, report, others, hfirst, hrest, -⟩ := insertEach_cons.mp hinsert
  cases hrest
  have hrows : last.externalCommands.rows = mid.externalCommands.rows ++
      [(secondFailureCommand row).row (mid.externalCommands.rows.length + 1) mid.now
        row.chatId] := by
    cases hfirst
    apply Table.rows_insertIdempotent_of_not_hasKey
    rw [hmid]
    exact hfree
  have hmine : ∀ id now, isHandoffCommand (conversationIdForChat (some row.chatId) row.threadId)
      ((secondFailureCommand row).row id now row.chatId) = true := by
    intro id now
    simp [isHandoffCommand, ExternalCommand.row, secondFailureCommand, failedHandoffCommand,
      resultCommand, buildExternalCommandRecord]
  rw [handoffCommands, handoffCommands, hdb', hrows, hmid, List.filter_append,
    List.length_append, List.filter_cons_of_pos (hmine _ _), List.filter_nil, List.length_singleton]

/-! ## The protocol of the consumer -/

section Protocol

variable {settings : ConsumerSettings} {chatId : String} {threadId : Option String}
  {rows : List ExternalResultRow}

/-- The consumer loads the conversation, and it commits what it built from the slot memory
that it loaded.  A phase is that slot memory, when the conversation was not locked. -/
def CountProtocol (settings : ConsumerSettings) (chatId : String) (threadId : Option String)
    (rows : List ExternalResultRow) : Protocol consumerOps (Option JsonObject) :=
  fun phase op r phase' =>
    match op, r with
    | .getOrCreate chat thread, .ok view =>
        chat = chatId ∧ thread = threadId ∧
          phase' = if view.status.isLocked then none else some view.slotMemory
    | .getOrCreate chat thread, .error _ => chat = chatId ∧ thread = threadId ∧ phase' = none
    | .processResult row loaded handler outboundMessages, _ =>
        row ∈ rows ∧ phase = some loaded.slotMemory ∧
          (∃ existing, failedCount settings.runtime loaded.slotMemory = .ok existing ∧
            CountsFailure row loaded.slotMemory existing handler) ∧
          (∀ message ∈ outboundMessages, message.chatId.isSome) ∧ phase' = phase
    | _, _ => phase' = phase

/-- The final reply replaces the text of a handler and nothing else. -/
theorem followsTo_applyBackendFinalReply {phase : Option JsonObject} (row : ExternalResultRow)
    (handler : ResultHandler) :
    FollowsTo (CountProtocol settings chatId threadId rows)
      (fun phase' r => phase' = phase ∧ ∀ replied, r = .ok replied →
        ∃ text, replied = { handler with text })
      phase (applyBackendFinalReply settings row handler) := by
  have hsame : ∃ text, handler = { handler with text } := ⟨handler.text, rfl⟩
  have hpure : phase = phase ∧ ∀ replied,
      (Except.ok handler : Except ServiceError ResultHandler) = .ok replied →
        ∃ text, replied = { handler with text } := by
    refine ⟨rfl, ?_⟩
    intro replied hreplied
    cases hreplied
    exact hsame
  have hcall : ∀ op : ConsumerOp, (∀ r, CountProtocol settings chatId threadId rows phase op r phase) →
      FollowsTo (CountProtocol settings chatId threadId rows) (fun phase' _ => phase' = phase)
        phase op.call :=
    fun op hop => FollowsTo.perform fun r => ⟨phase, hop r, rfl⟩
  unfold applyBackendFinalReply
  dsimp only
  split
  · split
    · exact hpure
    · apply (hcall (.finalizeUserVisibleText (strip handler.text)) fun _ => rfl).bind
      · rintro phase' text rfl
        refine ⟨rfl, ?_⟩
        intro replied hreplied
        cases hreplied
        exact ⟨text, rfl⟩
      · rintro phase' e rfl
        exact ⟨rfl, fun replied hreplied => by cases hreplied⟩
  · split
    · exact hpure
    · split
      · exact hpure
      · have hcompose : FollowsTo (CountProtocol settings chatId threadId rows)
            (fun phase' _ => phase' = phase) phase
            (composeBackendReply settings (strip handler.text)) := by
          unfold composeBackendReply
          split
          · exact rfl
          · apply (hcall (.compose (strip handler.text)) fun _ => rfl).attempt.bind
            · rintro phase' outcome ⟨-, -, rfl⟩
              split
              · exact rfl
              · split
                · exact rfl
                · exact rfl
            · rintro phase' e ⟨outcome, houtcome, -⟩
              cases houtcome
        apply hcompose.bind
        · rintro phase' text rfl
          refine ⟨rfl, ?_⟩
          intro replied hreplied
          cases hreplied
          exact ⟨text, rfl⟩
        · rintro phase' e rfl
          exact ⟨rfl, fun replied hreplied => by cases hreplied⟩

/-- A row is committed with the handler that its slot memory led to. -/
theorem follows_handleResult {row : ExternalResultRow} (hmem : row ∈ rows)
    (hrow : FailedQuery chatId threadId row) (loaded : ConversationView) :
    Follows (CountProtocol settings chatId threadId rows) (fun _ => True)
      (some loaded.slotMemory) (handleResult settings row loaded) := by
  unfold handleResult
  cases hbuild : buildResultHandler settings.runtime settings.render row loaded.slotMemory
      settings.recordedAt with
  | error e => trivial
  | ok handler =>
      obtain ⟨existing, hexisting, hcounts⟩ := countsFailure_of_build hrow hbuild
      have hrecent : FollowsTo (CountProtocol settings chatId threadId rows)
          (fun phase _ => phase = some loaded.slotMemory) (some loaded.slotMemory)
          (loadRecentMessages settings row) := by
        unfold loadRecentMessages
        split
        · exact FollowsTo.perform fun r => ⟨_, rfl, rfl⟩
        · exact rfl
      apply hrecent.bind
      · rintro phase _ rfl
        apply (followsTo_applyBackendFinalReply row handler).bind
        · rintro phase replied ⟨rfl, hreplied⟩
          obtain ⟨text, rfl⟩ := hreplied replied rfl
          have hchat : ∀ message ∈ [buildResultOutbox row text
              (handler.graphState.status = some .handoffRequested)], message.chatId.isSome := by
            intro message hmessage
            rw [List.mem_singleton.mp hmessage]
            simp [buildResultOutbox, hrow.resultType, buildTextOutbox]
            split
            · rfl
            · rfl
          have hcommit : FollowsTo (CountProtocol settings chatId threadId rows)
              (fun _ _ => True) (some loaded.slotMemory)
              (ConsumerOp.processResult row loaded { handler with text }
                [buildResultOutbox row text
                  (handler.graphState.status = some .handoffRequested)]).call :=
            FollowsTo.perform fun r =>
              ⟨_, ⟨hmem, rfl, ⟨existing, hexisting, hcounts.with_text text⟩, hchat, rfl⟩, trivial⟩
          exact hcommit.bind (fun _ _ _ => trivial) fun _ _ _ => trivial
        · rintro phase e -
          trivial
      · rintro phase e -
        trivial

theorem follows_processOne {row : ExternalResultRow} (hmem : row ∈ rows)
    (hrow : FailedQuery chatId threadId row) :
    Follows (CountProtocol settings chatId threadId rows) (fun _ => True) none
      (processOne settings row) := by
  have hmark : ∀ (phase : Option JsonObject) (error : String),
      FollowsTo (CountProtocol settings chatId threadId rows) (fun _ _ => True) phase
        (ConsumerOp.markProcessingFailed row.id error).call :=
    fun phase error => FollowsTo.perform fun r => ⟨phase, rfl, trivial⟩
  have hbody : FollowsTo (CountProtocol settings chatId threadId rows) (fun _ _ => True) none
      (processRow settings row) := by
    have hload : FollowsTo (CountProtocol settings chatId threadId rows)
        (fun phase r => ∀ view : ConversationView, r = .ok view →
          phase = if view.status.isLocked then none else some view.slotMemory) none
        (ConsumerOp.getOrCreate row.chatId row.threadId).call := by
      apply FollowsTo.perform
      intro r
      cases r with
      | ok view =>
          refine ⟨_, ⟨hrow.chatId_eq, hrow.threadId_eq, rfl⟩, ?_⟩
          intro view' hview
          cases hview
          rfl
      | error e =>
          refine ⟨none, ⟨hrow.chatId_eq, hrow.threadId_eq, rfl⟩, ?_⟩
          intro view hview
          cases hview
    apply hload.bind
    · intro phase view hphase
      have hphase := hphase view rfl
      by_cases hlocked : view.status.isLocked = true
      · rw [if_pos hlocked] at hphase ⊢
        have hprocessed : FollowsTo (CountProtocol settings chatId threadId rows)
            (fun _ _ => True) phase (ConsumerOp.markProcessed row.id).call :=
          FollowsTo.perform fun r => ⟨phase, rfl, trivial⟩
        exact hprocessed.bind (fun _ _ _ => trivial) fun _ _ _ => trivial
      · rw [if_neg hlocked] at hphase ⊢
        rw [hphase]
        exact follows_handleResult hmem hrow view
    · intro phase e _
      trivial
  apply hbody.tryCatch
  · intro phase report _
    trivial
  · intro phase exc _
    exact (hmark phase _).bind (fun _ _ _ => trivial) fun _ _ _ => trivial

end Protocol

/-! ## Counting and handing over -/

/-- The conversation as the next transaction sees it. -/
def CountWorld.loaded (w : CountWorld) (previous : Option ConversationRow) (chatId : String)
    (threadId : Option String) : ConversationView :=
  w.db.viewed ⟨previous, false⟩ chatId threadId

/-- The stored status of a conversation. -/
def Database.statusOf (db : Database) (conversationId : String) : Option ConversationStatus :=
  (db.conversation? conversationId).map ConversationRow.status

section Run

variable {settings : ConsumerSettings} {previous : Option ConversationRow} {chatId : String}
  {threadId : Option String} {rows : List ExternalResultRow} {db₀ : Database}

/-- No commit has lost a failure that was counted before it. -/
def NoFailureLost (settings : ConsumerSettings) (previous : Option ConversationRow)
    (chatId : String) (threadId : Option String) (w : CountWorld) : Prop :=
  failedCount settings.runtime (w.loaded previous chatId threadId).slotMemory = .ok w.counted

/-- After two commits the conversation is handed over, by one command. -/
def HandedOverAfterTwo (db₀ : Database) (chatId : String) (threadId : Option String)
    (w : CountWorld) : Prop :=
  2 ≤ w.commits.length →
    w.db.statusOf (conversationIdForChat (some chatId) threadId) = some .handoffRequested ∧
      handoffCommands w.db (conversationIdForChat (some chatId) threadId) =
        handoffCommands db₀ (conversationIdForChat (some chatId) threadId) + 1

/-- When a transaction takes effect on a conversation that is not locked, the stored
failure count is the one that its handler was built from. -/
def CountsOnStored (settings : ConsumerSettings) (previous : Option ConversationRow)
    (chatId : String) (threadId : Option String) (w : CountWorld) (op : ConsumerOp)
    (choice : CountChoice) : Prop :=
  ∀ row loaded handler outboundMessages,
    op = .processResult row loaded handler outboundMessages →
    choice.fault.all Fault.applied = true →
    (w.loaded previous chatId threadId).status.isLocked = false →
    failedCount settings.runtime (w.loaded previous chatId threadId).slotMemory =
      failedCount settings.runtime loaded.slotMemory

/-- Fewer than two failures have been committed. -/
structure Counting (settings : ConsumerSettings) (previous : Option ConversationRow)
    (chatId : String) (threadId : Option String) (rows : List ExternalResultRow)
    (db₀ : Database) (w : CountWorld) : Prop where
  unlocked : (w.loaded previous chatId threadId).status.isLocked = false
  noneLost : NoFailureLost settings previous chatId threadId w
  flag : handoffFlag (w.loaded previous chatId threadId).slotMemory = false
  all : w.commits.length = w.counted
  few : w.counted < 2
  free : ∀ row ∈ rows,
    ¬w.db.externalCommands.hasKey (externalCommandDedupKey (secondFailureCommand row))
  commands : handoffCommands w.db (conversationIdForChat (some chatId) threadId) =
    handoffCommands db₀ (conversationIdForChat (some chatId) threadId)

/-- The second failure has been committed. -/
structure HandedOver (settings : ConsumerSettings) (previous : Option ConversationRow)
    (chatId : String) (threadId : Option String) (db₀ : Database) (w : CountWorld) : Prop where
  locked : (w.loaded previous chatId threadId).status.isLocked = true
  noneLost : NoFailureLost settings previous chatId threadId w
  status : w.db.statusOf (conversationIdForChat (some chatId) threadId) = some .handoffRequested
  commands : handoffCommands w.db (conversationIdForChat (some chatId) threadId) =
    handoffCommands db₀ (conversationIdForChat (some chatId) threadId) + 1

/-- The invariant of the world. -/
def CountInvariant (settings : ConsumerSettings) (previous : Option ConversationRow)
    (chatId : String) (threadId : Option String) (rows : List ExternalResultRow)
    (db₀ : Database) (w : CountWorld) : Prop :=
  Counting settings previous chatId threadId rows db₀ w ∨
    HandedOver settings previous chatId threadId db₀ w

/-- A step that the count does not see. -/
structure SameCount (previous : Option ConversationRow) (chatId : String)
    (threadId : Option String) (w w' : CountWorld) : Prop where
  loaded : w'.loaded previous chatId threadId = w.loaded previous chatId threadId
  status : ∀ status, w.db.statusOf (conversationIdForChat (some chatId) threadId) = some status →
    w'.db.statusOf (conversationIdForChat (some chatId) threadId) = some status
  commands : w'.db.externalCommands = w.db.externalCommands
  counted : w'.counted = w.counted

/-- Creating the row of the conversation is not seen. -/
theorem sameCount_of_entered {w w' : CountWorld}
    (hstates : w'.db.conversationStates = (w.db.entered chatId threadId).conversationStates)
    (hcommands : w'.db.externalCommands = w.db.externalCommands)
    (hcounted : w'.counted = w.counted) : SameCount previous chatId threadId w w' := by
  refine ⟨?_, ?_, hcommands, hcounted⟩
  · have hensured : w'.db.ensuredRow chatId threadId =
        (w.db.entered chatId threadId).ensuredRow chatId threadId := by
      simp only [Database.ensuredRow, Database.rowAfterInsert, Database.conversation?, hstates]
    rw [CountWorld.loaded, CountWorld.loaded, Database.viewed, Database.viewed, hensured,
      ensuredRow_entered]
  · intro status hstatus
    have hrow : w'.db.conversation? (conversationIdForChat (some chatId) threadId) =
        some (w.db.ensuredRow chatId threadId) := by
      rw [Database.conversation?, hstates]
      change (w.db.entered chatId threadId).conversation? _ = _
      rw [conversation?_entered, if_pos rfl]
    rw [Database.statusOf, hrow, Option.map_some, ← hstatus, Database.statusOf]
    cases hstored : w.db.conversation? (conversationIdForChat (some chatId) threadId) with
    | none => simp [Database.statusOf, hstored] at hstatus
    | some row => simp [Database.ensuredRow, Database.rowAfterInsert, hstored]

/-- A step that writes no conversation is not seen. -/
theorem sameCount_of_states {w w' : CountWorld}
    (hstates : w'.db.conversationStates = w.db.conversationStates)
    (hcommands : w'.db.externalCommands = w.db.externalCommands)
    (hcounted : w'.counted = w.counted) : SameCount previous chatId threadId w w' := by
  refine ⟨?_, ?_, hcommands, hcounted⟩
  · simp only [CountWorld.loaded, Database.viewed, Database.ensuredRow, Database.rowAfterInsert,
      Database.conversation?, hstates]
  · intro status hstatus
    rw [← hstatus]
    simp only [Database.statusOf, Database.conversation?, hstates]

theorem NoFailureLost.congr {w w' : CountWorld} (hsame : SameCount previous chatId threadId w w')
    (h : NoFailureLost settings previous chatId threadId w) :
    NoFailureLost settings previous chatId threadId w' := by
  unfold NoFailureLost at h ⊢
  rw [hsame.loaded, hsame.counted]
  exact h

theorem HandedOver.congr {w w' : CountWorld} (hsame : SameCount previous chatId threadId w w')
    (h : HandedOver settings previous chatId threadId db₀ w) :
    HandedOver settings previous chatId threadId db₀ w' where
  locked := by
    rw [hsame.loaded]
    exact h.locked
  noneLost := h.noneLost.congr hsame
  status := hsame.status _ h.status
  commands := by
    rw [handoffCommands, hsame.commands]
    exact h.commands

theorem Counting.congr {w w' : CountWorld} (hsame : SameCount previous chatId threadId w w')
    (hcommits : w'.commits = w.commits)
    (h : Counting settings previous chatId threadId rows db₀ w) :
    Counting settings previous chatId threadId rows db₀ w' where
  unlocked := by
    rw [hsame.loaded]
    exact h.unlocked
  noneLost := h.noneLost.congr hsame
  flag := by
    rw [hsame.loaded]
    exact h.flag
  all := by
    rw [hcommits, hsame.counted]
    exact h.all
  few := by
    rw [hsame.counted]
    exact h.few
  free := by
    rw [hsame.commands]
    exact h.free
  commands := by
    rw [handoffCommands, hsame.commands]
    exact h.commands

theorem CountInvariant.congr {w w' : CountWorld} (hsame : SameCount previous chatId threadId w w')
    (hcommits : w'.commits = w.commits)
    (h : CountInvariant settings previous chatId threadId rows db₀ w) :
    CountInvariant settings previous chatId threadId rows db₀ w' :=
  h.imp (fun hcounting => hcounting.congr hsame hcommits) fun hover => hover.congr hsame

/-- What one commit of a failed query does to the count. -/
theorem counted_of_commit (settings : ConsumerSettings) {w : CountWorld} {db : Database}
    {choice : CountChoice} {row : ExternalResultRow} {slotMemory : JsonObject} {existing : Int}
    {handler : ResultHandler} {outboundMessages : List OutboundMessage}
    {result : TransactionResult} (hrow : FailedQuery chatId threadId row)
    (hhandler : CountsFailure row slotMemory existing handler)
    (h : processResultTransactionally w.db ⟨previous, choice.unchanged⟩ row.ref
      handler.graphState outboundMessages handler.externalCommands
      (some (buildExternalResultSummaryMessage row handler)) = .ok (db, result))
    (hskip : result.humanActiveSkipped = false) (commits : List (Nat × Bool)) :
    let status : ConversationStatus :=
      if handsOver existing slotMemory then .handoffRequested else .waitingExternal
    let after := CountWorld.loaded ⟨db, commits⟩ previous chatId threadId
    db.statusOf (conversationIdForChat (some chatId) threadId) = some status ∧
      after.status = status ∧ failedCount settings.runtime after.slotMemory = .ok (existing + 1) ∧
      (handsOver existing slotMemory = false →
        handoffFlag after.slotMemory =
          handoffFlag (w.loaded previous chatId threadId).slotMemory) := by
  obtain ⟨updated, hmemory, hcount, hflag⟩ := hhandler.memory
  obtain ⟨rfl, rfl⟩ : chatId = row.ref.chatId ∧ threadId = row.ref.threadId :=
    ⟨hrow.chatId_eq.symm, hrow.threadId_eq.symm⟩
  have hbusy : (if handsOver existing slotMemory then ConversationStatus.handoffRequested
      else .waitingExternal) ≠ .aiActive := by
    split
    · decide
    · decide
  obtain ⟨hstatus, hview, hmerged⟩ := @viewed_of_commit w.db db ⟨previous, choice.unchanged⟩
    ⟨previous, false⟩ row.ref handler.graphState outboundMessages handler.externalCommands _
    result _ updated h hskip hhandler.status hbusy hmemory hhandler.kept
  refine ⟨hstatus, hview, ?_, ?_⟩
  · unfold CountWorld.loaded failedCount getKey
    rw [hmerged, Dict.get?_merge, hcount]
    exact Json.intOrZero_int _ _
  · intro hover
    unfold CountWorld.loaded handoffFlag getKey
    rw [hmerged, Dict.get?_merge, hflag hover, Option.none_or]

/-! ## One step -/

theorem loaded_isLocked (w : CountWorld) :
    (w.loaded previous chatId threadId).status.isLocked =
      (w.db.ensuredRow chatId threadId).status.isLocked :=
  viewOf_isLocked _ _

/-- A commit is skipped exactly when the conversation is locked. -/
theorem skipped_iff_locked {w : CountWorld} {db : Database} {ctx : TxContext}
    {row : ExternalResultRow} {graphState : GraphState} {messages : List OutboundMessage}
    {commands : List ExternalCommand} {summary : Option ConversationMessage}
    {result : TransactionResult} (hrow : FailedQuery chatId threadId row)
    (h : processResultTransactionally w.db ctx row.ref graphState messages commands summary =
      .ok (db, result)) :
    result.humanActiveSkipped = (w.loaded previous chatId threadId).status.isLocked := by
  have hchat : row.ref.chatId = chatId := hrow.chatId_eq
  have hthread : row.ref.threadId = threadId := hrow.threadId_eq
  rw [loaded_isLocked, ← hchat, ← hthread]
  rcases processResult_cases h with hskipped | henqueued
  · rw [hskipped.skipped, hskipped.locked]
  · rw [henqueued.notSkipped, henqueued.free]

/-- A commit on a conversation that is handed over is skipped. -/
theorem HandedOver.commit {w : CountWorld} {db : Database} {ctx : TxContext}
    {row : ExternalResultRow} {graphState : GraphState} {messages : List OutboundMessage}
    {commands : List ExternalCommand} {summary : Option ConversationMessage}
    {result : TransactionResult} (hover : HandedOver settings previous chatId threadId db₀ w)
    (hrow : FailedQuery chatId threadId row)
    (h : processResultTransactionally w.db ctx row.ref graphState messages commands summary =
      .ok (db, result)) :
    HandedOver settings previous chatId threadId db₀
      ⟨db, (row.id, result.humanActiveSkipped) :: w.commits⟩ := by
  have hskip : result.humanActiveSkipped = true := (skipped_iff_locked hrow h).trans hover.locked
  have hchat : row.ref.chatId = chatId := hrow.chatId_eq
  have hthread : row.ref.threadId = threadId := hrow.threadId_eq
  rcases processResult_cases h with hskipped | henqueued
  · rw [hchat, hthread] at hskipped
    apply hover.congr
    apply sameCount_of_entered hskipped.states hskipped.commands
    simp [CountWorld.counted, hskip]
  · rw [henqueued.notSkipped] at hskip
    cases hskip

/-- A commit that counts from the stored count: the first failure is counted, and the
second one hands the conversation over. -/
theorem Counting.commit {w : CountWorld} {db : Database} {choice : CountChoice}
    {row : ExternalResultRow} {slotMemory : JsonObject} {handler : ResultHandler}
    {messages : List OutboundMessage} {result : TransactionResult}
    (hcounting : Counting settings previous chatId threadId rows db₀ w) (hmem : row ∈ rows)
    (hrow : FailedQuery chatId threadId row)
    (hhandler : CountsFailure row slotMemory w.counted handler)
    (hflag : handoffFlag slotMemory = false)
    (h : processResultTransactionally w.db ⟨previous, choice.unchanged⟩ row.ref
      handler.graphState messages handler.externalCommands
      (some (buildExternalResultSummaryMessage row handler)) = .ok (db, result)) :
    CountInvariant settings previous chatId threadId rows db₀
      ⟨db, (row.id, result.humanActiveSkipped) :: w.commits⟩ := by
  have hskip : result.humanActiveSkipped = false :=
    (skipped_iff_locked hrow h).trans hcounting.unlocked
  have hcounted : CountWorld.counted ⟨db, (row.id, result.humanActiveSkipped) :: w.commits⟩ =
      w.counted + 1 := by
    simp [CountWorld.counted, hskip]
  obtain ⟨hstatus, hview, hcount, hkeep⟩ := counted_of_commit settings hrow hhandler
    h hskip ((row.id, result.humanActiveSkipped) :: w.commits)
  have hnoneLost : NoFailureLost settings previous chatId threadId
      ⟨db, (row.id, result.humanActiveSkipped) :: w.commits⟩ := by
    unfold NoFailureLost
    rw [hcounted, hcount]
    rfl
  have hcommands := hhandler.commands
  have hfew := hcounting.few
  by_cases hsecond : w.counted = 1
  · have hover : handsOver w.counted slotMemory = true := by
      simp [handsOver, hflag, hsecond, backendNotFoundHandoffThreshold]
    rw [if_pos hover] at hstatus hview hcommands
    rw [hcommands, hsecond] at h
    have hinserted := handoffCommands_of_commit h hskip (hcounting.free row hmem)
    rw [hrow.chatId_eq, hrow.threadId_eq] at hinserted
    refine Or.inr ⟨?_, hnoneLost, hstatus, ?_⟩
    · rw [hview]
      rfl
    · rw [hinserted, hcounting.commands]
  · have hover : handsOver w.counted slotMemory = false := by
      have hzero : w.counted = 0 := by omega
      simp [handsOver, hzero, backendNotFoundHandoffThreshold]
    rw [if_neg (by simp [hover])] at hstatus hview hcommands
    rw [hcommands] at h
    have hsame := commands_of_commit_nil h hskip
    refine Or.inl ⟨?_, hnoneLost, ?_, ?_, ?_, ?_, ?_⟩
    · rw [hview]
      rfl
    · rw [hkeep hover]
      exact hcounting.flag
    · rw [hcounted, List.length_cons, hcounting.all]
    · omega
    · rw [hsame]
      exact hcounting.free
    · rw [handoffCommands, hsame]
      exact hcounting.commands

theorem CountInvariant.commit {w : CountWorld} {row : ExternalResultRow}
    {loaded : ConversationView} {existing : Int} {handler : ResultHandler}
    (choice : CountChoice) (messages : List OutboundMessage)
    (hinv : CountInvariant settings previous chatId threadId rows db₀ w) (hmem : row ∈ rows)
    (hrow : FailedQuery chatId threadId row)
    (hhandler : CountsFailure row loaded.slotMemory existing handler)
    (hexisting : failedCount settings.runtime loaded.slotMemory = .ok existing)
    (hflag : handoffFlag loaded.slotMemory = false)
    (hstored : (w.loaded previous chatId threadId).status.isLocked = false →
      failedCount settings.runtime (w.loaded previous chatId threadId).slotMemory =
        failedCount settings.runtime loaded.slotMemory) :
    CountInvariant settings previous chatId threadId rows db₀
      (commitHandler previous choice w row handler messages).2 := by
  unfold commitHandler
  split
  · next db result hcommit =>
    rcases hinv with hcounting | hover
    · have hcounted : existing = w.counted := by
        have hsame := hstored hcounting.unlocked
        rw [hexisting, hcounting.noneLost] at hsame
        exact (Except.ok.inj hsame).symm
      subst hcounted
      exact hcounting.commit hmem hrow hhandler hflag hcommit
    · exact Or.inr (hover.commit hrow hcommit)
  · exact hinv

/-- A handler is only built from a slot memory in which no handoff is noted. -/
def UnflaggedPhases {T : Type} (phases : T → Option JsonObject) : Prop :=
  ∀ t slotMemory, phases t = some slotMemory → handoffFlag slotMemory = false

theorem UnflaggedPhases.update {T : Type} [DecidableEq T] {phases : T → Option JsonObject}
    (h : UnflaggedPhases phases) {phase : Option JsonObject} (t : T)
    (hphase : ∀ slotMemory, phase = some slotMemory → handoffFlag slotMemory = false) :
    UnflaggedPhases (Function.update phases t phase) := by
  intro t' slotMemory ht'
  by_cases hsame : t' = t
  · subst hsame
    rw [Function.update_self] at ht'
    exact hphase slotMemory ht'
  · rw [Function.update_of_ne hsame] at ht'
    exact h t' slotMemory ht'

/-- Only the first read and the commit of a row are seen. -/
theorem CountInvariant.other {w : CountWorld} {db : Database} {α : Type}
    {fault : Option (Fault ServiceError)} {r : Except ServiceError α}
    (hstates : db.conversationStates = w.db.conversationStates)
    (hcommands : db.externalCommands = w.db.externalCommands)
    (h : CountInvariant settings previous chatId threadId rows db₀ w) :
    CountInvariant settings previous chatId threadId rows db₀
      (faulty fault w (r, { w with db })).2 := by
  apply faulty_induction (motive := CountInvariant settings previous chatId threadId rows db₀) h
  exact h.congr (sameCount_of_states hstates hcommands rfl) rfl

/-- What is loaded while the failures are counted has no note of a handoff. -/
theorem CountInvariant.loaded_unflagged {w : CountWorld} {choice : CountChoice}
    {before phase : Option JsonObject}
    (h : CountInvariant settings previous chatId threadId rows db₀ w)
    (hphase : CountProtocol settings chatId threadId rows before (.getOrCreate chatId threadId)
      (handleConsumerOp settings previous (.getOrCreate chatId threadId) choice w).1 phase) :
    ∀ slotMemory, phase = some slotMemory → handoffFlag slotMemory = false := by
  rintro slotMemory rfl
  obtain ⟨fault, unchanged, composed⟩ := choice
  cases fault with
  | some fault => cases hphase.2.2
  | none =>
      have hview : (getOrCreateOnConnection w.db ⟨previous, unchanged⟩ chatId threadId).2 =
          w.loaded previous chatId threadId := by
        rw [getOrCreateOnConnection_eq]
        rfl
      have hloaded : some slotMemory =
          if (getOrCreateOnConnection w.db ⟨previous, unchanged⟩ chatId threadId).2.status.isLocked
          then none
          else some (getOrCreateOnConnection w.db ⟨previous, unchanged⟩ chatId
            threadId).2.slotMemory := hphase.2.2
      rw [hview] at hloaded
      rcases h with hcounting | hover
      · rw [if_neg (by simp [hcounting.unlocked])] at hloaded
        cases hloaded
        exact hcounting.flag
      · rw [if_pos hover.locked] at hloaded
        cases hloaded

/-- Loading the conversation creates its row at most. -/
theorem CountInvariant.load {w : CountWorld} {choice : CountChoice}
    (h : CountInvariant settings previous chatId threadId rows db₀ w) :
    CountInvariant settings previous chatId threadId rows db₀
      (handleConsumerOp settings previous (.getOrCreate chatId threadId) choice w).2 := by
  apply faulty_induction (motive := CountInvariant settings previous chatId threadId rows db₀) h
  rw [getOrCreateOnConnection_eq]
  have hsame : SameCount previous chatId threadId w
      { w with db := w.db.entered chatId threadId } :=
    sameCount_of_entered rfl (sameQueues_entered w.db chatId threadId).2 rfl
  exact h.congr hsame rfl

/-- Starting `process_one` takes the lease of a row. -/
theorem start_eq_some {job : LeaseJob} {w w' : CountWorld} {prog : ConsumerProg Unit}
    (h : (countMachine settings previous rows).start job w = some (prog, w')) :
    ∃ row ∈ rows, prog = (processOne settings row >>= fun _ => .ret ()) ∧
      w'.db.conversationStates = w.db.conversationStates ∧
      w'.db.externalCommands = w.db.externalCommands ∧ w'.commits = w.commits := by
  change (match rows[job.index]? with
    | none => none
    | some row => (w.db.leaseResult? row.id job.workerId job.leaseSeconds).map fun db =>
        (processOne settings row >>= fun _ => .ret (), { w with db })) = some (prog, w') at h
  cases hrow : rows[job.index]? with
  | none =>
      rw [hrow] at h
      cases h
  | some row =>
      rw [hrow] at h
      obtain ⟨db, hlease, hdone⟩ := Option.map_eq_some_iff.mp h
      unfold Database.leaseResult? at hlease
      split at hlease
      · cases hlease
        cases hdone
        exact ⟨row, List.mem_of_getElem? hrow, rfl, rfl, rfl, rfl⟩
      · cases hlease

theorem follows_job {row : ExternalResultRow} (hmem : row ∈ rows)
    (hrow : FailedQuery chatId threadId row) :
    Follows (CountProtocol settings chatId threadId rows) (fun _ => True) none
      (processOne settings row >>= fun _ => (.ret () : ConsumerProg Unit)) := by
  apply (follows_processOne hmem hrow).bind
  · intro phase report _
    trivial
  · intro phase e _
    trivial

/-- The invariant of the consumers: the count, and what their handlers were built from. -/
theorem countMachine_invariant {T : Type} [DecidableEq T]
    (hrows : ∀ row ∈ rows, FailedQuery chatId threadId row) :
    Machine.IsInvariant (M := countMachine settings previous rows) (T := T)
      (CountProtocol settings chatId threadId rows) (fun _ => True)
      (CountsOnStored settings previous chatId threadId)
      (fun w phases => CountInvariant settings previous chatId threadId rows db₀ w ∧
        UnflaggedPhases phases) where
  act := by
    rintro w phases t op choice phase ⟨hinv, hphases⟩ hcond hδ
    have hkept : phase = phases t → UnflaggedPhases (Function.update phases t phase) := by
      rintro rfl
      rwa [Function.update_eq_self]
    cases op with
    | getOrCreate chat thread =>
        obtain ⟨rfl, rfl⟩ : chat = chatId ∧ thread = threadId := by
          revert hδ
          generalize ((countMachine settings previous rows).handle _ choice w).1 = r
          cases r with
          | ok view => exact fun hδ => ⟨hδ.1, hδ.2.1⟩
          | error e => exact fun hδ => ⟨hδ.1, hδ.2.1⟩
        exact ⟨hinv.load, hphases.update t (hinv.loaded_unflagged hδ)⟩
    | markProcessed resultId => exact ⟨hinv.other rfl rfl, hkept hδ⟩
    | fetchRecent conversationId => exact ⟨hinv.other rfl rfl, hkept hδ⟩
    | compose fallbackText => exact ⟨hinv, hkept hδ⟩
    | finalizeUserVisibleText fallbackText => exact ⟨hinv, hkept hδ⟩
    | processResult row loaded handler messages =>
        obtain ⟨hmem, hloaded, ⟨existing, hexisting, hhandler⟩, -, hphase⟩ := hδ
        refine ⟨?_, hkept hphase⟩
        have hcommit := CountInvariant.commit choice messages hinv hmem (hrows row hmem)
          hhandler hexisting (hphases t _ hloaded)
        have happlied := hcond row loaded handler messages rfl
        change CountInvariant settings previous chatId threadId rows db₀ (faulty choice.fault w
          (commitHandler previous choice w row handler messages)).2
        cases hfault : choice.fault with
        | none =>
            rw [hfault] at happlied
            exact hcommit (happlied rfl)
        | some fault =>
            rw [hfault] at happlied
            cases heffect : fault.applied with
            | true => simpa [faulty, heffect] using hcommit (happlied heffect)
            | false => simpa [faulty, heffect] using hinv
    | markProcessingFailed resultId error => exact ⟨hinv.other rfl rfl, hkept hδ⟩
  env := by
    rintro w phases elapsed ⟨hinv, hphases⟩
    have hsame : SameCount previous chatId threadId w
        ((countMachine settings previous rows).environ elapsed w) :=
      sameCount_of_states rfl rfl rfl
    exact ⟨hinv.congr hsame rfl, hphases⟩
  spawn := by
    rintro w phases t job prog w' ⟨hinv, hphases⟩ - hstart
    obtain ⟨row, hmem, rfl, hstates, hcommands, hcommits⟩ := start_eq_some hstart
    have hsame : SameCount previous chatId threadId w w' :=
      sameCount_of_states hstates hcommands (by simp only [CountWorld.counted, hcommits])
    refine ⟨none, follows_job hmem (hrows row hmem), hinv.congr hsame hcommits, ?_⟩
    exact hphases.update t fun slotMemory h => by cases h

/-! ## Runs -/

/-- What the consumers commit, whatever they read. -/
def CommitsFailures (settings : ConsumerSettings) (chatId : String) (threadId : Option String)
    (rows : List ExternalResultRow) (_w : CountWorld) (op : ConsumerOp) (_choice : CountChoice) :
    Prop :=
  ∀ row loaded handler outboundMessages,
    op = .processResult row loaded handler outboundMessages →
    FailedQuery chatId threadId row ∧ row ∈ rows ∧
      (∃ existing, failedCount settings.runtime loaded.slotMemory = .ok existing ∧
        CountsFailure row loaded.slotMemory existing handler) ∧
      ∀ message ∈ outboundMessages, message.chatId.isSome

theorem commitsFailures_allSteps (previous : Option ConversationRow) {T : Type} [DecidableEq T]
    (hrows : ∀ row ∈ rows, FailedQuery chatId threadId row) (w : CountWorld)
    (labels : List (Machine.Label (countMachine settings previous rows) T)) :
    Machine.AllSteps (Machine.Executes (CommitsFailures settings chatId threadId rows))
      (Machine.idle w) labels := by
  have hinv : Machine.IsInvariant (M := countMachine settings previous rows) (T := T)
      (CountProtocol settings chatId threadId rows) (fun _ => True) (fun _ _ _ => True)
      (fun _ _ => True) := by
    refine ⟨fun _ _ _ => trivial, fun _ _ => trivial, ?_⟩
    rintro w phases t job prog w' - - hstart
    obtain ⟨row, hmem, rfl, -⟩ := start_eq_some hstart
    exact ⟨none, follows_job hmem (hrows row hmem), trivial⟩
  have hidle : Machine.Tracks (CountProtocol settings chatId threadId rows) (fun _ => True)
      (fun _ _ => True) (Machine.idle w : Machine.Config (countMachine settings previous rows) T) :=
    ⟨fun _ => none, trivial, fun _ => trivial⟩
  refine hidle.allSteps hinv ?_ (Machine.allSteps_of_choices fun _ _ _ _ _ => trivial)
  intro w phases t op choice phase _ _ hδ row loaded handler messages hop
  subst hop
  obtain ⟨hmem, -, hhandler, hchat, -⟩ := hδ
  exact ⟨hrows row hmem, hmem, hhandler, hchat⟩

/-- A commit that loses nothing counted from the stored count. -/
theorem stored_of_noneLost {w : CountWorld} {choice : CountChoice} {row : ExternalResultRow}
    {loaded : ConversationView} {existing : Int} {handler : ResultHandler}
    {messages : List OutboundMessage} (hrow : FailedQuery chatId threadId row)
    (hexisting : failedCount settings.runtime loaded.slotMemory = .ok existing)
    (hhandler : CountsFailure row loaded.slotMemory existing handler)
    (hchat : ∀ message ∈ messages, message.chatId.isSome)
    (hfree : (w.loaded previous chatId threadId).status.isLocked = false)
    (hbefore : NoFailureLost settings previous chatId threadId w)
    (hafter : NoFailureLost settings previous chatId threadId
      (commitHandler previous choice w row handler messages).2) :
    failedCount settings.runtime (w.loaded previous chatId threadId).slotMemory =
      failedCount settings.runtime loaded.slotMemory := by
  have hcommands : ∀ command ∈ handler.externalCommands, command.chatId.isSome := by
    rw [hhandler.commands]
    split
    · intro command hcommand
      rw [List.mem_singleton.mp hcommand]
      rfl
    · intro command hcommand
      cases hcommand
  obtain ⟨db, result, hcommit⟩ := processResult_of_chatId hchat hcommands w.db
    ⟨previous, choice.unchanged⟩ row.ref handler.graphState
    (some (buildExternalResultSummaryMessage row handler))
  have hskip : result.humanActiveSkipped = false := (skipped_iff_locked hrow hcommit).trans hfree
  have hworld : (commitHandler previous choice w row handler messages).2 =
      ⟨db, (row.id, result.humanActiveSkipped) :: w.commits⟩ := by
    rw [commitHandler, hcommit]
  obtain ⟨-, -, hcount, -⟩ := counted_of_commit settings hrow hhandler hcommit hskip
    ((row.id, result.humanActiveSkipped) :: w.commits)
  rw [hworld] at hafter
  have hboth : existing + 1 = (w.counted : Int) + 1 := by
    have hsame := hcount.symm.trans hafter
    simpa [CountWorld.counted, hskip] using Except.ok.inj hsame
  have hequal : existing = w.counted := by omega
  rw [hbefore, hexisting, hequal]

/-- The conversation is not handed over and no failure has been counted. -/
structure NothingCounted (settings : ConsumerSettings) (previous : Option ConversationRow)
    (chatId : String) (threadId : Option String) (rows : List ExternalResultRow)
    (db : Database) : Prop where
  unlocked : (db.viewed ⟨previous, false⟩ chatId threadId).status.isLocked = false
  zero : failedCount settings.runtime (db.viewed ⟨previous, false⟩ chatId threadId).slotMemory =
    .ok 0
  flag : handoffFlag (db.viewed ⟨previous, false⟩ chatId threadId).slotMemory = false
  free : ∀ row ∈ rows,
    ¬db.externalCommands.hasKey (externalCommandDedupKey (secondFailureCommand row))

theorem NothingCounted.counting {db : Database}
    (h : NothingCounted settings previous chatId threadId rows db) :
    Counting settings previous chatId threadId rows db ⟨db, []⟩ :=
  ⟨h.unlocked, h.zero, h.flag, rfl, Nat.two_pos, h.free, rfl⟩

/-- Until two failures are counted there are no two commits. -/
theorem CountInvariant.handedOver {w : CountWorld}
    (h : CountInvariant settings previous chatId threadId rows db₀ w) :
    HandedOverAfterTwo db₀ chatId threadId w := by
  intro htwo
  rcases h with hcounting | hover
  · have hall := hcounting.all
    have hfew := hcounting.few
    omega
  · exact ⟨hover.status, hover.commands⟩

theorem CountInvariant.noneLost {w : CountWorld}
    (h : CountInvariant settings previous chatId threadId rows db₀ w) :
    NoFailureLost settings previous chatId threadId w := by
  rcases h with hcounting | hover
  · exact hcounting.noneLost
  · exact hover.noneLost

/-- The effect of a commit on the world, whether its answer arrives or not. -/
theorem step_processResult {T : Type} [DecidableEq T]
    {c : Machine.Config (countMachine settings previous rows) T} {t : T} {choice : CountChoice}
    {row : ExternalResultRow} {loaded : ConversationView} {handler : ResultHandler}
    {messages : List OutboundMessage}
    (hhead : (c.threads t).head? = some (.processResult row loaded handler messages))
    (happlied : choice.fault.all Fault.applied = true) :
    (Machine.step c (.act t choice)).world =
      (commitHandler previous choice c.world row handler messages).2 := by
  cases hprog : c.threads t with
  | ret a => simp [hprog, Prog.head?] at hhead
  | raise e => simp [hprog, Prog.head?] at hhead
  | call op k =>
      rw [hprog] at hhead
      cases hhead
      have hstep := Machine.step_act hprog choice
      change (Machine.step c (.act t choice)).world = _
      rw [hstep]
      change (faulty choice.fault c.world
        (commitHandler previous choice c.world row handler messages)).2 = _
      cases hfault : choice.fault with
      | none => rfl
      | some fault =>
          rw [hfault] at happlied
          have heffect : fault.applied = true := happlied
          simp [faulty, heffect]

/-- No row is being processed yet. -/
def countStart (settings : ConsumerSettings) (previous : Option ConversationRow)
    (rows : List ExternalResultRow) (T : Type) (db : Database) :
    Machine.Config (countMachine settings previous rows) T :=
  Machine.idle ⟨db, []⟩

/-- Along a run no failure is lost, and two commits hand the conversation over, exactly if
every transaction counts from the stored count. -/
theorem failures_counted_iff {T : Type} [DecidableEq T]
    (hrows : ∀ row ∈ rows, FailedQuery chatId threadId row) {db : Database}
    (hstart : NothingCounted settings previous chatId threadId rows db)
    (labels : List (Machine.Label (countMachine settings previous rows) T)) :
    (∀ first rest, labels = first ++ rest →
      NoFailureLost settings previous chatId threadId
          (Machine.run (countStart settings previous rows T db) first).world ∧
        HandedOverAfterTwo db chatId threadId
          (Machine.run (countStart settings previous rows T db) first).world) ↔
      Machine.AllSteps (Machine.Executes (CountsOnStored settings previous chatId threadId))
        (countStart settings previous rows T db) labels := by
  constructor
  · intro hcounted
    rw [Machine.allSteps_iff_forall]
    intro first l rest hlabels
    cases l with
    | env elapsed => trivial
    | spawn t job => trivial
    | act t choice =>
        rintro op hhead row loaded handler messages rfl happlied hfree
        have hcommits := Machine.allSteps_iff_forall.mp
          (commitsFailures_allSteps previous hrows ⟨db, []⟩ labels) first _ rest hlabels _ hhead
        obtain ⟨hrow, -, ⟨existing, hexisting, hhandler⟩, hchat⟩ :=
          hcommits row loaded handler messages rfl
        have hbefore := (hcounted first (.act t choice :: rest) hlabels).1
        have hafter := (hcounted (first ++ [.act t choice]) rest (by rw [hlabels]; simp)).1
        rw [Machine.run_append, Machine.run_cons, Machine.run_nil,
          step_processResult hhead happlied] at hafter
        exact stored_of_noneLost hrow hexisting hhandler hchat hfree hbefore hafter
  · rintro hstored first rest rfl
    have hidle : Machine.Tracks (CountProtocol settings chatId threadId rows) (fun _ => True)
        (fun w phases => CountInvariant settings previous chatId threadId rows db w ∧
          UnflaggedPhases phases)
        (countStart settings previous rows T db) :=
      ⟨fun _ => none, ⟨Or.inl hstart.counting, fun t slotMemory h => by cases h⟩, fun _ => trivial⟩
    obtain ⟨phases, ⟨hinv, -⟩, -⟩ := hidle.run (countMachine_invariant hrows)
      (Machine.allSteps_append.mp hstored).1
    exact ⟨hinv.noneLost, hinv.handedOver⟩

end Run

instance decidableCountsOnStored (settings : ConsumerSettings)
    (previous : Option ConversationRow) (chatId : String) (threadId : Option String)
    (w : CountWorld) (op : ConsumerOp) (choice : CountChoice) :
    Decidable (CountsOnStored settings previous chatId threadId w op choice) :=
  match op with
  | .processResult _ loaded _ _ =>
      decidable_of_iff (choice.fault.all Fault.applied = true →
        (w.loaded previous chatId threadId).status.isLocked = false →
        failedCount settings.runtime (w.loaded previous chatId threadId).slotMemory =
          failedCount settings.runtime loaded.slotMemory)
        ⟨by rintro h _ _ _ _ ⟨⟩; exact h, fun h => h _ _ _ _ rfl⟩
  | .getOrCreate _ _ => isTrue (by rintro _ _ _ _ ⟨⟩)
  | .markProcessed _ => isTrue (by rintro _ _ _ _ ⟨⟩)
  | .fetchRecent _ => isTrue (by rintro _ _ _ _ ⟨⟩)
  | .compose _ => isTrue (by rintro _ _ _ _ ⟨⟩)
  | .finalizeUserVisibleText _ => isTrue (by rintro _ _ _ _ ⟨⟩)
  | .markProcessingFailed _ _ => isTrue (by rintro _ _ _ _ ⟨⟩)

instance (settings : ConsumerSettings) (previous : Option ConversationRow)
    (rows : List ExternalResultRow) (chatId : String) (threadId : Option String) {T : Type}
    [DecidableEq T] (c : Machine.Config (countMachine settings previous rows) T)
    (l : Machine.Label (countMachine settings previous rows) T) :
    Decidable (Machine.Executes (CountsOnStored settings previous chatId threadId) c l) :=
  @Machine.decidableExecutes _ _ _ _
    (decidableCountsOnStored settings previous chatId threadId) c l

/-! ## Two rows of one conversation -/

/-- A consumer without a model. -/
def plainConsumerSettings : ConsumerSettings where
  runtime := .plain
  render := fun _ _ _ => .ok "later"
  recordedAt := ""
  llmFinalReplyEnabled := false
  maxRetries := 3

/-- The failed answer to command `id` of chat `C1`. -/
def failedQueryRow (id : Nat) : ExternalResultRow where
  id := id
  externalCommandId := id
  tenantId := "default"
  conversationId := "livechat:C1:T1"
  chatId := "C1"
  threadId := some "T1"
  inboundEventId := some id
  commandType := "backend.query"
  resultType := "backend.query.result"
  resultJson := .ofList [("status", .str "failed")]
  status := .pending
  retryCount := 0
  lastError := none
  lease := .none
  dedupKey := if id = 1 then "first" else "second"
  createdAt := 0

/-- Both answers have arrived. -/
def failedQueryRows : List ExternalResultRow := [failedQueryRow 1, failedQueryRow 2]

def failedQueryDatabase : Database :=
  { Database.empty with externalCommandResults := ⟨failedQueryRows, by decide⟩ }

/-- Nothing fails. -/
def goodChoice : CountChoice := ⟨none, false, .ok ""⟩

abbrev CountLabel := Machine.Label (countMachine plainConsumerSettings none failedQueryRows) Bool

/-- A thread reads the conversation, or it commits. -/
def actLabel (thread : Bool) : CountLabel := .act thread goodChoice

def spawnLabel (thread : Bool) : CountLabel :=
  .spawn thread ⟨if thread then 1 else 0, "consumer", 60⟩

/-- Both rows are read before the first one is committed. -/
def racingRows : List CountLabel :=
  [spawnLabel false, spawnLabel true, actLabel false, actLabel true, actLabel false, actLabel true]

/-- The second row is read after the first one has been committed. -/
def successiveRows : List CountLabel :=
  [spawnLabel false, actLabel false, actLabel false, spawnLabel true, actLabel true, actLabel true]

theorem failedQuery_rows : ∀ row ∈ failedQueryRows, FailedQuery "C1" (some "T1") row := by
  intro row hrow
  simp only [failedQueryRows, List.mem_cons, List.not_mem_nil, or_false] at hrow
  rcases hrow with rfl | rfl
  · exact ⟨rfl, by decide, rfl, rfl, by decide⟩
  · exact ⟨rfl, by decide, rfl, rfl, by decide⟩

theorem nothingCounted_start :
    NothingCounted plainConsumerSettings none "C1" (some "T1") failedQueryRows
      failedQueryDatabase where
  unlocked := by decide
  zero := by decide
  flag := by decide
  free := by
    intro row _ hkey
    cases hkey

/-- Both rows commit, but one failure is lost and the conversation is not handed over. -/
theorem racing_failure_is_lost :
    let w := (Machine.run (countStart plainConsumerSettings none failedQueryRows Bool
      failedQueryDatabase) racingRows).world
    (∀ row ∈ failedQueryRows, FailedQuery "C1" (some "T1") row) ∧
      NothingCounted plainConsumerSettings none "C1" (some "T1") failedQueryRows
        failedQueryDatabase ∧
      w.commits = [(2, false), (1, false)] ∧
      failedCount .plain (w.loaded none "C1" (some "T1")).slotMemory = .ok 1 ∧
      w.db.statusOf "livechat:C1:T1" = some .waitingExternal ∧
      handoffCommands w.db "livechat:C1:T1" = 0 := by
  refine ⟨failedQuery_rows, nothingCounted_start, ?_, ?_, ?_, ?_⟩
  · decide +kernel
  · decide +kernel
  · decide +kernel
  · decide +kernel

/-- Two rows that are processed one after the other are both counted, and the conversation
is handed over. -/
theorem successive_failures_hand_over :
    let w := (Machine.run (countStart plainConsumerSettings none failedQueryRows Bool
      failedQueryDatabase) successiveRows).world
    NoFailureLost plainConsumerSettings none "C1" (some "T1") w ∧
      HandedOverAfterTwo failedQueryDatabase "C1" (some "T1") w ∧ w.commits.length = 2 := by
  have hcounted := (failures_counted_iff failedQuery_rows nothingCounted_start
    successiveRows).mpr (by decide +kernel) successiveRows [] (List.append_nil _).symm
  refine ⟨hcounted.1, hcounted.2, ?_⟩
  decide +kernel

end AiCustomerService
