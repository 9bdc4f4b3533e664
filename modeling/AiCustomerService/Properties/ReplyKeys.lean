import AiCustomerService.Properties.HandoffLock
import AiCustomerService.Support.Segments
import AiCustomerService.Workers.ResultHandlers

/-!
# Keys of the replies to one event

The gateway enqueues the replies of an event, and the results of the commands
of that event are answered later by another worker.  Both key their rows by
conversation and event, so whether a result's reply is inserted depends on what
the key says beyond that.
-/

namespace AiCustomerService

open Support

/-! ## Keys of command rows and of result rows -/

/-- The action of the row that `build_command_outbox` makes. -/
def actionOfCommand (type : CommandType) : String :=
  match type with
  | .livechatSendText => "send_event"
  | other => other.text

/-- The last part of the key of a command without an explicit key. -/
def commandSuffix (command : WorkflowCommand) : String :=
  match command.blockIndex with
  | some blockIndex => command.type.text ++ ":" ++ toString blockIndex
  | none => actionOfCommand command.type

/-- The key of the row of a command. -/
def commandKey (conversationId : String) (inboundEventId : Nat) (command : WorkflowCommand) :
    String :=
  if hasText command.dedupKey then textOr command.dedupKey ""
  else
    keyOf "default" conversationId (eventIdOrEmpty (some inboundEventId))
      (commandSuffix command)

/-- The metadata of a command determines the key of its row. -/
theorem outboundDedupKey_withCommandMetadata {row : OutboundMessage}
    {command : WorkflowCommand} {conversationId : String} {inboundEventId : Nat}
    (hdedup : row.dedupKey = none) (htenant : row.tenantId = none)
    (hconversation : row.conversationId = some conversationId)
    (hevent : row.inboundEventId = some inboundEventId)
    (htype : row.commandType = some command.type.text)
    (haction : row.actionType = actionOfCommand command.type) :
    outboundDedupKey
        { withCommandMetadata row command with conversationId := some conversationId } =
      commandKey conversationId inboundEventId command := by
  have htext : command.type.text ≠ "" := by
    cases command.type with
    | _ => decide
  unfold commandKey
  by_cases hkey : hasText command.dedupKey = true
  · cases hblock : command.blockIndex with
    | none => simp [withCommandMetadata, outboundDedupKey, hkey, hblock]
    | some blockIndex => simp [withCommandMetadata, outboundDedupKey, hkey, hblock]
  · cases hblock : command.blockIndex with
    | none =>
        simp [withCommandMetadata, outboundDedupKey, commandSuffix, hkey, hblock, hdedup,
          htenant, hevent, haction]
    | some blockIndex =>
        have hfilled : textOr row.commandType row.actionType = command.type.text := by
          rw [htype, textOr_some_of_ne htext]
        simp [withCommandMetadata, outboundDedupKey, commandSuffix, hkey, hblock, hdedup,
          htenant, hconversation, hevent, hfilled, keyOf, String.append_assoc]

theorem outboundDedupKey_buildCommandOutbox {rt : Runtime} {chatId threadId : Option String}
    {conversationId : String} {inboundEventId : Nat} {command : WorkflowCommand}
    {row : OutboundMessage}
    (h : buildCommandOutbox rt chatId threadId conversationId inboundEventId command =
      .ok row) :
    outboundDedupKey { row with conversationId := some conversationId } =
      commandKey conversationId inboundEventId command := by
  obtain ⟨type, payload, dedupKey, blockIndex⟩ := command
  cases type with
  | livechatSendText =>
      cases h
      exact outboundDedupKey_withCommandMetadata rfl rfl rfl rfl rfl rfl
  | livechatSendImage =>
      cases h
      exact outboundDedupKey_withCommandMetadata rfl rfl rfl rfl rfl rfl
  | livechatSendButtons =>
      cases h
      exact outboundDedupKey_withCommandMetadata rfl rfl rfl rfl rfl rfl
  | _ => cases h

/-- The key of the reply to a result row of the conversation. -/
def resultKey (conversationId : String) (row : ExternalResultRow) : String :=
  if row.resultType = "backend.query.result" then
    keyOf (textOr (some row.tenantId) "default") row.conversationId
      (eventIdOrEmpty row.inboundEventId) "backend.query.result" ++ ":" ++ toString row.id
  else keyOf "default" conversationId (eventIdOrEmpty row.inboundEventId) "send_event"

theorem outboundDedupKey_buildResultOutbox (conversationId : String)
    (row : ExternalResultRow) (text : String) (handoffAck : Bool) :
    outboundDedupKey
        { buildResultOutbox row text handoffAck with conversationId := some conversationId } =
      resultKey conversationId row := by
  unfold resultKey
  by_cases hbackend : row.resultType = "backend.query.result"
  · cases handoffAck with
    | _ => simp [buildResultOutbox, hbackend, outboundDedupKey, keyOf, buildTextOutbox]
  · cases handoffAck with
    | _ => simp [buildResultOutbox, hbackend, outboundDedupKey, buildTextOutbox]

/-! ## When two keys are equal -/

theorem noColon_text (type : CommandType) : NoColon type.text := by
  cases type with
  | _ => decide

theorem noColon_actionOfCommand (type : CommandType) : NoColon (actionOfCommand type) := by
  cases type with
  | _ => decide

/-- The text contains a character that no numeral contains. -/
def hasNonNumeral (s : String) : Bool := s.toList.any fun c => !c.isDigit && c ≠ '-'

theorem toString_nat_ne {s : String} (n : Nat) (hs : hasNonNumeral s = true) :
    s ≠ toString n := by
  rintro rfl
  obtain ⟨c, hmem, hc⟩ := List.any_eq_true.mp hs
  have hdigit := isDigit_of_mem_toString hmem
  simp [hdigit] at hc

theorem toString_int_ne {s : String} (i : Int) (hs : hasNonNumeral s = true) :
    toString i ≠ s := by
  rintro rfl
  obtain ⟨c, hmem, hc⟩ := List.any_eq_true.mp hs
  rcases isDigit_or_sign_of_mem_toString hmem with hdigit | hsign
  · simp [hdigit] at hc
  · simp [hsign] at hc

theorem actionOfCommand_eq_send_event (type : CommandType) :
    actionOfCommand type = "send_event" ↔ type = .livechatSendText := by
  cases type with
  | _ => decide

/-- A command without an explicit key collides with the reply to a result only
when it is an unnumbered text and the result is not a backend answer. -/
theorem commandKey_eq_resultKey_iff {conversationId : String} {inboundEventId : Nat}
    {command : WorkflowCommand} {row : ExternalResultRow}
    (hevent : row.inboundEventId = some inboundEventId)
    (hkey : hasText command.dedupKey = false) :
    commandKey conversationId inboundEventId command = resultKey conversationId row ↔
      row.resultType ≠ "backend.query.result" ∧ command.type = .livechatSendText ∧
        command.blockIndex = none := by
  rw [commandKey, if_neg (by simp [hkey]), resultKey, hevent, commandSuffix]
  by_cases hbackend : row.resultType = "backend.query.result"
  · rw [if_pos hbackend]
    constructor
    · intro heq
      exfalso
      cases hblock : command.blockIndex with
      | none =>
          rw [hblock] at heq
          have hlast := (append_colon_inj (noColon_actionOfCommand command.type)
            (noColon_toString_nat row.id)).mp heq
          refine toString_nat_ne row.id ?_ hlast.2
          cases command.type with
          | _ => decide
      | some blockIndex =>
          rw [hblock] at heq
          have hsplit : keyOf "default" conversationId (eventIdOrEmpty (some inboundEventId))
              command.type.text ++ ":" ++ toString blockIndex =
              keyOf (textOr (some row.tenantId) "default") row.conversationId
                (eventIdOrEmpty (some inboundEventId)) "backend.query.result" ++ ":" ++
                toString row.id := by
            simpa [keyOf, String.append_assoc] using heq
          have hprefix := ((append_colon_inj (noColon_toString_int blockIndex)
            (noColon_toString_nat row.id)).mp hsplit).1
          have htype := ((append_colon_inj (noColon_text command.type)
            (by decide : NoColon "backend.query.result")).mp hprefix).2
          cases hcommand : command.type with
          | _ =>
              rw [hcommand] at htype
              exact absurd htype (by decide)
    · rintro ⟨hne, -⟩
      exact absurd hbackend hne
  · rw [if_neg hbackend]
    cases hblock : command.blockIndex with
    | none =>
        have hiff := append_colon_inj (a := "default" ++ ":" ++ conversationId ++ ":" ++
            eventIdOrEmpty (some inboundEventId))
          (b := "default" ++ ":" ++ conversationId ++ ":" ++
            eventIdOrEmpty (some inboundEventId))
          (noColon_actionOfCommand command.type) (by decide : NoColon "send_event")
        simp only [true_and] at hiff
        rw [actionOfCommand_eq_send_event] at hiff
        simpa [hbackend, keyOf] using hiff
    | some blockIndex =>
        simp only [reduceCtorEq, and_false, iff_false]
        intro heq
        have hsplit : keyOf "default" conversationId (eventIdOrEmpty (some inboundEventId))
            command.type.text ++ ":" ++ toString blockIndex =
            keyOf "default" conversationId (eventIdOrEmpty (some inboundEventId))
              "send_event" := by
          simpa [keyOf, String.append_assoc] using heq
        have hlast := ((append_colon_inj (noColon_toString_int blockIndex)
          (by decide : NoColon "send_event")).mp hsplit).2
        exact toString_int_ne blockIndex (by decide) hlast

theorem resultKey_ne_empty (conversationId : String) (row : ExternalResultRow) :
    resultKey conversationId row ≠ "" := by
  unfold resultKey
  split
  · simp [keyOf]
  · simp [keyOf]

/-- All the ways in which a command collides with the reply to a result. -/
theorem commandKey_collides_iff {conversationId : String} {inboundEventId : Nat}
    {command : WorkflowCommand} {row : ExternalResultRow}
    (hevent : row.inboundEventId = some inboundEventId) :
    commandKey conversationId inboundEventId command = resultKey conversationId row ↔
      command.dedupKey = some (resultKey conversationId row) ∨
        (row.resultType ≠ "backend.query.result" ∧ command.type = .livechatSendText ∧
          hasText command.dedupKey = false ∧ command.blockIndex = none) := by
  have hnonempty := resultKey_ne_empty conversationId row
  by_cases hkey : hasText command.dedupKey = true
  · rw [commandKey, if_pos hkey]
    cases hdedup : command.dedupKey with
    | none => simp [hdedup] at hkey
    | some key => simp_all
  · have hfalse : hasText command.dedupKey = false := by simpa using hkey
    rw [commandKey_eq_resultKey_iff hevent hfalse]
    have hne : command.dedupKey ≠ some (resultKey conversationId row) := by
      intro heq
      simp [heq, hnonempty] at hfalse
    simp [hne, hfalse]

/-- The replies to two results of one event collide exactly when neither of them
is a backend answer. -/
theorem resultKey_eq_resultKey_iff {conversationId : String} {row other : ExternalResultRow}
    (hevent : other.inboundEventId = row.inboundEventId) (hid : other.id ≠ row.id) :
    resultKey conversationId other = resultKey conversationId row ↔
      row.resultType ≠ "backend.query.result" ∧
        other.resultType ≠ "backend.query.result" := by
  unfold resultKey
  rw [hevent]
  by_cases hrow : row.resultType = "backend.query.result"
  · rw [if_pos hrow]
    by_cases hother : other.resultType = "backend.query.result"
    · rw [if_pos hother, append_colon_inj (noColon_toString_nat _) (noColon_toString_nat _)]
      constructor
      · rintro ⟨-, heq⟩
        exact absurd (Nat.repr_injective heq) hid
      · rintro ⟨hne, -⟩
        exact absurd hrow hne
    · rw [if_neg hother]
      constructor
      · intro heq
        have hlast := ((append_colon_inj (by decide : NoColon "send_event")
          (noColon_toString_nat row.id)).mp heq).2
        exact absurd hlast (toString_nat_ne row.id (by decide))
      · rintro ⟨hne, -⟩
        exact absurd hrow hne
  · rw [if_neg hrow]
    by_cases hother : other.resultType = "backend.query.result"
    · rw [if_pos hother]
      constructor
      · intro heq
        have hlast := ((append_colon_inj (noColon_toString_nat other.id)
          (by decide : NoColon "send_event")).mp heq).2
        exact absurd hlast.symm (toString_nat_ne other.id (by decide))
      · rintro ⟨-, hne⟩
        exact absurd hother hne
    · simp [hother, hrow]

/-! ## Committing the replies -/

/-- A transaction that went through left the old keys and those of its messages. -/
theorem Enqueued.hasKey {db db' : Database} {chatId : String} {threadId : Option String}
    {states : Table String ConversationRow ConversationRow.conversationId}
    {messages : List OutboundMessage} {commands : List ExternalCommand}
    {result : TransactionResult}
    (h : Enqueued db chatId threadId states messages commands db' result) (key : String) :
    db'.outboundMessages.hasKey key ↔ db.outboundMessages.hasKey key ∨
      key ∈ (messages.map fun message =>
        { message with conversationId := some (conversationIdForChat (some chatId) threadId) }).map
          outboundDedupKey := by
  obtain ⟨base, queued, hbase, -, henqueue, hdb', -⟩ := h.queued
  obtain ⟨mid, houtbound, hcommands⟩ := enqueue_ok henqueue
  have hmid : queued.outboundMessages = mid.outboundMessages := by
    rw [insertExternalCommands_frame hcommands]
  rw [hdb', hmid, hasKey_insertOutbounds houtbound, hbase]

/-- A single message is inserted exactly when its key was free. -/
theorem Enqueued.inserted_iff {db db' : Database} {chatId : String}
    {threadId : Option String}
    {states : Table String ConversationRow ConversationRow.conversationId}
    {message : OutboundMessage} {commands : List ExternalCommand} {result : TransactionResult}
    (h : Enqueued db chatId threadId states [message] commands db' result) :
    (∀ report ∈ result.outboundInserts, report.inserted = true) ↔
      ¬db.outboundMessages.hasKey (outboundDedupKey
        { message with
          conversationId := some (conversationIdForChat (some chatId) threadId) }) := by
  obtain ⟨base, queued, hbase, -, henqueue, -, -⟩ := h.queued
  obtain ⟨mid, houtbound, -⟩ := enqueue_ok henqueue
  obtain ⟨last, report, others, hinsert, hrest, hreports⟩ := insertEach_cons.mp houtbound
  have hnil : others = [] := by
    simp only [List.map_nil, insertEach, Except.ok.injEq, Prod.mk.injEq] at hrest
    exact hrest.2.symm
  rw [hreports, hnil, ← hbase]
  simpa using (insertOutbound_ok hinsert).2.1

/-- A result row together with what its handler asks the transaction to write. -/
structure ResultCommit where
  ctx : TxContext
  row : ExternalResultRow
  text : String
  handoffAck : Bool
  graphState : GraphState
  externalCommands : List ExternalCommand
  summaryMessage : Option ConversationMessage

/-- Commit one result, as the consumer does. -/
def commitResult (db : Database) (commit : ResultCommit) :
    Except PyError (Database × TransactionResult) :=
  processResultTransactionally db commit.ctx commit.row.ref commit.graphState
    [buildResultOutbox commit.row commit.text commit.handoffAck] commit.externalCommands
    commit.summaryMessage

/-- Commit results one after another. -/
def commitResults (db : Database) : List ResultCommit → Except PyError Database
  | [] => .ok db
  | commit :: rest => do
      let first ← commitResult db commit
      commitResults first.1 rest

/-- The row is the result of a command of the event. -/
structure AnswersEvent (conversationId : String) (inboundEventId : Nat)
    (row : ExternalResultRow) : Prop where
  conversation : conversationIdForChat (some row.chatId) row.threadId = conversationId
  event : row.inboundEventId = some inboundEventId

theorem isLocked_commitResult {db db' : Database} {commit : ResultCommit}
    {result : TransactionResult} {conversationId : String}
    (h : commitResult db commit = .ok (db', result))
    (hlocked : db.isLocked conversationId = true) : db'.isLocked conversationId = true := by
  have happly := isLocked_applyWriter .plain (.processResult commit.ctx commit.row.ref
    commit.graphState [buildResultOutbox commit.row commit.text commit.handoffAck]
    commit.externalCommands commit.summaryMessage) hlocked
  have hrun : applyWriter .plain db (.processResult commit.ctx commit.row.ref
      commit.graphState [buildResultOutbox commit.row commit.text commit.handoffAck]
      commit.externalCommands commit.summaryMessage) = db' := by
    change committed db (commitResult db commit) = db'
    rw [h, committed]
  rwa [hrun] at happly

theorem isLocked_commitResults {db db' : Database} {commits : List ResultCommit}
    {conversationId : String} (h : commitResults db commits = .ok db')
    (hlocked : db.isLocked conversationId = true) : db'.isLocked conversationId = true := by
  induction commits generalizing db with
  | nil =>
      simp only [commitResults, Except.ok.injEq] at h
      exact h ▸ hlocked
  | cons commit rest ih =>
      obtain ⟨⟨mid, result⟩, hfirst, hrest⟩ := bind_eq_ok.mp h
      exact ih hrest (isLocked_commitResult hfirst hlocked)

/-- Giving up leaves the conversation locked. -/
theorem Skipped.isLocked {db db' : Database} {chatId : String} {threadId : Option String}
    {result : TransactionResult} (h : Skipped db chatId threadId db' result) :
    db'.isLocked (conversationIdForChat (some chatId) threadId) = true := by
  rw [Database.isLocked, statusHolds_of_conversationStates _ _ h.states,
    Database.statusHolds, conversation?_entered, if_pos rfl]
  exact h.locked

/-- Going through finds the conversation unlocked. -/
theorem Enqueued.not_isLocked {db db' : Database} {chatId : String}
    {threadId : Option String}
    {states : Table String ConversationRow ConversationRow.conversationId}
    {messages : List OutboundMessage} {commands : List ExternalCommand}
    {result : TransactionResult}
    (h : Enqueued db chatId threadId states messages commands db' result) :
    db.isLocked (conversationIdForChat (some chatId) threadId) = false := by
  have hfree := h.free
  unfold Database.ensuredRow Database.rowAfterInsert at hfree
  unfold Database.isLocked Database.statusHolds
  cases hrow : db.conversation? (conversationIdForChat (some chatId) threadId) with
  | none => rfl
  | some row => simpa [hrow] using hfree

/-- When the conversation is still unlocked after a series of results, each of
them went through and left the key of its reply. -/
theorem hasKey_commitResults {db db' : Database} {commits : List ResultCommit}
    {conversationId : String} {inboundEventId : Nat}
    (hanswers : ∀ commit ∈ commits, AnswersEvent conversationId inboundEventId commit.row)
    (h : commitResults db commits = .ok db') (hfree : db'.isLocked conversationId = false)
    (key : String) :
    db'.outboundMessages.hasKey key ↔ db.outboundMessages.hasKey key ∨
      ∃ commit ∈ commits, resultKey conversationId commit.row = key := by
  induction commits generalizing db with
  | nil =>
      simp only [commitResults, Except.ok.injEq] at h
      simp [h]
  | cons commit rest ih =>
      obtain ⟨⟨mid, result⟩, hfirst, hrest⟩ := bind_eq_ok.mp h
      have hcommit := hanswers commit List.mem_cons_self
      have hothers := ih (fun other hmem => hanswers other (List.mem_cons_of_mem _ hmem)) hrest
      rcases processResult_cases hfirst with hskipped | henqueued
      · have hlocked := hskipped.isLocked
        change mid.isLocked (conversationIdForChat (some commit.row.chatId)
          commit.row.threadId) = true at hlocked
        rw [hcommit.conversation] at hlocked
        rw [isLocked_commitResults hrest hlocked] at hfree
        cases hfree
      · have hkeys := henqueued.hasKey key
        change _ ↔ _ ∨ key ∈ [outboundDedupKey
          { buildResultOutbox commit.row commit.text commit.handoffAck with
            conversationId := some (conversationIdForChat (some commit.row.chatId)
              commit.row.threadId) }] at hkeys
        rw [outboundDedupKey_buildResultOutbox, hcommit.conversation,
          List.mem_singleton] at hkeys
        change mid.outboundMessages.hasKey key ↔ _ at hkeys
        rw [hothers, hkeys, or_assoc]
        simp [eq_comm]

/-- The rows of the commands of an event carry the keys of the commands. -/
theorem map_outboundDedupKey_commandRows {rt : Runtime} {chatId threadId : Option String}
    {conversationId : String} {inboundEventId : Nat} {commands : List WorkflowCommand}
    {rows : List OutboundMessage}
    (h : commands.mapM (buildCommandOutbox rt chatId threadId conversationId inboundEventId) =
      .ok rows) :
    (rows.map fun row => { row with conversationId := some conversationId }).map
        outboundDedupKey =
      commands.map (commandKey conversationId inboundEventId) := by
  induction commands generalizing rows with
  | nil =>
      cases h
      rfl
  | cons command rest ih =>
      rw [List.mapM_cons] at h
      obtain ⟨row, hrow, htail⟩ := bind_eq_ok.mp h
      obtain ⟨others, hothers, hpure⟩ := bind_eq_ok.mp htail
      cases hpure
      rw [List.map_cons, List.map_cons, List.map_cons, ih hothers,
        outboundDedupKey_buildCommandOutbox hrow]

/-- The reply to a result is inserted, next to the replies of its event and the
replies to the results committed before it, and its key is none of theirs,
exactly when no command of the event carries that very key and the result is a
backend answer, or the event has no unnumbered text and all the other results
are backend answers. -/
theorem result_reply_inserted_iff (rt : Runtime) {db db₁ db₂ db₃ : Database}
    {ctx : TxContext} {event : InboundEvent} {inboundEventId : Nat}
    {customer : Option ConversationMessage} {commands : List WorkflowCommand}
    {rows : List OutboundMessage} {external : List ExternalCommand}
    {graphState : Option GraphState} {assistant : List ConversationMessage}
    {eventResult result : TransactionResult} {others : List ResultCommit}
    {commit : ResultCommit} {conversationId : String}
    (hconversation : conversationId =
      conversationIdForChat (some (textOr event.chatId "unknown")) event.threadId)
    (hrows : commands.mapM (buildCommandOutbox rt event.chatId event.threadId conversationId
      inboundEventId) = .ok rows)
    (hevent : processEventTransactionally db ctx inboundEventId event customer rows external
      graphState assistant = .ok (db₁, eventResult))
    (heventApplied : eventResult.humanActiveSkipped = false)
    (hothers : ∀ other ∈ others, AnswersEvent conversationId inboundEventId other.row ∧
      other.row.id ≠ commit.row.id)
    (hcommitted : commitResults db₁ others = .ok db₂)
    (hanswers : AnswersEvent conversationId inboundEventId commit.row)
    (hcommit : commitResult db₂ commit = .ok (db₃, result))
    (happlied : result.humanActiveSkipped = false)
    (hfirst : ¬db.outboundMessages.hasKey (resultKey conversationId commit.row)) :
    ((∀ report ∈ result.outboundInserts, report.inserted = true) ∧
        (∀ command ∈ commands, commandKey conversationId inboundEventId command ≠
          resultKey conversationId commit.row) ∧
        ∀ other ∈ others, resultKey conversationId other.row ≠
          resultKey conversationId commit.row) ↔
      (∀ command ∈ commands, command.dedupKey ≠ some (resultKey conversationId commit.row)) ∧
        (commit.row.resultType = "backend.query.result" ∨
          ((∀ command ∈ commands, command.type = .livechatSendText →
              hasText command.dedupKey = true ∨ command.blockIndex.isSome = true) ∧
            ∀ other ∈ others, other.row.resultType = "backend.query.result")) := by
  have hcommands : ∀ command ∈ commands,
      commandKey conversationId inboundEventId command =
          resultKey conversationId commit.row ↔
        command.dedupKey = some (resultKey conversationId commit.row) ∨
          (commit.row.resultType ≠ "backend.query.result" ∧
            command.type = .livechatSendText ∧ hasText command.dedupKey = false ∧
              command.blockIndex = none) :=
    fun command _ => commandKey_collides_iff hanswers.event
  have hresults : ∀ other ∈ others,
      resultKey conversationId other.row = resultKey conversationId commit.row ↔
        commit.row.resultType ≠ "backend.query.result" ∧
          other.row.resultType ≠ "backend.query.result" := by
    intro other hmem
    obtain ⟨hother, hid⟩ := hothers other hmem
    exact resultKey_eq_resultKey_iff (hother.event.trans hanswers.event.symm) hid
  have hinserted : (∀ report ∈ result.outboundInserts, report.inserted = true) ↔
      (∀ command ∈ commands, commandKey conversationId inboundEventId command ≠
        resultKey conversationId commit.row) ∧
      ∀ other ∈ others, resultKey conversationId other.row ≠
        resultKey conversationId commit.row := by
    rcases processResult_cases hcommit with hskipped | henqueued
    · rw [hskipped.skipped] at happlied
      cases happlied
    rcases processEvent_cases hevent with hskipped | hrowsEnqueued
    · rw [hskipped.skipped] at heventApplied
      cases heventApplied
    have hid : conversationIdForChat (some commit.row.ref.chatId) commit.row.ref.threadId =
        conversationId := hanswers.conversation
    have hfree := henqueued.not_isLocked
    have hiff := henqueued.inserted_iff
    have heventKeys := hrowsEnqueued.hasKey (resultKey conversationId commit.row)
    rw [hid] at hfree hiff
    rw [← hconversation, map_outboundDedupKey_commandRows hrows] at heventKeys
    rw [hiff, outboundDedupKey_buildResultOutbox,
      hasKey_commitResults (fun other hmem => (hothers other hmem).1) hcommitted hfree,
      heventKeys]
    simp [hfirst]
  rw [hinserted, and_self_iff]
  constructor
  · rintro ⟨hc, ho⟩
    refine ⟨fun command hmem heq => hc command hmem ((hcommands command hmem).mpr (.inl heq)), ?_⟩
    by_cases hbackend : commit.row.resultType = "backend.query.result"
    · exact Or.inl hbackend
    · refine Or.inr ⟨?_, ?_⟩
      · intro command hmem htext
        by_contra hplain
        rw [not_or, Bool.not_eq_true, Bool.not_eq_true, Option.isSome_eq_false_iff,
          Option.isNone_iff_eq_none] at hplain
        exact hc command hmem ((hcommands command hmem).mpr
          (.inr ⟨hbackend, htext, hplain.1, hplain.2⟩))
      · intro other hmem
        by_contra hother
        exact ho other hmem ((hresults other hmem).mpr ⟨hbackend, hother⟩)
  · rintro ⟨hexplicit, hcase⟩
    constructor
    · intro command hmem heq
      rcases (hcommands command hmem).mp heq with hkey | ⟨hbackend, htext, hplain, hblock⟩
      · exact hexplicit command hmem hkey
      · rcases hcase with hanswer | ⟨hnumbered, -⟩
        · exact hbackend hanswer
        · rcases hnumbered command hmem htext with hkey | hsome
          · simp [hplain] at hkey
          · simp [hblock] at hsome
    · intro other hmem heq
      obtain ⟨hbackend, hother⟩ := (hresults other hmem).mp heq
      rcases hcase with hanswer | ⟨-, hall⟩
      · exact hbackend hanswer
      · exact hother (hall other hmem)

/-- A customer message in thread `T1` of chat `C1`. -/
def customerEvent : InboundEvent := ⟨some "C1", some "T1", none, none, none, ∅⟩

/-- The instant reply that the planner puts in front. -/
def instantReply : WorkflowCommand :=
  ⟨.livechatSendText, .ofList [("text", .str "hello")], none, none⟩

/-- A result row of event 11. -/
def resultOfEvent (id : Nat) (resultType : String) (resultJson : JsonObject) :
    ExternalResultRow where
  id := id
  externalCommandId := 1
  tenantId := "default"
  conversationId := "livechat:C1:T1"
  chatId := "C1"
  threadId := some "T1"
  inboundEventId := some 11
  commandType := "telegram.send_case_card"
  resultType := resultType
  resultJson := resultJson
  status := .pending
  retryCount := 0
  lastError := none
  lease := .none
  dedupKey := "result-1"
  createdAt := 0

/-- The replies of event 11 and then the reply to one of its results. -/
def replyAfterEvent (commands : List WorkflowCommand) (row : ExternalResultRow) :
    Except PyError (Database × TransactionResult) := do
  let rows ← commands.mapM
    (buildCommandOutbox .plain (some "C1") (some "T1") "livechat:C1:T1" 11)
  let first ← processEventTransactionally .empty ⟨none, false⟩ 11 customerEvent none rows [] none []
  let handler ← buildResultHandler .plain (fun _ _ _ => .ok "") row ∅ ""
  commitResult first.1 ⟨⟨none, false⟩, row, handler.text, false, handler.graphState,
    handler.externalCommands, some (buildExternalResultSummaryMessage row handler)⟩

/-- The reports on the reply rows of a committed result. -/
def replyReports : Except PyError (Database × TransactionResult) → Option (List InsertReport)
  | .ok (_, result) =>
      if result.humanActiveSkipped then none else some result.outboundInserts
  | .error _ => none

/-- The case card is created after an instant reply: the reply that announces the
case has the key of the instant reply and is swallowed. -/
theorem case_created_reply_is_swallowed :
    replyReports (replyAfterEvent [instantReply]
      (resultOfEvent 7 "telegram.case.created" (.ofList [("case_id", .str "tg:1")]))) =
        some [⟨false, true, none⟩] := by
  decide

/-- The row of the instant reply. -/
def instantReplyRow : OutboundMessage :=
  match buildCommandOutbox .plain (some "C1") (some "T1") "livechat:C1:T1" 11 instantReply with
  | .ok row => row
  | .error _ => buildTextOutbox none none "" none ""

/-- A backend answer to event 11. -/
def backendAnswer : ResultCommit :=
  ⟨⟨none, false⟩, resultOfEvent 7 "backend.query.result" ∅, "done", false,
    ⟨some .aiActive, none, none, some ∅, none, [], none⟩, [], none⟩

/-- A backend answer is inserted next to the instant reply of its event. -/
theorem backend_answer_reply_is_inserted :
    ∃ outcome, commitResult (committed .empty (processEventTransactionally .empty ⟨none, false⟩
        11 customerEvent none [instantReplyRow] [] none [])) backendAnswer = .ok outcome ∧
      ∀ report ∈ outcome.2.outboundInserts, report.inserted = true := by
  refine ⟨_, rfl, ?_⟩
  have hiff := @result_reply_inserted_iff .plain .empty _ _ _ ⟨none, false⟩ customerEvent 11
    none [instantReply] [instantReplyRow] [] none [] _ _ [] backendAnswer "livechat:C1:T1"
    (by decide) rfl rfl rfl (by simp) rfl ⟨by decide, rfl⟩ rfl rfl (by decide)
  exact (hiff.mpr ⟨by decide, Or.inl rfl⟩).1

end AiCustomerService
