import AiCustomerService.Services.CustomerTurns
import AiCustomerService.Services.Outbox

/-!
# Reminders of a case

A follow-up of the customer becomes the command `telegram.remind_case`.  Its key names the case
and the thread that the customer writes in, and nothing else.
-/

namespace AiCustomerService

open Support

/-- `build_money_case_followup_dedup_key`. -/
def buildMoneyCaseFollowupDedupKey (telegramChatId : String) (rootMessageId : Int)
    (sourceThreadId : String) : String :=
  "telegram.case.followup:" ++ telegramChatId ++ ":" ++ toString rootMessageId ++ ":" ++
    sourceThreadId

/-- What the command of `_money_case_followup_state` says. -/
structure Reminder where
  telegramCaseId : Nat
  telegramChatId : String
  rootMessageId : Int
  sourceThreadId : String
  payload : JsonObject

def Reminder.dedupKey (reminder : Reminder) : String :=
  buildMoneyCaseFollowupDedupKey reminder.telegramChatId reminder.rootMessageId
    reminder.sourceThreadId

/-- The command. -/
def Reminder.command (reminder : Reminder) : WorkflowCommand :=
  ⟨.telegramRemindCase, reminder.payload, some reminder.dedupKey, none⟩

/-- `follow_up_kind` of the payload. -/
def FollowUpKind.text : FollowUpKind → String
  | .customerConfirmedResolved => "customer_confirmed_resolved"
  | .completionDispute => "completion_dispute"
  | .pendingFollowUp => "pending_follow_up"

/-- The reminder of a matched case; the row has the columns that the case leaves out. -/
def moneyCaseReminder (row : TelegramCaseRow) (case : MoneyCase) (kind : FollowUpKind)
    (routed : TurnState) (threadId : Option String) (supplement : JsonObject) : Reminder where
  telegramCaseId := case.id
  telegramChatId := row.telegramChatId
  rootMessageId := row.rootMessageId
  sourceThreadId := textOr threadId ""
  payload := .ofList [
    ("telegram_case_id", .int case.id),
    ("intent", .str (textOr (some case.intent) (textOr routed.activeWorkflow ""))),
    ("follow_up_kind", .str kind.text),
    ("previous_status", .str (textOr case.status "under_review")),
    ("raw_user_input", .str routed.text),
    ("supplement", .obj supplement)]

/-- The reminder that a turn emits. -/
def CustomerTurn.reminder? (settings : GraphSettings) (turn : CustomerTurn) (db : Database)
    (supplement : JsonObject) (outcome : Option WaitingOutcome) : Option Reminder :=
  let routed := turn.routed settings db
  match outcome, routed.matchedTelegramMoneyCase with
  | some (.moneyCaseFollowup kind _), some case =>
      (db.telegramCases.find? fun row => row.id = case.id).map fun row =>
        moneyCaseReminder row case kind routed turn.event.threadId supplement
  | _, _ => none

/-- What the gateway is about to commit. -/
structure PreparedReply where
  turn : CustomerTurn
  tenantId : String
  conversationId : String
  customerMessage : Option ConversationMessage
  output : Option GatewayOutput
  reminder? : Option Reminder

/-- The part of `process_event` between the two transactions. -/
def CustomerTurn.prepare (settings : GraphSettings) (turn : CustomerTurn) (db : Database)
    (supplement : JsonObject) : Except PyError PreparedReply := do
  let conversation := (turn.load db).2
  let output ← (turn.workflow settings db).output turn.event conversation
  let outcome ←
    if turn.runsGraph settings db then waitingOutcome settings (turn.routed settings db)
    else .ok none
  let customerMessage ← gatewayCustomerMessage settings.turn.rt turn.event conversation
    turn.inboundEventId
  pure
    { turn
      tenantId := textOr (some conversation.tenantId) "default"
      conversationId := conversation.conversationId
      customerMessage
      output
      reminder? := turn.reminder? settings db supplement outcome }

/-- `_build_external_commands`: the reminder, and what the rest of the graph asks for. -/
def PreparedReply.externalCommands (reply : PreparedReply) : List ExternalCommand :=
  (reply.reminder?.map fun reminder =>
    buildExternalCommandRecord reply.tenantId reply.turn.event.chatId reply.turn.event.threadId
      reply.conversationId (some reply.turn.inboundEventId) reminder.command).toList ++
    (reply.output.map GatewayOutput.externalCommands).getD []

/-- The second transaction. -/
def PreparedReply.commit (reply : PreparedReply) (db : Database) :
    Except PyError (Database × TransactionResult) :=
  processEventTransactionally db reply.turn.context reply.turn.inboundEventId
    reply.turn.event.toInboundEvent reply.customerMessage
    ((reply.output.map GatewayOutput.outboundMessages).getD []) reply.externalCommands
    (reply.output.map GatewayOutput.graphState)
    ((reply.output.map GatewayOutput.assistantMessages).getD [])

/-! ## The row of a command -/

theorem find?_insertExternalCommand {db db' : Database} {command : ExternalCommand}
    {report : InsertReport} (h : insertExternalCommand db command = .ok (db', report)) :
    ∃ row : ExternalCommandRow, row.commandType = command.commandType ∧
      row.status = command.status ∧ ∀ key, db'.externalCommands.find? key =
        (db.externalCommands.find? key).or
          (if externalCommandDedupKey command = key then some row else none) := by
  unfold insertExternalCommand at h
  obtain ⟨chatId, -, hpure⟩ := bind_eq_ok.mp h
  cases hpure
  exact ⟨_, rfl, rfl, fun key => Table.find?_insertIdempotent _ _ key⟩

/-- A batch of commands leaves the row that a key has. -/
theorem find?_insertExternalCommands {db db' : Database} {commands : List ExternalCommand}
    {reports : List InsertReport} {key : String} {row : ExternalCommandRow}
    (h : insertEach insertExternalCommand db commands = .ok (db', reports))
    (hrow : db.externalCommands.find? key = some row) :
    db'.externalCommands.find? key = some row := by
  refine insertEach_induction (R := fun db db' =>
      db.externalCommands.find? key = some row → db'.externalCommands.find? key = some row)
    (fun _ hrow => hrow) (fun hab hbc hrow => hbc (hab hrow)) ?_ h hrow
  intro db db' command report hinsert hrow
  obtain ⟨new, -, -, hfind⟩ := find?_insertExternalCommand hinsert
  rw [hfind, hrow]
  rfl

/-- The first command of a batch has its row, unless the key is taken. -/
theorem find?_first_externalCommand {db db' : Database} {command : ExternalCommand}
    {rest : List ExternalCommand} {reports : List InsertReport}
    (h : insertEach insertExternalCommand db (command :: rest) = .ok (db', reports)) :
    ∃ row : ExternalCommandRow, row.commandType = command.commandType ∧
      row.status = command.status ∧
      db'.externalCommands.find? (externalCommandDedupKey command) =
        (db.externalCommands.find? (externalCommandDedupKey command)).or (some row) := by
  obtain ⟨mid, first, others, hfirst, hothers, -⟩ := insertEach_cons.mp h
  obtain ⟨row, htype, hstatus, hfind⟩ := find?_insertExternalCommand hfirst
  refine ⟨row, htype, hstatus, ?_⟩
  have hmid := hfind (externalCommandDedupKey command)
  rw [if_pos rfl] at hmid
  cases hold : db.externalCommands.find? (externalCommandDedupKey command) with
  | some old =>
      rw [hold] at hmid
      exact find?_insertExternalCommands hothers hmid
  | none =>
      rw [hold] at hmid
      exact find?_insertExternalCommands hothers hmid

theorem hasText_of_ne_empty {s : String} (h : s ≠ "") : hasText (some s) = true := by
  simp [hasText, h]

theorem dedupKey_ne_empty (reminder : Reminder) : reminder.dedupKey ≠ "" := by
  intro hempty
  unfold Reminder.dedupKey buildMoneyCaseFollowupDedupKey at hempty
  simp only [String.append_eq_empty_iff] at hempty
  exact absurd hempty.1.2 (by decide)

/-- The command of a reminder is stored under the key of the reminder. -/
theorem externalCommandDedupKey_of_reminder (reminder : Reminder)
    (tenantId conversationId : String) (chatId threadId : Option String)
    (inboundEventId : Option Nat) (conversationId' : String) :
    externalCommandDedupKey { buildExternalCommandRecord tenantId chatId threadId conversationId
        inboundEventId reminder.command with conversationId := conversationId' } =
      reminder.dedupKey := by
  have hcommand : hasText reminder.command.dedupKey = true :=
    hasText_of_ne_empty (dedupKey_ne_empty reminder)
  simp only [externalCommandDedupKey, buildExternalCommandRecord, hcommand, if_true]
  exact textOr_some_empty reminder.dedupKey

end AiCustomerService
