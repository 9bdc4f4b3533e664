import AiCustomerService.Properties.ResolvedCases
import AiCustomerService.Workers.ReminderRuns

/-!
# Acknowledged reminders

The customer is told that the transaction is checked again.  The command that passes this on has
a key of the case and the thread, and an insert under a key that is taken is ignored, whatever has
become of the command that took it.
-/

namespace AiCustomerService

open Support Support.Machine

variable {settings : ReminderSettings} {T : Type} [DecidableEq T]

/-- The command of the reminder is still to be executed. -/
def Database.RemindsOf (db : Database) (reminder : Reminder) : Prop :=
  ∃ row, db.externalCommands.find? reminder.dedupKey = some row ∧
    row.commandType = CommandType.telegramRemindCase.text ∧ row.status.isOpen = true

/-- The staff is reminded, or has been since the case last left a status in which it is not. -/
def ReminderWorld.Reminded (w : ReminderWorld) (reminder : Reminder) : Prop :=
  w.workers.db.RemindsOf reminder ∨
    (reminder.telegramCaseId, reminder.sourceThreadId) ∈ w.sentSince

/-- A commit that acknowledges a reminder, in a conversation that nobody has taken over. -/
structure Acknowledges (w : ReminderWorld) (index : Nat) (reply : PreparedReply)
    (reminder : Reminder) : Prop where
  prepared : w.prepared[index]? = some reply
  reminder? : reply.reminder? = some reminder
  commits : ∃ db result, reply.commit w.workers.db = .ok (db, result) ∧
    result.humanActiveSkipped = false

/-- After an acknowledgement, the staff is or has been reminded. -/
def RemindsStaff (c : Config (reminderMachine settings) T) :
    Label (reminderMachine settings) T → Prop
  | .env (.commit index) => ∀ reply reminder, Acknowledges c.world index reply reminder →
      ReminderWorld.Reminded (step c (.env (.commit index))).world reminder
  | _ => True

/-- The case update of the reply. -/
def PreparedReply.caseUpdate? (reply : PreparedReply) : Option TelegramCaseUpdate :=
  (reply.output.map GatewayOutput.graphState).bind GraphState.telegramCaseUpdate

/-- No command of the case and the thread is dead, or a follow-up has been delivered and the
commit does not take the case out of a settled status. -/
def ReminderWorld.CanRemind (w : ReminderWorld) (reply : PreparedReply) (reminder : Reminder) :
    Prop :=
  (∀ row, w.workers.db.externalCommands.find? reminder.dedupKey = some row →
      row.commandType = CommandType.telegramRemindCase.text ∧ row.status.isOpen = true) ∨
    (reminder.telegramCaseId, reminder.sourceThreadId) ∈ w.sentSince ∧
      leavesSettled w.workers.db (applyCaseUpdate w.workers.db reply.caseUpdate?)
        reminder.telegramCaseId = false

/-- An acknowledgement is only committed then. -/
def AcknowledgesAlive (c : Config (reminderMachine settings) T) :
    Label (reminderMachine settings) T → Prop
  | .env (.commit index) => ∀ reply reminder, Acknowledges c.world index reply reminder →
      ReminderWorld.CanRemind c.world reply reminder
  | _ => True

/-! ## One commit -/

/-- What the commit of a reply with a reminder does to the row of its command. -/
theorem remindsOf_commit_iff {db db' : Database} {reply : PreparedReply} {reminder : Reminder}
    {result : TransactionResult} (hreminder : reply.reminder? = some reminder)
    (hcommit : reply.commit db = .ok (db', result)) (hskip : result.humanActiveSkipped = false) :
    db'.RemindsOf reminder ↔
      ∀ row, db.externalCommands.find? reminder.dedupKey = some row →
        row.commandType = CommandType.telegramRemindCase.text ∧ row.status.isOpen = true := by
  rcases processEvent_cases hcommit with hskipped | henqueued
  · rw [hskipped.skipped] at hskip
    cases hskip
  · obtain ⟨base, queued, -, hbase, henqueue, -, hqueued⟩ := henqueued.queued
    obtain ⟨mid, houtbound, hcommands⟩ := enqueue_ok henqueue
    have hmid : mid.externalCommands = db.externalCommands := by
      rw [insertOutbounds_frame houtbound]
      exact hbase
    rw [PreparedReply.externalCommands, hreminder] at hcommands
    obtain ⟨new, htype, hstatus, hfind⟩ := find?_first_externalCommand hcommands
    simp only [externalCommandDedupKey_of_reminder] at hfind
    unfold Database.RemindsOf
    rw [hqueued, hfind, hmid]
    cases hold : db.externalCommands.find? reminder.dedupKey with
    | some old => simp
    | none =>
        have hnew : new.commandType = CommandType.telegramRemindCase.text ∧
            new.status.isOpen = true := ⟨htype, by rw [hstatus]; rfl⟩
        simp [hnew]

/-- Whether the commit takes a case out of a settled status. -/
theorem leavesSettled_commit {db db' : Database} {reply : PreparedReply}
    {result : TransactionResult} (hcommit : reply.commit db = .ok (db', result))
    (hskip : result.humanActiveSkipped = false) (caseId : Nat) :
    leavesSettled db db' caseId =
      leavesSettled db (applyCaseUpdate db reply.caseUpdate?) caseId := by
  have hcases := telegramCases_processEvent hcommit
  have hfree : ∀ update, db.effectiveUpdate (textOr reply.turn.event.chatId "unknown")
      reply.turn.event.threadId update = update := by
    intro update
    rcases processEvent_cases hcommit with hskipped | henqueued
    · rw [hskipped.skipped] at hskip
      cases hskip
    · simp [Database.effectiveUpdate, henqueued.free]
  rw [hfree] at hcases
  simp only [leavesSettled, Database.caseSettled, caseStatus?_congr hcases]
  rfl

/-- Along a run, the staff is or has been reminded after every acknowledgement exactly when none
is committed while the command of its case and thread is dead. -/
theorem acknowledged_is_reminded_iff (settings : ReminderSettings)
    (c : Config (reminderMachine settings) T) (labels : List (Label (reminderMachine settings) T)) :
    AllSteps RemindsStaff c labels ↔ AllSteps AcknowledgesAlive c labels := by
  have hstep : ∀ (c : Config (reminderMachine settings) T) l,
      RemindsStaff c l ↔ AcknowledgesAlive c l := by
    intro c l
    cases l with
    | act t choice => exact Iff.rfl
    | spawn t job => exact Iff.rfl
    | env event =>
        cases event with
        | commit index =>
            apply forall_congr'
            intro reply
            apply forall_congr'
            intro reminder
            apply imp_congr_right
            rintro ⟨hprepared, hreminder, db, result, hcommit, hskip⟩
            have hworld : (step c (.env (.commit index))).world =
                { ReminderWorld.write c.world db with
                  prepared := (ReminderWorld.prepared c.world).eraseIdx index } := by
              change ReminderWorld.after settings.graph c.world (.commit index) = _
              simp only [ReminderWorld.after, hprepared, hcommit]
            unfold ReminderWorld.Reminded ReminderWorld.CanRemind
            rw [hworld]
            apply or_congr
            · exact remindsOf_commit_iff hreminder hcommit hskip
            · simp [ReminderWorld.write, leavesSettled_commit hcommit hskip]
        | worker event => exact Iff.rfl
        | prepare turn supplement => exact Iff.rfl
        | result context ref graphState messages commands summary => exact Iff.rfl
        | sync row => exact Iff.rfl
  constructor
  · exact fun h => h.mono fun c l => (hstep c l).mp
  · exact fun h => h.mono fun c l => (hstep c l).mpr

/-! ## A reminder that is canceled -/

/-- The workers give up a follow-up as the code does. -/
def plainReminders : ReminderSettings where
  graph := ⟨plainTurns, noOtherBranch, fun _ _ => .ok none⟩
  command := { CommandSettings.plain with effectiveFollowUpKind := effectiveFollowUpKind .plain }

abbrev ReminderLabel := Label (reminderMachine plainReminders) Unit

/-- The case of thread `T1`, before its customer asks in thread `T2`. -/
def reminderStart : Config (reminderMachine plainReminders) Unit :=
  idle (⟨⟨openCaseDatabase, [], [], []⟩, [], []⟩ : ReminderWorld)

/-- The customer asks for the money, and the gateway commits its reply. -/
def asksAgain : List ReminderLabel :=
  [.env (.prepare (customerWrites "T2" "I have not received the money") ∅), .env (.commit 0)]

/-- The status of the case changes. -/
def caseBecomes (status : String) : ReminderLabel := .env (.worker (.updateCaseStatus ⟨1, status⟩))

/-- A worker processes the command while the staff waits for the customer, and gives it up. -/
def canceledReminder : List ReminderLabel :=
  asksAgain ++ caseBecomes "waiting_customer" :: .spawn () ⟨1, "worker", 60⟩ ::
    List.replicate 4 (.act () CommandChoice.good) ++ [caseBecomes "under_review"]

/-- Where the second acknowledgement is about to be committed. -/
def askedAgain : ReminderWorld := (run reminderStart (canceledReminder ++ asksAgain.take 1)).world

/-- The key of the second reminder, and whether its commit goes through. -/
def secondReminder : Option (String × Bool) :=
  askedAgain.prepared[0]?.bind fun reply => reply.reminder?.map fun reminder =>
    (reminder.dedupKey, match reply.commit askedAgain.workers.db with
      | .ok (_, result) => !result.humanActiveSkipped
      | .error _ => false)

/-- Where it has been committed. -/
def acknowledgedAgain : ReminderWorld :=
  (run reminderStart (canceledReminder ++ asksAgain)).world

/-- The customer who asks a second time is told that the case is checked again, but the only
command has been given up. -/
theorem canceled_reminder_is_acknowledged :
    ¬AllSteps RemindsStaff reminderStart (canceledReminder ++ asksAgain) ∧
      ((run reminderStart (canceledReminder ++ asksAgain)).world.workers.db.externalCommands.rows.map
        (·.status)) = [.sent] := by
  have hsecond : secondReminder = some ("telegram.case.followup:-100:5:T2", true) := by
    decide +kernel
  have hafter : (acknowledgedAgain.workers.db.externalCommands.rows.map (·.status),
      acknowledgedAgain.sentSince) = ([.sent], []) := by
    decide +kernel
  obtain ⟨hstatuses, hsentSince⟩ := Prod.mk.inj hafter
  refine ⟨?_, hstatuses⟩
  intro h
  obtain ⟨reply, hprepared, hreply⟩ := Option.bind_eq_some_iff.mp hsecond
  obtain ⟨reminder, hreminder, hpair⟩ := Option.map_eq_some_iff.mp hreply
  have hcommits : ∃ db result, reply.commit askedAgain.workers.db = .ok (db, result) ∧
      result.humanActiveSkipped = false := by
    have hgoes := (Prod.mk.inj hpair).2
    split at hgoes
    · rename_i db result hcommit
      exact ⟨db, result, hcommit, by simpa using hgoes⟩
    · cases hgoes
  have hacknowledges : Acknowledges askedAgain 0 reply reminder :=
    ⟨hprepared, hreminder, hcommits⟩
  have hreminded : acknowledgedAgain.Reminded reminder :=
    (allSteps_append.mp h).2.2.1 reply reminder hacknowledges
  rcases hreminded with ⟨row, hrow, -, hopen⟩ | hsent
  · have hstatus : row.status ∈ [QueueStatus.sent] := by
      rw [← hstatuses]
      exact List.mem_map_of_mem (Table.mem_of_find? hrow)
    rw [List.mem_singleton.mp hstatus] at hopen
    cases hopen
  · rw [hsentSince] at hsent
    cases hsent

end AiCustomerService
