import AiCustomerService.Db.Commands
import AiCustomerService.Db.ResultRows
import Mathlib.Logic.Function.Iterate

/-!
# The limit of the processing attempts

`mark_processing_failed` of both queues increases `retry_count` before the `CASE` reads it, so
the last attempt is given up one failure too early.
-/

namespace AiCustomerService

open Support

/-- The columns that count the failures of a row. -/
structure FailureColumns where
  retryCount : Nat
  status : QueueStatus

/-- What one call of `mark_processing_failed` assigns to them, from left to right. -/
def FailureColumns.failedOnce (maxRetries : Nat) (columns : FailureColumns) : FailureColumns :=
  let retryCount := columns.retryCount + 1
  ⟨retryCount, if maxRetries ≤ retryCount + 1 then .failed else .retryable⟩

def ExternalCommandRow.failureColumns (row : ExternalCommandRow) : FailureColumns :=
  ⟨row.retryCount, row.status⟩

def ExternalResultRow.failureColumns (row : ExternalResultRow) : FailureColumns :=
  ⟨row.retryCount, row.status⟩

/-- The row of a command. -/
def Database.commandRow? (db : Database) (commandId : Nat) : Option ExternalCommandRow :=
  db.externalCommands.rows.find? fun row => row.id = commandId

/-- The processing of a command fails again and again, each time with an error of its own. -/
def commandFailures (db : Database) (commandId maxRetries : Nat) (errors : List String) :
    Database :=
  errors.foldl (fun db error => markCommandProcessingFailed db commandId error maxRetries) db

/-- The processing of a result fails again and again. -/
def resultFailures (db : Database) (resultId maxRetries : Nat) (errors : List String) : Database :=
  errors.foldl (fun db error => markResultProcessingFailed db resultId error maxRetries) db

/-- The row stays `RETRYABLE` for all failures before the limit and is `FAILED` at the limit. -/
def FailsAtLimit (maxRetries : Nat) (statusAfter : List String → Option QueueStatus) : Prop :=
  (∀ errors, 0 < errors.length → errors.length < maxRetries →
      statusAfter errors = some .retryable) ∧
    ∀ errors, errors.length = maxRetries → statusAfter errors = some .failed

section Columns

variable {maxRetries : Nat} {columns : FailureColumns}

theorem retryCount_iterate (n : Nat) :
    ((FailureColumns.failedOnce maxRetries)^[n] columns).retryCount = columns.retryCount + n := by
  induction n with
  | zero => rfl
  | succ n ih =>
      rw [Function.iterate_succ_apply']
      exact congrArg Nat.succ ih

/-- The test of the last failure reads the count that it has just increased. -/
theorem status_iterate (n : Nat) :
    ((FailureColumns.failedOnce maxRetries)^[n + 1] columns).status =
      if maxRetries ≤ columns.retryCount + n + 2 then .failed else .retryable := by
  rw [Function.iterate_succ_apply']
  change (if maxRetries ≤ ((FailureColumns.failedOnce maxRetries)^[n] columns).retryCount + 2 then
    QueueStatus.failed else .retryable) = _
  rw [retryCount_iterate]

/-- A row that has not failed yet meets the limit only where a single failure is allowed. -/
theorem failsAtLimit_iff {statusAfter : List String → Option QueueStatus}
    (hmax : 1 ≤ maxRetries) (hcount : columns.retryCount = 0)
    (hstatus : ∀ errors, statusAfter errors =
      some ((FailureColumns.failedOnce maxRetries)^[errors.length] columns).status) :
    FailsAtLimit maxRetries statusAfter ↔ maxRetries = 1 := by
  constructor
  · rintro ⟨hretryable, -⟩
    by_contra hne
    obtain ⟨n, rfl⟩ : ∃ n, maxRetries = n + 2 := ⟨maxRetries - 2, by omega⟩
    have hlast := hretryable (List.replicate (n + 1) "") (by simp) (by simp)
    rw [hstatus, List.length_replicate, status_iterate, hcount, if_pos (by omega)] at hlast
    cases hlast
  · rintro rfl
    constructor
    · intro errors hpos hless
      omega
    · intro errors hlength
      rw [hstatus, hlength, status_iterate, if_pos (by omega)]

end Columns

section Rows

variable {db : Database} {commandId resultId maxRetries : Nat}

theorem commandRow?_updateCommand {assign : ExternalCommandRow → ExternalCommandRow}
    {hkey : ∀ row, (assign row).dedupKey = row.dedupKey} (hid : ∀ row, (assign row).id = row.id) :
    (db.updateCommand commandId assign hkey).commandRow? commandId =
      (db.commandRow? commandId).map assign := by
  have hselect : ∀ row : ExternalCommandRow,
      decide ((assign row).id = commandId) = decide (row.id = commandId) := fun row => by rw [hid]
  exact @Table.find?_select_updateWhere _ _ _ db.externalCommands _ assign hkey hselect

/-- Every failure of a command is counted. -/
theorem columns_commandFailures {row : ExternalCommandRow} (errors : List String)
    (hrow : db.commandRow? commandId = some row) :
    ((commandFailures db commandId maxRetries errors).commandRow? commandId).map
        ExternalCommandRow.failureColumns =
      some ((FailureColumns.failedOnce maxRetries)^[errors.length] row.failureColumns) := by
  induction errors generalizing db row with
  | nil => exact congrArg (Option.map ExternalCommandRow.failureColumns) hrow
  | cons error rest ih =>
      have hfailed := (@commandRow?_updateCommand db commandId (fun row =>
        let retryCount := row.retryCount + 1
        { row with
          retryCount
          status := if maxRetries ≤ retryCount + 1 then .failed else .retryable
          lastError := some error
          lease := .none }) (fun _ => rfl) fun _ => rfl).trans (congrArg _ hrow)
      exact ih hfailed

/-- Every failure of a result is counted. -/
theorem columns_resultFailures {row : ExternalResultRow} (errors : List String)
    (hrow : db.resultRow? resultId = some row) :
    ((resultFailures db resultId maxRetries errors).resultRow? resultId).map
        ExternalResultRow.failureColumns =
      some ((FailureColumns.failedOnce maxRetries)^[errors.length] row.failureColumns) := by
  induction errors generalizing db row with
  | nil => exact congrArg (Option.map ExternalResultRow.failureColumns) hrow
  | cons error rest ih =>
      have hfailed := @resultRow?_updateResult db
        (markResultProcessingFailed db resultId error maxRetries) resultId (fun row =>
          let retryCount := row.retryCount + 1
          { row with
            retryCount
            status := if maxRetries ≤ retryCount + 1 then .failed else .retryable
            lastError := some error
            lease := .none }) (fun _ => rfl) rfl (fun _ => rfl) resultId
      rw [if_pos rfl, hrow] at hfailed
      exact ih hfailed

theorem status_commandFailures {row : ExternalCommandRow} (errors : List String)
    (hrow : db.commandRow? commandId = some row) :
    (commandFailures db commandId maxRetries errors).commandStatus? commandId =
      some ((FailureColumns.failedOnce maxRetries)^[errors.length] row.failureColumns).status := by
  have hcolumns := congrArg (Option.map FailureColumns.status)
    (@columns_commandFailures db commandId maxRetries row errors hrow)
  rw [Option.map_map] at hcolumns
  exact hcolumns

theorem status_resultFailures {row : ExternalResultRow} (errors : List String)
    (hrow : db.resultRow? resultId = some row) :
    ((resultFailures db resultId maxRetries errors).resultRow? resultId).map
        ExternalResultRow.status =
      some ((FailureColumns.failedOnce maxRetries)^[errors.length] row.failureColumns).status := by
  have hcolumns := congrArg (Option.map FailureColumns.status)
    (@columns_resultFailures db resultId maxRetries row errors hrow)
  rw [Option.map_map] at hcolumns
  exact hcolumns

end Rows

/-- A row that has not failed yet is given up at the limit, and not before, exactly if the limit
is a single failure; this holds of commands and of results. -/
theorem failsAtLimit_iff_single (maxRetries : Nat) (hmax : 1 ≤ maxRetries) {db : Database}
    {commandId resultId : Nat} {command : ExternalCommandRow} {result : ExternalResultRow}
    (hcommand : db.commandRow? commandId = some command) (hcommandCount : command.retryCount = 0)
    (hresult : db.resultRow? resultId = some result) (hresultCount : result.retryCount = 0) :
    (FailsAtLimit maxRetries (fun errors =>
        (commandFailures db commandId maxRetries errors).commandStatus? commandId) ↔
      maxRetries = 1) ∧
    (FailsAtLimit maxRetries (fun errors =>
        ((resultFailures db resultId maxRetries errors).resultRow? resultId).map
          ExternalResultRow.status) ↔
      maxRetries = 1) := by
  constructor
  · apply @failsAtLimit_iff _ command.failureColumns _ hmax hcommandCount
    intro errors
    exact status_commandFailures errors hcommand
  · apply @failsAtLimit_iff _ result.failureColumns _ hmax hresultCount
    intro errors
    exact status_resultFailures errors hresult

/-! ## A limit of three attempts -/

/-- A command that waits to be executed. -/
def waitingCommand : ExternalCommand where
  tenantId := none
  conversationId := "livechat:C:T"
  chatId := some "C"
  threadId := some "T"
  inboundEventId := some 1
  commandType := "backend.query"
  payloadJson := ∅
  status := .pending
  dedupKey := some "command"

/-- The result of the command. -/
def waitingResult : ExternalResult where
  externalCommandId := 1
  tenantId := none
  conversationId := "livechat:C:T"
  chatId := "C"
  threadId := some "T"
  inboundEventId := some 1
  commandType := "backend.query"
  resultType := "backend.query.completed"
  resultJson := ∅
  status := none
  lastError := none
  dedupKey := some "result"

/-- A database with the command and its result. -/
def waitingRows : Database :=
  match insertExternalCommand .empty waitingCommand with
  | .ok (db, _) => (insertExternalResult db waitingResult).1
  | .error _ => .empty

/-- With a limit of three attempts the second failure is the last one, for the command and for
its result. -/
theorem second_failure_is_last :
    ¬FailsAtLimit 3 (fun errors => (commandFailures waitingRows 1 3 errors).commandStatus? 1) ∧
      ¬FailsAtLimit 3 (fun errors =>
        ((resultFailures waitingRows 1 3 errors).resultRow? 1).map ExternalResultRow.status) := by
  constructor
  · intro h
    have hsecond := h.1 ["timeout", "timeout"] (by decide) (by decide)
    revert hsecond
    decide
  · intro h
    have hsecond := h.1 ["timeout", "timeout"] (by decide) (by decide)
    revert hsecond
    decide

/-- A single attempt is counted as it should be. -/
theorem single_failure_is_last :
    FailsAtLimit 1 (fun errors => (commandFailures waitingRows 1 1 errors).commandStatus? 1) :=
  (@failsAtLimit_iff_single 1 (by decide) waitingRows 1 1 _ _ rfl rfl rfl rfl).1.mpr rfl

end AiCustomerService
