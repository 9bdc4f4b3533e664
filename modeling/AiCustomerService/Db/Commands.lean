import AiCustomerService.Db.Queues

/-!
# External commands

`ExternalCommandRepository`: a worker leases the open rows, and every statement that
finishes a row names it by its id only.
-/

namespace AiCustomerService

open Support

/-- Rewrite the command rows with a given id. -/
def Database.updateCommand (db : Database) (commandId : Nat)
    (assign : ExternalCommandRow → ExternalCommandRow)
    (hkey : ∀ row, (assign row).dedupKey = row.dedupKey) : Database :=
  { db with
    externalCommands :=
      db.externalCommands.updateWhere (fun row => row.id = commandId) assign hkey }

/-- `_lease_pending_by_id_on_connection`, and `lease_pending` for each of its rows: the
database and the leased row, or `none` when the row cannot be leased. -/
def Database.leaseCommand? (db : Database) (commandId : Nat) (workerId : String)
    (leaseSeconds : Nat) : Option (Database × ExternalCommandRow) :=
  (db.externalCommands.rows.find? fun row =>
    row.id = commandId && row.status.isOpen && row.lease.isFree db.now).map fun row =>
      (db.updateCommand commandId
          (fun row => { row with lease := .taken workerId db.now leaseSeconds }) fun _ => rfl,
        { row with lease := .taken workerId db.now leaseSeconds })

/-- `release_lease`. -/
def releaseCommandLease (db : Database) (commandId : Nat) : Database :=
  db.updateCommand commandId (fun row => { row with lease := .none }) fun _ => rfl

/-- `recover_expired_leases`. -/
def recoverExpiredCommandLeases (db : Database) : Database :=
  { db with
    externalCommands :=
      db.externalCommands.updateWhere
        (fun row => row.status.isOpen && row.lease.isExpired db.now)
        (fun row => { row with lease := .none }) fun _ => rfl }

/-- `_mark_status`. -/
def setCommandStatus (db : Database) (commandId : Nat) (status : QueueStatus) : Database :=
  db.updateCommand commandId (fun row => { row with status, lease := .none }) fun _ => rfl

/-- `mark_sent`. -/
def markCommandSent (db : Database) (commandId : Nat) : Database :=
  setCommandStatus db commandId .sent

/-- `mark_dry_run_done`. -/
def markCommandDryRunDone (db : Database) (commandId : Nat) : Database :=
  setCommandStatus db commandId .dryRunDone

/-- `mark_status`. -/
def markCommandStatus (db : Database) (commandId : Nat) (status : QueueStatus)
    (error : Option String) : Database :=
  db.updateCommand commandId
    (fun row => { row with status, lastError := error, lease := .none }) fun _ => rfl

/-- `mark_processing_failed`.  The assignments are made from left to right, so the `CASE`
counts from the retry count that was just increased. -/
def markCommandProcessingFailed (db : Database) (commandId : Nat) (error : String)
    (maxRetries : Nat) : Database :=
  db.updateCommand commandId
    (fun row =>
      let retryCount := row.retryCount + 1
      { row with
        retryCount
        status := if maxRetries ≤ retryCount + 1 then .failed else .retryable
        lastError := some error
        lease := .none })
    fun _ => rfl

/-- The status as it is stored. -/
def QueueStatus.text : QueueStatus → String
  | .pending => "PENDING"
  | .retryable => "RETRYABLE"
  | .sent => "SENT"
  | .processed => "PROCESSED"
  | .dryRunDone => "DRY_RUN_DONE"
  | .failed => "FAILED"
  | .failedConfig => "FAILED_CONFIG"
  | .failedBusiness => "FAILED_BUSINESS"
  | .failedUnknown => "FAILED_UNKNOWN"
  | .failedUnsupported => "FAILED_UNSUPPORTED"
  | .failedDeliveryUncertain => "FAILED_DELIVERY_UNCERTAIN"
  | .failedDependency => "FAILED_DEPENDENCY"
  | .failedAfterExternalSuccess => "FAILED_AFTER_EXTERNAL_SUCCESS"
  | .skippedHumanActive => "SKIPPED_HUMAN_ACTIVE"
  | .skippedUnsupported => "SKIPPED_UNSUPPORTED"
  | .skippedDisabled => "SKIPPED_DISABLED"
  | .skippedCommandFailed => "SKIPPED_COMMAND_FAILED"
  | .skippedManualSmoke => "SKIPPED_MANUAL_SMOKE"
  | .other errorCode => errorCode

/-- The status with a given text. -/
def QueueStatus.ofText (text : String) : QueueStatus :=
  ([.pending, .retryable, .sent, .processed, .dryRunDone, .failed, .failedConfig, .failedBusiness,
    .failedUnknown, .failedUnsupported, .failedDeliveryUncertain, .failedDependency,
    .failedAfterExternalSuccess, .skippedHumanActive, .skippedUnsupported, .skippedDisabled,
    .skippedCommandFailed, .skippedManualSmoke].find? fun status => status.text = text).getD
      (.other text)

/-- The status of a command. -/
def Database.commandStatus? (db : Database) (commandId : Nat) : Option QueueStatus :=
  (db.externalCommands.rows.find? fun row => row.id = commandId).map ExternalCommandRow.status

/-! ## Payloads -/

mutual

/-- `JSON_MERGE_PATCH(target, patch)`. -/
def mergePatch (target : Json) : Json → Json
  | .obj ⟨entries⟩ => .obj (mergeEntries target.dictOrEmpty entries)
  | .null => .null
  | .bool b => .bool b
  | .int n => .int n
  | .float value repr => .float value repr
  | .str s => .str s
  | .arr items => .arr items

/-- Merge the entries of a patch one after another; `null` removes a key. -/
def mergeEntries (fields : JsonObject) : List (String × Json) → JsonObject
  | [] => fields
  | (key, value) :: rest =>
      mergeEntries
        (if value.isNull then fields.erase key
        else fields.set key (mergePatch (getKey fields key) value)) rest

end

/-- `merge_payload_json`. -/
def mergePayloadJson (db : Database) (commandId : Nat) (patch : JsonObject) : Database :=
  db.updateCommand commandId
    (fun row => { row with payloadJson := mergeEntries row.payloadJson patch.entries })
    fun _ => rfl

/-- A key that a patch only sets to `True` is `True` afterwards, if the patch or the target
has it. -/
theorem getKey_mergeEntries {fields : JsonObject} {entries : List (String × Json)} {key : String}
    (hentries : ∀ entry ∈ entries, entry.1 = key → entry.2 = .bool true)
    (h : (∃ entry ∈ entries, entry.1 = key) ∨ getKey fields key = .bool true) :
    getKey (mergeEntries fields entries) key = .bool true := by
  induction entries generalizing fields with
  | nil =>
      rcases h with ⟨entry, hmem, -⟩ | h
      · cases hmem
      · rw [mergeEntries]
        exact h
  | cons entry rest ih =>
      obtain ⟨name, value⟩ := entry
      rw [mergeEntries]
      have hrest : ∀ entry ∈ rest, entry.1 = key → entry.2 = .bool true :=
        fun entry hmem => hentries entry (List.mem_cons_of_mem _ hmem)
      apply ih hrest
      by_cases hname : name = key
      · have hvalue : value = .bool true := hentries _ List.mem_cons_self hname
        right
        subst hname hvalue
        simp [Json.isNull, getKey, Dict.get?_set, mergePatch]
      · rcases h with ⟨entry, hmem, hkey⟩ | h
        · rcases List.mem_cons.mp hmem with rfl | hmem
          · exact absurd hkey hname
          · exact Or.inl ⟨entry, hmem, hkey⟩
        · right
          unfold getKey at h ⊢
          split
          · rw [Dict.get?_erase, if_neg fun heq => hname heq.symm]
            exact h
          · rw [Dict.get?_set, if_neg fun heq => hname heq.symm]
            exact h

/-- The entries of a key are `True`, and there is one. -/
def SetsTrue (key : String) (fields : JsonObject) : Prop :=
  (∀ entry ∈ fields.entries, entry.1 = key → entry.2 = .bool true) ∧
    ∃ entry ∈ fields.entries, entry.1 = key

theorem setsTrue_set (key : String) (fields : JsonObject) :
    SetsTrue key (fields.set key (.bool true)) := by
  refine ⟨?_, ⟨_, List.mem_cons_self, rfl⟩⟩
  intro entry hmem hkey
  rcases List.mem_cons.mp hmem with rfl | hmem
  · rfl
  · have hne := (List.mem_filter.mp hmem).2
    simp [hkey] at hne

theorem SetsTrue.set_other {key other : String} {fields : JsonObject}
    (h : SetsTrue key fields) (hne : other ≠ key) (value : Json) :
    SetsTrue key (fields.set other value) := by
  obtain ⟨hall, entry, hmem, hkey⟩ := h
  constructor
  · intro entry hmem hkey
    rcases List.mem_cons.mp hmem with rfl | hmem
    · exact absurd hkey hne
    · exact hall entry (List.mem_filter.mp hmem).1 hkey
  · refine ⟨entry, List.mem_cons_of_mem _ (List.mem_filter.mpr ⟨hmem, ?_⟩), hkey⟩
    simpa [hkey] using hne.symm

/-! ## The rows of a command -/

/-- Every row of the command satisfies a property. -/
def Database.CommandAll (db : Database) (commandId : Nat) (P : ExternalCommandRow → Prop) :
    Prop :=
  ∀ row ∈ db.externalCommands.rows, row.id = commandId → P row

theorem commandAll_update {db : Database} {commandId : Nat} {P Q : ExternalCommandRow → Prop}
    (select : ExternalCommandRow → Bool) (assign : ExternalCommandRow → ExternalCommandRow)
    (hkey : ∀ row, (assign row).dedupKey = row.dedupKey) {db' : Database}
    (hdb' : db'.externalCommands = db.externalCommands.updateWhere select assign hkey)
    (h : db.CommandAll commandId P) (hassign : ∀ row, select row = true → P row → Q (assign row))
    (hid : ∀ row, (assign row).id = row.id)
    (hkept : ∀ row, row.id = commandId → select row = false → P row → Q row) :
    db'.CommandAll commandId Q := by
  intro row hmem hrow
  rw [hdb', Table.rows_updateWhere] at hmem
  obtain ⟨old, hold, rfl⟩ := List.mem_map.mp hmem
  by_cases hselect : select old = true
  · rw [if_pos hselect] at hrow ⊢
    exact hassign old hselect (h old hold (hid old ▸ hrow))
  · rw [if_neg hselect] at hrow ⊢
    exact hkept old hrow (by simpa using hselect) (h old hold hrow)

/-- An update of the rows of a command that gives them a property. -/
theorem commandAll_updateCommand {db : Database} {commandId : Nat}
    {P Q : ExternalCommandRow → Prop} {assign : ExternalCommandRow → ExternalCommandRow}
    {hkey : ∀ row, (assign row).dedupKey = row.dedupKey} (updatedId : Nat)
    (h : db.CommandAll commandId P) (hassign : ∀ row, P row → Q (assign row))
    (hid : ∀ row, (assign row).id = row.id) (hkept : updatedId ≠ commandId → ∀ row, P row → Q row) :
    (db.updateCommand updatedId assign hkey).CommandAll commandId Q := by
  apply commandAll_update (fun row => decide (row.id = updatedId)) assign hkey rfl h
    (fun row _ => hassign row) hid
  intro row hrow hselect
  apply hkept
  rintro rfl
  simp [hrow] at hselect

/-- The last failure that is counted closes a command. -/
theorem closed_of_processingFailed {db : Database} {commandId : Nat} (error : String)
    {maxRetries : Nat} (h : db.CommandAll commandId fun row => maxRetries ≤ row.retryCount + 2) :
    (markCommandProcessingFailed db commandId error maxRetries).CommandAll commandId
      fun row => row.status.isOpen = false := by
  unfold markCommandProcessingFailed
  refine commandAll_updateCommand commandId h ?_ (fun _ => rfl) fun hne => absurd rfl hne
  intro row hrow
  have hlast : maxRetries ≤ row.retryCount + 1 + 1 := hrow
  dsimp only
  rw [if_pos hlast]
  rfl

/-- A leased row was open, and the lease changes nothing else. -/
theorem leaseCommand?_eq_some {db db' : Database} {commandId : Nat} {workerId : String}
    {leaseSeconds : Nat} {row : ExternalCommandRow}
    (h : db.leaseCommand? commandId workerId leaseSeconds = some (db', row)) :
    (∃ stored ∈ db.externalCommands.rows, stored.id = commandId ∧ stored.status.isOpen = true ∧
        row = { stored with lease := .taken workerId db.now leaseSeconds }) ∧
      db' = db.updateCommand commandId
        (fun row => { row with lease := .taken workerId db.now leaseSeconds }) fun _ => rfl := by
  obtain ⟨stored, hfind, hrow⟩ := Option.map_eq_some_iff.mp h
  cases hrow
  have hselect := List.find?_some hfind
  simp only [Bool.and_eq_true, decide_eq_true_eq] at hselect
  exact ⟨⟨stored, List.mem_of_find?_eq_some hfind, hselect.1.1, hselect.1.2, rfl⟩, rfl⟩

end AiCustomerService
