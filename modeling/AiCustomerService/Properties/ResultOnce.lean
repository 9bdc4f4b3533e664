import AiCustomerService.Workers.CommandSteps

/-!
# One result for a command

A result is inserted unless its key is stored, and the key hashes the whole result.  A
command that is executed again keeps its single result only when the second execution
produces the same one.
-/

namespace AiCustomerService

open Support Support.Machine

/-- The command and the type of a result. -/
def ExternalResultRow.slot (row : ExternalResultRow) : Nat × String :=
  (row.externalCommandId, row.resultType)

/-- The commands and types of the stored results. -/
def Database.resultSlots (db : Database) : List (Nat × String) :=
  db.externalCommandResults.rows.map ExternalResultRow.slot

/-- At most one row per command and result type. -/
def Database.OneResultEach (db : Database) : Prop := db.resultSlots.Nodup

instance (db : Database) : Decidable db.OneResultEach := inferInstanceAs (Decidable (List.Nodup _))

/-- A result is only inserted for a command and a type that have a row when its key, the
hash of the result included, is stored. -/
def RepeatsResult (w : CommandWorld) (op : WorkerOp) (choice : CommandChoice) : Prop :=
  ∀ result ∈ op.result?, choice.takesEffect = true →
    (result.externalCommandId, result.resultType) ∈ w.db.resultSlots →
      w.db.externalCommandResults.hasKey (externalResultDedupKey result)

instance (w : CommandWorld) (op : WorkerOp) (choice : CommandChoice) :
    Decidable (RepeatsResult w op choice) :=
  match hresult : op.result? with
  | none => isTrue (by simp [RepeatsResult, hresult])
  | some result =>
      decidable_of_iff (choice.takesEffect = true →
        (result.externalCommandId, result.resultType) ∈ w.db.resultSlots →
          w.db.externalCommandResults.hasKey (externalResultDedupKey result))
        (by simp [RepeatsResult, hresult])

section Steps

variable {settings : CommandSettings} {choice : CommandChoice} {w : CommandWorld}

/-- An insert appends one slot, or nothing when the key is stored. -/
theorem resultSlots_insert (db : Database) (result : ExternalResult) :
    (insertExternalResult db result).1.resultSlots =
      if db.externalCommandResults.hasKey (externalResultDedupKey result) then db.resultSlots
      else db.resultSlots ++ [(result.externalCommandId, result.resultType)] := by
  have hkey : (result.row (db.externalCommandResults.rows.length + 1) db.now).dedupKey =
      externalResultDedupKey result := rfl
  unfold Database.resultSlots insertExternalResult
  split_ifs with hstored
  · dsimp only
    rw [Table.insertIdempotent_of_hasKey (by rw [hkey]; exact hstored)]
  · dsimp only
    rw [Table.rows_insertIdempotent_of_not_hasKey (by rw [hkey]; exact hstored), List.map_append]
    rfl

/-- What an insert leaves, with the failures of the connection. -/
theorem resultSlots_handle_insert (result : ExternalResult) :
    (handleWorkerOp settings (.insertResult result) choice w).2.db.resultSlots =
      if choice.takesEffect = true ∧
          ¬w.db.externalCommandResults.hasKey (externalResultDedupKey result) then
        w.db.resultSlots ++ [(result.externalCommandId, result.resultType)]
      else w.db.resultSlots := by
  have heffect : (handleWorkerOp settings (.insertResult result) choice w).2.db.resultSlots =
      if choice.takesEffect = true then (insertExternalResult w.db result).1.resultSlots
      else w.db.resultSlots := by
    dsimp only [handleWorkerOp]
    rw [faulty_effect]
    split
    · rfl
    · rfl
  rw [heffect, resultSlots_insert]
  by_cases htakes : choice.takesEffect = true
  · by_cases hstored : w.db.externalCommandResults.hasKey (externalResultDedupKey result)
    · rw [if_pos htakes, if_pos hstored, if_neg fun h => h.2 hstored]
    · rw [if_pos htakes, if_neg hstored, if_pos ⟨htakes, hstored⟩]
  · rw [if_neg htakes, if_neg fun h => htakes h.1]

/-- A takeover closes results and inserts none. -/
theorem resultSlots_takeover (db : Database) (event : InboundEvent) :
    (markHumanActiveOnConnection db event).resultSlots = db.resultSlots := by
  have hinserted (conversationId chatId : String) (threadId : Option String)
      (stored : Option String → Option String) :
      (db.insertConversation conversationId chatId threadId stored).externalCommandResults =
        db.externalCommandResults := by
    unfold Database.insertConversation
    split
    · rfl
    · rfl
  unfold Database.resultSlots markHumanActiveOnConnection Database.cancelQueued
    Database.cancelResults Database.cancelCommands Database.cancelOutbound
    Database.updateConversation
  dsimp only
  rw [hinserted, Table.rows_updateWhere]
  exact Table.map_key_update _ _ _ fun _ => rfl

/-- The events insert no result. -/
theorem resultSlots_after (event : CommandEvent) :
    (w.after event).db.resultSlots = w.db.resultSlots := by
  cases event with
  | elapse => rfl
  | recoverExpiredLeases => rfl
  | updateCaseStatus => rfl
  | takeover event => exact resultSlots_takeover w.db event

theorem resultSlots_start {job : CommandJob} {prog : WorkerProg Unit} {w' : CommandWorld}
    (h : (commandMachine settings).start job w = some (prog, w')) :
    w'.db.resultSlots = w.db.resultSlots := by
  obtain ⟨_, _, _, _, _, hdb, _⟩ := commandMachine_start h
  rw [hdb]
  rfl

theorem oneResultEach_after (event : CommandEvent) (h : w.db.OneResultEach) :
    (w.after event).db.OneResultEach := by
  rw [Database.OneResultEach, resultSlots_after]
  exact h

theorem oneResultEach_start {job : CommandJob} {prog : WorkerProg Unit} {w' : CommandWorld}
    (hstart : (commandMachine settings).start job w = some (prog, w'))
    (h : w.db.OneResultEach) : w'.db.OneResultEach := by
  rw [Database.OneResultEach, resultSlots_start hstart]
  exact h

/-- An operation keeps the slots unique exactly when it repeats its result. -/
theorem oneResultEach_handle {op : WorkerOp} (h : w.db.OneResultEach) :
    (handleWorkerOp settings op choice w).2.db.OneResultEach ↔ RepeatsResult w op choice := by
  cases hresult : op.result? with
  | none =>
      have hsame : (handleWorkerOp settings op choice w).2.db.resultSlots = w.db.resultSlots := by
        rw [Database.resultSlots, handle_results hresult, Database.resultSlots]
      rw [Database.OneResultEach, hsame]
      simp [RepeatsResult, hresult, show w.db.resultSlots.Nodup from h]
  | some result =>
      cases op with
      | insertResult inserted =>
          cases hresult
          have hrepeats : RepeatsResult w (.insertResult result) choice ↔
              (choice.takesEffect = true →
                (result.externalCommandId, result.resultType) ∈ w.db.resultSlots →
                  w.db.externalCommandResults.hasKey (externalResultDedupKey result)) := by
            simp [RepeatsResult, WorkerOp.result?]
          rw [Database.OneResultEach, resultSlots_handle_insert, hrepeats]
          split_ifs with hinsert
          · rw [List.nodup_append]
            constructor
            · rintro ⟨-, -, hfresh⟩ _ hstored
              exact absurd rfl (hfresh _ hstored _ (List.mem_singleton_self _))
            · intro hkey
              refine ⟨h, List.nodup_singleton _, ?_⟩
              intro slot hslot other hother heq
              rw [List.mem_singleton] at hother
              subst hother heq
              exact hinsert.2 (hkey hinsert.1 hslot)
          · constructor
            · intro _ heffect _
              by_contra hnew
              exact hinsert ⟨heffect, hnew⟩
            · exact fun _ => h
      | _ => cases hresult

/-! ## Runs -/

variable {T : Type} [DecidableEq T]

/-- One step of a schedule. -/
theorem oneResultEach_step {c : Config (commandMachine settings) T}
    {l : Label (commandMachine settings) T} (h : Database.OneResultEach (CommandWorld.db c.world)) :
    Database.OneResultEach (CommandWorld.db (step c l).world) ↔ Executes RepeatsResult c l := by
  cases l with
  | act t choice =>
      cases hprog : c.threads t with
      | ret a =>
          rw [step_act_finished (by rw [hprog]; rfl)]
          simp [Executes, hprog, Prog.head?, h]
      | raise e =>
          rw [step_act_finished (by rw [hprog]; rfl)]
          simp [Executes, hprog, Prog.head?, h]
      | call op k =>
          rw [step_act hprog]
          have hexecutes : Executes RepeatsResult c (.act t choice) ↔
              RepeatsResult c.world op choice := by
            simp [Executes, hprog, Prog.head?]
          rw [hexecutes]
          exact oneResultEach_handle h
  | env e =>
      refine iff_of_true ?_ trivial
      exact oneResultEach_after e h
  | spawn t job =>
      refine iff_of_true ?_ trivial
      cases hhead : (c.threads t).head? with
      | some op =>
          rw [step_spawn_of_head_eq_some hhead]
          exact h
      | none =>
          cases hstart : (commandMachine settings).start job c.world with
          | none =>
              rw [step_spawn_of_start_eq_none hstart]
              exact h
          | some started =>
              rw [step_spawn hhead hstart]
              exact oneResultEach_start hstart h

theorem oneResultEach_run {c : Config (commandMachine settings) T}
    {labels : List (Label (commandMachine settings) T)}
    (h : Database.OneResultEach (CommandWorld.db c.world))
    (hlabels : AllSteps (Executes RepeatsResult) c labels) :
    Database.OneResultEach (CommandWorld.db (run c labels).world) := by
  induction labels generalizing c with
  | nil => exact h
  | cons l rest ih => exact ih ((oneResultEach_step h).mpr hlabels.1) hlabels.2

end Steps

/-- A row of `external_commands`. -/
def queryCommand : ExternalCommandRow := pendingCommand 1 "backend.query" ∅

abbrev QueryLabel := Label (commandMachine .plain) Unit

/-- A worker leases the command. -/
def leaseQuery : QueryLabel := .spawn () ⟨1, "worker", 60⟩

/-- The worker takes a step. -/
def queryStep (choice : CommandChoice) : QueryLabel := .act () choice

/-- The backend answers with a given date. -/
def answeredOn (date : String) : CommandChoice :=
  { CommandChoice.good with
    answer
      | .executeBackendQuery _ =>
          .ok (.ofList [("status", .str "success"), ("queried_at", .str date)])
      | op => CommandChoice.good.answer op }

/-- The command is executed again because `mark_sent` was lost. -/
def requeried (first second : String) : List QueryLabel :=
  [leaseQuery, queryStep (answeredOn first), queryStep .good, queryStep .lost, queryStep .good,
    leaseQuery, queryStep (answeredOn second), queryStep .good]

end AiCustomerService
