import AiCustomerService.Db.CaseStatus

/-!
# The rows of results

What the transactions do to the row of one result.
-/

namespace AiCustomerService

open Support

/-- The row of a result. -/
def Database.resultRow? (db : Database) (resultId : Nat) : Option ExternalResultRow :=
  db.externalCommandResults.rows.find? fun row => row.id = resultId

/-- The ids are those that an auto-increment column gives. -/
def NumberedResults (db : Database) : Prop :=
  db.externalCommandResults.rows.map ExternalResultRow.id =
    List.range' 1 db.externalCommandResults.rows.length

theorem id_of_resultRow? {db : Database} {resultId : Nat} {row : ExternalResultRow}
    (h : db.resultRow? resultId = some row) : row.id = resultId := by
  simpa using List.find?_some h

theorem resultRow?_congr {db db' : Database}
    (h : db'.externalCommandResults = db.externalCommandResults) (resultId : Nat) :
    db'.resultRow? resultId = db.resultRow? resultId := by
  rw [Database.resultRow?, h, Database.resultRow?]

theorem numberedResults_congr {db db' : Database}
    (h : db'.externalCommandResults = db.externalCommandResults) (hnumbered : NumberedResults db) :
    NumberedResults db' := by
  unfold NumberedResults
  rw [h]
  exact hnumbered

/-- A stored row is the row of its id. -/
theorem resultRow?_of_mem {db : Database} (hnumbered : NumberedResults db)
    {row : ExternalResultRow} (hmem : row ∈ db.externalCommandResults.rows) :
    db.resultRow? row.id = some row := by
  have hnodup : (db.externalCommandResults.rows.map ExternalResultRow.id).Nodup := by
    rw [hnumbered]
    exact List.nodup_range'
  unfold Database.resultRow?
  generalize db.externalCommandResults.rows = rows at hmem hnodup
  induction rows with
  | nil => cases hmem
  | cons first rest ih =>
      rw [List.map_cons, List.nodup_cons] at hnodup
      rcases List.mem_cons.mp hmem with rfl | hrest
      · simp
      · have hne : first.id ≠ row.id := by
          intro heq
          exact hnodup.1 (heq ▸ List.mem_map_of_mem hrest)
        rw [List.find?_cons_of_neg (by simpa using hne)]
        exact ih hrest hnodup.2

/-- An update of some rows that keeps their ids. -/
theorem resultRow?_updateWhere {db db' : Database} {select : ExternalResultRow → Bool}
    {assign : ExternalResultRow → ExternalResultRow}
    {hkey : ∀ row, (assign row).dedupKey = row.dedupKey}
    (h : db'.externalCommandResults = db.externalCommandResults.updateWhere select assign hkey)
    (hid : ∀ row, (assign row).id = row.id) (resultId : Nat) :
    db'.resultRow? resultId =
      (db.resultRow? resultId).map fun row => if select row then assign row else row := by
  rw [Database.resultRow?, h, Table.rows_updateWhere, List.find?_map, Database.resultRow?]
  congr 2
  funext row
  simp only [Function.comp]
  split
  · rw [hid]
  · rfl

theorem numberedResults_updateWhere {db db' : Database} {select : ExternalResultRow → Bool}
    {assign : ExternalResultRow → ExternalResultRow}
    {hkey : ∀ row, (assign row).dedupKey = row.dedupKey}
    (h : db'.externalCommandResults = db.externalCommandResults.updateWhere select assign hkey)
    (hid : ∀ row, (assign row).id = row.id) (hnumbered : NumberedResults db) :
    NumberedResults db' := by
  unfold NumberedResults at hnumbered ⊢
  rw [h, Table.rows_updateWhere, List.length_map, ← hnumbered, List.map_map]
  apply List.map_congr_left
  intro row _
  simp only [Function.comp]
  split
  · exact hid row
  · rfl

/-- The row of an id that is updated, and all others. -/
theorem resultRow?_updateResult {db db' : Database} {updatedId : Nat}
    {assign : ExternalResultRow → ExternalResultRow}
    {hkey : ∀ row, (assign row).dedupKey = row.dedupKey}
    (h : db'.externalCommandResults = (db.updateResult updatedId assign hkey).externalCommandResults)
    (hid : ∀ row, (assign row).id = row.id) (resultId : Nat) :
    db'.resultRow? resultId =
      if resultId = updatedId then (db.resultRow? resultId).map assign
      else db.resultRow? resultId := by
  rw [@resultRow?_updateWhere db db' _ assign hkey h hid]
  cases hrow : db.resultRow? resultId with
  | none => simp
  | some row =>
      have hrowId := id_of_resultRow? hrow
      by_cases hsame : resultId = updatedId
      · simp [hsame, hrowId.trans hsame]
      · have hother : row.id ≠ updatedId := fun heq => hsame (hrowId.symm.trans heq)
        simp [hsame, hother]

/-- No stored row has the next id. -/
theorem resultRow?_next {db : Database} (hnumbered : NumberedResults db) :
    db.resultRow? (db.externalCommandResults.rows.length + 1) = none := by
  unfold Database.resultRow?
  rw [List.find?_eq_none]
  intro row hmem heq
  have hrange : row.id ∈ List.range' 1 db.externalCommandResults.rows.length :=
    hnumbered ▸ List.mem_map_of_mem hmem
  have hid : row.id = db.externalCommandResults.rows.length + 1 := by simpa using heq
  rw [List.mem_range'_1] at hrange
  omega

/-- What an insert of a result does: the key is stored and nothing happens, or a row with a new id
is added. -/
theorem insertExternalResult_cases {db : Database} (hnumbered : NumberedResults db)
    (result : ExternalResult) :
    (insertExternalResult db result).1.externalCommandResults = db.externalCommandResults ∧
        (insertExternalResult db result).2.inserted = false ∨
      ∃ resultId, (insertExternalResult db result).2.id = some resultId ∧
        (insertExternalResult db result).2.inserted = true ∧ db.resultRow? resultId = none ∧
        NumberedResults (insertExternalResult db result).1 ∧
        ∀ id, (insertExternalResult db result).1.resultRow? id =
          (db.resultRow? id).or
            (if id = resultId then some (result.row resultId db.now) else none) := by
  by_cases hkey : db.externalCommandResults.hasKey (externalResultDedupKey result)
  · left
    unfold insertExternalResult
    have hstored : db.externalCommandResults.hasKey
        (result.row (db.externalCommandResults.rows.length + 1) db.now).dedupKey := hkey
    simp only [Table.insertIdempotent_of_hasKey hstored]
    exact ⟨trivial, rfl⟩
  · right
    have hfree : ¬db.externalCommandResults.hasKey
        (result.row (db.externalCommandResults.rows.length + 1) db.now).dedupKey := hkey
    have hrows := Table.rows_insertIdempotent_of_not_hasKey hfree
    have hinserted := (Table.insertIdempotent_inserted_iff db.externalCommandResults
      (result.row (db.externalCommandResults.rows.length + 1) db.now)).mpr hfree
    refine ⟨db.externalCommandResults.rows.length + 1, ?_, hinserted,
      resultRow?_next hnumbered, ?_, ?_⟩
    · simp only [insertExternalResult, hinserted, InsertReport.of, if_true]
    · unfold NumberedResults at hnumbered ⊢
      simp only [insertExternalResult, hrows, List.map_append, List.length_append, hnumbered]
      rw [List.length_singleton, List.range'_concat]
      simp [ExternalResult.row, Nat.add_comm]
    · intro id
      simp only [Database.resultRow?, insertExternalResult, hrows, List.find?_append]
      congr 1
      by_cases hid : id = db.externalCommandResults.rows.length + 1
      · simp [hid, ExternalResult.row]
      · have hne : ¬db.externalCommandResults.rows.length + 1 = id := fun heq => hid heq.symm
        simp [hid, hne, ExternalResult.row]

/-! ## Transactions -/

theorem externalCommandResults_entered (db : Database) (chatId : String)
    (threadId : Option String) :
    (db.entered chatId threadId).externalCommandResults = db.externalCommandResults := by
  unfold Database.entered Database.insertConversation
  split
  · rfl
  · rfl

theorem externalCommandResults_insertMessageFor (db : Database) (conversationId : String)
    (message : Option ConversationMessage) :
    (insertMessageFor db conversationId message).1.externalCommandResults =
      db.externalCommandResults := by
  cases message with
  | none => rfl
  | some message =>
      simp only [insertMessageFor, insertConversationMessage]
      split
      · rfl
      · rfl

theorem externalCommandResults_enqueue {db db' : Database} {conversationId : String}
    {messages : List OutboundMessage} {commands : List ExternalCommand}
    {reports : List InsertReport × List InsertReport}
    (h : enqueue db conversationId messages commands = .ok (db', reports)) :
    db'.externalCommandResults = db.externalCommandResults := by
  obtain ⟨mid, houtbound, hcommands⟩ := enqueue_ok h
  rw [insertExternalCommands_frame hcommands, insertOutbounds_frame houtbound]

theorem externalCommandResults_applyCaseUpdate (db : Database)
    (update : Option TelegramCaseUpdate) :
    (applyCaseUpdate db update).externalCommandResults = db.externalCommandResults := by
  cases update with
  | none => rfl
  | some update => rfl

theorem externalCommandResults_markResultProcessed {db db' : Database}
    (h : db'.externalCommandResults = db.externalCommandResults) (resultId : Nat) :
    (markResultProcessed db' resultId).externalCommandResults =
      (markResultProcessed db resultId).externalCommandResults := by
  simp only [markResultProcessed, Database.updateResult, h]

/-- Of the results, the transaction only touches the one that it is about: whatever the state of
its row, it is processed. -/
theorem externalCommandResults_processResult {db db' : Database} {ctx : TxContext}
    {ref : ResultRef} {graphState : GraphState} {messages : List OutboundMessage}
    {commands : List ExternalCommand} {summary : Option ConversationMessage}
    {result : TransactionResult}
    (h : processResultTransactionally db ctx ref graphState messages commands summary =
      .ok (db', result)) :
    db'.externalCommandResults = (markResultProcessed db ref.id).externalCommandResults := by
  have hentered := externalCommandResults_entered db ref.chatId ref.threadId
  unfold processResultTransactionally at h
  simp only [getOrCreateOnConnection_eq] at h
  generalize viewOf _ _ = view at h
  split at h
  · cases h
    exact externalCommandResults_markResultProcessed hentered ref.id
  · have hcase := (externalCommandResults_applyCaseUpdate
      (db.entered ref.chatId ref.threadId)
      (graphState.mergedOver view.slotMemory).telegramCaseUpdate).trans hentered
    split at h
    · cases h
      exact externalCommandResults_markResultProcessed hcase ref.id
    · obtain ⟨⟨queued, reports⟩, henqueue, hpure⟩ := bind_eq_ok.mp h
      cases hpure
      exact externalCommandResults_markResultProcessed
        ((externalCommandResults_enqueue henqueue).trans
          ((externalCommandResults_insertMessageFor _ _ _).trans hcase)) ref.id

end AiCustomerService
