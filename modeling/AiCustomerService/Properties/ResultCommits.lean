import AiCustomerService.Workers.RowHolds

/-!
# Results that are committed once

Leases are given for any kind of row and run out, the transaction of a result does not look at the
status of its row, and a failure is noted by the id alone.
-/

namespace AiCustomerService

open Support Support.Machine

variable {settings : ResultSettings} {T : Type} [DecidableEq T]

/-- The type of the rows that the consumer of staff replies stores. -/
def staffReplyType : String := "telegram.staff_reply.received"

/-- The row has been processed. -/
def Database.ResultProcessed (db : Database) (resultId : Nat) : Prop :=
  ∃ row, db.resultRow? resultId = some row ∧ row.status = .processed

/-! ## The conditions -/

/-- A statement that settles a row does not raise after it has taken effect. -/
def CommitsOrRaises (_ : ResultWorld) (op : ResultOp) (choice : ResultChoice) : Prop :=
  ∀ resultId, op.touch? = some (.settles resultId) →
    ∀ fault, choice.faultOf op = some fault → fault.applied = false

/-- A row that is leased is no staff reply, and no other worker is still to touch it. -/
def TakenAlone (c : Config (resultMachine settings) T) : ResultJob → Prop
  | .lease resultId _ _ =>
      (∀ row, c.world.db.resultRow? resultId = some row → row.resultType ≠ staffReplyType) ∧
        ∀ t, Prog.All (fun op : ResultOp => ¬op.Touches resultId) (c.threads t)
  | .poll _ _ => True

/-- The step keeps to both. -/
def ConsumesAlone (c : Config (resultMachine settings) T) :
    Label (resultMachine settings) T → Prop
  | .act t choice => Executes (M := resultMachine settings) CommitsOrRaises c (.act t choice)
  | .spawn _ job => TakenAlone c job
  | .env _ => True

/-- A result consumer touches no staff reply before the transaction of the reply's own consumer. -/
def SparesStaffRows (w : ResultWorld) : ResultOp → ResultChoice → Prop
  | .consumer op, _ =>
      ∀ resultId, (ResultOp.consumer op).Touches resultId →
        ∀ row, w.db.resultRow? resultId = some row → row.resultType = staffReplyType →
          resultId ∈ w.ownCommits
  | .reply _, _ => True

/-! ## Holding to the protocol -/

theorem holds_holder_iff (op : ResultOp) (touched resultId : Nat) :
    (op.holder touched).Holds resultId ↔ touched = resultId := by
  cases op with
  | consumer op => simp [ResultOp.holder, RowHold.Holds]
  | reply op => simp [ResultOp.holder, RowHold.Holds]

theorem not_holds_free (resultId : Nat) : ¬RowHold.free.Holds resultId := by
  simp [RowHold.Holds]

theorem rowProtocol_settles {op : ResultOp} {resultId : Nat} {hold hold' : RowHold}
    {r : Except ServiceError op.Res} (h : op.touch? = some (.settles resultId)) :
    RowProtocol hold op r hold' ↔
      hold = op.holder resultId ∧ hold' = settledHold r hold := by
  simp only [RowProtocol, h]

theorem rowProtocol_fails {op : ResultOp} {resultId : Nat} {hold hold' : RowHold}
    {r : Except ServiceError op.Res} (h : op.touch? = some (.fails resultId)) :
    RowProtocol hold op r hold' ↔ hold = op.holder resultId ∧ hold' = .free := by
  simp only [RowProtocol, h]

/-- Where nothing is touched, an operation that raises changes nothing. -/
theorem rowProtocol_error {op : ResultOp} {hold hold' : RowHold} {e : ServiceError}
    (h : op.touch? = none) (hδ : RowProtocol hold op (.error e) hold') : hold' = hold := by
  simp only [RowProtocol, h] at hδ
  exact hδ

/-- A worker that holds a row is still to touch it. -/
theorem exists_touch {prog : Prog resultOps Unit} {hold : RowHold} {resultId : Nat}
    (hholds : hold.Holds resultId)
    (h : Follows RowProtocol (fun hold' => hold' = .free) hold prog) :
    ¬Prog.All (fun op : ResultOp => ¬op.Touches resultId) prog := by
  intro hnever
  induction prog generalizing hold with
  | ret a =>
      have hfree : hold = .free := h
      exact not_holds_free resultId (hfree ▸ hholds)
  | raise e =>
      have hfree : hold = .free := h
      exact not_holds_free resultId (hfree ▸ hholds)
  | call op k ih =>
      obtain ⟨hold', hδ, hk⟩ := h (.error (.other ""))
      cases htouch : ResultOp.touch? op with
      | none =>
          have hsame := rowProtocol_error htouch hδ
          subst hsame
          exact ih _ hholds hk (hnever.2 _)
      | some touch =>
          apply hnever.1
          cases touch with
          | settles touched =>
              obtain ⟨rfl, -⟩ := (rowProtocol_settles htouch).mp hδ
              have hid := (holds_holder_iff op touched resultId).mp hholds
              exact Or.inl (hid ▸ htouch)
          | fails touched =>
              obtain ⟨rfl, -⟩ := (rowProtocol_fails htouch).mp hδ
              have hid := (holds_holder_iff op touched resultId).mp hholds
              exact Or.inr (hid ▸ htouch)

/-- Who is about to touch a row holds it. -/
theorem holder_of_touches {prog : Prog resultOps Unit} {hold : RowHold} {op : ResultOp}
    {resultId : Nat} (h : Follows RowProtocol (fun hold' => hold' = .free) hold prog)
    (hhead : prog.head? = some op) (htouches : op.Touches resultId) :
    hold = op.holder resultId := by
  cases prog with
  | ret a => cases hhead
  | raise e => cases hhead
  | call op' k =>
      cases hhead
      obtain ⟨hold', hδ, -⟩ := h (.error (.other ""))
      rcases htouches with htouch | htouch
      · exact ((rowProtocol_settles htouch).mp hδ).1
      · exact ((rowProtocol_fails htouch).mp hδ).1

/-! ## What the operations do to the rows -/

/-- The row is still there, and of the same type; it is processed if it was. -/
def KeptRow (db db' : Database) (resultId : Nat) : Prop :=
  ∀ row, db.resultRow? resultId = some row →
    ∃ row', db'.resultRow? resultId = some row' ∧ row'.resultType = row.resultType ∧
      (row'.status = .processed ↔ row.status = .processed)

/-- The rows are numbered as before, and all but one are kept. -/
structure RowsKept (db db' : Database) (except : Nat → Prop) : Prop where
  numbered : NumberedResults db → NumberedResults db'
  kept : ∀ resultId, ¬except resultId → KeptRow db db' resultId

theorem rowsKept_of_eq {db db' : Database}
    (h : db'.externalCommandResults = db.externalCommandResults) (except : Nat → Prop) :
    RowsKept db db' except where
  numbered := numberedResults_congr h
  kept resultId _ row hrow := ⟨row, (resultRow?_congr h resultId).trans hrow, rfl, Iff.rfl⟩

/-- An update of one row. -/
theorem rowsKept_updateResult {db db' : Database} {updatedId : Nat}
    {assign : ExternalResultRow → ExternalResultRow}
    {hkey : ∀ row, (assign row).dedupKey = row.dedupKey}
    (h : db'.externalCommandResults = (db.updateResult updatedId assign hkey).externalCommandResults)
    (hid : ∀ row, (assign row).id = row.id) : RowsKept db db' fun resultId => resultId = updatedId where
  numbered := @numberedResults_updateWhere db db' _ assign hkey h hid
  kept resultId hother row hrow := by
    refine ⟨row, ?_, rfl, Iff.rfl⟩
    rw [resultRow?_updateResult h hid, if_neg hother]
    exact hrow

/-- An update of one row that leaves its type and its status. -/
theorem rowsKept_relabel {db : Database} {updatedId : Nat}
    {assign : ExternalResultRow → ExternalResultRow}
    {hkey : ∀ row, (assign row).dedupKey = row.dedupKey} {db' : Database}
    (h : db' = db.updateResult updatedId assign hkey) (hid : ∀ row, (assign row).id = row.id)
    (htype : ∀ row, (assign row).resultType = row.resultType)
    (hstatus : ∀ row, (assign row).status = row.status) : RowsKept db db' fun _ => False := by
  have hresults := congrArg Database.externalCommandResults h
  refine ⟨(rowsKept_updateResult hresults hid).numbered, ?_⟩
  intro id _ row hrow
  have hafter := resultRow?_updateResult hresults hid id
  rw [hrow] at hafter
  by_cases hsame : id = updatedId
  · rw [if_pos hsame] at hafter
    exact ⟨assign row, hafter, htype row, by rw [hstatus row]⟩
  · rw [if_neg hsame] at hafter
    exact ⟨row, hafter, rfl, Iff.rfl⟩

/-- The operation settles the row, with or without a state change. -/
structure SettlesRow (w w' : ResultWorld) (resultId : Nat) : Prop where
  rows : w'.db.externalCommandResults = (markResultProcessed w.db resultId).externalCommandResults
  changes : w'.stateChanges = w.stateChanges ∨ w'.stateChanges = resultId :: w.stateChanges

/-- A settling operation raised and changed nothing, or it settled the row. -/
def SettlesOrRaises {α : Type} (w : ResultWorld) (resultId : Nat)
    (done : Except ServiceError α × ResultWorld) : Prop :=
  (∃ e, done = (.error e, w)) ∨ ∃ a w', done = (.ok a, w') ∧ SettlesRow w w' resultId

/-- A failure that has no effect keeps this. -/
theorem SettlesOrRaises.faulty {α : Type} {w : ResultWorld} {resultId : Nat}
    {done : Except ServiceError α × ResultWorld} (h : SettlesOrRaises w resultId done)
    {fault : Option (Fault ServiceError)} (hfault : ∀ f, fault = some f → f.applied = false) :
    SettlesOrRaises w resultId (Support.faulty fault w done) := by
  cases fault with
  | none => exact h
  | some f =>
      refine Or.inl ⟨f.error, ?_⟩
      simp [Support.faulty, hfault f rfl]

/-- What the world of one consumer is turned into afterwards. -/
theorem handle_consumer (settings : ResultSettings) (op : ConsumerOp) (choice : ResultChoice)
    (w : ResultWorld) {done : Except ServiceError op.Res × CountWorld}
    (h : handleConsumerOp settings.consumer choice.previous op choice.consumer ⟨w.db, []⟩ =
      faulty choice.consumer.fault ⟨w.db, []⟩ done) :
    handleResultOp settings (.consumer op) choice w =
      faulty choice.consumer.fault w (done.1, w.afterConsumer done.2) := by
  unfold handleResultOp
  simp only [h]
  cases choice.consumer.fault with
  | none => rfl
  | some fault =>
      cases happlied : fault.applied with
      | true => simp [faulty, happlied]
      | false =>
          simp only [faulty, happlied]
          rfl

/-- An operation that settles a row either raises and changes nothing, or it does so. -/
theorem handle_settles {op : ResultOp} {choice : ResultChoice} {w : ResultWorld} {resultId : Nat}
    (h : op.touch? = some (.settles resultId)) (hcond : CommitsOrRaises w op choice) :
    SettlesOrRaises w resultId (handleResultOp settings op choice w) := by
  have hfault := hcond resultId h
  cases op with
  | consumer op =>
      cases op with
      | markProcessed touched =>
          cases h
          rw [handle_consumer settings (.markProcessed _) choice w rfl]
          apply SettlesOrRaises.faulty ?_ hfault
          right
          exact ⟨(), w.afterConsumer ⟨markResultProcessed w.db resultId, []⟩, rfl,
            ⟨rfl, Or.inl rfl⟩⟩
      | processResult row loaded handler messages =>
          cases h
          rw [handle_consumer settings (.processResult row loaded handler messages) choice w rfl]
          refine SettlesOrRaises.faulty ?_ hfault
          unfold commitHandler
          split
          · rename_i db result hcommit
            refine Or.inr ⟨(), _, rfl, externalCommandResults_processResult hcommit, ?_⟩
            cases hskip : result.humanActiveSkipped with
            | true => exact Or.inl (by simp [ResultWorld.afterConsumer])
            | false => exact Or.inr (by simp [ResultWorld.afterConsumer])
          · exact Or.inl ⟨_, rfl⟩
      | getOrCreate chatId threadId => cases h
      | fetchRecent conversationId => cases h
      | compose fallbackText => cases h
      | finalizeUserVisibleText fallbackText => cases h
      | markProcessingFailed touched error => cases h
  | reply op =>
      cases op with
      | processResult row graphState messages summary =>
          cases h
          refine SettlesOrRaises.faulty ?_ hfault
          change SettlesOrRaises w row.id
            ((commitStaffResult _ ⟨w.db, []⟩ row graphState messages summary).1,
              w.afterReply (.processResult row graphState messages summary)
                (commitStaffResult _ ⟨w.db, []⟩ row graphState messages summary).2)
          unfold commitStaffResult
          split
          · rename_i db result hcommit
            refine Or.inr ⟨(), _, rfl, externalCommandResults_processResult hcommit, ?_⟩
            cases hskip : result.humanActiveSkipped with
            | true => exact Or.inl (by simp [ResultWorld.afterReply])
            | false => exact Or.inr (by simp [ResultWorld.afterReply])
          · exact Or.inl ⟨_, rfl⟩
      | _ => cases h

/-- An operation that notes a failure touches no other row. -/
theorem handle_fails (settings : ResultSettings) {op : ResultOp} {resultId : Nat}
    (h : op.touch? = some (.fails resultId)) (choice : ResultChoice) (w : ResultWorld) :
    (handleResultOp settings op choice w).2.stateChanges = w.stateChanges ∧
      RowsKept w.db (handleResultOp settings op choice w).2.db fun id => id = resultId := by
  have hbefore : w.stateChanges = w.stateChanges ∧ RowsKept w.db w.db fun id => id = resultId :=
    ⟨rfl, rowsKept_of_eq rfl _⟩
  cases op with
  | consumer op =>
      cases op with
      | markProcessingFailed touched error =>
          cases h
          rw [handle_consumer settings (.markProcessingFailed _ error) choice w rfl]
          refine faulty_induction (motive := fun w' : ResultWorld =>
            w'.stateChanges = w.stateChanges ∧ RowsKept w.db w'.db fun id => id = resultId)
            hbefore ⟨rfl, rowsKept_updateResult rfl fun _ => rfl⟩
      | processResult row loaded handler messages => cases h
      | markProcessed touched => cases h
      | getOrCreate chatId threadId => cases h
      | fetchRecent conversationId => cases h
      | compose fallbackText => cases h
      | finalizeUserVisibleText fallbackText => cases h
  | reply op =>
      cases op with
      | markResultFailed touched error =>
          cases h
          exact faulty_induction (motive := fun w' : ResultWorld =>
            w'.stateChanges = w.stateChanges ∧ RowsKept w.db w'.db fun id => id = resultId)
            hbefore ⟨rfl, rowsKept_updateResult rfl fun _ => rfl⟩
      | _ => cases h

/-- The other operations touch no row, but for the insert. -/
theorem handle_untouched (settings : ResultSettings) {op : ResultOp} (h : op.touch? = none)
    (hinsert : ∀ result, op ≠ .reply (.insertResult result)) (choice : ResultChoice)
    (w : ResultWorld) :
    (handleResultOp settings op choice w).2.stateChanges = w.stateChanges ∧
      (handleResultOp settings op choice w).2.db.externalCommandResults =
        w.db.externalCommandResults := by
  cases op with
  | consumer op =>
      cases op with
      | getOrCreate chatId threadId =>
          rw [handle_consumer settings (.getOrCreate chatId threadId) choice w rfl]
          refine faulty_induction (motive := fun w' : ResultWorld =>
            w'.stateChanges = w.stateChanges ∧
              w'.db.externalCommandResults = w.db.externalCommandResults) ⟨rfl, rfl⟩ ⟨rfl, ?_⟩
          simp only [getOrCreateOnConnection_eq]
          exact externalCommandResults_entered w.db chatId threadId
      | fetchRecent conversationId =>
          rw [handle_consumer settings (.fetchRecent conversationId) choice w rfl]
          exact faulty_induction (motive := fun w' : ResultWorld =>
            w'.stateChanges = w.stateChanges ∧
              w'.db.externalCommandResults = w.db.externalCommandResults) ⟨rfl, rfl⟩ ⟨rfl, rfl⟩
      | compose fallbackText => exact ⟨rfl, rfl⟩
      | finalizeUserVisibleText fallbackText => exact ⟨rfl, rfl⟩
      | processResult row loaded handler messages => cases h
      | markProcessed touched => cases h
      | markProcessingFailed touched error => cases h
  | reply op =>
      cases op with
      | insertResult result => exact absurd rfl (hinsert result)
      | processResult row graphState messages summary => cases h
      | markResultFailed touched error => cases h
      | _ =>
          exact faulty_induction (motive := fun w' : ResultWorld =>
            w'.stateChanges = w.stateChanges ∧
              w'.db.externalCommandResults = w.db.externalCommandResults) ⟨rfl, rfl⟩ ⟨rfl, rfl⟩

/-! ## The invariant -/

/-- Rows in hand are unprocessed and in one hand only, leased rows are no staff replies, and a row
whose state change is committed stays processed, as do the rows of `kept`. -/
structure RowsHeld (kept : Nat → Prop) (w : ResultWorld) (holds : T → RowHold) : Prop where
  numbered : NumberedResults w.db
  stored : ∀ t id, (holds t).Holds id →
    ∃ row, w.db.resultRow? id = some row ∧ row.status ≠ .processed
  alone : ∀ t t' id, (holds t).Holds id → (holds t').Holds id → t = t'
  foreign : ∀ t id, holds t = .leased id →
    ∃ row, w.db.resultRow? id = some row ∧ row.resultType ≠ staffReplyType
  changed : ∀ id ∈ w.stateChanges, w.db.ResultProcessed id
  once : w.stateChanges.Nodup
  kept : ∀ id, kept id → w.db.ResultProcessed id

variable {kept : Nat → Prop} {w w' : ResultWorld} {holds : T → RowHold}

theorem KeptRow.processed {db db' : Database} {id : Nat} (h : KeptRow db db' id)
    (hprocessed : db.ResultProcessed id) : db'.ResultProcessed id := by
  obtain ⟨row, hrow, hstatus⟩ := hprocessed
  obtain ⟨row', hrow', -, hiff⟩ := h row hrow
  exact ⟨row', hrow', hiff.mpr hstatus⟩

omit [DecidableEq T] in
/-- A row in hand is not processed. -/
theorem RowsHeld.not_processed (h : RowsHeld kept w holds) {t : T} {id : Nat}
    (hholds : (holds t).Holds id) : ¬w.db.ResultProcessed id := by
  rintro ⟨row, hrow, hstatus⟩
  obtain ⟨row', hrow', hopen⟩ := h.stored t id hholds
  have hsame : row' = row := Option.some.inj (hrow'.symm.trans hrow)
  exact hopen (hsame ▸ hstatus)

theorem RowsKept.stored {except : Nat → Prop} (hrows : RowsKept w.db w'.db except)
    {id : Nat} (hother : ¬except id) {P : ExternalResultRow → Prop}
    (hP : ∀ row row', row'.resultType = row.resultType →
      (row'.status = .processed ↔ row.status = .processed) → P row → P row')
    (h : ∃ row, w.db.resultRow? id = some row ∧ P row) :
    ∃ row, w'.db.resultRow? id = some row ∧ P row := by
  obtain ⟨row, hrow, hrowP⟩ := h
  obtain ⟨row', hrow', htype, hstatus⟩ := hrows.kept id hother row hrow
  exact ⟨row', hrow', hP row row' htype hstatus hrowP⟩

omit [DecidableEq T] in
/-- The rows of everyone are kept. -/
theorem RowsHeld.keep (h : RowsHeld kept w holds)
    (hrows : RowsKept w.db w'.db fun _ => False) (hchanges : w'.stateChanges = w.stateChanges) :
    RowsHeld kept w' holds where
  numbered := hrows.numbered h.numbered
  stored t id hholds := hrows.stored not_false
    (fun _ _ _ hstatus hopen hprocessed => hopen (hstatus.mp hprocessed)) (h.stored t id hholds)
  alone := h.alone
  foreign t id hleased := hrows.stored not_false
    (fun _ _ htype _ hother => htype ▸ hother) (h.foreign t id hleased)
  changed id hmem := (hrows.kept id not_false).processed (h.changed id (hchanges ▸ hmem))
  once := hchanges ▸ h.once
  kept id hid := (hrows.kept id not_false).processed (h.kept id hid)

/-- A worker lets a row go: no other worker has it in hand, and it was not processed before. -/
theorem RowsHeld.release (h : RowsHeld kept w holds) {t : T} {id : Nat}
    (hholds : (holds t).Holds id) (hrows : RowsKept w.db w'.db fun other => other = id)
    (hchanges : w'.stateChanges = w.stateChanges ∨
      w'.stateChanges = id :: w.stateChanges ∧ w'.db.ResultProcessed id) :
    RowsHeld kept w' (Function.update holds t .free) := by
  have hopen := h.not_processed hholds
  have hother : ∀ t' other, (Function.update holds t .free t').Holds other →
      (holds t').Holds other ∧ t' ≠ t ∧ other ≠ id := by
    intro t' other hheld
    by_cases ht : t' = t
    · subst ht
      rw [Function.update_self] at hheld
      exact absurd hheld (not_holds_free other)
    · rw [Function.update_of_ne ht] at hheld
      refine ⟨hheld, ht, ?_⟩
      rintro rfl
      exact ht (h.alone t' t other hheld hholds)
  have hchanged : ∀ other ∈ w.stateChanges, w'.db.ResultProcessed other := by
    intro other hmem
    have hprocessed := h.changed other hmem
    refine (hrows.kept other ?_).processed hprocessed
    rintro rfl
    exact hopen hprocessed
  constructor
  · exact hrows.numbered h.numbered
  · intro t' other hheld
    obtain ⟨hbefore, -, hne⟩ := hother t' other hheld
    exact hrows.stored hne
      (fun _ _ _ hstatus hstill hprocessed => hstill (hstatus.mp hprocessed))
      (h.stored t' other hbefore)
  · intro t₁ t₂ other h₁ h₂
    exact h.alone t₁ t₂ other (hother t₁ other h₁).1 (hother t₂ other h₂).1
  · intro t' other hleased
    obtain ⟨-, ht, hne⟩ := hother t' other (Or.inl hleased)
    rw [Function.update_of_ne ht] at hleased
    exact hrows.stored hne (fun _ _ htype _ hforeign => htype ▸ hforeign)
      (h.foreign t' other hleased)
  · rcases hchanges with hsame | ⟨hadded, hprocessed⟩
    · rw [hsame]
      exact hchanged
    · rw [hadded]
      exact List.forall_mem_cons.mpr ⟨hprocessed, hchanged⟩
  · rcases hchanges with hsame | ⟨hadded, -⟩
    · rw [hsame]
      exact h.once
    · rw [hadded]
      exact List.nodup_cons.mpr ⟨fun hmem => hopen (h.changed id hmem), h.once⟩
  · intro other hkept
    have hprocessed := h.kept other hkept
    refine (hrows.kept other ?_).processed hprocessed
    rintro rfl
    exact hopen hprocessed

/-- A worker takes a row in hand that nobody holds. -/
theorem RowsHeld.acquire (h : RowsHeld kept w holds) {t : T} {hold : RowHold} {id : Nat}
    (hhold : hold.Holds id) (hnobody : ∀ t', ¬(holds t').Holds id)
    (hrow : ∃ row, w.db.resultRow? id = some row ∧ row.status ≠ .processed ∧
      (hold = .leased id → row.resultType ≠ staffReplyType)) :
    RowsHeld kept w (Function.update holds t hold) := by
  have honly : ∀ other, hold.Holds other → other = id := by
    intro other hother
    rcases hhold with rfl | rfl
    · rcases hother with hsame | hsame
      · exact (RowHold.leased.inj hsame).symm
      · cases hsame
    · rcases hother with hsame | hsame
      · cases hsame
      · exact (RowHold.own.inj hsame).symm
  obtain ⟨row, hstored, hopen, hforeign⟩ := hrow
  have hcases : ∀ t' other, (Function.update holds t hold t').Holds other →
      t' = t ∧ other = id ∨ t' ≠ t ∧ (holds t').Holds other := by
    intro t' other hheld
    by_cases ht : t' = t
    · subst ht
      rw [Function.update_self] at hheld
      exact Or.inl ⟨rfl, honly other hheld⟩
    · rw [Function.update_of_ne ht] at hheld
      exact Or.inr ⟨ht, hheld⟩
  refine ⟨h.numbered, ?_, ?_, ?_, h.changed, h.once, h.kept⟩
  · intro t' other hheld
    rcases hcases t' other hheld with ⟨-, rfl⟩ | ⟨-, hbefore⟩
    · exact ⟨row, hstored, hopen⟩
    · exact h.stored t' other hbefore
  · intro t₁ t₂ other h₁ h₂
    rcases hcases t₁ other h₁ with ⟨rfl, rfl⟩ | ⟨-, hbefore₁⟩
    · rcases hcases t₂ other h₂ with ⟨rfl, -⟩ | ⟨-, hbefore₂⟩
      · rfl
      · exact absurd hbefore₂ (hnobody t₂)
    · rcases hcases t₂ other h₂ with ⟨-, rfl⟩ | ⟨-, hbefore₂⟩
      · exact absurd hbefore₁ (hnobody t₁)
      · exact h.alone t₁ t₂ other hbefore₁ hbefore₂
  · intro t' other hleased
    rcases hcases t' other (Or.inl hleased) with ⟨rfl, rfl⟩ | ⟨ht, -⟩
    · rw [Function.update_self] at hleased
      exact ⟨row, hstored, hforeign hleased⟩
    · rw [Function.update_of_ne ht] at hleased
      exact h.foreign t' other hleased

/-! ## The steps -/

theorem rowsKept_insertExternalResult {db : Database} (hnumbered : NumberedResults db)
    (result : ExternalResult) :
    RowsKept db (insertExternalResult db result).1 fun _ => False := by
  rcases insertExternalResult_cases hnumbered result with
    ⟨hsame, -⟩ | ⟨resultId, -, -, -, hafter, hrows⟩
  · exact rowsKept_of_eq hsame _
  · refine ⟨fun _ => hafter, ?_⟩
    intro id _ row hrow
    refine ⟨row, ?_, rfl, Iff.rfl⟩
    rw [hrows, hrow]
    rfl

/-- A takeover skips the rows that are still open. -/
theorem rowsKept_cancelQueued (db : Database) (conversationId : String) :
    RowsKept db (db.cancelQueued conversationId) fun _ => False := by
  let skipped : ExternalResultRow → ExternalResultRow := fun row =>
    { row with
      status := .skippedHumanActive
      lastError := some "conversation is HUMAN_ACTIVE; external result skipped"
      lease := .none }
  have hresults : (db.cancelQueued conversationId).externalCommandResults =
      db.externalCommandResults.updateWhere
        (fun row => row.conversationId = conversationId && row.status.isOpen) skipped
        fun _ => rfl := rfl
  constructor
  · exact numberedResults_updateWhere hresults fun _ => rfl
  · intro id _ row hrow
    have hafter := resultRow?_updateWhere hresults (fun _ => rfl) id
    rw [hrow, Option.map_some] at hafter
    refine ⟨_, hafter, ?_, ?_⟩
    · split
      · rfl
      · rfl
    · split
      · rename_i hselected
        rw [Bool.and_eq_true] at hselected
        have hopen := hselected.2
        refine iff_of_false (fun hskipped => ?_) fun hprocessed => ?_
        · cases hskipped
        · rw [hprocessed] at hopen
          cases hopen
      · exact Iff.rfl

theorem RowsKept.trans {db db₁ db₂ : Database} {except : Nat → Prop}
    (h : RowsKept db db₁ except) (h' : RowsKept db₁ db₂ except) : RowsKept db db₂ except where
  numbered hnumbered := h'.numbered (h.numbered hnumbered)
  kept id hother row hrow := by
    obtain ⟨row₁, hrow₁, htype₁, hstatus₁⟩ := h.kept id hother row hrow
    obtain ⟨row₂, hrow₂, htype₂, hstatus₂⟩ := h'.kept id hother row₁ hrow₁
    exact ⟨row₂, hrow₂, htype₂.trans htype₁, hstatus₂.trans hstatus₁⟩

theorem externalCommandResults_insertConversation (db : Database)
    (conversationId chatId : String) (threadId : Option String)
    (route : Option String → Option String) :
    (db.insertConversation conversationId chatId threadId route).externalCommandResults =
      db.externalCommandResults := by
  unfold Database.insertConversation
  split
  · rfl
  · rfl

theorem rowsKept_afterResultEvent {db : Database} (hnumbered : NumberedResults db)
    (e : ResultEvent) : RowsKept db (db.afterResultEvent e) fun _ => False := by
  cases e with
  | elapse microseconds =>
      have hsame : (db.afterResultEvent (.elapse microseconds)).externalCommandResults =
          db.externalCommandResults := rfl
      exact rowsKept_of_eq hsame _
  | takeover event =>
      refine RowsKept.trans ?_ (rowsKept_cancelQueued _ _)
      apply rowsKept_of_eq
      exact externalCommandResults_insertConversation db _ _ _ _
  | insertResult result => exact rowsKept_insertExternalResult hnumbered result
  | writeConversations states =>
      have hsame : (db.afterResultEvent (.writeConversations states)).externalCommandResults =
          db.externalCommandResults := rfl
      exact rowsKept_of_eq hsame _

/-- Where nothing is touched or stored, a worker holds what it held. -/
theorem rowProtocol_other {op : ResultOp} {hold hold' : RowHold} {r : Except ServiceError op.Res}
    (h : op.touch? = none) (hinsert : ∀ result, op ≠ .reply (.insertResult result))
    (hδ : RowProtocol hold op r hold') : hold' = hold := by
  simp only [RowProtocol, h] at hδ
  split at hδ
  · exact absurd rfl (hinsert _)
  · exact hδ

/-- The row that a worker stores is in its hand, unless the insert raises. -/
theorem RowsHeld.insert (h : RowsHeld kept w holds) {t : T} {result : ExternalResult}
    {choice : ResultChoice} {hold : RowHold}
    (hδ : RowProtocol (holds t) (.reply (.insertResult result))
      (handleResultOp settings (.reply (.insertResult result)) choice w).1 hold) :
    RowsHeld kept (handleResultOp settings (.reply (.insertResult result)) choice w).2
      (Function.update holds t hold) := by
  have hstored : RowsHeld kept { w with db := (insertExternalResult w.db result).1 } holds :=
    h.keep (rowsKept_insertExternalResult h.numbered result) rfl
  have hhandle : handleResultOp settings (.reply (.insertResult result)) choice w =
      faulty choice.reply.fault w (.ok (insertExternalResult w.db result).2,
        { w with db := (insertExternalResult w.db result).1 }) := rfl
  rw [hhandle] at hδ ⊢
  cases hfault : choice.reply.fault with
  | some fault =>
      rw [hfault] at hδ
      have hsame : hold = holds t := rowProtocol_error rfl hδ
      subst hsame
      rw [Function.update_eq_self]
      exact faulty_induction (motive := fun w' : ResultWorld => RowsHeld kept w' holds) h hstored
  | none =>
      rw [hfault] at hδ
      obtain ⟨hfree, hpending, hhold⟩ : holds t = .free ∧ result.status = some .pending ∧ hold =
          if (insertExternalResult w.db result).2.inserted then
            .own ((insertExternalResult w.db result).2.id.getD 0) else .free := hδ
      change RowsHeld kept { w with db := (insertExternalResult w.db result).1 } _
      rcases insertExternalResult_cases h.numbered result with
        ⟨-, hduplicate⟩ | ⟨resultId, hid, hinserted, hnew, -, hrows⟩
      · have hsame : hold = holds t := by
          rw [hhold, hduplicate, hfree]
          rfl
        subst hsame
        rw [Function.update_eq_self]
        exact hstored
      · have hown : hold = .own resultId := by
          rw [hhold, hinserted, hid]
          rfl
        subst hown
        refine hstored.acquire (Or.inr rfl) ?_ ?_
        · intro t' hheld
          obtain ⟨row, hrow, -⟩ := h.stored t' resultId hheld
          exact absurd (hnew.symm.trans hrow) (by simp)
        · refine ⟨result.row resultId w.db.now, ?_, ?_, fun hleased => by cases hleased⟩
          · change (insertExternalResult w.db result).1.resultRow? resultId = _
            rw [hrows, hnew, if_pos rfl]
            rfl
          · simp [ExternalResult.row, hpending]

/-- A step of a worker. -/
theorem RowsHeld.act (h : RowsHeld kept w holds) {t : T} {op : ResultOp} {choice : ResultChoice}
    {hold : RowHold} (hcond : CommitsOrRaises w op choice)
    (hδ : RowProtocol (holds t) op (handleResultOp settings op choice w).1 hold) :
    RowsHeld kept (handleResultOp settings op choice w).2 (Function.update holds t hold) := by
  cases htouch : op.touch? with
  | some touch =>
      cases touch with
      | settles id =>
          obtain ⟨hholder, hhold⟩ := (rowProtocol_settles htouch).mp hδ
          have hholds : (holds t).Holds id := hholder ▸ (holds_holder_iff op id id).mpr rfl
          rcases handle_settles htouch hcond with ⟨e, hdone⟩ | ⟨a, w', hdone, hrows, hchanges⟩
          · rw [hdone] at hhold ⊢
            subst hhold
            rw [settledHold, Function.update_eq_self]
            exact h
          · rw [hdone] at hhold ⊢
            subst hhold
            obtain ⟨row, hrow, -⟩ := h.stored t id hholds
            have hprocessed : w'.db.ResultProcessed id := by
              refine ⟨{ row with status := .processed, lease := .none, lastError := none }, ?_, rfl⟩
              rw [resultRow?_updateResult hrows (fun _ => rfl), if_pos rfl, hrow]
              rfl
            exact h.release hholds (rowsKept_updateResult hrows fun _ => rfl)
              (hchanges.imp (fun hsame => hsame) fun hadded => ⟨hadded, hprocessed⟩)
      | fails id =>
          obtain ⟨hholder, rfl⟩ := (rowProtocol_fails htouch).mp hδ
          have hholds : (holds t).Holds id := hholder ▸ (holds_holder_iff op id id).mpr rfl
          have hdone := handle_fails settings htouch choice w
          exact h.release hholds hdone.2 (Or.inl hdone.1)
  | none =>
      by_cases hinsert : ∃ result, op = .reply (.insertResult result)
      · obtain ⟨result, rfl⟩ := hinsert
        exact h.insert hδ
      · push Not at hinsert
        have hsame := rowProtocol_other htouch hinsert hδ
        subst hsame
        rw [Function.update_eq_self]
        have hdone := handle_untouched settings htouch hinsert choice w
        exact h.keep (rowsKept_of_eq hdone.2 _) hdone.1

/-- A lease of an open row. -/
theorem leaseResult?_eq_some {db db' : Database} (hnumbered : NumberedResults db) {id : Nat}
    {workerId : String} {leaseSeconds : Nat}
    (h : db.leaseResult? id workerId leaseSeconds = some db') :
    ∃ row, db.resultRow? id = some row ∧ row.status ≠ .processed ∧
      RowsKept db db' (fun _ => False) := by
  unfold Database.leaseResult? at h
  split at h
  · rename_i hany
    cases h
    obtain ⟨row, hmem, hrow⟩ := List.any_eq_true.mp hany
    simp only [Bool.and_eq_true, decide_eq_true_eq] at hrow
    obtain ⟨⟨hid, hopen⟩, -⟩ := hrow
    subst hid
    have hstored := resultRow?_of_mem hnumbered hmem
    refine ⟨row, hstored, ?_, ?_⟩
    · intro hprocessed
      rw [hprocessed] at hopen
      cases hopen
    · exact rowsKept_relabel rfl (fun _ => rfl) (fun _ => rfl) fun _ => rfl
  · cases h

/-- The steps that keep to the conditions keep the invariant. -/
theorem isGuardedInvariant_rowsHeld (settings : ResultSettings) (kept : Nat → Prop) :
    IsGuardedInvariant (M := resultMachine settings) (T := T) RowProtocol
      (fun hold => hold = .free) ConsumesAlone (RowsHeld kept) where
  act hworld hhead hok hδ := hworld.act (hok _ hhead) hδ
  env e hworld _ := hworld.keep (rowsKept_afterResultEvent hworld.numbered e) rfl
  spawn := by
    intro c holds t job prog w' hworld hthreads hok hfinal hstart
    cases job with
    | poll knowsBot now =>
        cases hstart
        refine ⟨.free, ?_, ?_⟩
        · apply (FollowsTo.embed replyPart (follows_pollOwn _ _) fun _ _ _ _ h => h).follows
          rintro hold' _ ⟨_, hfree⟩
          exact hfree
        · have hsame : holds t = .free := hfinal
          rw [← hsame, Function.update_eq_self]
          exact hworld
    | lease resultId workerId leaseSeconds =>
        obtain ⟨hother, hnobody⟩ := hok
        obtain ⟨db, hlease, hrow⟩ := Option.bind_eq_some_iff.mp hstart
        obtain ⟨row, hstored, hprog⟩ := Option.map_eq_some_iff.mp hrow
        cases hprog
        obtain ⟨before, hbefore, hopen, hkept⟩ := leaseResult?_eq_some hworld.numbered hlease
        obtain ⟨after, hafter, htype, hstatus⟩ := hkept.kept resultId not_false before hbefore
        have hsame : after = row := Option.some.inj (hafter.symm.trans hstored)
        subst hsame
        have hid := id_of_resultRow? hstored
        have hleased : RowsHeld kept { c.world with db } holds := hworld.keep hkept rfl
        refine ⟨.leased resultId, ?_, ?_⟩
        · have hfollows := follows_processLeased settings.consumer after
          rw [hid] at hfollows
          apply (FollowsTo.embed consumerPart hfollows fun _ _ _ _ h => h).follows
          rintro hold' _ ⟨_, hfree⟩
          exact hfree
        · refine hleased.acquire (Or.inl rfl) ?_ ⟨after, hstored, ?_, ?_⟩
          · intro t' hheld
            exact exists_touch hheld (hthreads t') (hnobody t')
          · exact fun hprocessed => hopen (hstatus.mp hprocessed)
          · intro _
            rw [htype]
            exact hother before hbefore

/-! ## Runs -/

/-- The row is processed, where the run has come to. -/
def ResultProcessed (id : Nat) (c : Config (resultMachine settings) T) : Prop :=
  (ResultWorld.db c.world).ResultProcessed id

/-- The consumers before they start. -/
def resultStart (settings : ResultSettings) (T : Type) (db : Database) :
    Config (resultMachine settings) T :=
  idle (⟨db, [], []⟩ : ResultWorld)

theorem tracks_resultStart (settings : ResultSettings) {db : Database}
    (hnumbered : NumberedResults db) {labels : List (Label (resultMachine settings) T)}
    (h : AllSteps ConsumesAlone (resultStart settings T db) labels) :
    Tracks RowProtocol (fun hold => hold = .free) (RowsHeld fun _ => False)
      (run (resultStart settings T db) labels) := by
  have hstart : RowsHeld (fun _ => False) (⟨db, [], []⟩ : ResultWorld)
      (fun _ : T => RowHold.free) := by
    refine ⟨hnumbered, ?_, ?_, ?_, ?_, List.nodup_nil, ?_⟩
    · intro t id hheld
      exact absurd hheld (not_holds_free id)
    · intro t t' id hheld _
      exact absurd hheld (not_holds_free id)
    · intro t id hleased
      cases hleased
    · intro id hmem
      cases hmem
    · intro id hkept
      exact hkept.elim
  have htracks : Tracks RowProtocol (fun hold => hold = .free) (RowsHeld fun _ => False)
      (resultStart settings T db) := ⟨fun _ => .free, hstart, fun _ => rfl⟩
  exact htracks.guardedRun (isGuardedInvariant_rowsHeld settings _) h

omit [DecidableEq T] in
/-- Rows that are processed may be remembered. -/
theorem RowsHeld.remember (h : RowsHeld kept w holds) {more : Nat → Prop}
    (hmore : ∀ id, more id → w.db.ResultProcessed id) : RowsHeld more w holds :=
  ⟨h.numbered, h.stored, h.alone, h.foreign, h.changed, h.once, hmore⟩

/-- Along a run in which every row is leased alone and no commit is reported as a failure, the
state change of a row is committed at most once, a processed row stays so, and no staff reply is
touched before its own consumer has committed it. -/
theorem results_commit_once {settings : ResultSettings} {db : Database}
    (hnumbered : NumberedResults db) {labels : List (Label (resultMachine settings) T)}
    (h : AllSteps ConsumesAlone (resultStart settings T db) labels) :
    (∀ first rest, labels = first ++ rest →
        (ResultWorld.stateChanges (run (resultStart settings T db) first).world).Nodup) ∧
      Persists ResultProcessed (resultStart settings T db) labels ∧
      AllSteps (Executes (M := resultMachine settings) SparesStaffRows)
        (resultStart settings T db) labels := by
  refine ⟨?_, ?_, ?_⟩
  · rintro first rest rfl
    obtain ⟨holds, hworld, -⟩ := tracks_resultStart settings hnumbered (allSteps_append.mp h).1
    exact hworld.once
  · rintro id first later rest rfl hprocessed
    have hsteps := allSteps_append.mp (allSteps_append.mp h).1
    obtain ⟨holds, hworld, hthreads⟩ := tracks_resultStart settings hnumbered hsteps.1
    have hkept : Tracks RowProtocol (fun hold => hold = .free) (RowsHeld fun other => other = id)
        (run (resultStart settings T db) first) := by
      refine ⟨holds, hworld.remember ?_, hthreads⟩
      rintro _ rfl
      exact hprocessed
    rw [run_append]
    obtain ⟨_, hlater, -⟩ := hkept.guardedRun (isGuardedInvariant_rowsHeld settings _) hsteps.2
    exact hlater.kept id rfl
  · rw [allSteps_iff_forall]
    rintro first l rest rfl
    cases l with
    | env e => trivial
    | spawn t job => trivial
    | act t choice =>
        intro op hhead
        obtain ⟨holds, hworld, hthreads⟩ := tracks_resultStart settings hnumbered
          (allSteps_append.mp h).1
        cases op with
        | reply op => trivial
        | consumer op =>
            intro resultId htouches row hrow htype
            have hholder : holds t = .leased resultId :=
              holder_of_touches (hthreads t) hhead htouches
            obtain ⟨row', hrow', hother⟩ := hworld.foreign t resultId hholder
            have hsame : row' = row := Option.some.inj (hrow'.symm.trans hrow)
            exact absurd htype (hsame ▸ hother)

/-! ## A staff reply that is leased -/

/-- Both consumers at work, without a model. -/
def plainResultSettings : ResultSettings := ⟨plainConsumerSettings, plainReplySettings, 42⟩

abbrev ResultLabel := Label (resultMachine plainResultSettings) Bool

/-- Nothing fails, and Telegram answers with the reply. -/
def goodResult : ResultChoice := ⟨none, goodChoice, replyChoice none⟩

/-- A thread takes its next step. -/
def resultAct (thread : Bool) : ResultLabel := .act thread goodResult

/-- Before any worker starts. -/
def resultsOf (db : Database) : Config (resultMachine plainResultSettings) Bool :=
  resultStart plainResultSettings Bool db

/-- The reply of the staff is stored, and a result consumer leases its row. -/
def leasedReply : List ResultLabel :=
  .spawn false (.poll true 0) :: List.replicate 5 (resultAct false) ++
    [.spawn true (.lease 1 "consumer" 60), resultAct true]

/-- The result consumer notes a failure, before or after the reply is committed. -/
def failedBeforeCommit : List ResultLabel := leasedReply ++ [resultAct true]

def failedAfterCommit : List ResultLabel := leasedReply ++ [resultAct false, resultAct true]

/-- The status of the row, where the run has come to. -/
def resultStatus (labels : List ResultLabel) : Option QueueStatus :=
  ((run (resultsOf openCaseDatabase) labels).world.db.resultRow? 1).map (·.status)

/-- A result consumer is about to touch row 1. -/
def consumerTouch (labels : List ResultLabel) : Option RowTouch :=
  ((run (resultsOf openCaseDatabase) labels).threads true).head?.bind fun op =>
    match op with
    | .consumer op => (ResultOp.consumer op).touch?
    | .reply _ => none

/-- The result consumer does not know the type of a staff reply and fails its row, before the
reply is committed in the first run, and after it in the second. -/
theorem leased_reply_is_failed :
    (¬AllSteps (Executes (M := resultMachine plainResultSettings) SparesStaffRows)
        (resultsOf openCaseDatabase) failedBeforeCommit ∧
      resultStatus failedBeforeCommit = some .retryable ∧
      (run (resultsOf openCaseDatabase) failedBeforeCommit).world.stateChanges = []) ∧
    ¬Persists ResultProcessed (resultsOf openCaseDatabase) failedAfterCommit ∧
      resultStatus failedAfterCommit = some .retryable ∧
      (run (resultsOf openCaseDatabase) failedAfterCommit).world.stateChanges = [1] := by
  refine ⟨⟨?_, ?_, ?_⟩, ?_, ?_, ?_⟩
  · intro hspares
    have hstep := (allSteps_append.mp hspares).2.1
    have htouch : consumerTouch leasedReply = some (.fails 1) := by decide +kernel
    obtain ⟨op, hhead, hop⟩ := Option.bind_eq_some_iff.mp htouch
    have hrow : ((run (resultsOf openCaseDatabase) leasedReply).world.db.resultRow? 1).map
        (·.resultType) = some staffReplyType := by decide +kernel
    obtain ⟨row, hstored, htype⟩ := Option.map_eq_some_iff.mp hrow
    have hown : (run (resultsOf openCaseDatabase) leasedReply).world.ownCommits = [] := by
      decide +kernel
    cases op with
    | reply op => cases hop
    | consumer op =>
        have hmem := hstep _ hhead 1 (Or.inr hop) row hstored htype
        change 1 ∈ (run (resultsOf openCaseDatabase) leasedReply).world.ownCommits at hmem
        rw [hown] at hmem
        cases hmem
  · decide +kernel
  · decide +kernel
  · intro hpersists
    have hbefore : resultStatus (leasedReply ++ [resultAct false]) = some .processed := by
      decide +kernel
    have hafter : resultStatus failedAfterCommit = some .retryable := by decide +kernel
    obtain ⟨row, hstored, hstatus⟩ := Option.map_eq_some_iff.mp hbefore
    obtain ⟨row', hstored', hstatus'⟩ := hpersists 1 (leasedReply ++ [resultAct false])
      [resultAct true] [] (by simp [failedAfterCommit]) ⟨row, hstored, hstatus⟩
    have hprocessed : resultStatus failedAfterCommit = some .processed := by
      refine Option.map_eq_some_iff.mpr ⟨row', ?_, hstatus'⟩
      simpa [failedAfterCommit] using hstored'
    rw [hafter] at hprocessed
    cases hprocessed
  · decide +kernel
  · decide +kernel

/-- One consumer processes a failed query. -/
def queryAlone : List ResultLabel :=
  [.spawn false (.lease 1 "consumer" 60), resultAct false, resultAct false]

/-- A single consumer keeps to the conditions, and commits the row. -/
theorem query_commits_once :
    (run (resultsOf failedQueryDatabase) queryAlone).world.stateChanges.Nodup := by
  have hgood : ∀ (w : ResultWorld) (op : ResultOp), CommitsOrRaises w op goodResult := by
    intro w op id _ fault hfault
    cases op with
    | consumer op => cases hfault
    | reply op => cases hfault
  refine (@results_commit_once Bool _ plainResultSettings failedQueryDatabase rfl
    queryAlone ⟨⟨?_, ?_⟩, ?_, ?_, trivial⟩).1 queryAlone [] (List.append_nil _).symm
  · rintro row hrow htype
    have hquery : ((resultsOf failedQueryDatabase).world.db.resultRow? 1).map (·.resultType) =
        some "backend.query.result" := by decide +kernel
    unfold resultsOf at hquery
    rw [hrow, Option.map_some, Option.some_inj, htype] at hquery
    exact absurd hquery (by decide)
  · intro t
    exact trivial
  · intro op _
    exact hgood _ op
  · intro op _
    exact hgood _ op

end AiCustomerService
