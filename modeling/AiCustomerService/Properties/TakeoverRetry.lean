import AiCustomerService.Channels.IngressInsert
import AiCustomerService.Db.Queues

/-!
# A takeover that fails half way

The insert of the event commits before the takeover begins, so when a later statement fails the
retry finds a duplicate and does not take the conversation over again.  What is left undone in
the attempt that inserts the event stays undone.
-/

namespace AiCustomerService

open Support

/-- What the takeover is about: whether the conversation exists and is with a human, and which
of its queues have open rows. -/
structure Standing where
  known : Bool
  humanActive : Bool
  openOutbound : Bool
  openCommands : Bool
  openResults : Bool

/-- The standing of a conversation. -/
def Database.standing (db : Database) (conversationId : String) : Standing where
  known := (db.conversation? conversationId).isSome
  humanActive := (db.conversation? conversationId).any fun row => row.status = .humanActive
  openOutbound := db.outboundMessages.rows.any fun row =>
    row.conversationId = some conversationId && row.status.isOpen
  openCommands := db.externalCommands.rows.any fun row =>
    row.conversationId = conversationId && row.status.isOpen
  openResults := db.externalCommandResults.rows.any fun row =>
    row.conversationId = conversationId && row.status.isOpen

/-- The conversation is with the human agent, and nothing of the bot is waiting in it. -/
def WithHuman (db : Database) (conversationId : String) : Prop :=
  (∃ row, db.conversation? conversationId = some row ∧ row.status = .humanActive) ∧
    (∀ row ∈ db.outboundMessages.rows,
      row.conversationId = some conversationId → row.status.isOpen = false) ∧
    (∀ row ∈ db.externalCommands.rows,
      row.conversationId = conversationId → row.status.isOpen = false) ∧
    ∀ row ∈ db.externalCommandResults.rows,
      row.conversationId = conversationId → row.status.isOpen = false

/-- What a statement does to the standing of its conversation. -/
def IngressStatement.change (standing : Standing) : IngressStatement → Standing
  | .insertConversation => { standing with known := true }
  | .updateConversation => { standing with humanActive := standing.known }
  | .cancelOutbound => { standing with openOutbound := false }
  | .cancelCommands => { standing with openCommands := false }
  | .cancelResults => { standing with openResults := false }
  | _ => standing

/-- The statements of an insert, in order. -/
def insertChain : List IngressStatement :=
  [.insertEvent, .insertConversation, .selectConversation, .updateConversation, .cancelOutbound,
    .cancelCommands, .cancelResults]

/-- No statement before it fails, and the statement itself is committed. -/
def TakesEffect (faults : StatementFaults) (statement : IngressStatement) : Bool :=
  ((insertChain.takeWhile fun other => other ≠ statement).all fun other =>
      (faults other).isNone) &&
    (faults statement).all Fault.applied

/-- The attempt that stores the event, if the event is new. -/
def storingAttempt (store : IngressStore) (event : NormalizedEvent)
    (attempts : List StatementFaults) : Option StatementFaults :=
  if (store.inboundEvents.find? event.dedupKey).isSome then none
  else attempts.find? fun faults => TakesEffect faults .insertEvent

/-- The attempt that stores the event gets to the statement, or there is nothing left for it. -/
def Settled (storing : Option StatementFaults) (statement : IngressStatement)
    (already : Bool) : Prop :=
  already = true ∨ ∃ faults, storing = some faults ∧ TakesEffect faults statement = true

/-- Every part of the takeover is settled. -/
def TakeoverSettled (storing : Option StatementFaults) (standing : Standing) : Prop :=
  Settled storing .updateConversation standing.humanActive ∧
    Settled storing .cancelOutbound (!standing.openOutbound) ∧
    Settled storing .cancelCommands (!standing.openCommands) ∧
    Settled storing .cancelResults (!standing.openResults)

/-- The conversation of an event. -/
def NormalizedEvent.conversation (event : NormalizedEvent) : String :=
  conversationIdForChat event.chatId event.threadId

/-! ## Statements on the standing -/

/-- The parts of the standing that a taken over conversation has. -/
def Standing.Free (standing : Standing) : Prop :=
  standing.humanActive = true ∧ standing.openOutbound = false ∧
    standing.openCommands = false ∧ standing.openResults = false

theorem withHuman_iff (db : Database) (conversationId : String) :
    WithHuman db conversationId ↔ (db.standing conversationId).Free := by
  simp [WithHuman, Standing.Free, Database.standing, Option.any_eq_true, and_left_comm]

theorem standing_insertConversation (db : Database) (conversationId chatId : String)
    (threadId : Option String) (route : Option String → Option String) :
    (db.insertConversation conversationId chatId threadId route).standing conversationId =
      IngressStatement.change (db.standing conversationId) .insertConversation := by
  have hrow := conversation?_insertConversation db conversationId chatId threadId route
    conversationId
  rw [if_pos rfl] at hrow
  have hstatus : ((some (db.rowAfterInsert conversationId chatId threadId route)).any
      fun row => row.status = .humanActive) =
        (db.conversation? conversationId).any fun row => row.status = .humanActive := by
    unfold Database.rowAfterInsert
    cases db.conversation? conversationId with
    | none => rfl
    | some row => rfl
  have hqueues : (db.insertConversation conversationId chatId threadId route).outboundMessages =
        db.outboundMessages ∧
      (db.insertConversation conversationId chatId threadId route).externalCommands =
        db.externalCommands ∧
      (db.insertConversation conversationId chatId threadId route).externalCommandResults =
        db.externalCommandResults := by
    unfold Database.insertConversation
    split
    · exact ⟨rfl, rfl, rfl⟩
    · exact ⟨rfl, rfl, rfl⟩
  unfold Database.standing
  rw [hrow, hstatus, hqueues.1, hqueues.2.1, hqueues.2.2]
  rfl

theorem standing_activateHuman (db : Database) (conversationId : String)
    (slotMemory handoffState : JsonObject) :
    (db.activateHuman conversationId slotMemory handoffState).standing conversationId =
      IngressStatement.change (db.standing conversationId) .updateConversation := by
  have hrow : (db.activateHuman conversationId slotMemory handoffState).conversation?
      conversationId = (db.conversation? conversationId).map fun row =>
        { row with status := .humanActive, workflowStage := some "human_active", slotMemory,
                   handoffState := some handoffState } := by
    rw [Database.activateHuman, conversation?_updateConversation]
    simp
  unfold Database.standing
  rw [hrow]
  cases db.conversation? conversationId with
  | none => rfl
  | some row => rfl

/-- Rows that are closed where they are open have none open left. -/
theorem any_closed {R : Type} {rows : List R} {belongs : R → Bool} {status : R → QueueStatus}
    {close : R → R} (hstatus : ∀ row, status (close row) = .skippedHumanActive) :
    ((rows.map fun row => if belongs row && (status row).isOpen then close row else row).any
      fun row => belongs row && (status row).isOpen) = false := by
  rw [List.any_eq_false]
  intro row hrow
  obtain ⟨old, -, rfl⟩ := List.mem_map.mp hrow
  split
  · simp [hstatus, QueueStatus.isOpen]
  · assumption

theorem standing_cancelOutbound (db : Database) (conversationId : String) :
    (db.cancelOutbound conversationId).standing conversationId =
      IngressStatement.change (db.standing conversationId) .cancelOutbound := by
  unfold Database.standing Database.cancelOutbound
  rw [Table.rows_updateWhere, any_closed fun _ => rfl]
  rfl

theorem standing_cancelCommands (db : Database) (conversationId : String) :
    (db.cancelCommands conversationId).standing conversationId =
      IngressStatement.change (db.standing conversationId) .cancelCommands := by
  unfold Database.standing Database.cancelCommands
  rw [Table.rows_updateWhere, any_closed fun _ => rfl]
  rfl

theorem standing_cancelResults (db : Database) (conversationId : String) :
    (db.cancelResults conversationId).standing conversationId =
      IngressStatement.change (db.standing conversationId) .cancelResults := by
  unfold Database.standing Database.cancelResults
  rw [Table.rows_updateWhere, any_closed fun _ => rfl]
  rfl

/-! ## One attempt -/

section Attempt

variable {faults : StatementFaults} {store : IngressStore} {event : NormalizedEvent} {α : Type}

/-- A statement is executed, and the rest goes on where it succeeds. -/
theorem exec_statement (op : IngressOp) (f : op.Res → Prog ingressOps α) :
    (op.execute >>= f).exec (handleIngressOp faults) store =
      match faults op.statement with
      | none => (f (op.act store).1).exec (handleIngressOp faults) (op.act store).2
      | some fault => (.error fault.error, if fault.applied then (op.act store).2 else store) := by
  rw [IngressOp.execute, Prog.exec_perform_bind]
  simp only [handleIngressOp]
  cases faults op.statement with
  | none => rfl
  | some fault => rfl

/-- The standing after the statements of a chain, up to the first one that fails. -/
def runChain (faults : StatementFaults) : List IngressStatement → Standing → Standing
  | [], standing => standing
  | statement :: rest, standing =>
      match faults statement with
      | none => runChain faults rest (statement.change standing)
      | some fault => if fault.applied then statement.change standing else standing

/-- One statement of a program, and one of its chain. -/
theorem exec_chain (op : IngressOp) {f : op.Res → Prog ingressOps α}
    {rest : List IngressStatement} {conversationId : String}
    (hact : (op.act store).2.database.standing conversationId =
      op.statement.change (store.database.standing conversationId))
    (hrest : ((f (op.act store).1).exec (handleIngressOp faults)
        (op.act store).2).2.database.standing conversationId =
      runChain faults rest ((op.act store).2.database.standing conversationId)) :
    ((op.execute >>= f).exec (handleIngressOp faults) store).2.database.standing conversationId =
      runChain faults (op.statement :: rest) (store.database.standing conversationId) := by
  rw [exec_statement, runChain]
  cases faults op.statement with
  | none => exact hrest.trans (congrArg _ hact)
  | some fault =>
      simp only
      split
      · exact hact
      · rfl

/-- The takeover acts on the standing as the chain of its statements does. -/
theorem standing_markHumanActive (faults : StatementFaults) (store : IngressStore)
    (event : InboundEvent) :
    let conversationId := conversationIdForChat event.chatId event.threadId
    ((markHumanActive event).exec (handleIngressOp faults) store).2.database.standing
        conversationId =
      runChain faults insertChain.tail (store.database.standing conversationId) := by
  intro conversationId
  refine exec_chain (.insertConversation _ _ _) (standing_insertConversation _ _ _ _ _) ?_
  refine exec_chain (.selectConversation conversationId) rfl ?_
  refine exec_chain (.updateConversation _ _ _) (standing_activateHuman _ _ _ _) ?_
  refine exec_chain (.cancelOutbound _) (standing_cancelOutbound _ _) ?_
  refine exec_chain (.cancelCommands _) (standing_cancelCommands _ _) ?_
  exact exec_chain (.cancelResults _) (standing_cancelResults _ _) rfl

/-- The attempt that finds the event new acts as the whole chain does. -/
theorem standing_attemptInsert_new (hnew : ¬store.inboundEvents.hasKey event.dedupKey)
    (hreply : isHumanAgentPublicReplyEvent event = true) :
    (attemptInsert faults store event).2.database.standing event.conversation =
      runChain faults insertChain (store.database.standing event.conversation) := by
  refine exec_chain (.insertEvent event) rfl ?_
  have hinserted : (IngressOp.act store (.insertEvent event)).1 = true :=
    (Table.insertIdempotent_inserted_iff _ _).mpr hnew
  rw [hinserted, hreply]
  simp only [Bool.and_self, if_true, Prog.pure_eq_ret]
  rw [Prog.exec_bind_ret]
  exact standing_markHumanActive faults _ event.toInboundEvent

/-- An attempt that finds the event stored leaves the store. -/
theorem attemptInsert_stored (hstored : store.inboundEvents.hasKey event.dedupKey) :
    (attemptInsert faults store event).2 = store := by
  have hact : IngressOp.act store (.insertEvent event) = (false, store) := by
    simp only [IngressOp.act, Table.insertIdempotent_of_hasKey hstored]
  unfold attemptInsert insertInboundEvent
  rw [exec_statement, hact]
  cases faults (IngressOp.insertEvent event).statement with
  | none => rfl
  | some fault => simp

theorem takesEffect_insertEvent (faults : StatementFaults) :
    TakesEffect faults .insertEvent = (faults .insertEvent).all Fault.applied := by
  simp [TakesEffect, insertChain]

theorem hasKey_handleIngressOp {key : String} (op : IngressOp) (store : IngressStore)
    (h : store.inboundEvents.hasKey key) :
    (handleIngressOp faults op store).2.inboundEvents.hasKey key := by
  refine faulty_induction (motive := fun store : IngressStore => store.inboundEvents.hasKey key) h ?_
  cases op with
  | insertEvent event => exact (Table.hasKey_insertIdempotent _ _ _).mpr (Or.inl h)
  | _ => exact h

/-- After the insert of the event its key is taken. -/
theorem hasKey_attemptInsert (h : TakesEffect faults .insertEvent = true) :
    (attemptInsert faults store event).2.inboundEvents.hasKey event.dedupKey := by
  have hstored : (IngressOp.act store (.insertEvent event)).2.inboundEvents.hasKey
      event.dedupKey := (Table.hasKey_insertIdempotent _ _ _).mpr (Or.inr rfl)
  rw [takesEffect_insertEvent] at h
  unfold attemptInsert insertInboundEvent
  rw [exec_statement]
  change ((match faults .insertEvent with
    | none => _
    | some fault => _ : Except PyError Bool × IngressStore)).2.inboundEvents.hasKey _
  cases hfault : faults .insertEvent with
  | none =>
      exact Prog.exec_induction (fun store : IngressStore => store.inboundEvents.hasKey event.dedupKey)
        hasKey_handleIngressOp _ hstored
  | some fault =>
      rw [hfault] at h
      have happlied : fault.applied = true := by simpa using h
      simp only [happlied, if_true]
      exact hstored

/-- An insert that is not committed leaves the store. -/
theorem attemptInsert_failed (h : TakesEffect faults .insertEvent = false) :
    ∃ e, attemptInsert faults store event = (.error e, store) := by
  rw [takesEffect_insertEvent] at h
  cases hfault : faults .insertEvent with
  | none => simp [hfault] at h
  | some fault =>
      rw [hfault] at h
      have happlied : fault.applied = false := by simpa using h
      refine ⟨fault.error, ?_⟩
      unfold attemptInsert insertInboundEvent
      rw [exec_statement]
      change (match faults .insertEvent with
        | none => _
        | some fault => _ : Except PyError Bool × IngressStore) = _
      rw [hfault]
      simp [happlied]

end Attempt

/-! ## The attempts of a retry -/

section Retry

variable {store after : IngressStore} {event : NormalizedEvent} {attempts : List StatementFaults}

/-- Once the event is stored, a retry changes nothing. -/
theorem retryInsert_stored (hstored : store.inboundEvents.hasKey event.dedupKey)
    (h : retryInsert event store attempts = some after) : after = store := by
  induction attempts with
  | nil => cases h
  | cons faults rest ih =>
      have hkept := @attemptInsert_stored faults store event hstored
      rw [retryInsert] at h
      rcases hattempt : attemptInsert faults store event with ⟨outcome, next⟩
      rw [hattempt] at h hkept
      subst hkept
      cases outcome with
      | ok inserted =>
          cases h
          rfl
      | error e => exact ih h

theorem storingAttempt_stored (hstored : store.inboundEvents.hasKey event.dedupKey) :
    storingAttempt store event attempts = none := by
  have hfound : (store.inboundEvents.find? event.dedupKey).isSome = true := by
    rw [Option.isSome_iff_ne_none]
    intro hnone
    exact (Table.find?_eq_none_iff _ _).mp hnone hstored
  rw [storingAttempt, if_pos hfound]

theorem storingAttempt_new (hnew : ¬store.inboundEvents.hasKey event.dedupKey) :
    storingAttempt store event attempts =
      attempts.find? fun faults => TakesEffect faults .insertEvent := by
  have hnone := (Table.find?_eq_none_iff store.inboundEvents event.dedupKey).mpr hnew
  simp [storingAttempt, hnone]

/-- The standing after a retry: that of the attempt that stores the event. -/
theorem standing_retryInsert (hnew : ¬store.inboundEvents.hasKey event.dedupKey)
    (hreply : isHumanAgentPublicReplyEvent event = true)
    (h : retryInsert event store attempts = some after) :
    ∃ faults, attempts.find? (fun faults => TakesEffect faults .insertEvent) = some faults ∧
      after.database.standing event.conversation =
        runChain faults insertChain (store.database.standing event.conversation) := by
  induction attempts with
  | nil => cases h
  | cons faults rest ih =>
      rw [retryInsert] at h
      cases heffect : TakesEffect faults .insertEvent with
      | true =>
          refine ⟨faults, by simp [heffect], ?_⟩
          have hstanding := @standing_attemptInsert_new faults store event hnew hreply
          have hstored := @hasKey_attemptInsert faults store event heffect
          rcases hattempt : attemptInsert faults store event with ⟨outcome, next⟩
          rw [hattempt] at h hstanding hstored
          cases outcome with
          | ok inserted =>
              cases h
              exact hstanding
          | error e =>
              rw [retryInsert_stored hstored h]
              exact hstanding
      | false =>
          obtain ⟨e, hattempt⟩ := @attemptInsert_failed faults store event heffect
          rw [hattempt] at h
          obtain ⟨storing, hfind, hstanding⟩ := ih h
          exact ⟨storing, by simp [heffect, hfind], hstanding⟩

end Retry

/-! ## What the chain leaves -/

section Chain

variable (faults : StatementFaults) {get : Standing → Bool} {keeps : Standing → Prop}
  {statement : IngressStatement} {value : Bool}

theorem get_runChain_of_notMem
    (hother : ∀ standing other, other ≠ statement →
      get (IngressStatement.change standing other) = get standing)
    {chain : List IngressStatement} (hchain : statement ∉ chain) (standing : Standing) :
    get (runChain faults chain standing) = get standing := by
  induction chain generalizing standing with
  | nil => rfl
  | cons other rest ih =>
      have hne : other ≠ statement := fun heq => hchain (heq ▸ List.mem_cons_self)
      rw [runChain]
      cases faults other with
      | none =>
          rw [ih fun hmem => hchain (List.mem_cons_of_mem _ hmem)]
          exact hother standing other hne
      | some fault =>
          simp only
          split
          · exact hother standing other hne
          · rfl

/-- A part of the standing that one statement of the chain sets. -/
theorem get_runChain (get : Standing → Bool) (keeps : Standing → Prop)
    (hkeeps : ∀ standing other, keeps standing → keeps (IngressStatement.change standing other))
    (hother : ∀ standing other, other ≠ statement →
      get (IngressStatement.change standing other) = get standing)
    (hset : ∀ standing, keeps standing → get (IngressStatement.change standing statement) = value)
    {chain : List IngressStatement} (hnodup : chain.Nodup) (hchain : statement ∈ chain)
    (standing : Standing) (hstanding : keeps standing) :
    get (runChain faults chain standing) =
      if ((chain.takeWhile fun other => other ≠ statement).all fun other =>
          (faults other).isNone) && (faults statement).all Fault.applied then value
      else get standing := by
  induction chain generalizing standing with
  | nil => cases hchain
  | cons other rest ih =>
      obtain ⟨hnotMem, hrest⟩ := List.nodup_cons.mp hnodup
      rw [runChain]
      by_cases hsame : other = statement
      · subst hsame
        cases hfault : faults other with
        | none =>
            simp only [get_runChain_of_notMem faults hother hnotMem]
            simp [hset standing hstanding]
        | some fault =>
            by_cases happlied : fault.applied = true
            · simp [happlied, hset standing hstanding]
            · simp [happlied]
      · have hmem : statement ∈ rest := (List.mem_cons.mp hchain).resolve_left fun h => hsame h.symm
        cases hfault : faults other with
        | none =>
            simp only [ih hrest hmem _ (hkeeps standing other hstanding),
              hother standing other hsame]
            simp [hsame, hfault]
        | some fault =>
            by_cases happlied : fault.applied = true
            · simp [happlied, hsame, hfault, hother standing other hsame]
            · simp [happlied, hsame, hfault]

theorem known_change (standing : Standing) (other : IngressStatement)
    (h : standing.known = true) : (IngressStatement.change standing other).known = true := by
  cases other with
  | insertConversation => rfl
  | _ => exact h

/-- The update finds the conversation, which the statement before it has created. -/
theorem humanActive_runChain (standing : Standing) :
    (runChain faults insertChain standing).humanActive =
      if TakesEffect faults .updateConversation then true else standing.humanActive := by
  have hother : ∀ standing other, other ≠ IngressStatement.updateConversation →
      (IngressStatement.change standing other).humanActive = standing.humanActive := by
    intro standing other hne
    cases other with
    | updateConversation => exact absurd rfl hne
    | _ => rfl
  have hnodup : insertChain.tail.tail.Nodup := by decide
  have hrest := get_runChain faults Standing.humanActive
    (fun standing => standing.known = true) known_change hother (fun _ h => h) hnodup (by decide)
    { standing with known := true } rfl
  rw [insertChain, runChain, runChain]
  cases hevent : faults .insertEvent with
  | some fault => simp [TakesEffect, insertChain, hevent, IngressStatement.change]
  | none =>
      cases hconversation : faults .insertConversation with
      | some fault =>
          simp only [IngressStatement.change]
          split <;> simp [TakesEffect, insertChain, hconversation]
      | none =>
          refine hrest.trans ?_
          simp [TakesEffect, insertChain, hevent, hconversation]

/-- A cancellation closes its queue where it is reached. -/
theorem queue_runChain (get : Standing → Bool) (statement : IngressStatement)
    (hother : ∀ standing other, other ≠ statement →
      get (IngressStatement.change standing other) = get standing)
    (hset : ∀ standing, get (IngressStatement.change standing statement) = false)
    (hchain : statement ∈ insertChain) (standing : Standing) :
    get (runChain faults insertChain standing) = false ↔
      (!get standing) = true ∨ TakesEffect faults statement = true := by
  rw [get_runChain faults get (fun _ => True) (fun _ _ _ => trivial) hother
    (fun standing _ => hset standing) (by decide) hchain standing trivial]
  change (if TakesEffect faults statement = true then false else get standing) = false ↔ _
  by_cases heffect : TakesEffect faults statement = true
  · simp [heffect]
  · simp [heffect]

end Chain

/-- What the chain leaves is free exactly when each part of the takeover is reached or already
there. -/
theorem runChain_free_iff (faults : StatementFaults) (standing : Standing) :
    (runChain faults insertChain standing).Free ↔ TakeoverSettled (some faults) standing := by
  have hstatus : (runChain faults insertChain standing).humanActive = true ↔
      standing.humanActive = true ∨ TakesEffect faults .updateConversation = true := by
    rw [humanActive_runChain]
    by_cases heffect : TakesEffect faults .updateConversation = true
    · simp [heffect]
    · simp [heffect]
  have houtbound := queue_runChain faults Standing.openOutbound .cancelOutbound
    (by rintro _ ⟨⟩ hne <;> first | rfl | exact absurd rfl hne) (fun _ => rfl) (by decide) standing
  have hcommands := queue_runChain faults Standing.openCommands .cancelCommands
    (by rintro _ ⟨⟩ hne <;> first | rfl | exact absurd rfl hne) (fun _ => rfl) (by decide) standing
  have hresults := queue_runChain faults Standing.openResults .cancelResults
    (by rintro _ ⟨⟩ hne <;> first | rfl | exact absurd rfl hne) (fun _ => rfl) (by decide) standing
  unfold Standing.Free TakeoverSettled Settled
  rw [hstatus, houtbound, hcommands, hresults]
  simp

theorem free_iff_settled (standing : Standing) : standing.Free ↔ TakeoverSettled none standing := by
  simp [Standing.Free, TakeoverSettled, Settled]

/-- After the retries the conversation is with the human agent, and none of its rows is open,
exactly when the attempt that stores the event gets to every statement of the takeover that is
not settled already. -/
theorem takeover_after_retries_iff (event : NormalizedEvent) (store after : IngressStore)
    (attempts : List StatementFaults) (hreply : isHumanAgentPublicReplyEvent event = true)
    (h : retryInsert event store attempts = some after) :
    WithHuman after.database event.conversation ↔
      TakeoverSettled (storingAttempt store event attempts)
        (store.database.standing event.conversation) := by
  rw [withHuman_iff]
  by_cases hstored : store.inboundEvents.hasKey event.dedupKey
  · rw [retryInsert_stored hstored h, storingAttempt_stored hstored]
    exact free_iff_settled _
  · obtain ⟨faults, hfind, hstanding⟩ := standing_retryInsert hstored hreply h
    rw [hstanding, storingAttempt_new hstored, hfind]
    exact runChain_free_iff faults _

/-! ## Without failures -/

/-- The update writes what was read back, so it does what `takenOver` says. -/
theorem activateHuman_eq (db : Database) (conversationId : String) (event : InboundEvent) :
    db.activateHuman conversationId
        (((db.conversation? conversationId).map ConversationRow.slotMemory).getD ∅)
        ((((db.conversation? conversationId).bind ConversationRow.handoffState).getD ∅).merge
          (humanAgentDetected event)) =
      db.updateConversation conversationId (fun row => row.takenOver event) fun _ => rfl := by
  have hrows : ∀ row ∈ db.conversationStates.rows, row.conversationId = conversationId →
      db.conversation? conversationId = some row := by
    rintro row hrow rfl
    exact Table.find?_of_mem hrow
  unfold Database.activateHuman Database.updateConversation Table.updateWhere
  congr 2
  apply List.map_congr_left
  intro row hrow
  by_cases hid : row.conversationId = conversationId
  · simp [hid, hrows row hrow hid, ConversationRow.takenOver]
  · simp [hid]

theorem markHumanActive_without_faults (store : IngressStore) (event : InboundEvent) :
    (markHumanActive event).exec (handleIngressOp fun _ => none) store =
      (.ok (), { store with database := markHumanActiveOnConnection store.database event }) := by
  have hstep : ∀ (op : IngressOp) (f : op.Res → Prog ingressOps Unit) (store : IngressStore),
      (op.execute >>= f).exec (handleIngressOp fun _ => none) store =
        (f (op.act store).1).exec (handleIngressOp fun _ => none) (op.act store).2 :=
    fun op f store => exec_statement op f
  unfold markHumanActive
  refine (hstep (.insertConversation _ _ _) _ _).trans ?_
  refine (hstep (.selectConversation _) _ _).trans ?_
  refine (hstep (.updateConversation _ _ _) _ _).trans ?_
  refine (hstep (.cancelOutbound _) _ _).trans ?_
  refine (hstep (.cancelCommands _) _ _).trans ?_
  refine (hstep (.cancelResults _) _ _).trans ?_
  simp only [IngressOp.act, activateHuman_eq]
  rfl

/-- Statements that do not fail do what the insert in one step does. -/
theorem attemptInsert_without_faults (store : IngressStore) (event : NormalizedEvent) :
    attemptInsert (fun _ => none) store event =
      (.ok (store.insert event).2, (store.insert event).1) := by
  have hrest : ∀ (inserted : Bool) (store : IngressStore),
      Prog.exec (handleIngressOp fun _ => none) store
          (if inserted && isHumanAgentPublicReplyEvent event then
            markHumanActive event.toInboundEvent >>= fun _ => pure inserted
          else pure inserted) =
        (.ok inserted, { store with
          database :=
            if inserted && isHumanAgentPublicReplyEvent event then
              markHumanActiveOnConnection store.database event.toInboundEvent
            else store.database }) := by
    intro inserted store
    split
    · rw [Prog.exec_bind, markHumanActive_without_faults]
      rfl
    · rfl
  exact hrest _ _

/-! ## A statement that fails -/

/-- The public reply of a human agent. -/
def agentReply : NormalizedEvent where
  chatId := some "C"
  threadId := some "T"
  eventId := some "E"
  authorId := some "agent"
  occurredAt := none
  payloadJson := .ofList [("human_agent_public_reply", .bool true)]
  source := "livechat"
  rawAction := "incoming_event"
  organizationId := none
  eventType := some "message"
  standardEventType := "text"
  senderRole := "agent"
  dedupKey := "C:T:E"
  ignored := false
  ignoreReason := none

/-- A chat in which a reply of the bot waits to be sent. -/
def botReplyWaiting : IngressStore :=
  match insertOutbound .empty
    { chatId := some "C", threadId := some "T", actionType := "reply", messageType := "text"
      payloadJson := .ofList [("text", .str "hello")], status := .pending
      inboundEventId := some 1, conversationId := some "livechat:C:T", tenantId := none
      dedupKey := some "reply", blockIndex := none, messageKind := none, commandType := none } with
  | .ok (db, _) => ⟨∅, db⟩
  | .error _ => .empty

/-- One statement is lost with the connection. -/
def failsAt (statement : IngressStatement) : StatementFaults := fun other =>
  if other = statement then some ⟨.valueError "Lost connection to MySQL server", false⟩ else none

/-- Every statement succeeds. -/
def failsNowhere : StatementFaults := fun _ => none

instance (standing : Standing) : Decidable standing.Free :=
  inferInstanceAs (Decidable (_ ∧ _ ∧ _ ∧ _))

/-- The first cancellation fails, and the retry finds a duplicate: the bot's reply still waits
to be sent. -/
theorem failed_cancellation_is_not_repeated :
    ∃ after, retryInsert agentReply botReplyWaiting [failsAt .cancelOutbound, failsNowhere] =
        some after ∧ ¬WithHuman after.database agentReply.conversation := by
  refine ⟨_, rfl, ?_⟩
  rw [withHuman_iff]
  decide +kernel

/-- An insert of the event that fails is repeated with the whole takeover. -/
theorem failed_insert_is_repeated :
    ∃ after, retryInsert agentReply botReplyWaiting [failsAt .insertEvent, failsNowhere] =
        some after ∧ WithHuman after.database agentReply.conversation := by
  refine ⟨_, rfl, (takeover_after_retries_iff agentReply botReplyWaiting _
    [failsAt .insertEvent, failsNowhere] rfl rfl).mpr ?_⟩
  have hstoring : storingAttempt botReplyWaiting agentReply [failsAt .insertEvent, failsNowhere] =
      some failsNowhere := rfl
  rw [hstoring]
  exact ⟨Or.inr ⟨_, rfl, rfl⟩, Or.inr ⟨_, rfl, rfl⟩, Or.inr ⟨_, rfl, rfl⟩, Or.inr ⟨_, rfl, rfl⟩⟩

end AiCustomerService
