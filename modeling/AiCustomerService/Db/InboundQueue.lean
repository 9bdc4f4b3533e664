import AiCustomerService.Db.Transactions
import AiCustomerService.Services.Gateway
import Mathlib.Data.List.Sort

/-!
# The queue of inbound events

The leases of `InboundEventRepository`: a gateway worker leases the first unprocessed event of a
chat, and every statement that ends a lease names the event by its id only.
-/

namespace AiCustomerService

open Support

/-- A row of `inbound_events`; whether it is processed stands in the database. -/
structure InboundEventRow where
  id : Nat
  event : StandardEvent
  lease : Lease

/-- `COALESCE(chat_id, CONCAT('inbound:', id))`. -/
def InboundEventRow.chatKey (row : InboundEventRow) : String :=
  row.event.chatId.getD ("inbound:" ++ toString row.id)

/-- The queue, with the tables that a commit writes. -/
structure InboundQueue where
  database : Database
  events : Table Nat InboundEventRow InboundEventRow.id

namespace InboundQueue

/-- `processed = 1`. -/
def isProcessed (queue : InboundQueue) (id : Nat) : Bool :=
  queue.database.processedInboundEvents.contains id

/-- `processed = 0 AND ignored = 0`. -/
def isWaiting (queue : InboundQueue) (row : InboundEventRow) : Bool :=
  !queue.isProcessed row.id && !row.event.ignored

/-- The row waits before another one of the same chat. -/
def isAhead (queue : InboundQueue) (row earlier : InboundEventRow) : Bool :=
  queue.isWaiting earlier && earlier.chatKey = row.chatKey && decide (earlier.id < row.id)

/-- The `WHERE` clause of `lease_unprocessed`. -/
def isLeasable (queue : InboundQueue) (row : InboundEventRow) : Bool :=
  queue.isWaiting row && row.lease.isFree queue.database.now &&
    !queue.events.rows.any (queue.isAhead row)

/-- Set the lease of the rows that are selected. -/
def setLease (queue : InboundQueue) (select : InboundEventRow → Bool) (lease : Lease) :
    InboundQueue :=
  { queue with
    events := queue.events.updateWhere select (fun row => { row with lease }) fun _ => rfl }

/-- `_lease_unprocessed_on_connection`; the rows that other transactions have locked are
skipped. -/
def leaseUnprocessed (queue : InboundQueue) (locked : Nat → Bool) (limit : Nat)
    (workerId : String) (leaseSeconds : Nat) : InboundQueue × List InboundEventRow :=
  let lease : Lease := .taken workerId queue.database.now leaseSeconds
  let candidates := queue.events.rows.filter fun row => queue.isLeasable row && !locked row.id
  let leased := (candidates.mergeSort fun a b => a.id ≤ b.id).take limit
  (queue.setLease (fun row => leased.any fun other => other.id = row.id) lease,
    leased.map fun row => { row with lease })

/-- One row of `lease_unprocessed`: the queue and the leased row, or `none` when it cannot be
leased. -/
def leaseRow? (queue : InboundQueue) (id : Nat) (workerId : String) (leaseSeconds : Nat) :
    Option (InboundQueue × InboundEventRow) :=
  let lease : Lease := .taken workerId queue.database.now leaseSeconds
  (queue.events.find? id).bind fun row =>
    if queue.isLeasable row then
      some (queue.setLease (fun other => other.id = id) lease, { row with lease })
    else none

/-- `release_lease`. -/
def releaseLease (queue : InboundQueue) (id : Nat) : InboundQueue :=
  queue.setLease (fun row => row.id = id) .none

/-- `recover_expired_leases`. -/
def recoverExpiredLeases (queue : InboundQueue) : InboundQueue :=
  queue.setLease
    (fun row => queue.isWaiting row && row.lease.isExpired queue.database.now) .none

/-- `process_event_transactionally` on the queue: the row is processed, and its lease ends. -/
def processEvent (queue : InboundQueue) (ctx : TxContext) (id : Nat) (event : InboundEvent)
    (customerMessage : Option ConversationMessage) (output : Option GatewayOutput) :
    Except PyError (InboundQueue × TransactionResult) := do
  let committed ← processEventTransactionally queue.database ctx id event customerMessage
    ((output.map GatewayOutput.outboundMessages).getD [])
    ((output.map GatewayOutput.externalCommands).getD [])
    (output.map GatewayOutput.graphState)
    ((output.map GatewayOutput.assistantMessages).getD [])
  pure ({ queue.releaseLease id with database := committed.1 }, committed.2)

/-- A row becomes visible, unless its id is taken. -/
def arrive (queue : InboundQueue) (id : Nat) (event : StandardEvent) : InboundQueue :=
  { queue with events := (queue.events.insertIdempotent ⟨id, event, .none⟩).1 }

/-! ## Lookup -/

variable (queue : InboundQueue)

theorem find?_setLease (select : InboundEventRow → Bool) (lease : Lease) (id : Nat) :
    (queue.setLease select lease).events.find? id =
      (queue.events.find? id).map fun row => if select row then { row with lease } else row :=
  Table.find?_updateWhere _ select (fun row => { row with lease }) (fun _ => rfl) id

theorem find?_arrive (id : Nat) (event : StandardEvent) (other : Nat) :
    (queue.arrive id event).events.find? other =
      (queue.events.find? other).or (if id = other then some ⟨id, event, .none⟩ else none) :=
  Table.find?_insertIdempotent _ _ _

variable {queue}

/-- What a single row is leased under. -/
theorem leaseRow?_some {id : Nat} {workerId : String} {leaseSeconds : Nat}
    {queue' : InboundQueue} {row : InboundEventRow}
    (h : queue.leaseRow? id workerId leaseSeconds = some (queue', row)) :
    ∃ stored, queue.events.find? id = some stored ∧ queue.isLeasable stored = true ∧
      row = { stored with lease := .taken workerId queue.database.now leaseSeconds } ∧
      queue' = queue.setLease (fun other => other.id = id)
        (.taken workerId queue.database.now leaseSeconds) := by
  unfold leaseRow? at h
  obtain ⟨stored, hstored, hrow⟩ := Option.bind_eq_some_iff.mp h
  split at hrow
  · rename_i hleasable
    cases hrow
    exact ⟨stored, hstored, hleasable, rfl, rfl⟩
  · cases hrow

/-! ## A batch -/

/-- Lease rows one after the other. -/
def leaseRows (queue : InboundQueue) (workerId : String) (leaseSeconds : Nat) :
    List Nat → Option (InboundQueue × List InboundEventRow)
  | [] => some (queue, [])
  | id :: rest => do
      let first ← queue.leaseRow? id workerId leaseSeconds
      let others ← leaseRows first.1 workerId leaseSeconds rest
      pure (others.1, first.2 :: others.2)

theorem database_setLease (select : InboundEventRow → Bool) (lease : Lease) :
    (queue.setLease select lease).database = queue.database := rfl

/-- Two changes to one lease are one change. -/
theorem setLease_setLease {p q : InboundEventRow → Bool} {lease : Lease}
    (hq : ∀ row : InboundEventRow, q { row with lease } = q row) :
    (queue.setLease p lease).setLease q lease =
      queue.setLease (fun row => p row || q row) lease := by
  unfold setLease
  congr 1
  unfold Table.updateWhere
  congr 1
  rw [List.map_map]
  apply List.map_congr_left
  intro row _
  simp only [Function.comp]
  cases hp : p row with
  | true => simp [hq]
  | false => simp

theorem any_isAhead_setLease (select : InboundEventRow → Bool) (lease : Lease)
    (row : InboundEventRow) :
    (queue.setLease select lease).events.rows.any ((queue.setLease select lease).isAhead row) =
      queue.events.rows.any (queue.isAhead row) := by
  unfold setLease
  rw [Table.rows_updateWhere, List.any_map]
  congr 1
  funext earlier
  simp only [Function.comp]
  split
  · rfl
  · rfl

/-- A row that can be leased still can when another one has been. -/
theorem isLeasable_setLease {select : InboundEventRow → Bool} (lease : Lease)
    {row : InboundEventRow} :
    (queue.setLease select lease).isLeasable row = queue.isLeasable row := by
  unfold isLeasable
  rw [any_isAhead_setLease]
  rfl

theorem leaseRow?_of_isLeasable {row : InboundEventRow} (hrow : row ∈ queue.events.rows)
    (h : queue.isLeasable row = true) (workerId : String) (leaseSeconds : Nat) :
    queue.leaseRow? row.id workerId leaseSeconds =
      some (queue.setLease (fun other => other.id = row.id)
          (.taken workerId queue.database.now leaseSeconds),
        { row with lease := .taken workerId queue.database.now leaseSeconds }) := by
  unfold leaseRow?
  rw [Table.find?_of_mem hrow, Option.bind_some, if_pos h]

theorem leaseRows_of_isLeasable {rows : List InboundEventRow}
    (hrows : ∀ row ∈ rows, row ∈ queue.events.rows ∧ queue.isLeasable row = true)
    (hids : (rows.map InboundEventRow.id).Nodup) (workerId : String) (leaseSeconds : Nat) :
    queue.leaseRows workerId leaseSeconds (rows.map InboundEventRow.id) =
      some (queue.setLease (fun row => rows.any fun other => other.id = row.id)
          (.taken workerId queue.database.now leaseSeconds),
        rows.map fun row =>
          { row with lease := .taken workerId queue.database.now leaseSeconds }) := by
  induction rows generalizing queue with
  | nil =>
      have hnone : queue.setLease (fun _ => false)
          (.taken workerId queue.database.now leaseSeconds) = queue := by
        unfold setLease Table.updateWhere
        simp
      simpa [leaseRows] using hnone.symm
  | cons row rest ih =>
      rw [List.map_cons, List.nodup_cons] at hids
      obtain ⟨hrow, hleasable⟩ := hrows row List.mem_cons_self
      have hrest : ∀ other ∈ rest,
          other ∈ (queue.setLease (fun other => other.id = row.id)
            (.taken workerId queue.database.now leaseSeconds)).events.rows ∧
          (queue.setLease (fun other => other.id = row.id)
            (.taken workerId queue.database.now leaseSeconds)).isLeasable other = true := by
        intro other hother
        obtain ⟨hmem, hother'⟩ := hrows other (List.mem_cons_of_mem _ hother)
        have hne : other.id ≠ row.id := by
          intro hsame
          exact hids.1 (hsame ▸ List.mem_map_of_mem hother)
        refine ⟨?_, by rw [isLeasable_setLease]; exact hother'⟩
        rw [Table.mem_rows_iff_find?, find?_setLease, Table.find?_of_mem hmem, Option.map_some,
          if_neg (by simpa using hne)]
      have hothers := ih hrest hids.2
      rw [database_setLease, setLease_setLease fun _ => rfl] at hothers
      rw [List.map_cons, leaseRows, leaseRow?_of_isLeasable hrow hleasable]
      simp only [Option.bind_eq_bind, Option.bind_some, hothers, Option.pure_def, List.map_cons,
        List.any_cons]
      congr 4
      funext other
      rw [decide_eq_decide.mpr eq_comm]

/-- A batch leases its rows one after the other. -/
theorem leaseUnprocessed_eq_leaseRows (queue : InboundQueue) (locked : Nat → Bool) (limit : Nat)
    (workerId : String) (leaseSeconds : Nat) :
    queue.leaseRows workerId leaseSeconds
        ((queue.leaseUnprocessed locked limit workerId leaseSeconds).2.map InboundEventRow.id) =
      some (queue.leaseUnprocessed locked limit workerId leaseSeconds) := by
  unfold leaseUnprocessed
  dsimp only
  generalize hcandidates : queue.events.rows.filter
    (fun row => queue.isLeasable row && !locked row.id) = candidates
  have hsub : candidates.Sublist queue.events.rows := hcandidates ▸ List.filter_sublist
  have hperm := List.mergeSort_perm candidates fun a b => decide (a.id ≤ b.id)
  have hids : ((candidates.mergeSort fun a b => decide (a.id ≤ b.id)).map
      InboundEventRow.id).Nodup :=
    (hperm.map _).nodup_iff.mpr (queue.events.unique.sublist (hsub.map _))
  have hrows : ∀ row ∈ (candidates.mergeSort fun a b => decide (a.id ≤ b.id)).take limit,
      row ∈ queue.events.rows ∧ queue.isLeasable row = true := by
    intro row hrow
    have hmem : row ∈ candidates := hperm.mem_iff.mp (List.mem_of_mem_take hrow)
    rw [← hcandidates, List.mem_filter, Bool.and_eq_true] at hmem
    exact ⟨hmem.1, hmem.2.1⟩
  have hleases := leaseRows_of_isLeasable hrows
    (hids.sublist ((List.take_sublist _ _).map _)) workerId leaseSeconds
  rw [List.map_map]
  exact hleases

end InboundQueue

/-- A lease that was taken is free once it has expired. -/
theorem isFree_taken (workerId : String) (leasedAt leaseSeconds now : Nat) :
    (Lease.taken workerId leasedAt leaseSeconds).isFree now =
      (Lease.taken workerId leasedAt leaseSeconds).isExpired now := by
  unfold Lease.isFree
  exact Bool.false_or _

/-- An expired lease stays expired. -/
theorem Lease.isExpired_mono {lease : Lease} {now later : Nat} (hle : now ≤ later)
    (h : lease.isExpired now = true) : lease.isExpired later = true := by
  unfold Lease.isExpired at h ⊢
  cases hexpiry : lease.leaseExpiresAt with
  | none => rw [hexpiry] at h; cases h
  | some expiry =>
      rw [hexpiry] at h
      have hbefore : expiry < now := by simpa using h
      have hafter : expiry < later := by omega
      simpa using hafter

/-! ## The processed events -/

/-- The clock and the processed events are the same. -/
structure SameEvents (db db' : Database) : Prop where
  now : db'.now = db.now
  processed : db'.processedInboundEvents = db.processedInboundEvents

theorem SameEvents.refl (db : Database) : SameEvents db db := ⟨rfl, rfl⟩

theorem SameEvents.trans {a b c : Database} (hab : SameEvents a b) (hbc : SameEvents b c) :
    SameEvents a c :=
  ⟨hbc.1.trans hab.1, hbc.2.trans hab.2⟩

theorem sameEvents_entered (db : Database) (chatId : String) (threadId : Option String) :
    SameEvents db (db.entered chatId threadId) := by
  unfold Database.entered Database.insertConversation
  split
  · exact ⟨rfl, rfl⟩
  · exact ⟨rfl, rfl⟩

theorem sameEvents_applyCaseUpdate (db : Database) (update : Option TelegramCaseUpdate) :
    SameEvents db (applyCaseUpdate db update) := by
  cases update with
  | none => exact .refl db
  | some update => exact ⟨rfl, rfl⟩

theorem sameEvents_insertConversationMessage (db : Database) (message : ConversationMessage) :
    SameEvents db (insertConversationMessage db message).1 := by
  simp only [insertConversationMessage]
  split
  · exact .refl db
  · exact ⟨rfl, rfl⟩

theorem sameEvents_insertMessageFor (db : Database) (conversationId : String)
    (message : Option ConversationMessage) :
    SameEvents db (insertMessageFor db conversationId message).1 := by
  cases message with
  | none => exact .refl db
  | some message => exact sameEvents_insertConversationMessage db _

theorem sameEvents_insertMessagesFor (db : Database) (conversationId : String)
    (messages : List ConversationMessage) :
    SameEvents db (insertMessagesFor db conversationId messages).1 := by
  induction messages generalizing db with
  | nil => exact .refl db
  | cons message rest ih =>
      exact (sameEvents_insertConversationMessage db _).trans (ih _)

theorem sameEvents_enqueue {db db' : Database} {conversationId : String}
    {messages : List OutboundMessage} {commands : List ExternalCommand}
    {reports : List InsertReport × List InsertReport}
    (h : enqueue db conversationId messages commands = .ok (db', reports)) :
    SameEvents db db' := by
  obtain ⟨mid, houtbound, hcommands⟩ := enqueue_ok h
  rw [insertExternalCommands_frame hcommands, insertOutbounds_frame houtbound]
  exact ⟨rfl, rfl⟩

/-- A transaction that returns has processed the event of its id, and no other. -/
theorem processEventTransactionally_events {db db' : Database} {ctx : TxContext}
    {inboundEventId : Nat} {event : InboundEvent} {customer : Option ConversationMessage}
    {messages : List OutboundMessage} {commands : List ExternalCommand}
    {graphState : Option GraphState} {assistant : List ConversationMessage}
    {result : TransactionResult}
    (h : processEventTransactionally db ctx inboundEventId event customer messages commands
      graphState assistant = .ok (db', result)) :
    db'.now = db.now ∧
      db'.processedInboundEvents = inboundEventId :: db.processedInboundEvents := by
  have hmark {marked : Database} (hsame : SameEvents db marked) :
      (markEventProcessed marked inboundEventId).now = db.now ∧
        (markEventProcessed marked inboundEventId).processedInboundEvents =
          inboundEventId :: db.processedInboundEvents :=
    ⟨hsame.now, congrArg (inboundEventId :: ·) hsame.processed⟩
  unfold processEventTransactionally at h
  generalize textOr event.chatId "unknown" = chatId at h
  have hentered := sameEvents_entered db chatId event.threadId
  simp only [getOrCreateOnConnection_eq] at h
  change SameEvents db (db.insertConversation _ _ _ _) at hentered
  generalize db.insertConversation (conversationIdForChat (some chatId) event.threadId) chatId
    event.threadId (fun _ => event.threadId) = entered at h hentered
  generalize viewOf (db.ensuredRow chatId event.threadId) _ = conversation at h
  split at h
  · cases h
    exact hmark (hentered.trans (sameEvents_insertMessageFor _ _ _))
  · cases graphState with
    | none =>
        obtain ⟨⟨queued, outbound, inserted⟩, henqueue, hpure⟩ := bind_eq_ok.mp h
        cases hpure
        exact hmark (hentered.trans ((sameEvents_insertMessageFor _ _ _).trans
          ((sameEvents_insertMessagesFor _ _ _).trans (sameEvents_enqueue henqueue))))
    | some graphState =>
        have hstate : SameEvents db (updateWorkflowStateOnConnection
            (applyCaseUpdate entered graphState.telegramCaseUpdate) ctx
            conversation.conversationId graphState).1 :=
          (hentered.trans (sameEvents_applyCaseUpdate _ _)).trans ⟨rfl, rfl⟩
        dsimp only at h
        split at h
        · cases h
          exact hmark (hstate.trans (sameEvents_insertMessageFor _ _ _))
        · obtain ⟨⟨queued, outbound, inserted⟩, henqueue, hpure⟩ := bind_eq_ok.mp h
          cases hpure
          exact hmark (hstate.trans ((sameEvents_insertMessageFor _ _ _).trans
            ((sameEvents_insertMessagesFor _ _ _).trans (sameEvents_enqueue henqueue))))

/-- What a commit leaves of the queue. -/
theorem InboundQueue.processEvent_ok {queue queue' : InboundQueue} {ctx : TxContext} {id : Nat}
    {event : InboundEvent} {customer : Option ConversationMessage}
    {output : Option GatewayOutput} {result : TransactionResult}
    (h : queue.processEvent ctx id event customer output = .ok (queue', result)) :
    queue'.database.now = queue.database.now ∧ queue'.events = (queue.releaseLease id).events ∧
      ∀ other, queue'.isProcessed other = (decide (other = id) || queue.isProcessed other) := by
  obtain ⟨⟨db', committed⟩, hcommitted, hpure⟩ := bind_eq_ok.mp h
  cases hpure
  obtain ⟨hnow, hprocessed⟩ := processEventTransactionally_events hcommitted
  refine ⟨hnow, rfl, ?_⟩
  intro other
  unfold InboundQueue.isProcessed
  rw [hprocessed, List.contains_cons]
  rfl

end AiCustomerService
