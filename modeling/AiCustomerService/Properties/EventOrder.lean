import AiCustomerService.Workers.GatewayConsumer

/-!
# The events of a chat in order

A row is leased only when no earlier event of its chat waits.  As long as events become visible
in the order of their ids, none comes to wait before it later on, whatever happens to the leases.
-/

namespace AiCustomerService

open Support Support.Machine

/-- The event is stored and every earlier event of its chat is processed. -/
def InboundQueue.Ready (queue : InboundQueue) (id : Nat) : Prop :=
  ∃ row, queue.events.find? id = some row ∧ row.event.ignored = false ∧
    ∀ earlier ∈ queue.events.rows, earlier.event.ignored = false →
      earlier.chatKey = row.chatKey → earlier.id < row.id → queue.isProcessed earlier.id = true

/-- The lease columns of the row are set. -/
def InboundEventRow.IsLeased (row : InboundEventRow) : Prop := row.lease ≠ .none

instance (row : InboundEventRow) : Decidable row.IsLeased :=
  inferInstanceAs (Decidable (row.lease ≠ .none))

/-- An unprocessed event is leased only as the first of its chat, and the processed events of a
chat come before the others. -/
structure InboundQueue.InOrder (queue : InboundQueue) : Prop where
  one : ∀ a ∈ queue.events.rows, ∀ b ∈ queue.events.rows, a.chatKey = b.chatKey →
    a.IsLeased → b.IsLeased → queue.isProcessed a.id = false → queue.isProcessed b.id = false →
      a = b
  first : ∀ row ∈ queue.events.rows, row.IsLeased → queue.isProcessed row.id = false →
    row.event.ignored = false ∧
      ∀ other ∈ queue.events.rows, queue.isWaiting other = true → other.chatKey = row.chatKey →
        row.id ≤ other.id
  processed : ∀ row ∈ queue.events.rows, queue.isProcessed row.id = true →
    row.event.ignored = false ∧
      ∀ earlier ∈ queue.events.rows, earlier.event.ignored = false →
        earlier.chatKey = row.chatKey → earlier.id < row.id →
          queue.isProcessed earlier.id = true

/-- A new event has an id above those of its chat. -/
def ArrivesLast (queue : InboundQueue) : QueueEvent → Prop
  | .arrive id event =>
      ∀ row ∈ queue.events.rows,
        row.chatKey = (⟨id, event, .none⟩ : InboundEventRow).chatKey → row.id < id
  | _ => True

instance decidableArrivesLast (queue : InboundQueue) :
    (e : QueueEvent) → Decidable (ArrivesLast queue e)
  | .arrive id event =>
      inferInstanceAs (Decidable (∀ row ∈ queue.events.rows,
        row.chatKey = (⟨id, event, .none⟩ : InboundEventRow).chatKey → row.id < id))
  | .elapse _ => isTrue trivial
  | .recoverExpiredLeases => isTrue trivial
  | .write _ => isTrue trivial

/-! ## What a step may do to the queue -/

/-- The rows stay up to their leases, the processed events stay processed, and a new row is the
last one of its chat. -/
structure InboundQueue.Extends (queue queue' : InboundQueue) : Prop where
  stays : ∀ id row, queue.events.find? id = some row →
    ∃ row', queue'.events.find? id = some row' ∧ row'.event = row.event
  fromRow : ∀ id row', queue'.events.find? id = some row' →
    (∃ row, queue.events.find? id = some row ∧ row'.event = row.event) ∨
      ∀ row ∈ queue.events.rows, row.chatKey = row'.chatKey → row.id < row'.id
  processed : ∀ id, queue.isProcessed id = true → queue'.isProcessed id = true

namespace InboundQueue

variable {queue queue' : InboundQueue}

theorem chatKey_congr {row row' : InboundEventRow} (hid : row'.id = row.id)
    (hevent : row'.event = row.event) : row'.chatKey = row.chatKey := by
  rw [InboundEventRow.chatKey, hid, hevent, InboundEventRow.chatKey]

/-- Being ready lasts. -/
theorem Ready.extend {id : Nat} (h : queue.Ready id) (hextends : queue.Extends queue') :
    queue'.Ready id := by
  obtain ⟨row, hrow, hignored, hearlier⟩ := h
  obtain ⟨row', hrow', hevent⟩ := hextends.stays id row hrow
  have hid : row'.id = row.id := (Table.key_of_find? hrow').trans (Table.key_of_find? hrow).symm
  have hchat : row'.chatKey = row.chatKey := chatKey_congr hid hevent
  refine ⟨row', hrow', by rw [hevent]; exact hignored, ?_⟩
  intro earlier' hmem hopen hsame hlt
  apply hextends.processed
  rcases hextends.fromRow _ _ (Table.find?_of_mem hmem) with ⟨earlier, hfind, heq⟩ | hlast
  · have hearlierId : earlier.id = earlier'.id := Table.key_of_find? hfind
    rw [← hearlierId]
    refine hearlier earlier (Table.mem_of_find? hfind) (by rw [← heq]; exact hopen) ?_ ?_
    · rw [← hchat, ← hsame, chatKey_congr hearlierId.symm heq]
    · rw [hearlierId, ← hid]
      exact hlt
  · have hlater := hlast row (Table.mem_of_find? hrow) (by rw [hsame, hchat])
    rw [hid] at hlt
    omega

/-- A change of leases. -/
theorem extends_setLease (queue : InboundQueue) (select : InboundEventRow → Bool)
    (lease : Lease) : queue.Extends (queue.setLease select lease) where
  stays id row h := by
    rw [find?_setLease, h]
    refine ⟨_, rfl, ?_⟩
    dsimp only
    split
    · rfl
    · rfl
  fromRow id row' h := by
    rw [find?_setLease] at h
    obtain ⟨row, hrow, rfl⟩ := Option.map_eq_some_iff.mp h
    refine Or.inl ⟨row, hrow, ?_⟩
    split
    · rfl
    · rfl
  processed id h := h

/-- Other tables are written. -/
theorem extends_of_events (hevents : queue'.events = queue.events)
    (hprocessed : ∀ id, queue.isProcessed id = true → queue'.isProcessed id = true) :
    queue.Extends queue' where
  stays id row h := ⟨row, by rw [hevents]; exact h, rfl⟩
  fromRow id row' h := Or.inl ⟨row', by rw [← hevents]; exact h, rfl⟩
  processed := hprocessed

theorem extends_arrive {id : Nat} {event : StandardEvent}
    (h : ArrivesLast queue (.arrive id event)) : queue.Extends (queue.arrive id event) where
  stays other row hrow := ⟨row, by rw [find?_arrive, hrow]; rfl, rfl⟩
  fromRow other row' hrow' := by
    rw [find?_arrive] at hrow'
    cases hold : queue.events.find? other with
    | some row =>
        rw [hold] at hrow'
        cases hrow'
        exact Or.inl ⟨_, rfl, rfl⟩
    | none =>
        rw [hold, Option.none_or] at hrow'
        split at hrow'
        · cases hrow'
          exact Or.inr h
        · cases hrow'
  processed other hother := hother

theorem extends_commit {ctx : TxContext} {id : Nat} {event : InboundEvent}
    {customer : Option ConversationMessage} {output : Option GatewayOutput}
    {result : TransactionResult}
    (h : queue.processEvent ctx id event customer output = .ok (queue', result)) :
    queue.Extends queue' := by
  obtain ⟨-, hevents, hprocessed⟩ := processEvent_ok h
  have hrelease := queue.extends_setLease (fun row => row.id = id) .none
  refine ⟨?_, ?_, ?_⟩
  · intro other row hrow
    rw [hevents]
    exact hrelease.stays other row hrow
  · intro other row' hrow'
    rw [hevents] at hrow'
    exact hrelease.fromRow other row' hrow'
  · intro other hother
    rw [hprocessed, hother, Bool.or_true]

/-- The conversation is loaded. -/
def load (queue : InboundQueue) (ctx : TxContext) (event : StandardEvent) : InboundQueue :=
  { queue with database := (loadTransactionalConversation queue.database ctx event).1 }

theorem sameEvents_load (queue : InboundQueue) (ctx : TxContext) (event : StandardEvent) :
    SameEvents queue.database (queue.load ctx event).database := by
  unfold load loadTransactionalConversation
  rw [getOrCreateOnConnection_eq]
  exact sameEvents_entered _ _ _

end InboundQueue

/-! ## The invariant -/

/-- Leased, held and processed events are ready. -/
structure QueueOrder {T : Type} (queue : InboundQueue) (holds : T → EventHold) : Prop where
  leased : ∀ row ∈ queue.events.rows, row.IsLeased → queue.Ready row.id
  held : ∀ t row, (holds t).row? = some row → queue.Ready row.id
  processed : ∀ id, queue.isProcessed id = true → queue.Ready id

namespace QueueOrder

variable {T : Type} {queue queue' : InboundQueue} {holds : T → EventHold}

/-- A ready event and an unprocessed one of the same chat. -/
theorem le_of_waiting {row other : InboundEventRow} (hready : queue.Ready row.id)
    (hrow : row ∈ queue.events.rows) (hother : other ∈ queue.events.rows)
    (hopen : other.event.ignored = false) (hchat : other.chatKey = row.chatKey)
    (hwaits : queue.isProcessed other.id = false) : row.id ≤ other.id := by
  obtain ⟨stored, hstored, -, hearlier⟩ := hready
  rw [Table.find?_of_mem hrow] at hstored
  cases hstored
  by_contra hlt
  have hdone := hearlier other hother hopen hchat (by omega)
  rw [hwaits] at hdone
  cases hdone

theorem Ready.not_ignored {row : InboundEventRow} (hready : queue.Ready row.id)
    (hrow : row ∈ queue.events.rows) : row.event.ignored = false := by
  obtain ⟨stored, hstored, hopen, -⟩ := hready
  rw [Table.find?_of_mem hrow] at hstored
  cases hstored
  exact hopen

theorem inOrder (h : QueueOrder queue holds) : queue.InOrder where
  one a ha b hb hchat hleasedA hleasedB hwaitsA hwaitsB := by
    have hreadyA := h.leased a ha hleasedA
    have hreadyB := h.leased b hb hleasedB
    have hab := le_of_waiting hreadyA ha hb (Ready.not_ignored hreadyB hb) hchat.symm hwaitsB
    have hba := le_of_waiting hreadyB hb ha (Ready.not_ignored hreadyA ha) hchat hwaitsA
    have hid : a.id = b.id := by omega
    have hfind := Table.find?_of_mem ha
    rw [hid, Table.find?_of_mem hb] at hfind
    cases hfind
    rfl
  first row hrow hleased _ := by
    have hready := h.leased row hrow hleased
    refine ⟨Ready.not_ignored hready hrow, ?_⟩
    intro other hother hwaiting hchat
    unfold InboundQueue.isWaiting at hwaiting
    rw [Bool.and_eq_true, Bool.not_eq_true', Bool.not_eq_true'] at hwaiting
    exact le_of_waiting hready hrow hother hwaiting.2 hchat hwaiting.1
  processed row hrow hdone := by
    have hready := h.processed row.id hdone
    refine ⟨Ready.not_ignored hready hrow, ?_⟩
    obtain ⟨stored, hstored, -, hearlier⟩ := hready
    rw [Table.find?_of_mem hrow] at hstored
    cases hstored
    exact hearlier

/-- A step that changes nothing of the rows but ends leases. -/
theorem unlease (h : QueueOrder queue holds) (select : InboundEventRow → Bool) :
    ∀ row ∈ (queue.setLease select .none).events.rows, row.IsLeased → queue.Ready row.id := by
  intro row hrow hleased
  have hfind := Table.find?_of_mem hrow
  rw [InboundQueue.find?_setLease] at hfind
  obtain ⟨stored, hstored, rfl⟩ := Option.map_eq_some_iff.mp hfind
  split at hleased
  · exact absurd rfl hleased
  · rename_i hselect
    rw [if_neg hselect]
    exact h.leased stored (Table.mem_of_find? hstored) hleased

theorem release (h : QueueOrder queue holds) (select : InboundEventRow → Bool)
    {holds' : T → EventHold}
    (hheld : ∀ t row, (holds' t).row? = some row → queue.Ready row.id) :
    QueueOrder (queue.setLease select .none) holds' where
  leased row hrow hleased := (h.unlease select row hrow hleased).extend
    (queue.extends_setLease select .none)
  held t row hrow := (hheld t row hrow).extend (queue.extends_setLease select .none)
  processed id hid := (h.processed id hid).extend (queue.extends_setLease select .none)

/-- Other tables are written. -/
theorem write (h : QueueOrder queue holds) (queue' : InboundQueue)
    (hevents : queue'.events = queue.events)
    (hprocessed : ∀ id, queue'.isProcessed id = queue.isProcessed id) {holds' : T → EventHold}
    (hheld : ∀ t row, (holds' t).row? = some row → queue.Ready row.id) :
    QueueOrder queue' holds' := by
  have hextends : queue.Extends queue' :=
    InboundQueue.extends_of_events hevents fun id hid => (hprocessed id).trans hid
  refine ⟨?_, ?_, ?_⟩
  · intro row hrow hleased
    rw [hevents] at hrow
    exact (h.leased row hrow hleased).extend hextends
  · intro t row hrow
    exact (hheld t row hrow).extend hextends
  · intro id hid
    rw [hprocessed] at hid
    exact (h.processed id hid).extend hextends

/-- A commit processes a row that is ready. -/
theorem commit (h : QueueOrder queue holds) {queue' : InboundQueue} {ctx : TxContext} {id : Nat}
    {event : InboundEvent} {customer : Option ConversationMessage}
    {output : Option GatewayOutput} {result : TransactionResult}
    (hcommit : queue.processEvent ctx id event customer output = .ok (queue', result))
    (hready : queue.Ready id) {holds' : T → EventHold}
    (hheld : ∀ t row, (holds' t).row? = some row → queue.Ready row.id) :
    QueueOrder queue' holds' := by
  have hextends := InboundQueue.extends_commit hcommit
  obtain ⟨-, hevents, hprocessed⟩ := InboundQueue.processEvent_ok hcommit
  refine ⟨?_, ?_, ?_⟩
  · intro row hrow hleased
    rw [hevents] at hrow
    exact (h.unlease _ row hrow hleased).extend hextends
  · intro t row hrow
    exact (hheld t row hrow).extend hextends
  · intro other hother
    rw [hprocessed, Bool.or_eq_true, decide_eq_true_eq] at hother
    rcases hother with rfl | hother
    · exact hready.extend hextends
    · exact (h.processed other hother).extend hextends

theorem arrive (h : QueueOrder queue holds) {id : Nat} {event : StandardEvent}
    (hlast : ArrivesLast queue (.arrive id event)) :
    QueueOrder (queue.arrive id event) holds := by
  have hextends := InboundQueue.extends_arrive hlast
  refine ⟨?_, ?_, ?_⟩
  · intro row hrow hleased
    have hfind := Table.find?_of_mem hrow
    rw [InboundQueue.find?_arrive] at hfind
    cases hold : queue.events.find? row.id with
    | some stored =>
        rw [hold] at hfind
        cases hfind
        exact (h.leased _ (Table.mem_of_find? hold) hleased).extend hextends
    | none =>
        rw [hold, Option.none_or] at hfind
        split at hfind
        · cases hfind
          exact absurd rfl hleased
        · cases hfind
  · intro t row hrow
    exact (h.held t row hrow).extend hextends
  · intro other hother
    exact (h.processed other hother).extend hextends

/-- A row that can be leased is ready. -/
theorem ready_of_isLeasable {row : InboundEventRow} (hrow : row ∈ queue.events.rows)
    (h : queue.isLeasable row = true) : queue.Ready row.id := by
  unfold InboundQueue.isLeasable at h
  rw [Bool.and_eq_true, Bool.and_eq_true, Bool.not_eq_true'] at h
  obtain ⟨⟨hwaiting, -⟩, hahead⟩ := h
  unfold InboundQueue.isWaiting at hwaiting
  rw [Bool.and_eq_true, Bool.not_eq_true', Bool.not_eq_true'] at hwaiting
  refine ⟨row, Table.find?_of_mem hrow, hwaiting.2, ?_⟩
  intro earlier hmem hopen hchat hlt
  have hnot := List.any_eq_false.mp hahead earlier hmem
  simpa [InboundQueue.isAhead, InboundQueue.isWaiting, hopen, hchat, hlt] using hnot

/-- A worker leases a row. -/
theorem lease (h : QueueOrder queue holds) {id : Nat} {workerId : String} {leaseSeconds : Nat}
    {queue' : InboundQueue} {row : InboundEventRow}
    (hlease : queue.leaseRow? id workerId leaseSeconds = some (queue', row)) (t : T)
    [DecidableEq T] : QueueOrder queue' (Function.update holds t (.holds row)) := by
  obtain ⟨stored, hstored, hleasable, rfl, rfl⟩ := InboundQueue.leaseRow?_some hlease
  have hextends := queue.extends_setLease (fun other => other.id = id)
    (.taken workerId queue.database.now leaseSeconds)
  have hready : queue.Ready stored.id :=
    ready_of_isLeasable (Table.mem_of_find? hstored) hleasable
  have hid : stored.id = id := Table.key_of_find? hstored
  refine ⟨?_, ?_, ?_⟩
  · intro other hother hleased
    have hfind := Table.find?_of_mem hother
    rw [InboundQueue.find?_setLease] at hfind
    obtain ⟨before, hbefore, rfl⟩ := Option.map_eq_some_iff.mp hfind
    by_cases hselect : before.id = id
    · rw [if_pos (by simpa using hselect)]
      have hsame : before.id = stored.id := hselect.trans hid.symm
      rw [show ({ before with lease := _ } : InboundEventRow).id = stored.id from hsame]
      exact hready.extend hextends
    · rw [if_neg (by simpa using hselect)] at hleased ⊢
      exact (h.leased before (Table.mem_of_find? hbefore) hleased).extend hextends
  · intro t' row hrow
    by_cases ht : t' = t
    · subst ht
      rw [Function.update_self] at hrow
      cases hrow
      exact hready.extend hextends
    · rw [Function.update_of_ne ht] at hrow
      exact (h.held t' row hrow).extend hextends
  · intro other hother
    exact (h.processed other hother).extend hextends

/-- With the other hold of one worker, every held row is still ready. -/
def KeepsHeld [DecidableEq T] (queue : InboundQueue) (holds : T → EventHold) (t : T)
    (hold : EventHold) : Prop :=
  ∀ t' row, (Function.update holds t hold t').row? = some row → queue.Ready row.id

/-- The holder of a row lets it go, or goes on. -/
theorem held_update (h : QueueOrder queue holds) [DecidableEq T] {t : T} {hold : EventHold}
    (hhold : ∀ row, hold.row? = some row → (holds t).row? = some row) :
    KeepsHeld queue holds t hold := by
  intro t' row hrow
  by_cases ht : t' = t
  · subst ht
    rw [Function.update_self] at hrow
    exact h.held t' row (hhold row hrow)
  · rw [Function.update_of_ne ht] at hrow
    exact h.held t' row hrow

end QueueOrder

/-! ## Steps -/

section Steps

variable {T : Type} [DecidableEq T] {queue : InboundQueue} {holds : T → EventHold}

/-- An operation of a worker. -/
theorem queueOrder_handle (h : QueueOrder queue holds) {t : T} {op : GatewayOp}
    {choice : GatewayChoice} {hold : EventHold}
    (hδ : EventProtocol (holds t) op (handleGatewayOp op choice queue).1 hold) :
    QueueOrder (handleGatewayOp op choice queue).2 (Function.update holds t hold) := by
  cases op with
  | loadConversation event =>
      have hheld : QueueOrder.KeepsHeld queue holds t hold := h.held_update fun row hrow => by
        rw [← (show hold = holds t from hδ)]
        exact hrow
      refine faulty_induction (motive := fun queue' => QueueOrder queue' _) ?_ ?_
      · exact h.write _ rfl (fun _ => rfl) hheld
      · have hsame := InboundQueue.sameEvents_load queue choice.ctx event
        refine h.write (queue.load choice.ctx event) rfl ?_ hheld
        intro id
        unfold InboundQueue.isProcessed
        rw [hsame.processed]
  | runWorkflow event conversation =>
      have hheld : QueueOrder.KeepsHeld queue holds t hold := h.held_update fun row hrow => by
        rw [← (show hold = holds t from hδ)]
        exact hrow
      refine faulty_induction (motive := fun queue' => QueueOrder queue' _) ?_ ?_
      · exact h.write _ rfl (fun _ => rfl) hheld
      · exact h.write _ rfl (fun _ => rfl) hheld
  | processEvent row customerMessage output =>
      obtain ⟨hholds, hhold⟩ := hδ
      have hheld : QueueOrder.KeepsHeld queue holds t hold := h.held_update fun other hother => by
        rw [hholds]
        rw [hhold] at hother
        unfold triedHold at hother
        split at hother
        · cases hother
        · exact hother
      have hready : queue.Ready row.id := h.held t row (by rw [hholds]; rfl)
      refine faulty_induction (motive := fun queue' => QueueOrder queue' _) ?_ ?_
      · exact h.write _ rfl (fun _ => rfl) hheld
      · cases hcommit : queue.processEvent choice.ctx row.id row.event.toInboundEvent
            customerMessage output with
        | ok done => exact h.commit hcommit hready hheld
        | error e => exact h.write _ rfl (fun _ => rfl) hheld
  | releaseLease row =>
      have hheld : QueueOrder.KeepsHeld queue holds t hold := h.held_update fun other hother => by
        rw [hδ.2] at hother
        cases hother
      refine faulty_induction (motive := fun queue' => QueueOrder queue' _) ?_ ?_
      · exact h.write _ rfl (fun _ => rfl) hheld
      · exact h.release _ hheld

omit [DecidableEq T] in
/-- What happens beside the workers. -/
theorem queueOrder_after (h : QueueOrder queue holds) {e : QueueEvent}
    (hlast : ArrivesLast queue e) : QueueOrder (queue.after e) holds := by
  cases e with
  | elapse microseconds =>
      exact h.write (queue.after (.elapse microseconds)) rfl (fun _ => rfl) h.held
  | arrive id event => exact h.arrive hlast
  | recoverExpiredLeases => exact h.release _ h.held
  | write db => exact h.write (queue.after (.write db)) rfl (fun _ => rfl) h.held

/-- New events come last. -/
def EventsArriveLast {rt : Runtime} (c : Config (gatewayMachine rt) T) :
    Label (gatewayMachine rt) T → Prop
  | .env e => ArrivesLast c.world e
  | _ => True

instance {rt : Runtime} (c : Config (gatewayMachine rt) T) :
    (l : Label (gatewayMachine rt) T) → Decidable (EventsArriveLast c l)
  | .act _ _ => isTrue trivial
  | .env e => decidableArrivesLast c.world e
  | .spawn _ _ => isTrue trivial

theorem isGuardedInvariant_queueOrder (rt : Runtime) :
    IsGuardedInvariant (M := gatewayMachine rt) (T := T) EventProtocol (· = .free)
      EventsArriveLast QueueOrder where
  act hworld _ _ hδ := queueOrder_handle hworld hδ
  env _ hworld hlast := queueOrder_after hworld hlast
  spawn := by
    intro c holds t job prog w' hworld _ _ _ hstart
    obtain ⟨⟨leased, row⟩, hlease, hprog⟩ := Option.map_eq_some_iff.mp hstart
    cases hprog
    exact ⟨.holds row, follows_processOneRow rt row, hworld.lease hlease t⟩

end Steps

/-! ## Runs -/

/-- No event is stored. -/
def InboundQueue.empty : InboundQueue := ⟨.empty, ∅⟩

/-- The workers are idle and no event is stored. -/
def gatewayStart (rt : Runtime) (T : Type) : Config (gatewayMachine rt) T := idle .empty

/-- The queue after a run. -/
def queueAfter {rt : Runtime} {T : Type} [DecidableEq T]
    (labels : List (Label (gatewayMachine rt) T)) : InboundQueue :=
  (run (gatewayStart rt T) labels).world

theorem queueOrder_start (T : Type) :
    QueueOrder .empty (fun _ : T => EventHold.free) where
  leased row hrow := absurd hrow List.not_mem_nil
  held t row hrow := by cases hrow
  processed id hid := by cases hid

theorem queueOrder_run {rt : Runtime} {T : Type} [DecidableEq T]
    {labels : List (Label (gatewayMachine rt) T)}
    (h : AllSteps EventsArriveLast (gatewayStart rt T) labels) :
    Tracks EventProtocol (· = .free) QueueOrder (run (gatewayStart rt T) labels) := by
  have hstart : Tracks EventProtocol (· = .free) QueueOrder (gatewayStart rt T) :=
    tracks_idle (queueOrder_start T) fun _ => rfl
  exact hstart.guardedRun (isGuardedInvariant_queueOrder rt) h

/-- However many workers lease, commit and release events, and however leases expire and are
recovered: an unprocessed event is leased only as the first of its chat, and the processed events
of a chat come before the others. -/
theorem events_in_order {rt : Runtime} {T : Type} [DecidableEq T]
    (labels : List (Label (gatewayMachine rt) T))
    (h : AllSteps EventsArriveLast (gatewayStart rt T) labels) : (queueAfter labels).InOrder := by
  obtain ⟨holds, hworld, -⟩ := queueOrder_run h
  exact hworld.inOrder

/-! ## Two workers and two events -/

abbrev PairLabel := Label (gatewayMachine .plain) Bool

/-- A message of the chat. -/
def chatMessage : StandardEvent :=
  ⟨⟨some "chat", some "thread", none, none, none, ∅⟩, none, "MESSAGE_CREATED", false⟩

/-- A workflow that moves the conversation to a stage. -/
def movesTo (stage : String) : Workflow where
  preGraph _ _ := .ok none
  runGraph _ _ := .ok ⟨⟨some .aiActive, none, some stage, none, none, [], none⟩, [], [], []⟩

/-- The worker executes one operation, and its workflow moves to the stage. -/
def stepTo (worker : Bool) (stage : String) : PairLabel :=
  .act worker ⟨⟨none, false⟩, movesTo stage, none⟩

/-- The worker leases an event for a minute. -/
def leaseEvent (worker : Bool) (id : Nat) : PairLabel := .spawn worker ⟨id, "gateway", 60⟩

/-- The first worker is slow; the second one processes both events of the chat; then the first
one commits. -/
def overtaken : List PairLabel :=
  [.env (.arrive 1 chatMessage), .env (.arrive 2 chatMessage),
    leaseEvent false 1, stepTo false "first", stepTo false "first",
    .env (.elapse (seconds 61)),
    leaseEvent true 1, stepTo true "first", stepTo true "first", stepTo true "first",
    leaseEvent true 2, stepTo true "second", stepTo true "second", stepTo true "second",
    stepTo false "first"]

/-- Even then the events of the chat are in order. -/
theorem overtaken_in_order : (queueAfter overtaken).InOrder :=
  events_in_order overtaken (by decide +kernel)

end AiCustomerService
