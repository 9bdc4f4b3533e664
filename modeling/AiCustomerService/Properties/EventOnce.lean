import AiCustomerService.Properties.EventOrder

/-!
# Events are committed once and in order

A commit and a release name the event by its id: neither looks at the lease or at `processed`.
They are safe for a worker that still has the lease; a worker that has outlived it repeats the
event of another one.
-/

namespace AiCustomerService

open Support Support.Machine

/-- The lease that the worker took has not expired. -/
def InboundQueue.Live (queue : InboundQueue) (row : InboundEventRow) : Prop :=
  row.lease.isExpired queue.database.now = false

instance (queue : InboundQueue) (row : InboundEventRow) : Decidable (queue.Live row) :=
  inferInstanceAs (Decidable (_ = _))

/-- A commit and a release are executed under a lease that has not expired. -/
def EndsLive (queue : InboundQueue) (op : GatewayOp) (_ : GatewayChoice) : Prop :=
  ∀ row ∈ op.ended?, queue.Live row

instance (queue : InboundQueue) (op : GatewayOp) (choice : GatewayChoice) :
    Decidable (EndsLive queue op choice) :=
  inferInstanceAs (Decidable (∀ row ∈ op.ended?, queue.Live row))

/-- A commit is for an event that is not processed yet, after all earlier events of its chat. -/
def CommitsInTurn (queue : InboundQueue) (op : GatewayOp) (_ : GatewayChoice) : Prop :=
  ∀ row ∈ op.committed?, queue.isProcessed row.id = false ∧
    ∀ earlier ∈ queue.events.rows, earlier.event.ignored = false →
      earlier.chatKey = row.chatKey → earlier.id < row.id → queue.isProcessed earlier.id = true

instance (queue : InboundQueue) (op : GatewayOp) (choice : GatewayChoice) :
    Decidable (CommitsInTurn queue op choice) :=
  inferInstanceAs (Decidable (∀ row ∈ op.committed?, queue.isProcessed row.id = false ∧
    ∀ earlier ∈ queue.events.rows, earlier.event.ignored = false →
      earlier.chatKey = row.chatKey → earlier.id < row.id → queue.isProcessed earlier.id = true))

/-! ## The invariant -/

/-- Of an event that is not processed, at most one worker has a lease that has not expired, and
the lease is the stored one. -/
structure LiveHolds {T : Type} (queue : InboundQueue) (holds : T → EventHold) : Prop where
  taken : ∀ t row, (holds t).row? = some row →
    ∀ now, row.lease.isFree now = row.lease.isExpired now
  stored : ∀ t row, (holds t).row? = some row →
    ∃ stored, queue.events.find? row.id = some stored ∧ stored.event = row.event
  leased : ∀ t row, (holds t).row? = some row → queue.Live row →
    queue.isProcessed row.id = false →
      ∀ stored, queue.events.find? row.id = some stored → stored.lease = row.lease
  waits : ∀ t row, holds t = .holds row → queue.Live row → queue.isProcessed row.id = false
  alone : ∀ t t' row row', (holds t).row? = some row → (holds t').row? = some row' →
    row'.id = row.id → queue.Live row → queue.Live row' → queue.isProcessed row.id = false →
      t' = t

namespace LiveHolds

variable {T : Type} {queue : InboundQueue} {holds : T → EventHold}

/-- Time passes and rows are added, and the leases that have not expired stay. -/
theorem keep (h : LiveHolds queue holds) (queue' : InboundQueue)
    (hnow : queue.database.now ≤ queue'.database.now)
    (hprocessed : ∀ id, queue'.isProcessed id = queue.isProcessed id)
    (hextends : queue.Extends queue')
    (hlease : ∀ id stored stored', queue.events.find? id = some stored →
      queue'.events.find? id = some stored' → queue'.Live stored → stored'.lease = stored.lease)
    {holds' : T → EventHold}
    (hrow : ∀ t row, (holds' t).row? = some row → (holds t).row? = some row)
    (hholds : ∀ t row, holds' t = .holds row → holds t = .holds row) :
    LiveHolds queue' holds' := by
  have hlive (row : InboundEventRow) (hlive : queue'.Live row) : queue.Live row := by
    unfold InboundQueue.Live at hlive ⊢
    by_contra hexpired
    rw [Bool.not_eq_false] at hexpired
    rw [Lease.isExpired_mono hnow hexpired] at hlive
    cases hlive
  refine ⟨?_, ?_, ?_, ?_, ?_⟩
  · intro t row hheld
    exact h.taken t row (hrow t row hheld)
  · intro t row hheld
    obtain ⟨before, hbefore, hevent⟩ := h.stored t row (hrow t row hheld)
    obtain ⟨after, hafter, hsame⟩ := hextends.stays _ _ hbefore
    exact ⟨after, hafter, hsame.trans hevent⟩
  · intro t row hheld hlive' hwaits after hafter
    rw [hprocessed] at hwaits
    obtain ⟨before, hbefore, -⟩ := h.stored t row (hrow t row hheld)
    have hlease' := h.leased t row (hrow t row hheld) (hlive row hlive') hwaits before hbefore
    have hlivestored : queue'.Live before := by
      unfold InboundQueue.Live at hlive' ⊢
      rw [hlease']
      exact hlive'
    rw [hlease _ _ _ hbefore hafter hlivestored, hlease']
  · intro t row hheld hlive'
    rw [hprocessed]
    exact h.waits t row (hholds t row hheld) (hlive row hlive')
  · intro t t' row row' hheld hheld' hid hrowlive hrowlive' hwaits
    rw [hprocessed] at hwaits
    exact h.alone t t' row row' (hrow t row hheld) (hrow t' row' hheld') hid (hlive row hrowlive)
      (hlive row' hrowlive') hwaits

/-- Other tables are written. -/
theorem write (h : LiveHolds queue holds) (queue' : InboundQueue)
    (hnow : queue.database.now ≤ queue'.database.now) (hevents : queue'.events = queue.events)
    (hprocessed : ∀ id, queue'.isProcessed id = queue.isProcessed id) {holds' : T → EventHold}
    (hrow : ∀ t row, (holds' t).row? = some row → (holds t).row? = some row)
    (hholds : ∀ t row, holds' t = .holds row → holds t = .holds row) :
    LiveHolds queue' holds' := by
  refine h.keep queue' hnow hprocessed
    (InboundQueue.extends_of_events hevents fun id hid => (hprocessed id).trans hid) ?_ hrow hholds
  intro id stored stored' hstored hstored' _
  rw [hevents, hstored] at hstored'
  cases hstored'
  rfl

/-- The expired leases are recovered. -/
theorem recover (h : LiveHolds queue holds) : LiveHolds queue.recoverExpiredLeases holds := by
  refine h.keep queue.recoverExpiredLeases (Nat.le_refl _) (fun _ => rfl)
    (queue.extends_setLease _ _) ?_
    (fun _ _ hrow => hrow) (fun _ _ hrow => hrow)
  intro id stored stored' hstored hstored' hlive
  unfold InboundQueue.recoverExpiredLeases at hstored'
  rw [InboundQueue.find?_setLease, hstored, Option.map_some] at hstored'
  have hexpired : stored.lease.isExpired queue.database.now = false := hlive
  rw [hexpired, Bool.and_false, if_neg Bool.false_ne_true] at hstored'
  cases hstored'
  rfl

/-- A row becomes visible. -/
theorem arrive (h : LiveHolds queue holds) {id : Nat} {event : StandardEvent}
    (hlast : ArrivesLast queue (.arrive id event)) : LiveHolds (queue.arrive id event) holds := by
  refine h.keep (queue.arrive id event) (Nat.le_refl _) (fun _ => rfl)
    (InboundQueue.extends_arrive hlast) ?_
    (fun _ _ hrow => hrow) (fun _ _ hrow => hrow)
  intro other stored stored' hstored hstored' _
  rw [InboundQueue.find?_arrive, hstored, Option.some_or] at hstored'
  cases hstored'
  rfl

variable {t : T} {row : InboundEventRow}

/-- Another worker that has a lease of an event that is not processed. -/
theorem ne_of_other (h : LiveHolds queue holds) (hheld : (holds t).row? = some row)
    (hlive : queue.Live row) {t' : T} {row' : InboundEventRow} (ht : t' ≠ t)
    (hheld' : (holds t').row? = some row') (hlive' : queue.Live row')
    (hwaits : queue.isProcessed row'.id = false) : row'.id ≠ row.id := by
  intro hid
  exact ht (h.alone t t' row row' hheld hheld' hid hlive hlive' (hid ▸ hwaits))

variable [DecidableEq T]

/-- A worker ends its lease: the row may be processed, and is no longer waiting in its hand. -/
theorem finish (h : LiveHolds queue holds) (hheld : (holds t).row? = some row)
    (hlive : queue.Live row) (queue' : InboundQueue)
    (hnow : queue'.database.now = queue.database.now)
    (hevents : queue'.events = (queue.releaseLease row.id).events)
    (hprocessed : ∀ id, id ≠ row.id → queue'.isProcessed id = queue.isProcessed id)
    (hmono : ∀ id, queue.isProcessed id = true → queue'.isProcessed id = true)
    {hold : EventHold} (hfree : hold = .free ∨
      hold = .tried row ∧ queue'.isProcessed row.id = true) :
    LiveHolds queue' (Function.update holds t hold) := by
  have hrow (t' : T) (row' : InboundEventRow)
      (hheld' : (Function.update holds t hold t').row? = some row') :
      (holds t').row? = some row' ∧ (t' = t → queue'.isProcessed row'.id = true) := by
    by_cases ht : t' = t
    · subst ht
      rw [Function.update_self] at hheld'
      rcases hfree with rfl | ⟨rfl, hdone⟩
      · cases hheld'
      · cases hheld'
        exact ⟨hheld, fun _ => hdone⟩
    · rw [Function.update_of_ne ht] at hheld'
      exact ⟨hheld', fun heq => absurd heq ht⟩
  have hlive' (other : InboundEventRow) (h : queue'.Live other) : queue.Live other := by
    unfold InboundQueue.Live at h ⊢
    rw [← hnow]
    exact h
  have hbefore (id : Nat) (h : queue'.isProcessed id = false) : queue.isProcessed id = false := by
    by_contra hdone
    rw [Bool.not_eq_false] at hdone
    rw [hmono id hdone] at h
    cases h
  refine ⟨?_, ?_, ?_, ?_, ?_⟩
  · intro t' row' hheld'
    exact h.taken t' row' (hrow t' row' hheld').1
  · intro t' row' hheld'
    obtain ⟨before, hfind, hevent⟩ := h.stored t' row' (hrow t' row' hheld').1
    obtain ⟨after, hafter, hsame⟩ :=
      (queue.extends_setLease (fun other => other.id = row.id) .none).stays _ _ hfind
    exact ⟨after, by rw [hevents]; exact hafter, hsame.trans hevent⟩
  · intro t' row' hheld' hrowlive hwaits after hafter
    have hwas := hrow t' row' hheld'
    have ht : t' ≠ t := fun heq => by
      rw [hwas.2 heq] at hwaits
      cases hwaits
    have hne := h.ne_of_other hheld hlive ht hwas.1 (hlive' row' hrowlive) (hbefore _ hwaits)
    rw [hevents, InboundQueue.releaseLease, InboundQueue.find?_setLease] at hafter
    obtain ⟨before, hfind, rfl⟩ := Option.map_eq_some_iff.mp hafter
    have hid : before.id = row'.id := Table.key_of_find? hfind
    rw [if_neg (by rw [hid]; simpa using hne)]
    exact h.leased t' row' hwas.1 (hlive' row' hrowlive) (hbefore _ hwaits) before hfind
  · intro t' row' hholds hrowlive
    have ht : t' ≠ t := by
      intro heq
      rw [heq, Function.update_self] at hholds
      rcases hfree with rfl | ⟨rfl, -⟩
      · cases hholds
      · cases hholds
    rw [Function.update_of_ne ht] at hholds
    have hwaits := h.waits t' row' hholds (hlive' row' hrowlive)
    have hne := h.ne_of_other hheld hlive ht (by rw [hholds]; rfl) (hlive' row' hrowlive) hwaits
    rw [hprocessed _ hne]
    exact hwaits
  · intro t₁ t₂ row₁ row₂ hheld₁ hheld₂ hid hlive₁ hlive₂ hwaits
    exact h.alone t₁ t₂ row₁ row₂ (hrow t₁ row₁ hheld₁).1 (hrow t₂ row₂ hheld₂).1 hid
      (hlive' row₁ hlive₁) (hlive' row₂ hlive₂) (hbefore _ hwaits)

/-- A free worker leases a row. -/
theorem lease (h : LiveHolds queue holds) {id : Nat} {workerId : String} {leaseSeconds : Nat}
    {queue' : InboundQueue}
    (hlease : queue.leaseRow? id workerId leaseSeconds = some (queue', row)) :
    LiveHolds queue' (Function.update holds t (.holds row)) := by
  obtain ⟨stored, hstored, hleasable, rfl, rfl⟩ := InboundQueue.leaseRow?_some hlease
  have hid : stored.id = id := Table.key_of_find? hstored
  unfold InboundQueue.isLeasable at hleasable
  rw [Bool.and_eq_true, Bool.and_eq_true] at hleasable
  obtain ⟨⟨hwaiting, hfree⟩, -⟩ := hleasable
  unfold InboundQueue.isWaiting at hwaiting
  rw [Bool.and_eq_true, Bool.not_eq_true'] at hwaiting
  -- A worker whose lease of the row has not expired would be in its way.
  have hnobody (t' : T) (row' : InboundEventRow) (hheld : (holds t').row? = some row')
      (hlive : queue.Live row') (hwaits : queue.isProcessed row'.id = false) :
      row'.id ≠ id := by
    intro hsame
    have hleased := h.leased t' row' hheld hlive hwaits stored (by rw [hsame]; exact hstored)
    rw [hleased, h.taken t' row' hheld] at hfree
    rw [show row'.lease.isExpired queue.database.now = false from hlive] at hfree
    cases hfree
  have hextends := queue.extends_setLease (fun other => other.id = id)
    (.taken workerId queue.database.now leaseSeconds)
  refine ⟨?_, ?_, ?_, ?_, ?_⟩
  · intro t' row' hheld now
    by_cases ht : t' = t
    · subst ht
      rw [Function.update_self] at hheld
      cases hheld
      exact isFree_taken _ _ _ _
    · rw [Function.update_of_ne ht] at hheld
      exact h.taken t' row' hheld now
  · intro t' row' hheld
    by_cases ht : t' = t
    · subst ht
      rw [Function.update_self] at hheld
      cases hheld
      exact hextends.stays stored.id stored (by rw [hid]; exact hstored)
    · rw [Function.update_of_ne ht] at hheld
      obtain ⟨before, hfind, hevent⟩ := h.stored t' row' hheld
      obtain ⟨after, hafter, hsame⟩ := hextends.stays _ _ hfind
      exact ⟨after, hafter, hsame.trans hevent⟩
  · intro t' row' hheld hlive hwaits after hafter
    rw [InboundQueue.find?_setLease] at hafter
    obtain ⟨before, hfind, rfl⟩ := Option.map_eq_some_iff.mp hafter
    have hbefore : before.id = row'.id := Table.key_of_find? hfind
    by_cases ht : t' = t
    · subst ht
      rw [Function.update_self] at hheld
      cases hheld
      rw [if_pos (by simpa using hbefore.trans hid)]
    · rw [Function.update_of_ne ht] at hheld
      have hne := hnobody t' row' hheld hlive hwaits
      rw [if_neg (by rw [hbefore]; simpa using hne)]
      exact h.leased t' row' hheld hlive hwaits before hfind
  · intro t' row' hheld hlive
    by_cases ht : t' = t
    · subst ht
      rw [Function.update_self] at hheld
      cases hheld
      exact hwaiting.1
    · rw [Function.update_of_ne ht] at hheld
      exact h.waits t' row' hheld hlive
  · intro t₁ t₂ row₁ row₂ hheld₁ hheld₂ hsame hlive₁ hlive₂ hwaits
    by_cases ht₁ : t₁ = t
    · by_cases ht₂ : t₂ = t
      · rw [ht₁, ht₂]
      · subst ht₁
        rw [Function.update_self] at hheld₁
        rw [Function.update_of_ne ht₂] at hheld₂
        cases hheld₁
        exact absurd (hsame.trans hid) (hnobody t₂ row₂ hheld₂ hlive₂ (by rw [hsame]; exact hwaits))
    · rw [Function.update_of_ne ht₁] at hheld₁
      by_cases ht₂ : t₂ = t
      · subst ht₂
        rw [Function.update_self] at hheld₂
        cases hheld₂
        exact absurd (hsame.symm.trans hid) (hnobody t₁ row₁ hheld₁ hlive₁ hwaits)
      · rw [Function.update_of_ne ht₂] at hheld₂
        exact h.alone t₁ t₂ row₁ row₂ hheld₁ hheld₂ hsame hlive₁ hlive₂ hwaits

end LiveHolds

/-! ## Steps -/

section Steps

variable {T : Type} [DecidableEq T] {queue : InboundQueue} {holds : T → EventHold}

/-- An operation that ends no lease. -/
theorem liveHolds_passes (h : LiveHolds queue holds) {t : T} {hold : EventHold}
    (hhold : hold = holds t) (queue' : InboundQueue)
    (hnow : queue.database.now ≤ queue'.database.now) (hevents : queue'.events = queue.events)
    (hprocessed : ∀ id, queue'.isProcessed id = queue.isProcessed id) :
    LiveHolds queue' (Function.update holds t hold) := by
  rw [hhold, Function.update_eq_self]
  exact h.write queue' hnow hevents hprocessed (fun _ _ hrow => hrow) fun _ _ hrow => hrow

/-- A commit that failed or a release leaves the worker without an uncommitted row. -/
theorem liveHolds_fails (h : LiveHolds queue holds) {t : T} {row : InboundEventRow}
    (hheld : (holds t).row? = some row) {hold : EventHold}
    (hhold : hold = .free ∨ hold = .tried row) :
    LiveHolds queue (Function.update holds t hold) := by
  apply h.write queue (Nat.le_refl _) rfl fun _ => rfl
  · intro t' row' hheld'
    by_cases ht : t' = t
    · subst ht
      rw [Function.update_self] at hheld'
      rcases hhold with rfl | rfl
      · cases hheld'
      · cases hheld'
        exact hheld
    · rw [Function.update_of_ne ht] at hheld'
      exact hheld'
  · intro t' row' hholds
    by_cases ht : t' = t
    · subst ht
      rw [Function.update_self] at hholds
      rcases hhold with rfl | rfl
      · cases hholds
      · cases hholds
    · rw [Function.update_of_ne ht] at hholds
      exact hholds

/-- An operation of a worker whose lease has not expired. -/
theorem liveHolds_handle (h : LiveHolds queue holds) {t : T} {op : GatewayOp}
    {choice : GatewayChoice} {hold : EventHold} (hlive : EndsLive queue op choice)
    (hδ : EventProtocol (holds t) op (handleGatewayOp op choice queue).1 hold) :
    LiveHolds (handleGatewayOp op choice queue).2 (Function.update holds t hold) := by
  cases op with
  | loadConversation event =>
      refine faulty_induction (motive := fun queue' => LiveHolds queue' _) ?_ ?_
      · exact liveHolds_passes h hδ queue (Nat.le_refl _) rfl fun _ => rfl
      · have hsame := InboundQueue.sameEvents_load queue choice.ctx event
        refine liveHolds_passes h hδ (queue.load choice.ctx event) (Nat.le_of_eq hsame.now.symm)
          rfl ?_
        intro id
        unfold InboundQueue.isProcessed
        rw [hsame.processed]
  | runWorkflow event conversation =>
      refine faulty_induction (motive := fun queue' => LiveHolds queue' _) ?_ ?_
      · exact liveHolds_passes h hδ queue (Nat.le_refl _) rfl fun _ => rfl
      · exact liveHolds_passes h hδ queue (Nat.le_refl _) rfl fun _ => rfl
  | processEvent row customerMessage output =>
      obtain ⟨hholds, hhold⟩ := hδ
      have hheld : (holds t).row? = some row := by rw [hholds]; rfl
      have hnext : hold = .free ∨ hold = .tried row := by
        rw [hhold]
        unfold triedHold
        split
        · exact Or.inl rfl
        · exact Or.inr rfl
      refine faulty_induction (motive := fun queue' => LiveHolds queue' _) ?_ ?_
      · exact liveHolds_fails h hheld hnext
      · cases hcommit : queue.processEvent choice.ctx row.id row.event.toInboundEvent
            customerMessage output with
        | error e => exact liveHolds_fails h hheld hnext
        | ok done =>
            obtain ⟨hnow, hevents, hprocessed⟩ := InboundQueue.processEvent_ok hcommit
            refine h.finish hheld (hlive row rfl) done.1 hnow hevents ?_ ?_ ?_
            · intro id hne
              rw [hprocessed, decide_eq_false hne, Bool.false_or]
            · intro id hdone
              rw [hprocessed, hdone, Bool.or_true]
            · refine hnext.imp_right fun htried => ⟨htried, ?_⟩
              rw [hprocessed, decide_eq_true rfl, Bool.true_or]
  | releaseLease row =>
      obtain ⟨hheld, hfree⟩ := hδ
      refine faulty_induction (motive := fun queue' => LiveHolds queue' _) ?_ ?_
      · exact liveHolds_fails h hheld (Or.inl hfree)
      · exact h.finish hheld (hlive row rfl) (queue.releaseLease row.id) rfl rfl (fun _ _ => rfl)
          (fun _ hdone => hdone) (Or.inl hfree)

omit [DecidableEq T] in
theorem liveHolds_after (h : LiveHolds queue holds) {e : QueueEvent}
    (hlast : ArrivesLast queue e) : LiveHolds (queue.after e) holds := by
  cases e with
  | elapse microseconds =>
      exact h.write (queue.after (.elapse microseconds)) (Nat.le_add_right _ _) rfl (fun _ => rfl)
        (fun _ _ hrow => hrow) fun _ _ hrow => hrow
  | arrive id event => exact h.arrive hlast
  | recoverExpiredLeases => exact h.recover
  | write db =>
      exact h.write (queue.after (.write db)) (Nat.le_refl _) rfl (fun _ => rfl)
        (fun _ _ hrow => hrow) fun _ _ hrow => hrow

/-- Leases are ended while they last, and new events come last. -/
def KeepsTurn {rt : Runtime} (c : Config (gatewayMachine rt) T)
    (l : Label (gatewayMachine rt) T) : Prop :=
  Executes EndsLive c l ∧ EventsArriveLast c l

instance decidableGatewaySteps {rt : Runtime}
    (cond : InboundQueue → GatewayOp → GatewayChoice → Prop)
    [instCond : ∀ queue op choice, Decidable (cond queue op choice)]
    (c : Config (gatewayMachine rt) T) (l : Label (gatewayMachine rt) T) :
    Decidable (Executes (M := gatewayMachine rt) cond c l) :=
  @Machine.decidableExecutes _ _ _ cond instCond c l

instance decidableKeepsTurn {rt : Runtime} (c : Config (gatewayMachine rt) T)
    (l : Label (gatewayMachine rt) T) : Decidable (KeepsTurn c l) :=
  inferInstanceAs (Decidable (Executes (M := gatewayMachine rt) EndsLive c l ∧
    EventsArriveLast c l))

theorem isGuardedInvariant_liveHolds (rt : Runtime) :
    IsGuardedInvariant (M := gatewayMachine rt) (T := T) EventProtocol (· = .free) KeepsTurn
      fun queue holds => QueueOrder queue holds ∧ LiveHolds queue holds where
  act hworld hhead hok hδ :=
    ⟨queueOrder_handle hworld.1 hδ, liveHolds_handle hworld.2 (hok.1 _ hhead) hδ⟩
  env _ hworld hok := ⟨queueOrder_after hworld.1 hok.2, liveHolds_after hworld.2 hok.2⟩
  spawn := by
    intro c holds t job prog w' hworld _ _ _ hstart
    obtain ⟨⟨leased, row⟩, hlease, hprog⟩ := Option.map_eq_some_iff.mp hstart
    cases hprog
    exact ⟨.holds row, follows_processOneRow rt row, hworld.1.lease hlease t,
      hworld.2.lease hlease⟩

omit [DecidableEq T] in
/-- The commit of a worker that holds the row under its lease. -/
theorem commitsInTurn_of_holds (horder : QueueOrder queue holds) (hlives : LiveHolds queue holds)
    {t : T} {op : GatewayOp} {choice : GatewayChoice} {r : Except PyError op.Res}
    {hold : EventHold} (hδ : EventProtocol (holds t) op r hold)
    (hlive : EndsLive queue op choice) : CommitsInTurn queue op choice := by
  intro row hcommit
  cases op with
  | loadConversation event => cases hcommit
  | runWorkflow event conversation => cases hcommit
  | releaseLease row => cases hcommit
  | processEvent committed customerMessage output =>
      obtain rfl : committed = row := Option.some.inj hcommit
      obtain ⟨hholds, -⟩ := hδ
      have hheld : (holds t).row? = some committed := by rw [hholds]; rfl
      refine ⟨hlives.waits t committed hholds (hlive committed rfl), ?_⟩
      obtain ⟨stored, hstored, hevent⟩ := hlives.stored t committed hheld
      obtain ⟨ready, hready, -, hearlier⟩ := horder.held t committed hheld
      rw [hstored] at hready
      cases hready
      have hid : stored.id = committed.id := Table.key_of_find? hstored
      rw [InboundQueue.chatKey_congr hid hevent, hid] at hearlier
      exact hearlier

end Steps

/-! ## Runs -/

/-- In a run in which every commit and every release comes before the lease has expired, each
commit is for an event that is not processed yet and comes after those of all earlier events of
its chat. -/
theorem commits_in_turn {rt : Runtime} {T : Type} [DecidableEq T]
    (labels : List (Label (gatewayMachine rt) T))
    (h : AllSteps KeepsTurn (gatewayStart rt T) labels) :
    AllSteps (Executes CommitsInTurn) (gatewayStart rt T) labels := by
  rw [allSteps_iff_forall]
  rintro first l rest rfl
  obtain ⟨hfirst, hl, -⟩ := allSteps_append.mp h
  have hstart : Tracks EventProtocol (· = .free)
      (fun queue holds => QueueOrder queue holds ∧ LiveHolds queue holds)
      (gatewayStart rt T) := by
    refine ⟨fun _ => .free, ⟨queueOrder_start T, ?_⟩, fun _ => rfl⟩
    constructor
    · intro t row hrow
      cases hrow
    · intro t row hrow
      cases hrow
    · intro t row hrow
      cases hrow
    · intro t row hrow
      cases hrow
    · intro t t' row row' hrow
      cases hrow
  obtain ⟨holds, ⟨horder, hlives⟩, hthreads⟩ :=
    hstart.guardedRun (isGuardedInvariant_liveHolds rt) hfirst
  cases l with
  | env e => trivial
  | spawn t job => trivial
  | act t choice =>
      intro op hop
      cases hprog : (run (gatewayStart rt T) first).threads t with
      | ret a => simp [hprog, Prog.head?] at hop
      | raise e => simp [hprog, Prog.head?] at hop
      | call op' k =>
          have hop' : op' = op := by simpa [hprog, Prog.head?] using hop
          subst hop'
          have hcall : Follows EventProtocol (· = .free) (holds t) (.call op' k) :=
            hprog ▸ hthreads t
          obtain ⟨hold, hδ, -⟩ := hcall
            (handleGatewayOp op' choice (run (gatewayStart rt T) first).world).1
          exact commitsInTurn_of_holds horder hlives hδ (hl.1 op' (by rw [hprog]; rfl))

/-! ## A worker that has outlived its lease -/

/-- The stage of the conversation of the chat. -/
def InboundQueue.chatStage? (queue : InboundQueue) : Option (Option String) :=
  (queue.database.conversation? "livechat:chat:thread").map ConversationRow.workflowStage

/-- The first event is committed again and overwrites what the second one has written. -/
theorem first_event_overwrites_second :
    AllSteps EventsArriveLast (gatewayStart .plain Bool) overtaken ∧
      ¬AllSteps (Executes CommitsInTurn) (gatewayStart .plain Bool) overtaken ∧
      (queueAfter overtaken.dropLast).chatStage? = some (some "second") ∧
      (queueAfter overtaken).chatStage? = some (some "first") := by
  decide +kernel

/-- Without the slow worker both events are committed in turn. -/
theorem both_events_in_turn :
    AllSteps (Executes CommitsInTurn) (gatewayStart .plain Bool)
      (overtaken.take 2 ++ (overtaken.drop 6).dropLast) :=
  commits_in_turn _ (by decide +kernel)

end AiCustomerService
