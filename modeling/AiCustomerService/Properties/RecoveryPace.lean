import AiCustomerService.Workers.LeaseRecovery

/-!
# Lease recovery is paced, and its pace does not matter

The recoveries of a queue keep their interval, and what the workers lease and commit is the same
however often leases are recovered.
-/

namespace AiCustomerService

open Support

/-! ## The pace -/

/-- The recoveries as a throttled action. -/
def RecoveryContext.throttle (context : RecoveryContext) : Throttle String :=
  ⟨context.leaseRecoveredAt, context.attempts⟩

theorem any_sub_lt_iff (interval now : Nat) (last : Option Nat) :
    (last.any fun (t : Nat) => decide ((now : Int) - t < (interval : Int) * 1000000)) =
      !Throttle.due (interval * 1000000) last now := by
  cases last with
  | none => rfl
  | some t =>
      rw [Option.any_some, Throttle.due_some, ← decide_not, decide_eq_decide]
      omega

/-- With an interval, `maybe_recover_worker_leases` throttles the recoveries. -/
theorem throttle_maybeRecover {interval : Nat} (hinterval : 0 < interval)
    (context : RecoveryContext) (tick : RecoveryTick) :
    (maybeRecoverWorkerLeases interval context tick).1.throttle =
      context.throttle.request (interval * 1000000) (tick.queueName, tick.now) := by
  unfold maybeRecoverWorkerLeases Throttle.request
  have hpositive : ¬(interval : Int) ≤ 0 := by omega
  dsimp only [RecoveryContext.throttle]
  rw [if_neg hpositive, any_sub_lt_iff]
  by_cases hdue : Throttle.due (interval * 1000000) (context.leaseRecoveredAt tick.queueName)
      tick.now = true
  · simp only [hdue, Bool.not_true, Bool.false_eq_true, if_false, if_true]
    cases tick.recovered with
    | ok recovered => rfl
    | error e => rfl
  · rw [Bool.not_eq_true] at hdue
    simp only [hdue, Bool.not_false, Bool.false_eq_true, if_false, if_true]

theorem throttle_recoveryRun {interval : Nat} (hinterval : 0 < interval)
    (ticks : List RecoveryTick) :
    (recoveryRun interval ticks).throttle =
      Throttle.run (interval * 1000000) (ticks.map fun tick => (tick.queueName, tick.now)) := by
  induction ticks using List.reverseRecOn with
  | nil => rfl
  | append_singleton ticks tick ih =>
      unfold recoveryRun at ih ⊢
      rw [List.foldl_append, List.foldl_cons, List.foldl_nil, throttle_maybeRecover hinterval, ih,
        List.map_append]
      exact (runSteps_concat _ _ _ _).symm

/-- Whatever the recoveries return or raise, two of one queue are at least the interval apart, and
no tick of a queue comes as late as an interval after the last recovery of that queue. -/
theorem lease_recovery_paced (interval : Nat) (hinterval : 0 < interval)
    (ticks : List RecoveryTick) (hclock : ticks.Pairwise fun a b => a.now ≤ b.now) :
    ((recoveryRun interval ticks).attempts.Pairwise fun a b =>
      a.1 = b.1 → a.2 + seconds interval ≤ b.2) ∧
      ∀ tick ∈ ticks, ∃ t, (tick.queueName, t) ∈ (recoveryRun interval ticks).attempts ∧
        t ≤ tick.now ∧ tick.now < t + seconds interval := by
  have hrun := throttle_recoveryRun hinterval ticks
  have hattempts : (recoveryRun interval ticks).attempts =
      (Throttle.run (interval * 1000000)
        (ticks.map fun tick => (tick.queueName, tick.now))).taken :=
    congrArg Throttle.taken hrun
  rw [hattempts]
  refine ⟨(Throttle.paced_run _ _).apart, fun tick htick => ?_⟩
  exact Throttle.exists_taken (by omega) (List.pairwise_map.mpr hclock)
    (List.mem_map_of_mem htick)

/-- Two ticks of one queue within a minute. -/
def minuteTicks : List RecoveryTick :=
  [⟨"inbound_events", 0, .ok 2⟩, ⟨"inbound_events", 30000000, .ok 0⟩]

theorem lease_recovery_paced_minute :
    ∃ t, ("inbound_events", t) ∈ (recoveryRun (60 : Nat) minuteTicks).attempts ∧ t ≤ 30000000 ∧
      30000000 < t + seconds 60 :=
  (lease_recovery_paced 60 (by decide) minuteTicks (by simp [minuteTicks])).2
    ⟨"inbound_events", 30000000, .ok 0⟩ (by simp [minuteTicks])

/-! ## The queue with its live leases -/

/-- A row whose lease does not count. -/
def InboundEventRow.settle (now : Nat) (row : InboundEventRow) : InboundEventRow :=
  if row.lease.isFree now then { row with lease := .none } else row

namespace InboundEventRow

theorem id_settle (now : Nat) (row : InboundEventRow) : (row.settle now).id = row.id := by
  unfold settle
  split <;> rfl

theorem event_settle (now : Nat) (row : InboundEventRow) : (row.settle now).event = row.event := by
  unfold settle
  split <;> rfl

theorem isFree_settle (now : Nat) (row : InboundEventRow) :
    (row.settle now).lease.isFree now = row.lease.isFree now := by
  unfold settle
  split
  next hfree => exact hfree.symm
  · rfl

/-- A lease that is free stays free. -/
theorem isFree_mono {lease : Lease} {now later : Nat} (hle : now ≤ later)
    (h : lease.isFree now = true) : lease.isFree later = true := by
  unfold Lease.isFree at h ⊢
  cases hlocked : lease.lockedBy.isNone with
  | true => rfl
  | false =>
      rw [hlocked, Bool.false_or] at h
      rw [Bool.false_or]
      cases hexpiry : lease.leaseExpiresAt with
      | none => rfl
      | some expiry =>
          rw [hexpiry] at h
          have hbefore : expiry < now := by simpa using h
          simpa using hbefore.trans_le hle

theorem settle_settle {now later : Nat} (hle : now ≤ later) (row : InboundEventRow) :
    (row.settle now).settle later = row.settle later := by
  by_cases hfree : row.lease.isFree now = true
  · have hnow : row.settle now = { row with lease := .none } := if_pos hfree
    have hlater : row.settle later = { row with lease := .none } :=
      if_pos (isFree_mono hle hfree)
    rw [hnow, hlater]
    exact if_pos rfl
  · rw [show row.settle now = row from if_neg hfree]

theorem withLease_settle (now : Nat) (row : InboundEventRow) (lease : Lease) :
    ({ row.settle now with lease } : InboundEventRow) = { row with lease } := by
  unfold settle
  split <;> rfl

end InboundEventRow

namespace InboundQueue

/-- The rows of the queue with the leases that count. -/
def settledRows (queue : InboundQueue) : List InboundEventRow :=
  queue.events.rows.map (InboundEventRow.settle queue.database.now)

/-- The tables, and the rows with the leases that count. -/
def live (queue : InboundQueue) : Database × List InboundEventRow :=
  (queue.database, queue.settledRows)

variable {queue queue' : InboundQueue}

theorem live_eq_iff : queue.live = queue'.live ↔
    queue.database = queue'.database ∧ queue.settledRows = queue'.settledRows :=
  Prod.mk.injEq _ _ _ _ ▸ Iff.rfl

/-- A lease that is set on rows by their ids, seen at a later time. -/
theorem map_settle_setLease {select : InboundEventRow → Bool} {lease : Lease} {now later : Nat}
    (hle : now ≤ later) (hselect : ∀ row : InboundEventRow, select (row.settle now) = select row) :
    (queue.setLease select lease).events.rows.map (InboundEventRow.settle later) =
      (queue.events.rows.map (InboundEventRow.settle now)).map fun row =>
        (if select row then { row with lease } else row : InboundEventRow).settle later := by
  unfold setLease
  rw [Table.rows_updateWhere, List.map_map, List.map_map]
  refine List.map_congr_left fun row _ => ?_
  simp only [Function.comp]
  rw [hselect]
  split
  · rw [InboundEventRow.withLease_settle]
  · rw [InboundEventRow.settle_settle hle]

/-- Which rows can be leased is seen from the live leases. -/
theorem isLeasable_eq_of_live (hlive : queue.live = queue'.live) (row : InboundEventRow) :
    queue.isLeasable row = queue'.isLeasable row := by
  obtain ⟨hdb, hrows⟩ := live_eq_iff.mp hlive
  have hwaiting (other : InboundEventRow) : queue.isWaiting other = queue'.isWaiting other := by
    unfold isWaiting isProcessed
    rw [hdb]
  have hahead (q : InboundQueue) (now : Nat) (earlier : InboundEventRow) :
      q.isAhead row (earlier.settle now) = q.isAhead row earlier := by
    unfold isAhead isWaiting InboundEventRow.chatKey
    rw [InboundEventRow.id_settle, InboundEventRow.event_settle]
  have hany (q : InboundQueue) : q.events.rows.any (q.isAhead row) =
      q.settledRows.any (q.isAhead row) := by
    unfold settledRows
    rw [List.any_map]
    congr 1
    funext earlier
    exact (hahead q _ earlier).symm
  unfold isLeasable
  rw [hany queue, hany queue', hrows, hwaiting, hdb]
  congr 3
  funext earlier
  unfold isAhead
  rw [hwaiting]

theorem isLeasable_settle (now : Nat) (hnow : now = queue.database.now) (row : InboundEventRow) :
    queue.isLeasable (row.settle now) = queue.isLeasable row := by
  subst hnow
  have hahead : queue.isAhead (row.settle queue.database.now) = queue.isAhead row := by
    funext earlier
    unfold isAhead InboundEventRow.chatKey
    rw [InboundEventRow.id_settle, InboundEventRow.event_settle]
  unfold isLeasable
  rw [hahead, InboundEventRow.isFree_settle]
  unfold isWaiting
  rw [InboundEventRow.id_settle, InboundEventRow.event_settle]

/-- The rows that a batch leases, before they are leased. -/
def batch (queue : InboundQueue) (locked : Nat → Bool) (limit : Nat) : List InboundEventRow :=
  ((queue.events.rows.filter fun row => queue.isLeasable row && !locked row.id).mergeSort
    fun a b => a.id ≤ b.id).take limit

/-- The batch with the leases that count. -/
theorem map_settle_batch (locked : Nat → Bool) (limit : Nat) :
    (queue.batch locked limit).map (InboundEventRow.settle queue.database.now) =
      ((queue.settledRows.filter fun row => queue.isLeasable row && !locked row.id).mergeSort
        fun a b => a.id ≤ b.id).take limit := by
  unfold batch settledRows
  rw [List.map_take, List.map_mergeSort (s := fun a b => decide (a.id ≤ b.id)), List.filter_map]
  · congr 3
    refine List.filter_congr fun row _ => ?_
    simp only [Function.comp]
    rw [isLeasable_settle _ rfl, InboundEventRow.id_settle]
  · intro a _ b _
    rw [InboundEventRow.id_settle, InboundEventRow.id_settle]

theorem map_settle_batch_eq (hlive : queue.live = queue'.live) (locked : Nat → Bool)
    (limit : Nat) :
    (queue.batch locked limit).map (InboundEventRow.settle queue.database.now) =
      (queue'.batch locked limit).map (InboundEventRow.settle queue'.database.now) := by
  rw [map_settle_batch, map_settle_batch, (live_eq_iff.mp hlive).2]
  congr 3
  funext row
  rw [isLeasable_eq_of_live hlive]

theorem leaseUnprocessed_eq_batch (queue : InboundQueue) (locked : Nat → Bool) (limit : Nat)
    (workerId : String) (leaseSeconds : Nat) :
    queue.leaseUnprocessed locked limit workerId leaseSeconds =
      (queue.setLease (fun row => (queue.batch locked limit).any fun other => other.id = row.id)
          (.taken workerId queue.database.now leaseSeconds),
        (queue.batch locked limit).map fun row =>
          { row with lease := .taken workerId queue.database.now leaseSeconds }) := rfl

theorem any_id_map_settle (rows : List InboundEventRow) (now id : Nat) :
    ((rows.map (InboundEventRow.settle now)).any fun other => decide (other.id = id)) =
      rows.any fun other => decide (other.id = id) := by
  rw [List.any_map]
  congr 1
  funext other
  simp only [Function.comp, InboundEventRow.id_settle]

/-- Queues with the same live leases after the same lease was set on rows by their ids. -/
theorem live_setLease (hlive : queue.live = queue'.live) {select select' : InboundEventRow → Bool}
    (hselect : ∀ row : InboundEventRow, select (row.settle queue.database.now) = select row)
    (hsame : ∀ row, select row = select' row) (lease : Lease) {db db' : Database} (hdb : db = db')
    (hle : queue.database.now ≤ db.now) :
    InboundQueue.live { queue.setLease select lease with database := db } =
      InboundQueue.live { queue'.setLease select' lease with database := db' } := by
  subst hdb
  obtain rfl : select = select' := funext hsame
  obtain ⟨hdatabase, hrows⟩ := live_eq_iff.mp hlive
  refine live_eq_iff.mpr ⟨rfl, ?_⟩
  unfold settledRows at hrows ⊢
  have hfirst := @map_settle_setLease queue select lease _ _ hle hselect
  have hselect' : ∀ row : InboundEventRow,
      select (row.settle queue'.database.now) = select row := by
    rw [← hdatabase]
    exact hselect
  have hsecond := @map_settle_setLease queue' select lease _ _ (hdatabase ▸ hle) hselect'
  dsimp only
  rw [hfirst, hsecond, hrows]

theorem live_with (hlive : queue.live = queue'.live) {db db' : Database} (hdb : db = db')
    (hle : queue.database.now ≤ db.now) :
    InboundQueue.live { queue with database := db } =
      InboundQueue.live { queue' with database := db' } := by
  have hnone (q : InboundQueue) : q.setLease (fun _ => false) .none = q := by
    unfold setLease Table.updateWhere
    simp
  have hset := @live_setLease queue queue' hlive (fun _ => false) (fun _ => false)
    (fun _ => rfl) (fun _ => rfl) .none db db' hdb hle
  rwa [hnone, hnone] at hset

/-- A recovery leaves the live leases as they are. -/
theorem live_recoverExpiredLeases (queue : InboundQueue) :
    queue.recoverExpiredLeases.live = queue.live := by
  refine live_eq_iff.mpr ⟨rfl, ?_⟩
  unfold settledRows recoverExpiredLeases setLease
  rw [Table.rows_updateWhere, List.map_map]
  refine List.map_congr_left fun row _ => ?_
  simp only [Function.comp]
  split
  next hexpired =>
    have hfree : row.lease.isFree queue.database.now = true := by
      have hlease := (Bool.and_eq_true_iff.mp hexpired).2
      unfold Lease.isExpired at hlease
      unfold Lease.isFree
      cases hexpiry : row.lease.leaseExpiresAt with
      | none => simp [hexpiry] at hlease
      | some expiry =>
          rw [hexpiry] at hlease
          dsimp only at hlease ⊢
          rw [hlease, Bool.or_true]
    unfold InboundEventRow.settle
    rw [if_pos hfree]
    exact if_pos rfl
  · rfl

/-- An event that arrives has no lease. -/
theorem live_arrive (hlive : queue.live = queue'.live) (id : Nat) (event : StandardEvent) :
    (queue.arrive id event).live = (queue'.arrive id event).live := by
  obtain ⟨hdb, hrows⟩ := live_eq_iff.mp hlive
  have hids (q : InboundQueue) : q.events.rows.map InboundEventRow.id =
      q.settledRows.map InboundEventRow.id := by
    unfold settledRows
    rw [List.map_map]
    exact List.map_congr_left fun row _ => (InboundEventRow.id_settle _ row).symm
  have hkey : queue.events.hasKey id ↔ queue'.events.hasKey id := by
    unfold Table.hasKey
    rw [hids queue, hids queue', hrows]
  refine live_eq_iff.mpr ⟨hdb, ?_⟩
  unfold settledRows at hrows ⊢
  unfold arrive Table.insertIdempotent
  by_cases htaken : queue.events.hasKey id
  · rw [dif_pos htaken, dif_pos (hkey.mp htaken)]
    exact hrows
  · rw [dif_neg htaken, dif_neg (fun h => htaken (hkey.mpr h))]
    dsimp only
    rw [List.map_append, List.map_append, hrows, ← hdb]

theorem live_after (hlive : queue.live = queue'.live) (e : QueueEvent) :
    (queue.after e).live = (queue'.after e).live := by
  have hdb := (live_eq_iff.mp hlive).1
  cases e with
  | elapse microseconds =>
      refine live_with hlive ?_ (Nat.le_add_right _ _)
      rw [hdb]
  | arrive id event => exact live_arrive hlive id event
  | recoverExpiredLeases =>
      have hrecovered := hlive.trans (live_recoverExpiredLeases queue').symm
      exact (live_recoverExpiredLeases queue).trans hrecovered
  | write db =>
      refine live_with hlive ?_ (Nat.le_refl _)
      rw [hdb]

/-- A commit depends on the tables, and releases the lease of its event. -/
theorem live_processEvent (hlive : queue.live = queue'.live) (ctx : TxContext) (id : Nat)
    (event : InboundEvent) (customer : Option ConversationMessage)
    (output : Option GatewayOutput) :
    (queue.afterCommit (queue.processEvent ctx id event customer output)).1 =
        (queue'.afterCommit (queue'.processEvent ctx id event customer output)).1 ∧
      (queue.afterCommit (queue.processEvent ctx id event customer output)).2.live =
        (queue'.afterCommit (queue'.processEvent ctx id event customer output)).2.live := by
  have hdb := (live_eq_iff.mp hlive).1
  unfold processEvent
  rw [← hdb]
  generalize hcommit : processEventTransactionally queue.database ctx id event customer
    ((output.map GatewayOutput.outboundMessages).getD [])
    ((output.map GatewayOutput.externalCommands).getD [])
    (output.map GatewayOutput.graphState)
    ((output.map GatewayOutput.assistantMessages).getD []) = committed
  cases committed with
  | error e => exact ⟨rfl, hlive⟩
  | ok done =>
      obtain ⟨db, result⟩ := done
      have hnow := (processEventTransactionally_events hcommit).1
      refine ⟨rfl, ?_⟩
      refine live_setLease hlive ?_ (fun _ => rfl) .none rfl hnow.ge
      intro row
      rw [InboundEventRow.id_settle]

/-- What an action answers, and the live leases after it, depend on the live leases. -/
theorem decides_live : Decides InboundQueue.act InboundQueue.live := by
  intro queue queue' action hlive
  cases action with
  | beside e => exact ⟨rfl, live_after hlive e⟩
  | releaseLease id =>
      refine ⟨rfl, ?_⟩
      refine live_setLease hlive ?_ (fun _ => rfl) .none (live_eq_iff.mp hlive).1 (Nat.le_refl _)
      intro row
      rw [InboundEventRow.id_settle]
  | leaseUnprocessed locked limit workerId leaseSeconds =>
      have hdb := (live_eq_iff.mp hlive).1
      have hbatch := map_settle_batch_eq hlive locked limit
      have hrows (q : InboundQueue) (lease : Lease) :
          ((q.batch locked limit).map fun row => ({ row with lease } : InboundEventRow)) =
            ((q.batch locked limit).map (InboundEventRow.settle q.database.now)).map fun row =>
              { row with lease } := by
        rw [List.map_map]
        exact List.map_congr_left fun row _ => (InboundEventRow.withLease_settle _ row lease).symm
      unfold InboundQueue.act
      simp only [leaseUnprocessed_eq_batch]
      constructor
      · rw [hrows queue, hrows queue', hbatch, hdb]
      · rw [← hdb]
        refine live_setLease hlive ?_ ?_ _ hdb (Nat.le_refl _)
        · intro row
          rw [InboundEventRow.id_settle]
        · intro row
          rw [← any_id_map_settle _ queue.database.now, hbatch, any_id_map_settle]
  | processEvent ctx id event customer output =>
      obtain ⟨hanswer, hafter⟩ := live_processEvent hlive ctx id event customer output
      exact ⟨congrArg (fun answer => some (QueueAnswer.committed answer)) hanswer, hafter⟩

/-- In any order of arrivals, batches, releases, commits and the passing of time, the batches that
are leased and the results of the commits are the same with and without the recoveries of expired
leases. -/
theorem recovery_is_invisible (queue : InboundQueue) (actions : List QueueAction) :
    observe InboundQueue.act queue (actions.filter fun action => !action.isRecovery) =
      observe InboundQueue.act queue actions := by
  refine @Decides.observe_filter _ _ _ _ _ _ decides_live QueueAction.isRecovery ?_ queue actions
  intro action hrecovery s
  cases action with
  | beside e =>
      cases e with
      | recoverExpiredLeases => exact ⟨rfl, live_recoverExpiredLeases s⟩
      | _ => cases hrecovery
  | _ => cases hrecovery

end InboundQueue

end AiCustomerService
