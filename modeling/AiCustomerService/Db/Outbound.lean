import AiCustomerService.Db.Queues
import Mathlib.Data.List.Sort

/-!
# The outbound queue

The leases and the final statements of `OutboundMessageRepository`.  The statements that
finish a row are keyed by its id alone.
-/

namespace AiCustomerService

open Support

/-- The periods of the outbound queue, in seconds. -/
structure OutboundPeriods where
  initialDelay : Nat
  retryBase : Nat
  retryMax : Nat

/-- `COALESCE(conversation_id, CONCAT('outbound:', id))`. -/
def OutboundRow.leaseConversation (row : OutboundRow) : String :=
  row.conversationId.getD ("outbound:" ++ toString row.id)

/-- The row may be leased: it is open, old enough and not locked. -/
def OutboundRow.isLeasable (row : OutboundRow) (periods : OutboundPeriods) (now : Nat) : Bool :=
  row.status.isOpen &&
    (decide (row.status ≠ .pending) ||
      decide (row.createdAt + seconds periods.initialDelay ≤ now)) &&
    row.lease.isFree now

/-- The row is open and some worker holds it. -/
def OutboundRow.isHeld (row : OutboundRow) (now : Nat) : Bool :=
  row.status.isOpen && row.lease.lockedBy.isSome &&
    match row.lease.leaseExpiresAt with
    | .none => false
    | some expiry => decide (now ≤ expiry)

/-- The conversations whose first open row may be leased and none of whose rows is held. -/
def Database.leasableConversations (db : Database) (periods : OutboundPeriods) (limit : Nat) :
    List String :=
  let rows := db.outboundMessages.rows
  let leading := rows.filter fun row =>
    row.isLeasable periods db.now &&
      !rows.any fun other =>
        decide (other.leaseConversation = row.leaseConversation) &&
          ((other.status.isOpen && decide (other.id < row.id)) || other.isHeld db.now)
  ((leading.insertionSort fun a b => a.id ≤ b.id).take limit).map OutboundRow.leaseConversation

/-- `ORDER BY COALESCE(block_index, 2147483647), id`. -/
def OutboundRow.before (a b : OutboundRow) : Bool :=
  let block (row : OutboundRow) := row.blockIndex.getD 2147483647
  decide (block a < block b) || (decide (block a = block b) && decide (a.id ≤ b.id))

/-- The ids that are leased in one conversation. -/
def Database.leasableIds (db : Database) (periods : OutboundPeriods) (maxPerConversation : Nat)
    (conversation : String) : List Nat :=
  (((db.outboundMessages.rows.filter fun row =>
    row.isLeasable periods db.now && decide (row.leaseConversation = conversation)).insertionSort
      fun a b => a.before b = true).take maxPerConversation).map OutboundRow.id

/-- Rewrite the outbound rows that a statement selects. -/
def Database.updateOutbound (db : Database) (select : OutboundRow → Bool)
    (assign : OutboundRow → OutboundRow) (hkey : ∀ row, (assign row).dedupKey = row.dedupKey) :
    Database :=
  { db with outboundMessages := db.outboundMessages.updateWhere select assign hkey }

/-- A leased row, with the columns that are joined from its conversation. -/
structure LeasedMessage where
  row : OutboundRow
  conversationStatus : Option ConversationStatus
  conversationActiveWorkflow : Option String

/-- The rows of a group as they are fetched after the update. -/
def Database.fetchGroup (db : Database) (ids : List Nat) : List LeasedMessage :=
  ((db.outboundMessages.rows.filter fun row => row.id ∈ ids).insertionSort
    fun a b => a.before b = true).map fun row =>
      let conversation := row.conversationId.bind db.conversation?
      ⟨row, conversation.map ConversationRow.status,
        conversation.bind ConversationRow.activeWorkflow⟩

/-- The loop of `_lease_pending_groups_on_connection` over the conversations. -/
def leaseGroups (periods : OutboundPeriods) (workerId : String)
    (leaseSeconds maxPerConversation : Nat) :
    Database → List String → Database × List (List LeasedMessage)
  | db, [] => (db, [])
  | db, conversation :: rest =>
      let ids := db.leasableIds periods maxPerConversation conversation
      if ids.isEmpty then leaseGroups periods workerId leaseSeconds maxPerConversation db rest
      else
        let leased := db.updateOutbound (fun row => row.id ∈ ids)
          (fun row => { row with lease := .taken workerId db.now leaseSeconds }) fun _ => rfl
        let others := leaseGroups periods workerId leaseSeconds maxPerConversation leased rest
        (others.1, leased.fetchGroup ids :: others.2)

/-- `lease_pending_groups`. -/
def leasePendingGroups (periods : OutboundPeriods) (db : Database) (limit : Nat)
    (workerId : String) (leaseSeconds maxPerConversation : Nat) :
    Database × List (List LeasedMessage) :=
  leaseGroups periods workerId leaseSeconds maxPerConversation db
    (db.leasableConversations periods limit)

/-- `mark_sent_on_connection`. -/
def markOutboundSent (db : Database) (outboundMessageId : Nat) (lastError : Option String) :
    Database :=
  db.updateOutbound (fun row => row.id = outboundMessageId)
    (fun row => { row with status := .sent, lastError, lease := .none }) fun _ => rfl

/-- `SenderTransactionRepository.mark_sent_with_message`. -/
def markSentWithMessage (db : Database) (outboundMessageId : Nat) (message : ConversationMessage)
    (lastError : Option String) : Database :=
  (insertConversationMessage (markOutboundSent db outboundMessageId lastError) message).1

/-- The lease columns after a failure that is retried.  The assignments are made from left to
right, so the power counts from the retry count that was just increased. -/
def Lease.backoff (lease : Lease) (periods : OutboundPeriods) (now retryCount : Nat) : Lease where
  leasedAt := .none
  leaseExpiresAt :=
    some (now + seconds (min periods.retryMax (periods.retryBase * 2 ^ min retryCount 3)))
  lockedBy := some (lease.lockedBy.getD "retry-backoff")

/-- The assignments of `mark_failed`. -/
def OutboundRow.failed (row : OutboundRow) (periods : OutboundPeriods) (now : Nat)
    (status : QueueStatus) (error : String) (retryable : Bool) : OutboundRow :=
  if retryable then
    { row with
      status
      lastError := some error
      retryCount := row.retryCount + 1
      lease := row.lease.backoff periods now (row.retryCount + 1) }
  else { row with status, lastError := some error, lease := .none }

theorem dedupKey_failed (row : OutboundRow) (periods : OutboundPeriods) (now : Nat)
    (status : QueueStatus) (error : String) (retryable : Bool) :
    (row.failed periods now status error retryable).dedupKey = row.dedupKey := by
  unfold OutboundRow.failed
  split <;> rfl

theorem id_failed (row : OutboundRow) (periods : OutboundPeriods) (now : Nat)
    (status : QueueStatus) (error : String) (retryable : Bool) :
    (row.failed periods now status error retryable).id = row.id := by
  unfold OutboundRow.failed
  split <;> rfl

theorem status_failed (row : OutboundRow) (periods : OutboundPeriods) (now : Nat)
    (status : QueueStatus) (error : String) (retryable : Bool) :
    (row.failed periods now status error retryable).status = status := by
  unfold OutboundRow.failed
  split <;> rfl

/-- `mark_failed`. -/
def markOutboundFailed (periods : OutboundPeriods) (db : Database) (outboundMessageId : Nat)
    (status : QueueStatus) (error : String) (retryable : Bool) : Database :=
  db.updateOutbound (fun row => row.id = outboundMessageId)
    (fun row => row.failed periods db.now status error retryable)
    fun row => dedupKey_failed row periods db.now status error retryable

/-- `release_lease`. -/
def releaseOutboundLease (db : Database) (outboundMessageId : Nat) : Database :=
  db.updateOutbound (fun row => row.id = outboundMessageId)
    (fun row => { row with lease := .none }) fun _ => rfl

/-- `recover_expired_leases`. -/
def recoverExpiredOutboundLeases (db : Database) : Database :=
  db.updateOutbound (fun row => row.status.isOpen && row.lease.isExpired db.now)
    (fun row => { row with lease := .none }) fun _ => rfl

/-! ## Finished rows -/

/-- A row with the id has been sent, skipped or given up. -/
def Database.outboundFinished (db : Database) (outboundMessageId : Nat) : Prop :=
  ∃ row ∈ db.outboundMessages.rows, row.id = outboundMessageId ∧ row.status.isOpen = false

/-- An update that changes neither ids nor, of the rows with an id, a final status into an
open one keeps the row finished. -/
theorem outboundFinished_updateOutbound {db : Database} {select : OutboundRow → Bool}
    {assign : OutboundRow → OutboundRow} {hkey : ∀ row, (assign row).dedupKey = row.dedupKey}
    {outboundMessageId : Nat} (hid : ∀ row, (assign row).id = row.id)
    (hstatus : ∀ row ∈ db.outboundMessages.rows, select row → row.id = outboundMessageId →
      row.status.isOpen = false → (assign row).status.isOpen = false)
    (h : db.outboundFinished outboundMessageId) :
    (db.updateOutbound select assign hkey).outboundFinished outboundMessageId := by
  obtain ⟨row, hmem, hrow, hclosed⟩ := h
  refine ⟨if select row then assign row else row, ?_, ?_, ?_⟩
  · exact List.mem_map_of_mem hmem
  · split
    · rw [hid, hrow]
    · exact hrow
  · split
    · rename_i hselect
      exact hstatus row hmem hselect hrow hclosed
    · exact hclosed

/-- The conversation history does not hold the queue. -/
theorem outboundFinished_insertConversationMessage {db : Database} {message : ConversationMessage}
    {outboundMessageId : Nat} (h : db.outboundFinished outboundMessageId) :
    (insertConversationMessage db message).1.outboundFinished outboundMessageId := by
  unfold insertConversationMessage
  simp only
  split
  · exact h
  · exact h

theorem outboundFinished_leaseGroups {periods : OutboundPeriods} {workerId : String}
    {leaseSeconds maxPerConversation : Nat} {conversations : List String} {db : Database}
    {outboundMessageId : Nat} (h : db.outboundFinished outboundMessageId) :
    (leaseGroups periods workerId leaseSeconds maxPerConversation db
      conversations).1.outboundFinished outboundMessageId := by
  induction conversations generalizing db with
  | nil => exact h
  | cons conversation rest ih =>
      simp only [leaseGroups]
      split
      · exact ih h
      · apply ih
        refine outboundFinished_updateOutbound ?_ ?_ h
        · intro row
          rfl
        · intro row _ _ _ hclosed
          exact hclosed

end AiCustomerService
