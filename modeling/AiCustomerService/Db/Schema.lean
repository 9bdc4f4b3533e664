import AiCustomerService.Python.Json
import AiCustomerService.Support.Table

/-!
# The database

One structure per table, with the columns that the modelled statements read or
write, and the tables together with the server clock.  Rows are never deleted,
so the position of a row determines its `AUTO_INCREMENT` id.  A `NULL` slot
memory is read as the empty object everywhere, and is stored as such.
-/

namespace AiCustomerService

open Support

/-- Values of `conversation_states.status`. -/
inductive ConversationStatus
  | aiActive
  | waitingExternal
  | handoffRequested
  | humanActive
  | closed
  deriving DecidableEq

/-- `status in {"HANDOFF_REQUESTED", "HUMAN_ACTIVE"}`. -/
def ConversationStatus.isLocked : ConversationStatus → Bool
  | .handoffRequested => true
  | .humanActive => true
  | _ => false

/-- The status as it is stored. -/
def ConversationStatus.text : ConversationStatus → String
  | .aiActive => "AI_ACTIVE"
  | .waitingExternal => "WAITING_EXTERNAL"
  | .handoffRequested => "HANDOFF_REQUESTED"
  | .humanActive => "HUMAN_ACTIVE"
  | .closed => "CLOSED"

/-- Values of `status` in the three queue tables. -/
inductive QueueStatus
  | pending
  | retryable
  | sent
  | processed
  | dryRunDone
  | failed
  | failedConfig
  | failedBusiness
  | failedUnknown
  | failedUnsupported
  | failedDeliveryUncertain
  | failedDependency
  | failedAfterExternalSuccess
  | skippedHumanActive
  | skippedUnsupported
  | skippedDisabled
  | skippedCommandFailed
  | skippedManualSmoke
  | other (errorCode : String)
  deriving DecidableEq

/-- `status IN ('PENDING', 'RETRYABLE')`. -/
def QueueStatus.isOpen : QueueStatus → Bool
  | .pending => true
  | .retryable => true
  | _ => false

/-- The lease columns shared by the queue tables. -/
structure Lease where
  leasedAt : Option Nat
  leaseExpiresAt : Option Nat
  lockedBy : Option String
  deriving DecidableEq

/-- `leased_at = NULL, lease_expires_at = NULL, locked_by = NULL`. -/
def Lease.none : Lease := ⟨.none, .none, .none⟩

/-- `locked_by IS NULL OR lease_expires_at IS NULL OR lease_expires_at < NOW(6)`. -/
def Lease.isFree (lease : Lease) (now : Nat) : Bool :=
  lease.lockedBy.isNone ||
    match lease.leaseExpiresAt with
    | .none => true
    | some expiry => decide (expiry < now)

/-- `lease_expires_at IS NOT NULL AND lease_expires_at < NOW(6)`. -/
def Lease.isExpired (lease : Lease) (now : Nat) : Bool :=
  match lease.leaseExpiresAt with
  | .none => false
  | some expiry => decide (expiry < now)

/-- An interval of whole seconds; the clock counts microseconds. -/
def seconds (n : Nat) : Nat := n * 1000000

/-- `leased_at = NOW(6), lease_expires_at = DATE_ADD(...), locked_by = worker`. -/
def Lease.taken (workerId : String) (now leaseSeconds : Nat) : Lease :=
  ⟨some now, some (now + seconds leaseSeconds), some workerId⟩

structure ConversationRow where
  id : Nat
  conversationId : String
  tenantId : String
  channelType : String
  chatId : String
  currentThreadId : Option String
  status : ConversationStatus
  activeWorkflow : Option String
  workflowStage : Option String
  slotMemory : JsonObject
  handoffState : Option JsonObject

structure OutboundRow where
  id : Nat
  chatId : String
  threadId : Option String
  actionType : String
  messageType : String
  payloadJson : JsonObject
  status : QueueStatus
  retryCount : Nat
  lastError : Option String
  inboundEventId : Option Nat
  conversationId : Option String
  dedupKey : String
  blockIndex : Option Int
  messageKind : String
  commandType : String
  lease : Lease
  createdAt : Nat

structure ExternalCommandRow where
  id : Nat
  tenantId : String
  conversationId : String
  chatId : String
  threadId : Option String
  inboundEventId : Option Nat
  commandType : String
  payloadJson : JsonObject
  status : QueueStatus
  retryCount : Nat
  lastError : Option String
  lease : Lease
  dedupKey : String
  createdAt : Nat

structure ExternalResultRow where
  id : Nat
  externalCommandId : Nat
  tenantId : String
  conversationId : String
  chatId : String
  threadId : Option String
  inboundEventId : Option Nat
  commandType : String
  resultType : String
  resultJson : JsonObject
  status : QueueStatus
  retryCount : Nat
  lastError : Option String
  lease : Lease
  dedupKey : String
  createdAt : Nat

structure ConversationMessageRow where
  id : Nat
  conversationId : String
  tenantId : String
  channelType : String
  chatId : Option String
  threadId : Option String
  inboundEventId : Option Nat
  outboundMessageId : Option Nat
  externalCommandResultId : Option Nat
  senderRole : String
  messageType : String
  textContent : Option String
  source : String
  createdAt : Nat

structure TelegramCaseRow where
  id : Nat
  tenantId : String
  conversationId : String
  currentConversationId : Option String
  chatId : String
  threadId : Option String
  currentThreadId : Option String
  inboundEventId : Option Nat
  externalCommandId : Nat
  intent : Option String
  activeWorkflow : Option String
  telegramChatId : String
  telegramMessageThreadId : Option Int
  rootMessageId : Int
  status : String

structure TelegramCaseMessageRow where
  id : Nat
  telegramCaseId : Nat
  telegramChatId : String
  telegramMessageThreadId : Option Int
  telegramMessageId : Int
  messageKind : String

/-- `uk_telegram_case_messages_chat_message`. -/
def TelegramCaseMessageRow.chatMessage (row : TelegramCaseMessageRow) : String × Int :=
  (row.telegramChatId, row.telegramMessageId)

/-- Values of `telegram_case_followups.status`. -/
inductive FollowupStatus
  | reserved
  | sending
  | sent
  | deliveryUncertain
  | canceled
  deriving DecidableEq

structure FollowupRow where
  id : Nat
  telegramCaseId : Nat
  externalCommandId : Nat
  sourceConversationId : String
  sourceThreadId : String
  followUpKind : String
  followUpNumber : Nat
  previousStatus : String
  telegramMessageId : Option Int
  customerUpdateEn : Option String
  status : FollowupStatus
  lastError : Option String

/-- The tables and `NOW(6)`, in microseconds. -/
structure Database where
  now : Nat
  conversationStates : Table String ConversationRow ConversationRow.conversationId
  outboundMessages : Table String OutboundRow OutboundRow.dedupKey
  externalCommands : Table String ExternalCommandRow ExternalCommandRow.dedupKey
  externalCommandResults : Table String ExternalResultRow ExternalResultRow.dedupKey
  conversationMessages : List ConversationMessageRow
  processedInboundEvents : List Nat
  telegramCases : List TelegramCaseRow
  telegramCaseMessages :
    Table (String × Int) TelegramCaseMessageRow TelegramCaseMessageRow.chatMessage
  telegramUpdateOffsets : Dict String Int
  telegramCaseFollowups : List FollowupRow

/-- The database after the schema has been created. -/
def Database.empty : Database where
  now := 0
  conversationStates := ∅
  outboundMessages := ∅
  externalCommands := ∅
  externalCommandResults := ∅
  conversationMessages := []
  processedInboundEvents := []
  telegramCases := []
  telegramCaseMessages := ∅
  telegramUpdateOffsets := ∅
  telegramCaseFollowups := []

/-- The answer of an `INSERT ... ON DUPLICATE KEY UPDATE id = id`. -/
structure InsertReport where
  inserted : Bool
  duplicate : Bool
  id : Option Nat
  deriving DecidableEq

/-- The report of an insert into a table whose next id is `nextId`. -/
def InsertReport.of (inserted : Bool) (nextId : Nat) : InsertReport :=
  ⟨inserted, !inserted, if inserted then some nextId else none⟩

end AiCustomerService
