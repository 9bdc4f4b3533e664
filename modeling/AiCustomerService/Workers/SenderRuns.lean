import AiCustomerService.Support.Pool
import AiCustomerService.Workers.Sender

/-!
# Runs of the sender workers

Any number of workers lease groups of outbound messages and process them against one
database, while leases expire and are recovered, new messages are queued and human agents
take conversations over.
-/

namespace AiCustomerService

open Support

/-- The database, and the groups that are leased and wait for their task. -/
structure SenderWorld where
  db : Database
  waiting : List (List LeasedMessage)

/-- What the schedule decides about an operation: a statement may fail, and a service answers
what it likes. -/
structure SenderChoice where
  fault : Option (Fault PyError)
  answer : Except ServiceError JsonObject

/-- The failure of a statement, as the worker sees it. -/
def SenderChoice.dbFault (choice : SenderChoice) : Option (Fault ServiceError) :=
  choice.fault.map fun fault => ⟨.python fault.error, fault.applied⟩

/-- A statement that changes the database. -/
def SenderChoice.execute (choice : SenderChoice) (w : SenderWorld) (db : Database) :
    Except ServiceError Unit × SenderWorld :=
  faulty choice.dbFault w (.ok (), { w with db })

/-- The lease of a batch; the groups are handed over when the statement returns. -/
def SenderChoice.lease (choice : SenderChoice) (w : SenderWorld)
    (leased : Database × List (List LeasedMessage)) :
    Except ServiceError (List (List LeasedMessage)) × SenderWorld :=
  match choice.dbFault with
  | none => (.ok leased.2, ⟨leased.1, w.waiting ++ leased.2⟩)
  | some fault => (.error fault.error, if fault.applied then { w with db := leased.1 } else w)

/-- How an operation acts. -/
def handleSenderOp (settings : SenderSettings) :
    (op : SenderOp) → SenderChoice → SenderWorld → Except ServiceError op.Res × SenderWorld
  | .leasePendingGroups limit workerId leaseSeconds, choice, w =>
      choice.lease w (leasePendingGroups settings.periods w.db limit workerId leaseSeconds
        settings.maxPerConversation)
  | .isConversationHumanActive conversationId, choice, w =>
      faulty choice.dbFault w
        (.ok ((w.db.conversation? conversationId).any fun row =>
          decide (row.status = .humanActive)), w)
  | .downloadFile _, choice, w => (choice.answer, w)
  | .send _, choice, w => (choice.answer, w)
  | .markSentWithMessage outboundMessageId message lastError, choice, w =>
      choice.execute w (markSentWithMessage w.db outboundMessageId message lastError)
  | .markFailed outboundMessageId status error retryable, choice, w =>
      choice.execute w
        (markOutboundFailed settings.periods w.db outboundMessageId status error retryable)
  | .releaseLease outboundMessageId, choice, w =>
      choice.execute w (releaseOutboundLease w.db outboundMessageId)

/-- What happens beside the workers. -/
inductive SenderEvent
  | tick (microseconds : Nat)
  | recover
  | takeover (event : InboundEvent)
  | queue (message : OutboundMessage)

/-- An event acts on the world. -/
def SenderEvent.apply (event : SenderEvent) (w : SenderWorld) : SenderWorld :=
  match event with
  | .tick microseconds => { w with db := { w.db with now := w.db.now + microseconds } }
  | .recover => { w with db := recoverExpiredOutboundLeases w.db }
  | .takeover event => { w with db := markHumanActiveOnConnection w.db event }
  | .queue message =>
      match insertOutbound w.db message with
      | .ok (db, _) => { w with db }
      | .error _ => w

/-- The jobs of a thread: lease a batch, or process a group that waits. -/
inductive SenderJob
  | batch
  | group (index : Nat)

/-- The system of sender workers. -/
def senderMachine (settings : SenderSettings) : Machine senderOps where
  World := SenderWorld
  Choice := SenderChoice
  Env := SenderEvent
  Job := SenderJob
  handle := handleSenderOp settings
  environ := SenderEvent.apply
  start job w :=
    match job with
    | .batch => some (processNextBatch settings, w)
    | .group index =>
        match w.waiting[index]? with
        | some group =>
            some (processMessageGroup settings group, { w with waiting := w.waiting.eraseIdx index })
        | none => none

end AiCustomerService
