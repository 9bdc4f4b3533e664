import AiCustomerService.Db.ResultRows
import AiCustomerService.Properties.FailureCount
import AiCustomerService.Properties.StaffReply

/-!
# Runs on the rows of results

Any number of result consumers lease and process rows beside the consumer of staff replies, which
stores rows of its own and processes them without a lease.
-/

namespace AiCustomerService

open Support

/-- An operation of one of the consumers. -/
inductive ResultOp
  | consumer (op : ConsumerOp)
  | reply (op : ReplyOp)

/-- What the operations return. -/
abbrev ResultOp.Res : ResultOp → Type
  | .consumer op => op.Res
  | .reply op => op.Res

abbrev resultOps : Interface := ⟨ResultOp, ResultOp.Res, ServiceError⟩

/-- The result consumer as a part of the run. -/
def consumerPart : Prog.Embedding consumerOps resultOps := ⟨.consumer, fun _ r => r, id⟩

/-- The consumer of staff replies as a part of the run. -/
def replyPart : Prog.Embedding replyOps resultOps := ⟨.reply, fun _ r => r, id⟩

/-- The database, the rows whose state change has been committed, newest first, and the rows that
the consumer of staff replies has committed itself. -/
structure ResultWorld where
  db : Database
  stateChanges : List Nat
  ownCommits : List Nat

/-- What the schedule decides about an operation. -/
structure ResultChoice where
  previous : Option ConversationRow
  consumer : CountChoice
  reply : ReplyChoice

/-- The failure that the operation runs into. -/
def ResultChoice.faultOf (choice : ResultChoice) : ResultOp → Option (Fault ServiceError)
  | .consumer _ => choice.consumer.fault
  | .reply _ => choice.reply.fault

/-- What a result consumer leaves. -/
def ResultWorld.afterConsumer (w : ResultWorld) (done : CountWorld) : ResultWorld :=
  { w with
    db := done.db
    stateChanges := (done.commits.filter fun commit => !commit.2).map Prod.fst ++ w.stateChanges }

/-- What the consumer of staff replies leaves. -/
def ResultWorld.afterReply (w : ResultWorld) (op : ReplyOp) (done : ReplyWorld) : ResultWorld :=
  match op, done.commits with
  | .processResult row _ _ _, commit :: _ =>
      { db := done.db
        stateChanges := if commit.2 then w.stateChanges else row.id :: w.stateChanges
        ownCommits := row.id :: w.ownCommits }
  | _, _ => { w with db := done.db }

/-- The settings of the consumers. -/
structure ResultSettings where
  consumer : ConsumerSettings
  reply : ReplySettings
  botUserId : Int

/-- Execute an operation; every one of them may fail. -/
def handleResultOp (settings : ResultSettings) : (op : ResultOp) → ResultChoice → ResultWorld →
    Except ServiceError op.Res × ResultWorld
  | .consumer op, choice, w =>
      let done := handleConsumerOp settings.consumer choice.previous op choice.consumer ⟨w.db, []⟩
      (done.1, w.afterConsumer done.2)
  | .reply op, choice, w =>
      let done := handleReplyOp settings.reply.runtime op { choice.reply with fault := none }
        ⟨w.db, []⟩
      faulty choice.reply.fault w (done.1, w.afterReply op done.2)

/-- What happens beside the consumers: time passes, a human takes a conversation over, the command
worker stores a result, and other transactions write conversations. -/
inductive ResultEvent
  | elapse (microseconds : Nat)
  | takeover (event : InboundEvent)
  | insertResult (result : ExternalResult)
  | writeConversations (states : Table String ConversationRow ConversationRow.conversationId)

/-- An event acts on the database. -/
def Database.afterResultEvent (db : Database) : ResultEvent → Database
  | .elapse microseconds => { db with now := db.now + microseconds }
  | .takeover event => markHumanActiveOnConnection db event
  | .insertResult result => (insertExternalResult db result).1
  | .writeConversations states => { db with conversationStates := states }

/-- A worker leases a row, or polls for replies. -/
inductive ResultJob
  | lease (resultId : Nat) (workerId : String) (leaseSeconds : Nat)
  | poll (knowsBot : Bool) (now : Nat)

/-- Any number of workers of both kinds. -/
def resultMachine (settings : ResultSettings) : Machine resultOps where
  World := ResultWorld
  Choice := ResultChoice
  Env := ResultEvent
  Job := ResultJob
  handle := handleResultOp settings
  environ e w := { w with db := w.db.afterResultEvent e }
  start job w :=
    match job with
    | .lease resultId workerId leaseSeconds =>
        (w.db.leaseResult? resultId workerId leaseSeconds).bind fun db =>
          (db.resultRow? resultId).map fun row =>
            ((processOne settings.consumer row >>= fun _ => .ret ()).embed consumerPart,
              { w with db })
    | .poll knowsBot now =>
        some ((processTelegramUpdatesOnce settings.reply
            ⟨if knowsBot then some settings.botUserId else none, now⟩ >>= fun _ =>
              .ret ()).embed replyPart, w)

end AiCustomerService
