import AiCustomerService.Db.CaseStatus
import AiCustomerService.Workers.StaffCommits

/-!
# Runs on the cases

Polls of the staff-reply consumer, with the sync of the cases at their beginning, run beside the
commits of the gateway.
-/

namespace AiCustomerService

open Support

/-- A commit of the gateway. -/
structure GatewayCommit where
  context : TxContext
  inboundEventId : Nat
  event : InboundEvent
  customerMessage : Option ConversationMessage
  outboundMessages : List OutboundMessage
  externalCommands : List ExternalCommand
  graphState : Option GraphState
  assistantMessages : List ConversationMessage

/-- Its transaction. -/
def GatewayCommit.execute (commit : GatewayCommit) (db : Database) :
    Except PyError (Database × TransactionResult) :=
  processEventTransactionally db commit.context commit.inboundEventId commit.event
    commit.customerMessage commit.outboundMessages commit.externalCommands commit.graphState
    commit.assistantMessages

/-- The case update that it makes. -/
def GatewayCommit.update? (commit : GatewayCommit) (db : Database) : Option TelegramCaseUpdate :=
  db.effectiveUpdate (textOr commit.event.chatId "unknown") commit.event.threadId
    (commit.graphState.bind GraphState.telegramCaseUpdate)

/-- What happens beside the polls. -/
inductive CaseEvent
  | poll (event : PollEvent)
  | gateway (commit : GatewayCommit)

/-- An event acts on the world; a transaction that raises is rolled back. -/
def PollWorld.afterCase (w : PollWorld) : CaseEvent → PollWorld
  | .poll event => w.after event
  | .gateway commit =>
      match commit.execute w.replies.db with
      | .ok (db, _) => { w with replies := { w.replies with db } }
      | .error _ => w

/-- Any number of polls beside the gateway, the command worker and the staff. -/
def caseMachine (settings : ReplySettings) (botUserId : Int) : Machine pollOps where
  World := PollWorld
  Choice := ReplyChoice
  Env := CaseEvent
  Job := Bool × Nat
  handle := handlePollOp settings.runtime
  environ e w := w.afterCase e
  start job w :=
    some (syncAndProcess settings ⟨if job.1 then some botUserId else none, job.2⟩
      >>= fun _ => .ret (), w)

end AiCustomerService
