import AiCustomerService.Channels.InboundEvents
import AiCustomerService.Support.Exec
import AiCustomerService.Support.Pool

/-!
# The statements of an insert

`InboundEventRepository.insert` with the connection of a pool that runs in autocommit mode:
every statement commits alone, and the takeover of a human agent is a chain of statements after
the insert of the event.
-/

namespace AiCustomerService

open Support

/-- The statements of an insert, without their arguments. -/
inductive IngressStatement
  | insertEvent
  | insertConversation
  | selectConversation
  | updateConversation
  | cancelOutbound
  | cancelCommands
  | cancelResults
  deriving DecidableEq

/-- The statements with their arguments. -/
inductive IngressOp
  | insertEvent (event : NormalizedEvent)
  | insertConversation (conversationId chatId : String) (threadId : Option String)
  | selectConversation (conversationId : String)
  | updateConversation (conversationId : String) (slotMemory handoffState : JsonObject)
  | cancelOutbound (conversationId : String)
  | cancelCommands (conversationId : String)
  | cancelResults (conversationId : String)

def IngressOp.statement : IngressOp → IngressStatement
  | .insertEvent _ => .insertEvent
  | .insertConversation _ _ _ => .insertConversation
  | .selectConversation _ => .selectConversation
  | .updateConversation _ _ _ => .updateConversation
  | .cancelOutbound _ => .cancelOutbound
  | .cancelCommands _ => .cancelCommands
  | .cancelResults _ => .cancelResults

/-- What the statements return; the insert of an event says whether it is new. -/
abbrev IngressOp.Res : IngressOp → Type
  | .insertEvent _ => Bool
  | .selectConversation _ => Option ConversationRow
  | _ => Unit

abbrev ingressOps : Interface := ⟨IngressOp, IngressOp.Res, PyError⟩

/-- Execute a statement. -/
def IngressOp.execute (op : IngressOp) : Prog ingressOps op.Res := Prog.perform (I := ingressOps) op

/-- `mark_human_active_on_connection`. -/
def markHumanActive (event : InboundEvent) : Prog ingressOps Unit := do
  let conversationId := conversationIdForChat event.chatId event.threadId
  let _ ← (IngressOp.insertConversation conversationId (textOr event.chatId "unknown")
    event.threadId).execute
  let row : Option ConversationRow ← (IngressOp.selectConversation conversationId).execute
  let slotMemory := (row.map ConversationRow.slotMemory).getD ∅
  let handoffState := (row.bind ConversationRow.handoffState).getD ∅
  let _ ← (IngressOp.updateConversation conversationId slotMemory
    (handoffState.merge (humanAgentDetected event))).execute
  let _ ← (IngressOp.cancelOutbound conversationId).execute
  let _ ← (IngressOp.cancelCommands conversationId).execute
  let _ ← (IngressOp.cancelResults conversationId).execute
  return ()

/-- `InboundEventRepository.insert`; the result is `inserted`. -/
def insertInboundEvent (event : NormalizedEvent) : Prog ingressOps Bool := do
  let inserted : Bool ← (IngressOp.insertEvent event).execute
  if inserted && isHumanAgentPublicReplyEvent event then
    markHumanActive event.toInboundEvent
    return inserted
  else return inserted

/-! ## What the statements do -/

/-- The assignments of the takeover with the state that was read. -/
def Database.activateHuman (db : Database) (conversationId : String)
    (slotMemory handoffState : JsonObject) : Database :=
  db.updateConversation conversationId
    (fun row =>
      { row with
        status := .humanActive
        workflowStage := some "human_active"
        slotMemory
        handoffState := some handoffState })
    fun _ => rfl

/-- The answer and the effect of a statement that succeeds. -/
def IngressOp.act (store : IngressStore) : (op : IngressOp) → op.Res × IngressStore
  | .insertEvent event =>
      let inserted := store.inboundEvents.insertIdempotent event
      (inserted.2, { store with inboundEvents := inserted.1 })
  | .insertConversation conversationId chatId threadId =>
      ((), { store with
        database := store.database.insertConversation conversationId chatId threadId
          fun stored => threadId.or stored })
  | .selectConversation conversationId => (store.database.conversation? conversationId, store)
  | .updateConversation conversationId slotMemory handoffState =>
      ((), { store with
        database := store.database.activateHuman conversationId slotMemory handoffState })
  | .cancelOutbound conversationId =>
      ((), { store with database := store.database.cancelOutbound conversationId })
  | .cancelCommands conversationId =>
      ((), { store with database := store.database.cancelCommands conversationId })
  | .cancelResults conversationId =>
      ((), { store with database := store.database.cancelResults conversationId })

/-- Which statements fail in an attempt. -/
abbrev StatementFaults := IngressStatement → Option (Fault PyError)

/-- A statement that fails may have been committed before the connection broke. -/
def handleIngressOp (faults : StatementFaults) : Prog.Handler ingressOps IngressStore :=
  fun op store =>
    let done := IngressOp.act store op
    faulty (faults (IngressOp.statement op)) store (.ok done.1, done.2)

/-- One attempt to insert an event. -/
def attemptInsert (faults : StatementFaults) (store : IngressStore) (event : NormalizedEvent) :
    Except PyError Bool × IngressStore :=
  (insertInboundEvent event).exec (handleIngressOp faults) store

/-- The ingress offers the event again until an attempt returns. -/
def retryInsert (event : NormalizedEvent) : IngressStore → List StatementFaults → Option IngressStore
  | _, [] => none
  | store, faults :: rest =>
      match attemptInsert faults store event with
      | (.ok _, next) => some next
      | (.error _, next) => retryInsert event next rest

end AiCustomerService
