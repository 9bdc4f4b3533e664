import AiCustomerService.Db.CaseSync
import AiCustomerService.Properties.StaffReply

/-!
# Polls beside the command worker

`process_telegram_updates_once` begins by mapping the case cards whose result rows are
stored, and then waits for updates.  The command worker delivers a card first and stores its
row afterwards; the staff may answer a card as soon as Telegram has it.
-/

namespace AiCustomerService

open Support

/-- The operations of a poll. -/
inductive PollOp
  | selectRecent (limit : Nat)
  | upsert (row : ExternalResultRow)
  | reply (op : ReplyOp)

/-- What the operations return. -/
abbrev PollOp.Res : PollOp → Type
  | .selectRecent _ => List ExternalResultRow
  | .upsert _ => Bool
  | .reply op => op.Res

abbrev pollOps : Interface := ⟨PollOp, PollOp.Res, ServiceError⟩

abbrev PollProg := Prog pollOps

/-- Execute an operation. -/
def PollOp.call (op : PollOp) : PollProg op.Res := Prog.perform (I := pollOps) op

/-- The consumer as a part of the poll. -/
def embedReply {α : Type} : ReplyProg α → PollProg α
  | .ret a => .ret a
  | .raise e => .raise e
  | .call op k => .call (.reply op) fun r => embedReply (k r)

theorem all_embedReply {α : Type} {ok : PollOp → Prop} {m : ReplyProg α}
    (h : m.All fun op => ok (.reply op)) : (embedReply m).All ok := by
  induction m with
  | ret a => trivial
  | raise e => trivial
  | call op k ih => exact ⟨h.1, fun r => ih r (h.2 r)⟩

theorem embedReply_bind {α β : Type} (m : ReplyProg α) (f : α → ReplyProg β) :
    embedReply (m >>= f) = embedReply m >>= fun a => embedReply (f a) := by
  induction m with
  | ret a => rfl
  | raise e => rfl
  | call op k ih =>
      change Prog.call (I := pollOps) _ _ = Prog.call (I := pollOps) _ _
      congr 1
      funext r
      exact ih r

/-- The loop of `sync_recent_external_results`, with the number of rows synced. -/
def syncRows : List ExternalResultRow → PollProg Nat
  | [] => return 0
  | row :: rest => do
      let synced : Bool ← (PollOp.upsert row).call
      let others ← syncRows rest
      return others + if synced then 1 else 0

/-- `sync_recent_external_results`. -/
def syncRecentExternalResults (limit : Nat) : PollProg Nat := do
  let rows : List ExternalResultRow ← (PollOp.selectRecent limit).call
  syncRows rows

/-- `process_telegram_updates_once` with its first step. -/
def syncAndProcess (settings : ReplySettings) (poll : PollContext) :
    PollProg (List UpdateReport) := do
  let _ ← syncRecentExternalResults 200
  embedReply (processTelegramUpdatesOnce settings poll)

/-! ## The world -/

/-- The database, the messages of the cards that Telegram has accepted and the updates that it
holds for the bot. -/
structure PollWorld where
  replies : ReplyWorld
  cards : List (String × Int)
  updates : List TelegramUpdate

/-- The message that an update answers. -/
def TelegramUpdate.answers? (update : TelegramUpdate) : Option (String × Int) :=
  update.message.bind fun message =>
    message.replyTo.messageId.map fun messageId => (message.telegramChatId, messageId)

/-- The updates from an offset on, as `get_updates` returns them. -/
def PollWorld.pending (w : PollWorld) (offset : Option Int) (limit : Nat) :
    List TelegramUpdate :=
  (w.updates.filter fun update => decide (offset.getD 0 ≤ update.updateId)).take limit

/-- What happens beside the polls: the command worker delivers a card and stores a result, and
the staff writes. -/
inductive PollEvent
  | accept (card : String × Int)
  | insertResult (result : ExternalResult)
  | write (update : TelegramUpdate)
  | elapse (microseconds : Nat)

/-- An event acts on the world; a card has a message id of its own, which nothing that was
written before answers. -/
def PollWorld.after (w : PollWorld) : PollEvent → PollWorld
  | .accept card =>
      if w.updates.any fun update => update.answers? = some card then w
      else { w with cards := card :: w.cards }
  | .insertResult result =>
      { w with replies := { w.replies with db := (insertExternalResult w.replies.db result).1 } }
  | .write update => { w with updates := w.updates ++ [update] }
  | .elapse microseconds =>
      { w with
        replies := { w.replies with
          db := { w.replies.db with now := w.replies.db.now + microseconds } } }

/-- Store what a row maps to. -/
def handleUpsert (rt : Runtime) (w : PollWorld) (row : ExternalResultRow) :
    Except ServiceError Bool × PollWorld :=
  match upsertFromExternalResult rt w.replies.db row with
  | .ok (some db) => (.ok true, { w with replies := { w.replies with db } })
  | .ok none => (.ok false, w)
  | .error e => (.error (.python e), w)

/-- Execute an operation; every one of them may fail. -/
def handlePollOp (rt : Runtime) :
    (op : PollOp) → ReplyChoice → PollWorld → Except ServiceError op.Res × PollWorld
  | .selectRecent limit, choice, w =>
      faulty choice.fault w (.ok (recentExternalResults w.replies.db limit), w)
  | .upsert row, choice, w => faulty choice.fault w (handleUpsert rt w row)
  | .reply (.getUpdates offset limit), choice, w =>
      faulty choice.fault w (.ok (w.pending offset limit), w)
  | .reply op, choice, w =>
      let done := handleReplyOp rt op choice w.replies
      (done.1, { w with replies := done.2 })

/-- Any number of polls, beside the command worker and the staff. -/
def pollMachine (settings : ReplySettings) (botUserId : Int) : Machine pollOps where
  World := PollWorld
  Choice := ReplyChoice
  Env := PollEvent
  Job := Bool × Nat
  handle := handlePollOp settings.runtime
  environ e w := w.after e
  start job w :=
    some (syncAndProcess settings ⟨if job.1 then some botUserId else none, job.2⟩
      >>= fun _ => .ret (), w)

instance decidablePollSteps {settings : ReplySettings} {botUserId : Int} {T : Type}
    [DecidableEq T] (cond : PollWorld → PollOp → ReplyChoice → Prop)
    [instCond : ∀ w op choice, Decidable (cond w op choice)]
    (c : Machine.Config (pollMachine settings botUserId) T)
    (labels : List (Machine.Label (pollMachine settings botUserId) T)) :
    Decidable (Machine.AllSteps (Machine.Executes cond) c labels) :=
  @Machine.decidableAllSteps _ _ _ _ _
    (fun c l => @Machine.decidableExecutes _ _ _ cond instCond c l) c labels

end AiCustomerService
