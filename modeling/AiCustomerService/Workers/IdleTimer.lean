import AiCustomerService.Channels.Errors
import AiCustomerService.Support.Program
import AiCustomerService.Workers.IdleTimerRepository

/-!
# The idle timer

`process_idle_conversations` of `workers/livechat_idle_timer.py`: a follow-up
question, then a closing text, then the closing of the chat, with checks for
activity of the customer in between.  Every statement, model call and LiveChat
call is an operation of the program.
-/

namespace AiCustomerService

open Support

/-- What `finalize_user_visible_text` returns. -/
structure FinalizedText where
  text : String
  finalReplyResult : JsonObject
  replyLanguage : Json

/-- The operations of the idle timer. -/
inductive IdleOp
  | fetchCandidates (limit : Nat)
  | fetchLatestMessage (conversationId : String)
  | fetchMessageCreatedAt (conversationId : String) (messageId : Int)
  | hasUnfinishedWork (conversationId : String)
  | hasCustomerActivityAfter (chatId : String) (occurredAfter : Nat)
  | insertAssistantMessage (candidate : IdleCandidate) (text : String) (now : Nat)
  | updateSlotMemory (conversationId : String) (slotMemory : JsonObject)
  | markClosed (conversationId : String) (slotMemory : JsonObject)
  | requestAiFailureHandoff (candidate : IdleCandidate) (now : Nat) (reason : String)
  | finalizeUserVisibleText (candidate : IdleCandidate) (slotMemory : JsonObject)
      (fallbackText nodeReplyTemplate : String)
  | sendText (chatId : String) (threadId : Option String) (text : String)
  | deactivateChat (chatId : String)

/-- What the operations return. -/
abbrev IdleOp.Res : IdleOp → Type
  | .fetchCandidates _ => List IdleCandidate
  | .fetchLatestMessage _ => Option ConversationMessageRow
  | .fetchMessageCreatedAt _ _ => Option Nat
  | .hasUnfinishedWork _ => Bool
  | .hasCustomerActivityAfter _ _ => Bool
  | .insertAssistantMessage _ _ _ => Nat
  | .updateSlotMemory _ _ => Unit
  | .markClosed _ _ => Unit
  | .requestAiFailureHandoff _ _ _ => Bool
  | .finalizeUserVisibleText _ _ _ _ => FinalizedText
  | .sendText _ _ _ => Unit
  | .deactivateChat _ => Unit

abbrev idleOps : Interface := ⟨IdleOp, IdleOp.Res, ServiceError⟩

abbrev IdleProg := Prog idleOps

/-- Execute an operation. -/
def IdleOp.call (op : IdleOp) : IdleProg op.Res := Prog.perform (I := idleOps) op

/-- Execute an operation and catch its exception. -/
def IdleOp.tryCall (op : IdleOp) : IdleProg (Except ServiceError op.Res) :=
  Prog.attempt (I := idleOps) (Prog.perform (I := idleOps) op)

/-- The arguments of a run of the timer; `notice` is `ai_failure_handoff_notice`. -/
structure IdleSettings where
  limit : Nat
  followupSeconds : Int
  closeSeconds : Int
  notice : Json → String

/-- `_result`. -/
structure IdleResult where
  conversationId : String
  chatId : String
  status : String
  error : Option String
  messageId : Option Nat

def idleResult (candidate : IdleCandidate) (status : String) (error : Option String) :
    IdleResult :=
  ⟨candidate.conversationId, candidate.chatId, status, error, none⟩

/-- `IDLE_SLOT_KEYS`. -/
def idleSlotKeys : List String :=
  ["idle_followup_sent_at", "idle_followup_failed_at", "idle_followup_last_error",
    "idle_close_sent_at", "idle_closed_at", "idle_base_assistant_message_id",
    "idle_base_assistant_created_at", "idle_followup_message_id", "idle_close_message_id",
    "idle_close_failed_at", "idle_close_last_error", "idle_last_failed_at"]

/-- `FOLLOWUP_TEXT`. -/
def followupText : String := "请问您还在吗？如果还有问题，可以继续告诉我，我会协助您处理。"

/-- `CLOSE_TEXT`. -/
def closeText : String :=
  "由于暂时没有收到您的回复，本次对话将先结束。如后续仍需协助，欢迎随时重新联系我们。"

/-- `DEFAULT_MAX_FOLLOWUP_BACKFILL_SECONDS`. -/
def defaultMaxFollowupBackfillSeconds : Int := 1800

/-- `now - earlier`, in seconds, is less than a bound. -/
def withinSeconds (now earlier : Nat) (bound : Int) : Bool :=
  decide ((now : Int) - earlier < bound * 1000000)

/-- `TERMINAL_AI_FAILURE_REASONS`. -/
def terminalAiFailureReasons : List String := ["timeout", "exception", "provider_failure"]

/-- `terminal_ai_failure_reason`. -/
def terminalAiFailureReason (rt : Runtime) (finalReplyResult : JsonObject) : Option String :=
  if !(getKey finalReplyResult "status").eqText "fallback" then none
  else
    let reason := (getKey finalReplyResult "fallback_reason").textOrEmpty rt
    if reason ∈ terminalAiFailureReasons then some reason else none

/-- `_is_already_closed_error`. -/
def isAlreadyClosedError (rt : Runtime) (exc : ServiceError) : Except PyError Bool :=
  match exc with
  | .livechatApi status data =>
      if status ∈ [400, 404, 422] then do
        let error ← (getKey data "error").mappingOrEmpty
        if rt.lower ((getKey error "type").textOrEmpty rt) = "chat_inactive" then pure true
        else
          pure (containsAny (rt.lower (exc.text rt))
            ["chat is closed", "chat closed", "chat not active", "not active",
              "no active chat thread"])
      else .ok false
  | _ => .ok false

/-- Continue with the value of a pure computation, or raise its exception. -/
def liftExcept {α : Type} : Except PyError α → IdleProg α
  | .ok a => .ret a
  | .error e => .raise (.python e)

/-- `_has_customer_activity_after`: whether there was activity, or the error. -/
def hasCustomerActivityAfter (candidate : IdleCandidate) (occurredAfter : Nat) :
    IdleProg (Except ServiceError Bool) :=
  (IdleOp.hasCustomerActivityAfter candidate.chatId occurredAfter).tryCall

/-- Give up when the customer was active after `cutoff` or this is not known. -/
def unlessActive (rt : Runtime) (candidate : IdleCandidate) (slotMemory : JsonObject)
    (cutoff : Nat) (activeStatus : String) (next : IdleProg (IdleResult × JsonObject)) :
    IdleProg (IdleResult × JsonObject) := do
  match ← hasCustomerActivityAfter candidate cutoff with
  | .error exc =>
      pure (idleResult candidate "SKIPPED_CUSTOMER_ACTIVITY_CHECK_FAILED" (some (exc.text rt)),
        slotMemory)
  | .ok true => pure (idleResult candidate activeStatus none, slotMemory)
  | .ok false => next

/-- `_clear_idle_state`; returns the cleared slot memory. -/
def clearIdleState (conversationId : String) (slotMemory : JsonObject) :
    IdleProg JsonObject := do
  let cleared := slotMemory.eraseAll idleSlotKeys
  (IdleOp.updateSlotMemory conversationId cleared).call
  pure cleared

/-- The time of the remembered message, which is stored again. -/
def recoverIdleCycleCutoff (rt : Runtime) (conversationId : String) (slotMemory : JsonObject)
    (messageId : Json) : IdleProg (Except ServiceError (Option Nat) × JsonObject) := do
  let messageId ← liftExcept (messageId.toInt rt)
  match ← (IdleOp.fetchMessageCreatedAt conversationId messageId).call with
  | none => pure (.ok none, slotMemory)
  | some recovered =>
      let slotMemory := slotMemory.set "idle_base_assistant_created_at"
        (.str (rt.isoFormat recovered))
      (IdleOp.updateSlotMemory conversationId slotMemory).call
      pure (.ok (some recovered), slotMemory)

/-- `_resolve_idle_cycle_cutoff`; returns the slot memory that it filled in. -/
def resolveIdleCycleCutoff (rt : Runtime) (conversationId : String) (slotMemory : JsonObject) :
    IdleProg (Except ServiceError (Option Nat) × JsonObject) :=
  match parseDatetime rt (getKey slotMemory "idle_base_assistant_created_at") with
  | some persisted => pure (.ok (some persisted), slotMemory)
  | none =>
      let messageId := getKey slotMemory "idle_base_assistant_message_id"
      if messageId.isNull then pure (.ok none, slotMemory)
      else
        (recoverIdleCycleCutoff rt conversationId slotMemory messageId).tryCatch fun exc =>
          pure (.error exc, slotMemory)

/-- Close the conversation in the database. -/
def finishClosed (candidate : IdleCandidate) (slotMemory : JsonObject)
    (status : String) (error : Option String) : IdleProg (IdleResult × JsonObject) := do
  (IdleOp.markClosed candidate.conversationId slotMemory).call
  pure (idleResult candidate status error, slotMemory)

/-- Store the slot memory and report. -/
def finishUpdated (candidate : IdleCandidate) (slotMemory : JsonObject)
    (result : IdleResult) : IdleProg (IdleResult × JsonObject) := do
  (IdleOp.updateSlotMemory candidate.conversationId slotMemory).call
  pure (result, slotMemory)

/-- The handoff of `_send_idle_text` after a failed model call. -/
def handOverFailedReply (rt : Runtime) (settings : IdleSettings) (candidate : IdleCandidate)
    (now : Nat) (slotMemory : JsonObject) (reason : String) (replyLanguage : Json) :
    IdleProg (IdleResult × JsonObject) := do
  let slotMemory := slotMemory.merge (.ofList [
    ("ai_service_failure_handoff_at", .str (rt.isoFormat now)),
    ("ai_service_failure_reason", .str reason),
    ("ai_service_failure_source", .str "livechat_idle_timer")])
  let requested ← (IdleOp.requestAiFailureHandoff candidate now reason).call
  if !requested then pure (idleResult candidate "SKIPPED_TERMINAL_STATE" none, slotMemory)
  else
    match ← (IdleOp.sendText candidate.chatId candidate.threadId
        (settings.notice replyLanguage)).tryCall with
    | .error exc =>
        pure (idleResult candidate "FAILED_HANDOFF_NOTICE" (some (exc.text rt)), slotMemory)
    | .ok _ => pure (idleResult candidate "AI_FAILURE_HANDOFF_REQUESTED" none, slotMemory)

/-- The two texts of the timer differ in where they record that they were sent. -/
structure IdleText where
  text : String
  sentAtKey : String
  messageIdKey : String
  status : String
  nodeReplyTemplate : String

/-- The follow-up question. -/
def IdleText.followup : IdleText :=
  ⟨followupText, "idle_followup_sent_at", "idle_followup_message_id", "FOLLOWUP_SENT",
    "idle_followup"⟩

/-- The closing text. -/
def IdleText.close : IdleText :=
  ⟨closeText, "idle_close_sent_at", "idle_close_message_id", "CLOSE_TEXT_SENT", "idle_close"⟩

/-- The sending part of `_send_idle_text`. -/
def deliverIdleText (rt : Runtime) (candidate : IdleCandidate) (now : Nat)
    (slotMemory : JsonObject) (idleText : IdleText) (sendText : String) :
    IdleProg (IdleResult × JsonObject) := do
  let time := Json.str (rt.isoFormat now)
  match ← (IdleOp.sendText candidate.chatId candidate.threadId sendText).tryCall with
  | .error exc =>
      let closed ← liftExcept (isAlreadyClosedError rt exc)
      if closed then
        finishClosed candidate
          ((slotMemory.set "idle_closed_at" time).eraseAll
            ["idle_close_last_error", "idle_followup_last_error", "idle_last_failed_at"])
          "CLOSED_ALREADY_IN_LIVECHAT" (some (exc.text rt))
      else
        let closing := idleText.sentAtKey = "idle_close_sent_at"
        let errorKey := if closing then "idle_close_last_error" else "idle_followup_last_error"
        let failedAtKey := if closing then "idle_close_failed_at" else "idle_followup_failed_at"
        finishUpdated candidate
          (((slotMemory.set errorKey (.str (exc.text rt))).set failedAtKey time).set
            "idle_last_failed_at" time)
          (idleResult candidate "FAILED_SEND_TEXT" (some (exc.text rt)))
  | .ok _ =>
      let messageId : Nat ← (IdleOp.insertAssistantMessage candidate sendText now).call
      finishUpdated candidate
        (((slotMemory.set idleText.sentAtKey time).set idleText.messageIdKey
          (.int messageId)).erase "idle_close_last_error")
        { idleResult candidate idleText.status none with messageId := some messageId }

/-- `_send_idle_text`. -/
def sendIdleText (rt : Runtime) (settings : IdleSettings) (candidate : IdleCandidate)
    (now : Nat) (slotMemory : JsonObject) (idleText : IdleText) (cutoff : Nat) :
    IdleProg (IdleResult × JsonObject) := do
  let finalized : FinalizedText ← (IdleOp.finalizeUserVisibleText candidate slotMemory
    idleText.text idleText.nodeReplyTemplate).call
  unlessActive rt candidate slotMemory cutoff "SKIPPED_CUSTOMER_ACTIVITY"
    (match terminalAiFailureReason rt finalized.finalReplyResult with
    | some reason =>
        handOverFailedReply rt settings candidate now slotMemory reason finalized.replyLanguage
    | none =>
        deliverIdleText rt candidate now slotMemory idleText
          (textOr (some finalized.text) idleText.text))

/-- `_close_chat`. -/
def closeChat (rt : Runtime) (candidate : IdleCandidate) (slotMemory : JsonObject)
    (now cutoff : Nat) : IdleProg (IdleResult × JsonObject) :=
  let closedMemory := (slotMemory.set "idle_closed_at" (.str (rt.isoFormat now))).erase
    "idle_close_last_error"
  unlessActive rt candidate slotMemory cutoff "SKIPPED_CUSTOMER_ACTIVITY" do
    match ← (IdleOp.deactivateChat candidate.chatId).tryCall with
    | .ok _ => finishClosed candidate closedMemory "CLOSED" none
    | .error exc =>
        let closed ← liftExcept (isAlreadyClosedError rt exc)
        if closed then finishClosed candidate closedMemory "CLOSED_ALREADY_IN_LIVECHAT" none
        else
          finishUpdated candidate (slotMemory.set "idle_close_last_error" (.str (exc.text rt)))
            (idleResult candidate "FAILED_CLOSE_CHAT" (some (exc.text rt)))

/-- The part of `process_idle_conversation` for a chat without a follow-up: ask, or
close a chat that is long forgotten. -/
def startIdleCycle (rt : Runtime) (settings : IdleSettings) (candidate : IdleCandidate)
    (now : Nat) (slotMemory : JsonObject) (latest : ConversationMessageRow) :
    IdleProg (IdleResult × JsonObject) :=
  unlessActive rt candidate slotMemory latest.createdAt "SKIPPED_PENDING_INBOUND_CUSTOMER_REPLY"
    (if (now : Int) - latest.createdAt > defaultMaxFollowupBackfillSeconds * 1000000 then
      finishClosed candidate
        ((slotMemory.set "idle_closed_at" (.str (rt.isoFormat now))).set "idle_close_reason"
          (.str "stale_idle_backlog"))
        "CLOSED_STALE_BACKLOG" none
    else if withinSeconds now latest.createdAt settings.followupSeconds then
      pure (idleResult candidate "WAITING_FOR_FOLLOWUP_TIMER" none, slotMemory)
    else
      sendIdleText rt settings candidate now
        ((slotMemory.set "idle_base_assistant_message_id" (.int latest.id)).set
          "idle_base_assistant_created_at" (.str (rt.isoFormat latest.createdAt)))
        .followup latest.createdAt)

/-- The part of `process_idle_conversation` for a chat with a follow-up. -/
def continueIdleCycle (rt : Runtime) (settings : IdleSettings) (candidate : IdleCandidate)
    (now : Nat) (slotMemory : JsonObject) (latest : ConversationMessageRow)
    (followupSentAt closeSentAt : Option Nat) (cutoff : Nat) :
    IdleProg (IdleResult × JsonObject) :=
  match closeSentAt, followupSentAt with
  | some _, _ =>
      unlessActive rt candidate slotMemory cutoff "SKIPPED_PENDING_INBOUND_CUSTOMER_REPLY"
        (closeChat rt candidate slotMemory now cutoff)
  | none, some followupSentAt =>
      if withinSeconds now followupSentAt settings.closeSeconds then
        pure (idleResult candidate "WAITING_FOR_CLOSE_TIMER" none, slotMemory)
      else
        unlessActive rt candidate slotMemory cutoff "SKIPPED_PENDING_INBOUND_CUSTOMER_REPLY" do
          let sent ← sendIdleText rt settings candidate now slotMemory .close cutoff
          if sent.1.status ≠ "CLOSE_TEXT_SENT" then pure sent
          else closeChat rt candidate sent.2 now cutoff
  | none, none => startIdleCycle rt settings candidate now slotMemory latest

/-- The timing part of `process_idle_conversation`. -/
def advanceIdleCycle (rt : Runtime) (settings : IdleSettings) (candidate : IdleCandidate)
    (now : Nat) (slotMemory : JsonObject) (latest : ConversationMessageRow)
    (followupSentAt closeSentAt : Option Nat) : IdleProg (IdleResult × JsonObject) :=
  if followupSentAt.isNone && closeSentAt.isNone then
    startIdleCycle rt settings candidate now slotMemory latest
  else do
    match ← resolveIdleCycleCutoff rt candidate.conversationId slotMemory with
    | (.error exc, slotMemory) =>
        pure (idleResult candidate "SKIPPED_MISSING_IDLE_CYCLE_CUTOFF" (some (exc.text rt)),
          slotMemory)
    | (.ok none, slotMemory) =>
        pure (idleResult candidate "SKIPPED_MISSING_IDLE_CYCLE_CUTOFF" none, slotMemory)
    | (.ok (some cutoff), slotMemory) =>
        continueIdleCycle rt settings candidate now slotMemory latest followupSentAt closeSentAt
          cutoff

/-- A conversation that waits for others is left alone while they work. -/
def waitsForWork (candidate : IdleCandidate) : IdleProg Bool :=
  if candidate.status = .waitingExternal then
    (IdleOp.hasUnfinishedWork candidate.conversationId).call
  else pure false

/-- `process_idle_conversation`, and the slot memory that it leaves. -/
def processIdleConversation (rt : Runtime) (settings : IdleSettings) (now : Nat)
    (candidate : IdleCandidate) : IdleProg (IdleResult × JsonObject) := do
  let slotMemory := candidate.slotMemory
  let latest : Option ConversationMessageRow ←
    (IdleOp.fetchLatestMessage candidate.conversationId).call
  match latest.filter (·.senderRole = "assistant") with
  | none =>
      if (getKey slotMemory "idle_followup_sent_at").truthy then do
        let cleared ← clearIdleState candidate.conversationId slotMemory
        pure (idleResult candidate "RESET_BY_CUSTOMER" none, cleared)
      else pure (idleResult candidate "SKIPPED_LATEST_NOT_ASSISTANT" none, slotMemory)
  | some latest =>
      if (getKey slotMemory "idle_closed_at").truthy then
        pure (idleResult candidate "SKIPPED_ALREADY_CLOSED" none, slotMemory)
      else if (getKey slotMemory "ai_service_failure_handoff_at").truthy then
        pure (idleResult candidate "SKIPPED_AI_FAILURE_HANDOFF" none, slotMemory)
      else do
        let unfinished ← waitsForWork candidate
        if unfinished then
          pure (idleResult candidate "SKIPPED_PENDING_WORK" none, slotMemory)
        else
          let followupSentAt := parseDatetime rt (getKey slotMemory "idle_followup_sent_at")
          let closeSentAt := parseDatetime rt (getKey slotMemory "idle_close_sent_at")
          match followupSentAt with
          | none =>
              advanceIdleCycle rt settings candidate now slotMemory latest none closeSentAt
          | some sentAt =>
              match ← hasCustomerActivityAfter candidate sentAt with
              | .error exc =>
                  pure (idleResult candidate "SKIPPED_CUSTOMER_ACTIVITY_CHECK_FAILED"
                    (some (exc.text rt)), slotMemory)
              | .ok true => do
                  let cleared ← clearIdleState candidate.conversationId slotMemory
                  advanceIdleCycle rt settings candidate now cleared latest none none
              | .ok false =>
                  advanceIdleCycle rt settings candidate now slotMemory latest followupSentAt
                    closeSentAt

/-- `process_idle_conversations`. -/
def processIdleConversations (rt : Runtime) (settings : IdleSettings) (now : Nat) :
    IdleProg (List IdleResult) := do
  let candidates : List IdleCandidate ← (IdleOp.fetchCandidates settings.limit).call
  candidates.mapM fun candidate => do
    let processed ← processIdleConversation rt settings now candidate
    pure processed.1

/-! ## What the timer writes -/

/-- The timer's own keys of the slot memory begin with `idle_`. -/
def isIdleKey (key : String) : Bool := "idle_".toList.isPrefixOf key.toList

/-- The two slot memories differ only in the timer's own keys. -/
def SameOutsideIdle (a b : JsonObject) : Prop :=
  ∀ key, isIdleKey key = false → a.get? key = b.get? key

/-- The operation reads no candidates, it writes only to the candidate's conversation, and the
slot memory that it stores is that of the candidate but for the timer's own keys. -/
def IdleOp.WritesOwn (candidate : IdleCandidate) : IdleOp → Prop
  | .fetchCandidates _ => False
  | .updateSlotMemory conversationId slotMemory =>
      conversationId = candidate.conversationId ∧ SameOutsideIdle slotMemory candidate.slotMemory
  | .markClosed conversationId slotMemory =>
      conversationId = candidate.conversationId ∧ SameOutsideIdle slotMemory candidate.slotMemory
  | .requestAiFailureHandoff handedOver _ _ => handedOver = candidate
  | _ => True

section WritesOwn

variable {candidate : IdleCandidate} {slotMemory : JsonObject}

theorem SameOutsideIdle.set {key : String} {value : Json}
    (h : SameOutsideIdle slotMemory candidate.slotMemory) (hkey : isIdleKey key = true) :
    SameOutsideIdle (slotMemory.set key value) candidate.slotMemory := by
  intro other hother
  have hne : other ≠ key := by
    rintro rfl
    rw [hkey] at hother
    cases hother
  rw [Dict.get?_set, if_neg hne]
  exact h other hother

theorem SameOutsideIdle.eraseAll {keys : List String}
    (h : SameOutsideIdle slotMemory candidate.slotMemory) (hkeys : keys.all isIdleKey = true) :
    SameOutsideIdle (slotMemory.eraseAll keys) candidate.slotMemory := by
  intro other hother
  have hnot : other ∉ keys := by
    intro hmem
    rw [List.all_eq_true.mp hkeys other hmem] at hother
    cases hother
  rw [Dict.get?_eraseAll, if_neg hnot]
  exact h other hother

theorem SameOutsideIdle.erase {key : String}
    (h : SameOutsideIdle slotMemory candidate.slotMemory) (hkey : isIdleKey key = true) :
    SameOutsideIdle (slotMemory.erase key) candidate.slotMemory := by
  intro other hother
  have hne : other ≠ key := by
    rintro rfl
    rw [hkey] at hother
    cases hother
  rw [Dict.get?_erase, if_neg hne]
  exact h other hother

/-- The programs that write nothing but the timer's own keys. -/
abbrev WritesCandidate {α : Type} (candidate : IdleCandidate) (prog : IdleProg α) : Prop :=
  Prog.All (I := idleOps) (IdleOp.WritesOwn candidate) prog

theorem writesCandidate_unlessActive (rt : Runtime) (cutoff : Nat) (activeStatus : String)
    {next : IdleProg (IdleResult × JsonObject)} (hnext : WritesCandidate candidate next) :
    WritesCandidate candidate
      (unlessActive rt candidate slotMemory cutoff activeStatus next) := by
  apply (Prog.all_perform trivial).attempt.bind
  intro answer
  rcases answer with exc | found
  · exact Prog.all_ret _
  · cases found with
    | true => exact Prog.all_ret _
    | false => exact hnext

theorem writesCandidate_finishClosed (status : String) (error : Option String)
    (h : SameOutsideIdle slotMemory candidate.slotMemory) :
    WritesCandidate candidate (finishClosed candidate slotMemory status error) := by
  have hwrite : IdleOp.WritesOwn candidate (.markClosed candidate.conversationId slotMemory) :=
    ⟨rfl, h⟩
  apply (Prog.all_perform hwrite).bind
  intro answer
  exact Prog.all_ret _

theorem writesCandidate_updateSlotMemory (h : SameOutsideIdle slotMemory candidate.slotMemory) :
    WritesCandidate candidate
      (IdleOp.updateSlotMemory candidate.conversationId slotMemory).call := by
  have hwrite : IdleOp.WritesOwn candidate
      (.updateSlotMemory candidate.conversationId slotMemory) := ⟨rfl, h⟩
  exact Prog.all_perform hwrite

theorem writesCandidate_finishUpdated (result : IdleResult)
    (h : SameOutsideIdle slotMemory candidate.slotMemory) :
    WritesCandidate candidate (finishUpdated candidate slotMemory result) := by
  apply (writesCandidate_updateSlotMemory h).bind
  intro answer
  exact Prog.all_ret _

theorem writesCandidate_liftExcept {α : Type} (value : Except PyError α) :
    WritesCandidate candidate (liftExcept value) := by
  cases value with
  | ok a => exact Prog.all_ret _
  | error e => exact Prog.all_raise _

theorem writesCandidate_clearIdleState (h : SameOutsideIdle slotMemory candidate.slotMemory) :
    WritesCandidate candidate (clearIdleState candidate.conversationId slotMemory) ∧
      (clearIdleState candidate.conversationId slotMemory).Returns
        (SameOutsideIdle · candidate.slotMemory) := by
  have hcleared := @SameOutsideIdle.eraseAll candidate slotMemory idleSlotKeys h (by decide)
  constructor
  · apply (writesCandidate_updateSlotMemory hcleared).bind
    intro answer
    exact Prog.all_ret _
  · exact (Prog.returns_true _).bind fun _ _ => hcleared

theorem writesCandidate_recoverIdleCycleCutoff (rt : Runtime) (messageId : Json)
    (h : SameOutsideIdle slotMemory candidate.slotMemory) :
    WritesCandidate candidate
        (recoverIdleCycleCutoff rt candidate.conversationId slotMemory messageId) ∧
      (recoverIdleCycleCutoff rt candidate.conversationId slotMemory messageId).Returns
        fun resolved => SameOutsideIdle resolved.2 candidate.slotMemory := by
  constructor
  · apply (writesCandidate_liftExcept _).bind
    intro messageId
    apply (Prog.all_perform trivial).bind
    intro recovered
    rcases recovered with - | recovered
    · exact Prog.all_ret _
    · apply (writesCandidate_updateSlotMemory (h.set (by decide))).bind
      intro answer
      exact Prog.all_ret _
  · apply (Prog.returns_true _).bind
    rintro messageId -
    apply (Prog.returns_true _).bind
    rintro (- | recovered) -
    · exact h
    · exact (Prog.returns_true _).bind fun _ _ => h.set (by decide)

theorem writesCandidate_resolveIdleCycleCutoff (rt : Runtime)
    (h : SameOutsideIdle slotMemory candidate.slotMemory) :
    WritesCandidate candidate
        (resolveIdleCycleCutoff rt candidate.conversationId slotMemory) ∧
      (resolveIdleCycleCutoff rt candidate.conversationId slotMemory).Returns
        fun resolved => SameOutsideIdle resolved.2 candidate.slotMemory := by
  unfold resolveIdleCycleCutoff
  split
  · exact ⟨Prog.all_ret _, h⟩
  · dsimp only
    split
    · exact ⟨Prog.all_ret _, h⟩
    · obtain ⟨hwrites, hreturns⟩ := writesCandidate_recoverIdleCycleCutoff rt
        (getKey slotMemory "idle_base_assistant_message_id") h
      exact ⟨hwrites.tryCatch fun _ => Prog.all_ret _, hreturns.tryCatch fun _ => h⟩

theorem writesCandidate_handOverFailedReply (rt : Runtime) (settings : IdleSettings) (now : Nat)
    (reason : String) (replyLanguage : Json) :
    WritesCandidate candidate
      (handOverFailedReply rt settings candidate now slotMemory reason replyLanguage) := by
  have hwrite : IdleOp.WritesOwn candidate (.requestAiFailureHandoff candidate now reason) := rfl
  apply (Prog.all_perform hwrite).bind
  intro requested
  cases requested with
  | false => exact Prog.all_ret _
  | true =>
      apply (Prog.all_perform trivial).attempt.bind
      intro answer
      rcases answer with exc | sent
      · exact Prog.all_ret _
      · exact Prog.all_ret _

theorem writesCandidate_deliverIdleText (rt : Runtime) (now : Nat) {idleText : IdleText}
    (sendText : String) (hsent : isIdleKey idleText.sentAtKey = true)
    (hid : isIdleKey idleText.messageIdKey = true)
    (h : SameOutsideIdle slotMemory candidate.slotMemory) :
    WritesCandidate candidate
      (deliverIdleText rt candidate now slotMemory idleText sendText) := by
  apply (Prog.all_perform trivial).attempt.bind
  intro answer
  rcases answer with exc | sent
  · apply (writesCandidate_liftExcept _).bind
    intro closed
    dsimp only
    split
    · exact writesCandidate_finishClosed _ _ ((h.set (by decide)).eraseAll (by decide))
    · apply writesCandidate_finishUpdated
      refine SameOutsideIdle.set (SameOutsideIdle.set (SameOutsideIdle.set h ?_) ?_) (by decide)
      · split
        · decide
        · decide
      · split
        · decide
        · decide
  · apply (Prog.all_perform trivial).bind
    intro messageId
    exact writesCandidate_finishUpdated _ (((h.set hsent).set hid).erase (by decide))

theorem of_closeTextSent {status : String} {error : Option String} {P : Prop}
    (hstatus : status ≠ "CLOSE_TEXT_SENT") :
    (idleResult candidate status error).status = "CLOSE_TEXT_SENT" → P :=
  fun h => absurd h hstatus

/-- The slot memory with which the chat is closed after the closing text. -/
theorem returns_sendIdleText (rt : Runtime) (settings : IdleSettings) (now : Nat)
    {idleText : IdleText} (cutoff : Nat) (hsent : isIdleKey idleText.sentAtKey = true)
    (hid : isIdleKey idleText.messageIdKey = true)
    (h : SameOutsideIdle slotMemory candidate.slotMemory) :
    (sendIdleText rt settings candidate now slotMemory idleText cutoff).Returns fun sent =>
      sent.1.status = "CLOSE_TEXT_SENT" → SameOutsideIdle sent.2 candidate.slotMemory := by
  apply (Prog.returns_true _).bind
  rintro finalized -
  apply (Prog.returns_true _).bind
  rintro (exc | found) -
  · exact fun _ => h
  · cases found with
    | true => exact fun _ => h
    | false =>
        dsimp only
        split
        · apply (Prog.returns_true _).bind
          rintro requested -
          cases requested with
          | false =>
              exact of_closeTextSent (by decide)
          | true =>
              apply (Prog.returns_true _).bind
              rintro (exc | sent) -
              · exact of_closeTextSent (by decide)
              · exact of_closeTextSent (by decide)
        · apply (Prog.returns_true _).bind
          rintro (exc | sent) -
          · apply (Prog.returns_true _).bind
            rintro closed -
            dsimp only
            split
            · apply (Prog.returns_true _).bind
              rintro answer -
              exact of_closeTextSent (by decide)
            · apply (Prog.returns_true _).bind
              rintro answer -
              exact of_closeTextSent (by decide)
          · apply (Prog.returns_true _).bind
            rintro messageId -
            apply (Prog.returns_true _).bind
            rintro answer - -
            exact ((h.set hsent).set hid).erase (by decide)

theorem writesCandidate_sendIdleText (rt : Runtime) (settings : IdleSettings) (now : Nat)
    {idleText : IdleText} (cutoff : Nat) (hsent : isIdleKey idleText.sentAtKey = true)
    (hid : isIdleKey idleText.messageIdKey = true)
    (h : SameOutsideIdle slotMemory candidate.slotMemory) :
    WritesCandidate candidate
      (sendIdleText rt settings candidate now slotMemory idleText cutoff) := by
  apply (Prog.all_perform trivial).bind
  intro finalized
  apply writesCandidate_unlessActive
  split
  · exact writesCandidate_handOverFailedReply _ _ _ _ _
  · exact writesCandidate_deliverIdleText _ _ _ hsent hid h

theorem writesCandidate_closeChat (rt : Runtime) (now cutoff : Nat)
    (h : SameOutsideIdle slotMemory candidate.slotMemory) :
    WritesCandidate candidate (closeChat rt candidate slotMemory now cutoff) := by
  have hclosed : SameOutsideIdle ((slotMemory.set "idle_closed_at" (.str (rt.isoFormat now))).erase
      "idle_close_last_error") candidate.slotMemory := (h.set (by decide)).erase (by decide)
  apply writesCandidate_unlessActive
  apply (Prog.all_perform trivial).attempt.bind
  intro answer
  rcases answer with exc | done
  · apply (writesCandidate_liftExcept _).bind
    intro closed
    split
    · exact writesCandidate_finishClosed _ _ hclosed
    · exact writesCandidate_finishUpdated _ (h.set (by decide))
  · exact writesCandidate_finishClosed _ _ hclosed

theorem writesCandidate_startIdleCycle (rt : Runtime) (settings : IdleSettings) (now : Nat)
    (latest : ConversationMessageRow) (h : SameOutsideIdle slotMemory candidate.slotMemory) :
    WritesCandidate candidate
      (startIdleCycle rt settings candidate now slotMemory latest) := by
  apply writesCandidate_unlessActive
  split
  · exact writesCandidate_finishClosed _ _ ((h.set (by decide)).set (by decide))
  · split
    · exact Prog.all_ret _
    · exact writesCandidate_sendIdleText _ _ _ _ (by decide) (by decide)
        ((h.set (by decide)).set (by decide))

theorem writesCandidate_advanceIdleCycle (rt : Runtime) (settings : IdleSettings) (now : Nat)
    (latest : ConversationMessageRow) (followupSentAt closeSentAt : Option Nat)
    (h : SameOutsideIdle slotMemory candidate.slotMemory) :
    WritesCandidate candidate (advanceIdleCycle rt settings candidate now slotMemory latest
      followupSentAt closeSentAt) := by
  unfold advanceIdleCycle
  split
  · exact writesCandidate_startIdleCycle _ _ _ _ h
  · obtain ⟨hwrites, hreturns⟩ := writesCandidate_resolveIdleCycleCutoff rt h
    apply hwrites.bind_of hreturns
    rintro ⟨exc | (- | cutoff), slotMemory⟩ h
    · exact Prog.all_ret _
    · exact Prog.all_ret _
    · dsimp only at h ⊢
      unfold continueIdleCycle
      split
      · apply writesCandidate_unlessActive
        exact writesCandidate_closeChat _ _ _ h
      · split
        · exact Prog.all_ret _
        · apply writesCandidate_unlessActive
          apply (writesCandidate_sendIdleText _ _ _ _ (by decide) (by decide) h).bind_of
            (returns_sendIdleText _ _ _ _ (by decide) (by decide) h)
          intro sent hsent
          split
          · exact Prog.all_ret _
          · next hstatus => exact writesCandidate_closeChat _ _ _ (hsent (not_not.mp hstatus))
      · exact writesCandidate_startIdleCycle _ _ _ _ h

theorem writesCandidate_waitsForWork (candidate : IdleCandidate) :
    WritesCandidate candidate (waitsForWork candidate) := by
  unfold waitsForWork
  split
  · exact Prog.all_perform trivial
  · exact Prog.all_ret _

/-- Whatever happens, the timer stores only slot memories that differ from the one it has read in
its own keys. -/
theorem writesCandidate_processIdleConversation (rt : Runtime) (settings : IdleSettings)
    (now : Nat) (candidate : IdleCandidate) :
    WritesCandidate candidate (processIdleConversation rt settings now candidate) := by
  have hread : SameOutsideIdle candidate.slotMemory candidate.slotMemory := fun _ _ => rfl
  apply (Prog.all_perform trivial).bind
  intro latest
  dsimp only
  obtain ⟨hclear, hcleared⟩ := writesCandidate_clearIdleState hread
  split
  · split
    · apply hclear.bind
      intro cleared
      exact Prog.all_ret _
    · exact Prog.all_ret _
  · split
    · exact Prog.all_ret _
    · split
      · exact Prog.all_ret _
      · apply (writesCandidate_waitsForWork candidate).bind
        intro unfinished
        split
        · exact Prog.all_ret _
        · split
          · exact writesCandidate_advanceIdleCycle _ _ _ _ _ _ hread
          · apply (Prog.all_perform trivial).attempt.bind
            intro answer
            rcases answer with exc | found
            · exact Prog.all_ret _
            · cases found with
              | true =>
                  apply hclear.bind_of hcleared
                  intro cleared h
                  exact writesCandidate_advanceIdleCycle _ _ _ _ _ _ h
              | false => exact writesCandidate_advanceIdleCycle _ _ _ _ _ _ hread

end WritesOwn

/-! ## Which conversations the timer closes -/

/-- The operation reads no candidates and closes only a given conversation. -/
def IdleOp.ClosesOnly (conversationId : String) : IdleOp → Prop
  | .fetchCandidates _ => False
  | .markClosed id _ => id = conversationId
  | _ => True

/-- The programs about one candidate. -/
abbrev ClosesCandidate {α : Type} (candidate : IdleCandidate) (prog : IdleProg α) : Prop :=
  Prog.All (I := idleOps) (IdleOp.ClosesOnly candidate.conversationId) prog

/-- Whatever happens, the timer closes only the conversation that it looks at. -/
theorem closesCandidate_processIdleConversation (rt : Runtime) (settings : IdleSettings)
    (now : Nat) (candidate : IdleCandidate) :
    ClosesCandidate candidate (processIdleConversation rt settings now candidate) := by
  apply (writesCandidate_processIdleConversation rt settings now candidate).mono
  intro op hop
  cases op with
  | fetchCandidates limit => exact hop
  | markClosed conversationId slotMemory => exact hop.1
  | _ => trivial

end AiCustomerService
