import AiCustomerService.Db.Commands
import AiCustomerService.Properties.SentRows
import AiCustomerService.Support.Exec

/-!
# The limit of the sending attempts

`classify_send_error` looks at the retry limit only where LiveChat answers with a temporary
status.  A timeout, a broken connection or a temporary error of Telegram is retried as often as it
happens.
-/

namespace AiCustomerService

open Support

/-! ## Attempts -/

/-- The first call of the client for a message; `none` where the client is not called. -/
def LeasedMessage.firstCall (settings : SenderSettings) (message : LeasedMessage) :
    Option SenderOp :=
  let row := message.row
  if message.type = "buttons" then
    match settings.menuForPayload row.payloadJson with
    | .error _ => none
    | .ok menu => some (.send (.buttons row.chatId row.threadId menu))
  else if message.type = "text" then
    (row.payloadJson.get? "text").map fun text =>
      .send (.text row.chatId row.threadId (text.pyStr settings.runtime)
        (finalSendCustomId settings.runtime row.payloadJson))
  else if message.type = "image" then
    if (getKey row.payloadJson "asset_source").eqText "telegram" then
      some (.downloadFile
        ((getKey row.payloadJson "telegram_file_id").textOrEmpty settings.runtime))
    else some (.send (.image row.chatId row.threadId (imageAssetRef settings.runtime row.payloadJson)))
  else none

/-- An attempt to send: the time since the attempt before, and the exceptions that the calls of
the client raise. -/
structure SendAttempt where
  elapsed : Nat
  raises : SenderOp → ServiceError

/-- Every call of the client raises an exception, and every statement is executed. -/
def raisingClient (settings : SenderSettings) (raises : SenderOp → ServiceError) :
    Prog.Handler senderOps SenderWorld :=
  fun op w => handleSenderOp settings op ⟨none, .error (raises op)⟩ w

/-- The row of an outbound message. -/
def Database.outboundRow? (db : Database) (outboundMessageId : Nat) : Option OutboundRow :=
  db.outboundMessages.rows.find? fun row => row.id = outboundMessageId

/-- A row with the columns that are joined from its conversation. -/
def Database.leased (db : Database) (row : OutboundRow) : LeasedMessage :=
  let conversation := row.conversationId.bind db.conversation?
  ⟨row, conversation.map ConversationRow.status, conversation.bind ConversationRow.activeWorkflow⟩

/-- The row is processed once more, if it is still open. -/
def attemptRow (settings : SenderSettings) (outboundMessageId : Nat) (w : SenderWorld)
    (attempt : SendAttempt) : SenderWorld :=
  let w := { w with db := { w.db with now := w.db.now + attempt.elapsed } }
  match w.db.outboundRow? outboundMessageId with
  | none => w
  | some row =>
      if row.status.isOpen then
        (Prog.exec (raisingClient settings attempt.raises) w
          (processPendingMessage settings (w.db.leased row))).2
      else w

/-- The world after the first attempts of a sequence. -/
def afterAttempts (settings : SenderSettings) (outboundMessageId : Nat) (w : SenderWorld)
    (attempts : Nat → SendAttempt) : Nat → SenderWorld
  | 0 => w
  | n + 1 =>
      attemptRow settings outboundMessageId
        (afterAttempts settings outboundMessageId w attempts n) (attempts n)

/-- A status `FAILED_*`. -/
def QueueStatus.isFailure (status : QueueStatus) : Bool :=
  "FAILED_".toList.isPrefixOf status.text.toList

/-- The row is retried fewer than `limit` times, and then it fails. -/
def GivenUpWithin (limit : Nat) (statusAfter : Nat → Option QueueStatus) : Prop :=
  ∃ n, n < limit ∧ (∀ k, 0 < k → k ≤ n → statusAfter k = some .retryable) ∧
    ∃ status, statusAfter (n + 1) = some status ∧ status.isFailure = true

/-! ## Exceptions -/

/-- The exception is retried, as long as no limit is looked at. -/
def ServiceError.isTemporary : ServiceError → Bool
  | .telegramApi _ _ _ _ retryable => retryable
  | .livechatApi status _ => decide (status ∈ [429, 500, 502, 503, 504])
  | .timeout _ => true
  | .connection _ => true
  | _ => false

def ServiceError.isLivechatApi : ServiceError → Bool
  | .livechatApi _ _ => true
  | _ => false

section Classification

variable {settings : SenderSettings} {exc : ServiceError} {retryCount : Nat}

/-- What becomes of a row: it is retried, or it fails. -/
def SendResult.Decided (result : SendResult) : Prop :=
  (result.retryable = true ∧ result.status = .retryable) ∨
    (result.retryable = false ∧ result.status.isFailure = true ∧ result.status.isOpen = false)

theorem decided_retry (message : Option String) : SendResult.Decided ⟨.retryable, message, true⟩ :=
  Or.inl ⟨rfl, rfl⟩

theorem decided_final {status : QueueStatus} (message : Option String)
    (hfailure : status.isFailure = true) (hclosed : status.isOpen = false) :
    (SendResult.final status message).Decided := Or.inr ⟨rfl, hfailure, hclosed⟩

theorem decided_classifySendError (settings : SenderSettings) (exc : ServiceError)
    (retryCount : Nat) : (classifySendError settings exc retryCount).Decided := by
  unfold classifySendError
  dsimp only
  split
  · split
    · exact decided_retry _
    · exact decided_final _ (by decide) rfl
  · split
    · exact decided_final _ (by decide) rfl
    · split
      · split
        · exact decided_final _ (by decide) rfl
        · exact decided_retry _
      · split
        · exact decided_final _ (by decide) rfl
        · exact decided_final _ (by decide) rfl
  · exact decided_retry _
  · exact decided_retry _
  · exact decided_final _ (by decide) rfl

/-- The limit is only looked at for LiveChat. -/
theorem retryable_classifySendError :
    (classifySendError settings exc retryCount).retryable = true ↔
      exc.isTemporary = true ∧
        (exc.isLivechatApi = true → retryLimitReached settings.maxRetries retryCount = false) := by
  cases exc with
  | livechatApi status data =>
      by_cases htemporary : status ∈ [429, 500, 502, 503, 504]
      · have hconfig : status ∉ [401, 403] := by
          simp only [List.mem_cons, List.not_mem_nil, or_false] at htemporary ⊢
          omega
        by_cases hlimit : retryLimitReached settings.maxRetries retryCount = true
        · simp only [classifySendError, if_neg hconfig, if_pos htemporary,
            ServiceError.isTemporary, ServiceError.isLivechatApi, hlimit, SendResult.final]
          simp
        · simp only [classifySendError, if_neg hconfig, if_pos htemporary, if_neg hlimit,
            ServiceError.isTemporary, ServiceError.isLivechatApi]
          simpa [htemporary] using hlimit
      · simp only [ServiceError.isTemporary, decide_eq_true_eq, htemporary, false_and, iff_false,
          classifySendError, if_false, Bool.not_eq_true]
        split
        · rfl
        · split
          · rfl
          · rfl
  | telegramApi description status errorCode data retryable =>
      cases retryable with
      | false => simp [classifySendError, ServiceError.isTemporary, SendResult.final]
      | true => simp [classifySendError, ServiceError.isTemporary, ServiceError.isLivechatApi]
  | timeout message => simp [classifySendError, ServiceError.isTemporary, ServiceError.isLivechatApi]
  | connection message =>
      simp [classifySendError, ServiceError.isTemporary, ServiceError.isLivechatApi]
  | python error => simp [classifySendError, ServiceError.isTemporary, SendResult.final]
  | other message => simp [classifySendError, ServiceError.isTemporary, SendResult.final]

end Classification

/-! ## One attempt -/

section Attempt

variable {settings : SenderSettings} {raises : SenderOp → ServiceError} {w : SenderWorld}

/-- The world after `mark_failed`. -/
def SenderWorld.markedFailed (settings : SenderSettings) (w : SenderWorld)
    (outboundMessageId : Nat) (result : SendResult) : SenderWorld :=
  { w with
    db := markOutboundFailed settings.periods w.db outboundMessageId result.status
      (textOr result.lastError "") result.retryable }

/-- A message whose first call raises an exception is recorded with what this exception means. -/
theorem exec_firstCall {message : LeasedMessage} {op : SenderOp}
    (hop : message.firstCall settings = some op) (hactive : message.isHumanActive = false)
    (hfresh : hasText message.row.conversationId = true →
      ((w.db.conversation? (textOr message.row.conversationId "")).any fun row =>
        decide (row.status = .humanActive)) = false) :
    (Prog.exec (raisingClient settings raises) w (processPendingMessage settings message)).2 =
      w.markedFailed settings message.row.id
        (classifySendError settings (raises op) message.row.retryCount) := by
  have hsend : (Prog.exec (raisingClient settings raises) w
      (if message.type = "buttons" then processButtons settings message
      else if message.type = "text" ∨ message.type = "image" then
        processTextOrImage settings message
      else markResult message (.final .skippedUnsupported
        (some ("unsupported outbound message_type: " ++ message.type))))).2 =
      w.markedFailed settings message.row.id
        (classifySendError settings (raises op) message.row.retryCount) := by
    unfold LeasedMessage.firstCall at hop
    dsimp only at hop
    by_cases hbuttons : message.type = "buttons"
    · rw [if_pos hbuttons] at hop ⊢
      unfold processButtons
      cases hmenu : settings.menuForPayload message.row.payloadJson with
      | error text =>
          rw [hmenu] at hop
          cases hop
      | ok menu =>
          rw [hmenu] at hop
          cases hop
          rfl
    · rw [if_neg hbuttons] at hop ⊢
      by_cases htext : message.type = "text"
      · have himage : decide (message.type = "image") = false := by simp [htext]
        rw [if_pos htext] at hop
        rw [if_pos (Or.inl htext)]
        obtain ⟨text, hstored, hcall⟩ := Option.map_eq_some_iff.mp hop
        cases hcall
        unfold processTextOrImage
        dsimp only
        rw [himage]
        unfold sendText
        rw [hstored]
        rfl
      · rw [if_neg htext] at hop
        by_cases himage : message.type = "image"
        · rw [if_pos himage] at hop
          rw [if_pos (Or.inr himage)]
          unfold processTextOrImage
          dsimp only
          rw [decide_eq_true himage]
          unfold sendImage
          dsimp only
          by_cases htelegram : (getKey message.row.payloadJson "asset_source").eqText "telegram" = true
          · rw [if_pos htelegram] at hop
            cases hop
            rw [htelegram]
            rfl
          · rw [if_neg htelegram] at hop
            cases hop
            rw [Bool.not_eq_true] at htelegram
            rw [htelegram]
            cases hfallback : settings.imageTextFallback with
            | false => rfl
            | true => rfl
        · rw [if_neg himage] at hop
          cases hop
  have hcheck (htext : hasText message.row.conversationId = true) :
      Prog.exec (raisingClient settings raises) w
      (SenderOp.isConversationHumanActive (textOr message.row.conversationId "")).call =
        (.ok false, w) := by
    rw [← hfresh htext]
    rfl
  unfold processPendingMessage
  dsimp only
  rw [hactive]
  split
  · next htext =>
    rw [Prog.exec_bind, hcheck htext]
    exact hsend
  · exact hsend

/-- What was joined when the row was leased is what the fresh look finds. -/
theorem fresh_of_leased {db : Database} {row : OutboundRow}
    (hactive : (db.leased row).isHumanActive = false)
    (htext : hasText (db.leased row).row.conversationId = true) :
    ((db.conversation? (textOr (db.leased row).row.conversationId "")).any fun row =>
      decide (row.status = .humanActive)) = false := by
  have hconversation : (db.leased row).row.conversationId = row.conversationId := rfl
  rw [hconversation] at htext ⊢
  cases hid : row.conversationId with
  | none =>
      rw [hid] at htext
      cases htext
  | some conversationId =>
      have hstatus : (db.leased row).conversationStatus =
          (db.conversation? conversationId).map ConversationRow.status := by
        simp [Database.leased, hid]
      simp only [LeasedMessage.isHumanActive, Bool.or_eq_false_iff, decide_eq_false_iff_not,
        hstatus] at hactive
      have hname : textOr (some conversationId) "" = conversationId := by simp [textOr]
      rw [hname]
      cases hstored : db.conversation? conversationId with
      | none => rfl
      | some stored => simpa [hstored] using hactive.1

/-- After `n` failures the row is open, and the next attempt starts with the same call. -/
def IsRetried (settings : SenderSettings) (outboundMessageId : Nat) (op : SenderOp) (n : Nat)
    (w : SenderWorld) : Prop :=
  ∃ row, w.db.outboundRow? outboundMessageId = some row ∧ row.retryCount = n ∧
    row.status.isOpen = true ∧ (0 < n → row.status = .retryable) ∧
    (w.db.leased row).isHumanActive = false ∧ (w.db.leased row).firstCall settings = some op

variable {outboundMessageId n : Nat} {op : SenderOp} {attempt : SendAttempt}

/-- The row that an attempt leaves. -/
theorem outboundRow?_attemptRow (hretried : IsRetried settings outboundMessageId op n w) :
    ∃ row now, w.db.outboundRow? outboundMessageId = some row ∧ row.retryCount = n ∧
      (attemptRow settings outboundMessageId w attempt).db.outboundRow? outboundMessageId =
        some (row.failed settings.periods now
          (classifySendError settings (attempt.raises op) n).status
          (textOr (classifySendError settings (attempt.raises op) n).lastError "")
          (classifySendError settings (attempt.raises op) n).retryable) ∧
      (attemptRow settings outboundMessageId w attempt).db.conversationStates =
        w.db.conversationStates := by
  obtain ⟨row, hrow, rfl, hopen, -, hactive, hop⟩ := hretried
  obtain rfl : row.id = outboundMessageId := by simpa using List.find?_some hrow
  let later : SenderWorld := { w with db := { w.db with now := w.db.now + attempt.elapsed } }
  have hattempt : attemptRow settings row.id w attempt =
      (Prog.exec (raisingClient settings attempt.raises) later
        (processPendingMessage settings (later.db.leased row))).2 := by
    have hstored : later.db.outboundRow? row.id = some row := hrow
    change (match later.db.outboundRow? row.id with
      | none => later
      | some row =>
          if row.status.isOpen then
            (Prog.exec (raisingClient settings attempt.raises) later
              (processPendingMessage settings (later.db.leased row))).2
          else later) = _
    rw [hstored]
    exact if_pos hopen
  have hexec := @exec_firstCall settings attempt.raises later (later.db.leased row) op hop hactive
    (fresh_of_leased hactive)
  refine ⟨row, later.db.now, hrow, rfl, ?_, ?_⟩
  · rw [hattempt, hexec]
    have hselect : ∀ stored : OutboundRow, decide ((stored.failed settings.periods later.db.now
        (classifySendError settings (attempt.raises op) row.retryCount).status
        (textOr (classifySendError settings (attempt.raises op) row.retryCount).lastError "")
        (classifySendError settings (attempt.raises op) row.retryCount).retryable).id = row.id) =
        decide (stored.id = row.id) := fun stored => by rw [id_failed]
    exact (@Table.find?_select_updateWhere _ _ _ later.db.outboundMessages _ _
      (fun stored => dedupKey_failed stored _ _ _ _ _) hselect).trans (congrArg _ hrow)
  · rw [hattempt, hexec]
    rfl

/-- A failure that is retried changes neither the columns of a conversation nor what is sent. -/
theorem leased_failed {db db' : Database} (hconversations : db'.conversationStates =
      db.conversationStates) (row : OutboundRow) (periods : OutboundPeriods) (now : Nat)
    (status : QueueStatus) (error : String) :
    (db'.leased (row.failed periods now status error true)).isHumanActive =
        (db.leased row).isHumanActive ∧
      (db'.leased (row.failed periods now status error true)).firstCall settings =
        (db.leased row).firstCall settings := by
  have hleased : db'.leased (row.failed periods now status error true) =
      ⟨row.failed periods now status error true, (db.leased row).conversationStatus,
        (db.leased row).conversationActiveWorkflow⟩ := by
    have hsame : db'.conversation? = db.conversation? := by
      unfold Database.conversation?
      rw [hconversations]
    unfold Database.leased
    rw [hsame]
    rfl
  rw [hleased]
  exact ⟨rfl, rfl⟩

/-- An attempt either keeps the row waiting for the next one, or it fails the row. -/
theorem attempt_cases (hretried : IsRetried settings outboundMessageId op n w) :
    ((classifySendError settings (attempt.raises op) n).retryable = true ∧
        IsRetried settings outboundMessageId op (n + 1)
          (attemptRow settings outboundMessageId w attempt)) ∨
      ((classifySendError settings (attempt.raises op) n).retryable = false ∧
        ∃ row, (attemptRow settings outboundMessageId w attempt).db.outboundRow?
            outboundMessageId = some row ∧ row.status.isFailure = true) := by
  obtain ⟨row, now, hrow, hcount, hafter, hconversations⟩ :=
    @outboundRow?_attemptRow settings w outboundMessageId n op attempt hretried
  rcases decided_classifySendError settings (attempt.raises op) n with
    ⟨hretry, hstatus⟩ | ⟨hretry, hfailure, -⟩
  · left
    rw [hretry, hstatus] at hafter
    obtain ⟨stored, hstored, -, -, -, hactive, hop⟩ := hretried
    cases hrow.symm.trans hstored
    obtain ⟨hsameActive, hsameCall⟩ := @leased_failed settings _ _ hconversations row
      settings.periods now .retryable
      (textOr (classifySendError settings (attempt.raises op) n).lastError "")
    refine ⟨hretry, _, hafter, ?_, rfl, fun _ => rfl, hsameActive.trans hactive,
      hsameCall.trans hop⟩
    rw [← hcount]
    rfl
  · right
    refine ⟨hretry, _, hafter, ?_⟩
    rw [status_failed]
    exact hfailure

end Attempt

/-! ## Sequences of attempts -/

section Sequence

variable {settings : SenderSettings} {outboundMessageId : Nat} {op : SenderOp} {w : SenderWorld}
  {attempts : Nat → SendAttempt}

/-- The `n`-th attempt is retried, if it is the first one that may not be. -/
def RetriedAt (settings : SenderSettings) (op : SenderOp) (attempts : Nat → SendAttempt)
    (n : Nat) : Prop :=
  (classifySendError settings ((attempts n).raises op) n).retryable = true

theorem isRetried_afterAttempts (hstart : IsRetried settings outboundMessageId op 0 w) {n : Nat}
    (h : ∀ k < n, RetriedAt settings op attempts k) :
    IsRetried settings outboundMessageId op n
      (afterAttempts settings outboundMessageId w attempts n) := by
  induction n with
  | zero => exact hstart
  | succ n ih =>
      have hbefore := ih fun k hk => h k (by omega)
      rcases @attempt_cases settings _ outboundMessageId _ op (attempts n) hbefore with
        ⟨-, hnext⟩ | ⟨hfailed, -⟩
      · exact hnext
      · have hretry := h n (by omega)
        rw [RetriedAt, hfailed] at hretry
        cases hretry

/-- The status after some attempts. -/
def statusAfter (settings : SenderSettings) (outboundMessageId : Nat) (w : SenderWorld)
    (attempts : Nat → SendAttempt) (n : Nat) : Option QueueStatus :=
  ((afterAttempts settings outboundMessageId w attempts n).db.outboundRow?
    outboundMessageId).map OutboundRow.status

theorem statusAfter_retried (hstart : IsRetried settings outboundMessageId op 0 w) {n : Nat}
    (hpos : 0 < n) (h : ∀ k < n, RetriedAt settings op attempts k) :
    statusAfter settings outboundMessageId w attempts n = some .retryable := by
  obtain ⟨row, hrow, -, -, hstatus, -⟩ := isRetried_afterAttempts hstart h
  rw [statusAfter, hrow, Option.map_some, hstatus hpos]

/-- The row is given up exactly if one of the first attempts is not retried. -/
theorem givenUpWithin_iff_exists (hstart : IsRetried settings outboundMessageId op 0 w)
    (limit : Nat) :
    GivenUpWithin limit (statusAfter settings outboundMessageId w attempts) ↔
      ∃ n < limit, ¬RetriedAt settings op attempts n := by
  constructor
  · rintro ⟨n, hlimit, -, status, hstatus, hfailure⟩
    by_contra hall
    push Not at hall
    have hretried := statusAfter_retried hstart n.succ_pos fun k hk => hall k (by omega)
    cases hstatus.symm.trans hretried
    revert hfailure
    decide
  · intro hexists
    classical
    obtain ⟨hlimit, hnot⟩ := Nat.find_spec hexists
    have hbefore : ∀ k < Nat.find hexists, RetriedAt settings op attempts k := by
      intro k hk
      by_contra hretried
      exact Nat.find_min hexists hk ⟨hk.trans hlimit, hretried⟩
    refine ⟨Nat.find hexists, hlimit, ?_, ?_⟩
    · intro k hpos hle
      exact statusAfter_retried hstart hpos fun j hj => hbefore j (by omega)
    · rcases @attempt_cases settings _ outboundMessageId _ op
        (attempts (Nat.find hexists)) (isRetried_afterAttempts hstart hbefore) with
        ⟨hretry, -⟩ | ⟨-, row, hrow, hfailure⟩
      · exact absurd hretry hnot
      · refine ⟨row.status, ?_, hfailure⟩
        rw [statusAfter, afterAttempts, hrow, Option.map_some]

end Sequence

/-- Whatever the client raises: a row is retried fewer times than the limit says and then fails,
exactly if one of the first attempts fails for good, or the last of them fails on LiveChat. -/
theorem givenUpWithin_iff (settings : SenderSettings) (limit : Nat)
    (hlimit : settings.maxRetries = limit) (hpositive : 0 < limit) {w : SenderWorld}
    {row : OutboundRow} {outboundMessageId : Nat} {op : SenderOp}
    (hrow : w.db.outboundRow? outboundMessageId = some row) (hcount : row.retryCount = 0)
    (hopen : row.status.isOpen = true) (hactive : (w.db.leased row).isHumanActive = false)
    (hop : (w.db.leased row).firstCall settings = some op) (attempts : Nat → SendAttempt) :
    GivenUpWithin limit (statusAfter settings outboundMessageId w attempts) ↔
      (∃ n < limit, ((attempts n).raises op).isTemporary = false) ∨
        ((attempts (limit - 1)).raises op).isLivechatApi = true := by
  have hstart : IsRetried settings outboundMessageId op 0 w :=
    ⟨row, hrow, hcount, hopen, fun hpos => absurd hpos (by omega), hactive, hop⟩
  have hreached : ∀ n, retryLimitReached settings.maxRetries n = true ↔ limit ≤ n + 1 := by
    intro n
    simp only [retryLimitReached, hlimit, Bool.and_eq_true, decide_eq_true_eq]
    omega
  rw [givenUpWithin_iff_exists hstart]
  simp only [RetriedAt, retryable_classifySendError]
  constructor
  · rintro ⟨n, hn, hnot⟩
    by_cases htemporary : ((attempts n).raises op).isTemporary = true
    · right
      by_contra hlast
      apply hnot
      refine ⟨htemporary, fun hlivechat => ?_⟩
      by_contra hlimited
      rw [Bool.not_eq_false, hreached] at hlimited
      obtain rfl : n = limit - 1 := by omega
      exact hlast hlivechat
    · left
      exact ⟨n, hn, by simpa using htemporary⟩
  · rintro (⟨n, hn, htemporary⟩ | hlivechat)
    · refine ⟨n, hn, fun h => ?_⟩
      rw [htemporary] at h
      cases h.1
    · refine ⟨limit - 1, by omega, fun h => ?_⟩
      have hunlimited := h.2 hlivechat
      rw [(hreached (limit - 1)).mpr (by omega)] at hunlimited
      cases hunlimited

/-! ## A call that always times out -/

/-- The client times out on every attempt. -/
def timedOutAttempts (_ : Nat) : SendAttempt := ⟨seconds 60, fun _ => .timeout "timed out"⟩

/-- LiveChat answers every attempt with a server error. -/
def refusedAttempts (_ : Nat) : SendAttempt := ⟨seconds 60, fun _ => .livechatApi 500 ∅⟩

/-- The call of the text that waits in the queue. -/
def queuedCall : SenderOp := .send (.text "C" (some "T") "hello" none)

/-- The default limit of 20 attempts is passed, and the row is still retried. -/
theorem timed_out_row_is_retried :
    ¬GivenUpWithin 20 (statusAfter (.plain "worker") 1 ⟨queuedText, []⟩ timedOutAttempts) := by
  have hstart : IsRetried (.plain "worker") 1 queuedCall 0 ⟨queuedText, []⟩ :=
    ⟨_, rfl, rfl, rfl, fun hpos => absurd hpos (by decide), rfl, rfl⟩
  rw [givenUpWithin_iff_exists hstart]
  rintro ⟨n, -, hnot⟩
  exact hnot rfl

/-- Server errors of LiveChat are given up at the limit. -/
theorem refused_row_is_given_up :
    GivenUpWithin 20 (statusAfter (.plain "worker") 1 ⟨queuedText, []⟩ refusedAttempts) :=
  (@givenUpWithin_iff (.plain "worker") 20 rfl (by decide) ⟨queuedText, []⟩ _ 1 queuedCall rfl rfl
    rfl rfl rfl refusedAttempts).mpr (Or.inr rfl)

end AiCustomerService
