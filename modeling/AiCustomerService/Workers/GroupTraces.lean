import AiCustomerService.Support.Trace
import AiCustomerService.Workers.Sender

/-!
# What the sender hands over

The traces of a group are the traces of its messages, up to the first message that is not sent.
A message that is sent has been handed to the LiveChat client, and a message that the worker
skips or refuses is never handed to it.
-/

namespace AiCustomerService

open Support

/-- The operation is a call of the LiveChat client. -/
def SenderOp.isSend : SenderOp → Bool
  | .send _ => true
  | _ => false

/-- The trace hands something to the LiveChat client. -/
def callsClient (trace : List senderOps.Event) : Bool := trace.any fun event => event.1.isSend

/-- Remember whether something has been handed over. -/
def noteSend (handed : Bool) (event : senderOps.Event) : Bool := handed || event.1.isSend

theorem foldl_noteSend (handed : Bool) (trace : List senderOps.Event) :
    trace.foldl noteSend handed = (handed || callsClient trace) := by
  induction trace generalizing handed with
  | nil => simp [callsClient]
  | cons event rest ih => simp [ih, noteSend, callsClient, Bool.or_assoc]

/-- The phase of a program: whether something has been handed over. -/
abbrev sendNoted : Protocol senderOps Bool := fun p op r p' => p' = noteSend p ⟨op, r⟩

/-- The message can be sent: nobody has taken its conversation over, and its row has what the
call needs. -/
def LeasedMessage.Sendable (message : LeasedMessage) (settings : SenderSettings) : Prop :=
  message.isHumanActive = false ∧
    ((message.type = "buttons" ∧
        (settings.menuForPayload message.row.payloadJson).toOption.isSome = true) ∨
      (message.type = "text" ∧ (message.row.payloadJson.get? "text").isSome = true) ∨
      message.type = "image")

/-- What is sent has been handed over. -/
def SentIsHanded (handed : Bool) (outcome : Except ServiceError SendResult) : Prop :=
  ∀ result, outcome = .ok result → result.status = .sent → handed = true

variable {settings : SenderSettings} {message : LeasedMessage} {α : Type}

/-! ## Messages that are sent -/

/-- Once something has been handed over, this stays so. -/
theorem followsTo_handed (m : SenderProg α) :
    FollowsTo sendNoted (fun handed _ => handed = true) true m := by
  induction m with
  | ret a => rfl
  | raise e => rfl
  | call op k ih => exact fun r => ⟨true, rfl, ih r⟩

theorem sentIsHanded_of_handed (m : SenderProg SendResult) :
    FollowsTo sendNoted SentIsHanded true m :=
  (followsTo_handed m).mono fun _ _ h _ _ _ => h

theorem followsTo_call (op : SenderOp) (handed : Bool) :
    FollowsTo sendNoted (fun handed' _ => handed' = (handed || op.isSend)) handed op.call := by
  apply FollowsTo.perform
  intro r
  exact ⟨_, rfl, rfl⟩

theorem followsTo_send (request : SendRequest) (handed : Bool) :
    FollowsTo sendNoted (fun handed' _ => handed' = true) handed (SenderOp.send request).call := by
  apply (followsTo_call (.send request) handed).mono
  rintro handed' _ rfl
  simp [SenderOp.isSend]

theorem sentIsHanded_markResult {result : SendResult} (hresult : result.status ≠ .sent)
    (handed : Bool) : FollowsTo sendNoted SentIsHanded handed (markResult message result) := by
  unfold markResult
  apply (followsTo_call _ handed).bind
  · intro handed' _ _ result' hresult' hsent
    cases hresult'
    exact absurd hsent hresult
  · intro handed' _ _ result' hresult'
    cases hresult'

theorem status_classifySendError (exc : ServiceError) (retryCount : Nat) :
    (classifySendError settings exc retryCount).status ≠ .sent := by
  unfold classifySendError
  cases exc with
  | telegramApi =>
      simp only
      split <;> simp [SendResult.final]
  | livechatApi =>
      simp only
      repeat' split
      all_goals simp [SendResult.final]
  | _ => simp [SendResult.final]

theorem sentIsHanded_markError (exc : ServiceError) (handed : Bool) :
    FollowsTo sendNoted SentIsHanded handed (markError settings message exc) :=
  sentIsHanded_markResult (status_classifySendError exc message.row.retryCount) handed

theorem sentIsHanded_processButtons :
    FollowsTo sendNoted SentIsHanded false (processButtons settings message) := by
  unfold processButtons
  split
  · exact sentIsHanded_markResult (by simp [SendResult.final]) false
  · apply (followsTo_send _ false).attempt.bind
    · rintro handed' sent ⟨outcome, -, rfl⟩
      exact sentIsHanded_of_handed _
    · rintro handed' e ⟨outcome, hraised, -⟩
      cases hraised

/-- A call of a text or an image that returns has handed it over. -/
def ReturnIsHanded (handed : Bool) (outcome : Except ServiceError JsonObject) : Prop :=
  ∀ response, outcome = .ok response → handed = true

theorem returnIsHanded_sendText :
    FollowsTo sendNoted ReturnIsHanded false (sendText settings message) := by
  unfold sendText
  split
  · intro response hraised
    cases hraised
  · exact (followsTo_send _ false).mono fun _ _ h _ _ => h

theorem returnIsHanded_sendImage :
    FollowsTo sendNoted ReturnIsHanded false (sendImage settings message) := by
  have hsent : ∀ handed (request : SendRequest) (rest : JsonObject → SenderProg JsonObject),
      FollowsTo sendNoted ReturnIsHanded handed ((SenderOp.send request).call >>= rest) := by
    intro handed request rest
    apply (followsTo_send request handed).bind
    · intro handed' response hhanded
      rw [hhanded]
      exact (followsTo_handed (rest response)).mono fun _ _ h _ _ => h
    · intro handed' e _ response hraised
      cases hraised
  unfold sendImage
  simp only
  split
  · apply (followsTo_call _ false).bind
    · intro handed' file _
      exact hsent handed' _ _
    · intro handed' e _ response hraised
      cases hraised
  · exact hsent false _ _

theorem sentIsHanded_processTextOrImage :
    FollowsTo sendNoted SentIsHanded false (processTextOrImage settings message) := by
  unfold processTextOrImage
  simp only
  apply FollowsTo.bind (R := fun handed outcome =>
    ∃ sent, outcome = .ok sent ∧ ReturnIsHanded handed sent)
  · apply FollowsTo.attempt
    split
    · exact returnIsHanded_sendImage
    · exact returnIsHanded_sendText
  · rintro handed' sent ⟨_, houtcome, hhanded⟩
    cases houtcome
    cases sent with
    | ok response =>
        rw [hhanded response rfl]
        exact sentIsHanded_of_handed _
    | error exc =>
        simp only
        split
        · apply (followsTo_send _ handed').attempt.bind
          · rintro handed' fallback ⟨_, -, rfl⟩
            exact sentIsHanded_of_handed _
          · rintro handed' e ⟨_, hraised, -⟩
            cases hraised
        · exact sentIsHanded_markError exc handed'
  · rintro handed' e ⟨_, hraised, -⟩
    cases hraised

/-- What is left of `process_pending_message` after it has read the conversation. -/
def dispatchMessage (settings : SenderSettings) (message : LeasedMessage)
    (freshHumanActive : Bool) : SenderProg SendResult :=
  if message.isHumanActive || freshHumanActive then
    markResult message (.final .skippedHumanActive
      (some "conversation is HUMAN_ACTIVE or human_handoff; bot outbound skipped"))
  else if message.type = "buttons" then processButtons settings message
  else if message.type = "text" ∨ message.type = "image" then processTextOrImage settings message
  else
    markResult message (.final .skippedUnsupported
      (some ("unsupported outbound message_type: " ++ message.type)))

/-- The read of the conversation. -/
def readHumanActive (message : LeasedMessage) : SenderProg Bool :=
  if hasText message.row.conversationId then
    (SenderOp.isConversationHumanActive (textOr message.row.conversationId "")).call
  else pure false

theorem processPendingMessage_eq :
    processPendingMessage settings message =
      readHumanActive message >>= dispatchMessage settings message := by
  unfold processPendingMessage readHumanActive
  by_cases hread : hasText message.row.conversationId = true
  · rw [if_pos hread, if_pos hread]
    rfl
  · rw [if_neg hread, if_neg hread]
    rfl

theorem followsTo_readHumanActive :
    FollowsTo sendNoted (fun handed _ => handed = false) false (readHumanActive message) := by
  unfold readHumanActive
  split
  · exact (followsTo_call _ false).mono fun _ _ h => h
  · rfl

theorem sentIsHanded_processPendingMessage :
    FollowsTo sendNoted SentIsHanded false (processPendingMessage settings message) := by
  rw [processPendingMessage_eq]
  apply followsTo_readHumanActive.bind
  · rintro handed fresh rfl
    unfold dispatchMessage
    split
    · exact sentIsHanded_markResult (by simp [SendResult.final]) false
    · split
      · exact sentIsHanded_processButtons
      · split
        · exact sentIsHanded_processTextOrImage
        · exact sentIsHanded_markResult (by simp [SendResult.final]) false
  · intro handed e _ result hraised
    cases hraised

theorem sentIsHanded_processOrRelease :
    FollowsTo sendNoted SentIsHanded false (processOrRelease settings message) := by
  unfold processOrRelease
  apply sentIsHanded_processPendingMessage.attempt.bind
  · rintro handed outcome ⟨_, houtcome, hhanded⟩
    cases houtcome
    cases outcome with
    | ok result => exact hhanded
    | error exc =>
        apply (followsTo_call _ handed).bind
        · intro handed' _ _ result hresult hsent
          cases hresult
          simp [SendResult.final] at hsent
        · intro handed' e _ result hraised
          cases hraised
  · rintro handed e ⟨_, hraised, -⟩
    cases hraised

/-- A message that has been sent has been handed over. -/
theorem callsClient_of_sent {trace : List senderOps.Event} {result : SendResult}
    (h : (processOrRelease settings message).Runs trace (.ok result))
    (hsent : result.status = .sent) : callsClient trace = true := by
  have hhanded := h.fold sentIsHanded_processOrRelease result rfl hsent
  rwa [foldl_noteSend, Bool.false_or] at hhanded

/-! ## Messages that are skipped or refused -/

/-- The program calls the LiveChat client nowhere. -/
abbrev Silent (m : SenderProg α) : Prop :=
  Prog.All (I := senderOps) (fun op : SenderOp => op.isSend = false) m

theorem silent_call {op : SenderOp} (h : op.isSend = false) : Silent op.call :=
  @Prog.all_perform senderOps (fun op : SenderOp => op.isSend = false) op h

theorem silent_markResult (result : SendResult) : Silent (markResult message result) :=
  (silent_call rfl).bind fun _ => trivial

theorem silent_readHumanActive : Silent (readHumanActive message) := by
  unfold readHumanActive
  split
  · exact silent_call rfl
  · trivial

theorem silent_dispatchMessage (h : ¬message.Sendable settings) (freshHumanActive : Bool) :
    Silent (dispatchMessage settings message freshHumanActive) := by
  unfold dispatchMessage
  split
  · exact silent_markResult _
  · rename_i hactive
    have hsendable : message.isHumanActive = false := by
      simp only [Bool.or_eq_true, not_or, Bool.not_eq_true] at hactive
      exact hactive.1
    split
    · rename_i hbuttons
      unfold processButtons
      split
      · exact silent_markResult _
      · rename_i menu hmenu
        exact absurd ⟨hsendable, Or.inl ⟨hbuttons, by rw [hmenu]; rfl⟩⟩ h
    · split
      · rename_i htype
        rcases htype with htext | himage
        · cases hpayload : message.row.payloadJson.get? "text" with
          | none =>
              have hnotImage : message.type ≠ "image" := by simp [htext]
              have hraise : processTextOrImage settings message =
                  markError settings message (.python (.keyError "text")) := by
                unfold processTextOrImage sendText
                simp only [hnotImage, decide_false, Bool.false_eq_true, if_false, hpayload]
                rfl
              rw [hraise]
              exact silent_markResult _
          | some text =>
              exact absurd ⟨hsendable, Or.inr (Or.inl ⟨htext, by rw [hpayload]; rfl⟩)⟩ h
        · exact absurd ⟨hsendable, Or.inr (Or.inr himage)⟩ h
      · exact silent_markResult _

theorem silent_processOrRelease (h : ¬message.Sendable settings) :
    Silent (processOrRelease settings message) := by
  unfold processOrRelease
  rw [processPendingMessage_eq]
  apply (silent_readHumanActive.bind (silent_dispatchMessage h)).attempt.bind
  intro outcome
  cases outcome with
  | ok result => trivial
  | error exc => exact (silent_call rfl).bind fun _ => trivial

/-- Only a message that can be sent is handed over. -/
theorem sendable_of_callsClient {trace : List senderOps.Event}
    {outcome : Except ServiceError SendResult}
    (h : (processOrRelease settings message).Runs trace outcome) (hhanded : callsClient trace = true) :
    message.Sendable settings := by
  by_contra hsendable
  have hsilent : FollowsTo sendNoted (fun handed _ => handed = false) false
      (processOrRelease settings message) := by
    apply FollowsTo.of_all (silent_processOrRelease hsendable)
    intro op r hop
    simp [noteSend, hop]
  have hnone := h.fold hsilent
  rw [foldl_noteSend, Bool.false_or, hhanded] at hnone
  cases hnone

/-! ## Messages that can be sent -/

/-- The answer of the client to a message that it accepts. -/
def accepted : JsonObject := .ofList [("success", .bool true)]

theorem runs_call (op : SenderOp) (a : op.Res) :
    Prog.Runs (I := senderOps) op.call [⟨op, .ok a⟩] (.ok a) :=
  @Prog.runs_perform senderOps op (.ok a)

theorem runs_markResponse (history : JsonObject) (lastError : Option String) :
    ∃ trace result, (markResponse settings message history accepted lastError).Runs trace
      (.ok result) ∧ result.status = .sent := by
  have hsent : (classifySendResult settings.runtime accepted).status = .sent := rfl
  unfold markResponse
  simp only [hsent, if_true]
  exact ⟨_, _, (runs_call (.markSentWithMessage _ _ _) ()).bind (.ret _), hsent⟩

theorem runs_sendImageCaption :
    ∃ trace, (sendImageCaption settings message).Runs trace (.ok ()) := by
  unfold sendImageCaption
  simp only
  split
  · exact ⟨_, .ret _⟩
  · exact ⟨_, (runs_call (.send _) accepted).attempt.bind (.ret _)⟩

theorem runs_sendImage : ∃ trace, (sendImage settings message).Runs trace (.ok accepted) := by
  obtain ⟨caption, hcaption⟩ := @runs_sendImageCaption settings message
  unfold sendImage
  simp only
  split
  · exact ⟨_, (runs_call (.downloadFile _) ∅).bind
      ((runs_call (.send _) accepted).bind (hcaption.bind (.ret _)))⟩
  · exact ⟨_, (runs_call (.send _) accepted).bind (hcaption.bind (.ret _))⟩

theorem runs_sendText (h : (message.row.payloadJson.get? "text").isSome = true) :
    ∃ trace, (sendText settings message).Runs trace (.ok accepted) := by
  unfold sendText
  cases htext : message.row.payloadJson.get? "text" with
  | none => simp [htext] at h
  | some text => exact ⟨_, runs_call (.send _) accepted⟩

theorem runs_processTextOrImage
    (h : ∃ trace, (if message.type = "image" then sendImage settings message
      else sendText settings message).Runs trace (.ok accepted)) :
    ∃ trace result, (processTextOrImage settings message).Runs trace (.ok result) ∧
      result.status = .sent := by
  obtain ⟨before, hcall⟩ := h
  obtain ⟨after, result, hmark, hsent⟩ :=
    @runs_markResponse settings message (historyPayload settings message) none
  refine ⟨before ++ after, result, ?_, hsent⟩
  unfold processTextOrImage
  simp only [decide_eq_true_eq]
  exact hcall.attempt.bind hmark

theorem runs_dispatchMessage (h : message.Sendable settings) :
    ∃ trace result, (dispatchMessage settings message false).Runs trace (.ok result) ∧
      result.status = .sent := by
  obtain ⟨hactive, hcontent⟩ := h
  unfold dispatchMessage
  rw [hactive, if_neg (by simp)]
  rcases hcontent with ⟨hbuttons, hmenu⟩ | ⟨htext, hpayload⟩ | himage
  · rw [if_pos hbuttons]
    unfold processButtons
    cases hready : settings.menuForPayload message.row.payloadJson with
    | error text => simp [hready, Except.toOption] at hmenu
    | ok menu =>
        obtain ⟨after, result, hmark, hsent⟩ := @runs_markResponse settings message (.ofList [
          ("text", .str (settings.fallbackText menu)), ("menu_key", getKey menu "menu_key")]) none
        exact ⟨_, result, (runs_call (.send _) accepted).attempt.bind hmark, hsent⟩
  · rw [if_neg (by simp [htext]), if_pos (Or.inl htext)]
    apply runs_processTextOrImage
    rw [if_neg (by simp [htext])]
    exact runs_sendText hpayload
  · rw [if_neg (by simp [himage]), if_pos (Or.inr himage)]
    apply runs_processTextOrImage
    rw [if_pos himage]
    exact runs_sendImage

/-- A message that can be sent is sent in some run. -/
theorem exists_sent (h : message.Sendable settings) :
    ∃ trace result, (processOrRelease settings message).Runs trace (.ok result) ∧
      result.status = .sent := by
  have hread : ∃ trace, (readHumanActive message).Runs trace (.ok false) := by
    unfold readHumanActive
    split
    · exact ⟨_, runs_call (.isConversationHumanActive _) false⟩
    · exact ⟨_, .ret _⟩
  obtain ⟨before, hbefore⟩ := hread
  obtain ⟨after, result, hafter, hsent⟩ := runs_dispatchMessage h
  refine ⟨before ++ after ++ [], result, ?_, hsent⟩
  unfold processOrRelease
  rw [processPendingMessage_eq]
  exact (hbefore.bind hafter).attempt.bind (.ret _)

/-! ## Groups -/

/-- The messages of a group that are taken up, each with what is executed for it. -/
abbrev GroupTrace := List (LeasedMessage × List senderOps.Event)

/-- A group is processed message by message, up to the first one that is not sent. -/
inductive GroupRuns (settings : SenderSettings) : List LeasedMessage → GroupTrace → Prop
  | done : GroupRuns settings [] []
  | sent {message : LeasedMessage} {group : List LeasedMessage} {trace : List senderOps.Event}
      {result : SendResult} {rest : GroupTrace}
      (h : (processOrRelease settings message).Runs trace (.ok result))
      (hsent : result.status = .sent) (hrest : GroupRuns settings group rest) :
      GroupRuns settings (message :: group) ((message, trace) :: rest)
  | stopped {message : LeasedMessage} {group : List LeasedMessage} {trace : List senderOps.Event}
      {outcome : Except ServiceError SendResult}
      (h : (processOrRelease settings message).Runs trace outcome)
      (hstop : ∀ result, outcome = .ok result → result.status ≠ .sent) :
      GroupRuns settings (message :: group) [(message, trace)]

/-- The messages that are handed to the LiveChat client, in order. -/
def handedMessages (segments : GroupTrace) : List LeasedMessage :=
  (segments.filter fun segment => callsClient segment.2).map Prod.fst

theorem silent_releaseRemaining (messages : List LeasedMessage) :
    Silent (releaseRemaining messages) := by
  induction messages with
  | nil => trivial
  | cons message rest ih => exact (silent_call rfl).bind fun _ => ih

theorem not_callsClient_of_silent {m : SenderProg α} {trace : List senderOps.Event}
    {outcome : Except ServiceError α} (hsilent : Silent m) (h : m.Runs trace outcome) :
    callsClient trace = false := by
  have hfollows : FollowsTo sendNoted (fun handed _ => handed = false) false m := by
    apply FollowsTo.of_all hsilent
    intro op r hop
    simp [noteSend, hop]
  have hnone := h.fold hfollows
  rwa [foldl_noteSend, Bool.false_or] at hnone

/-- What `process_message_group` executes: the traces of its messages, and releases. -/
theorem groupRuns_of_runs {group : List LeasedMessage} {trace : List senderOps.Event}
    {outcome : Except ServiceError Unit}
    (h : (processMessageGroup settings group).Runs trace outcome) :
    ∃ segments releases, GroupRuns settings group segments ∧
      trace = segments.flatMap Prod.snd ++ releases ∧ callsClient releases = false := by
  induction group generalizing trace with
  | nil =>
      cases h
      exact ⟨[], [], .done, rfl, rfl⟩
  | cons message rest ih =>
      rw [processMessageGroup] at h
      rcases h.of_bind with ⟨e, hraise, -⟩ | ⟨before, result, after, rfl, hfirst, hrest⟩
      · refine ⟨[(message, trace)], [], .stopped hraise ?_, by simp, rfl⟩
        intro result hreturn
        cases hreturn
      · by_cases hsent : result.status = .sent
        · rw [if_pos hsent] at hrest
          obtain ⟨segments, releases, hgroup, rfl, hsilent⟩ := ih hrest
          exact ⟨(message, before) :: segments, releases, .sent hfirst hsent hgroup, by simp,
            hsilent⟩
        · rw [if_neg hsent] at hrest
          refine ⟨[(message, before)], after, .stopped hfirst ?_, by simp, ?_⟩
          · intro result' hreturn
            cases hreturn
            exact hsent
          · exact not_callsClient_of_silent (silent_releaseRemaining rest) hrest

/-- The messages that are handed over are the first ones of the group, and all of them can be
sent. -/
theorem handedMessages_prefix {group : List LeasedMessage} {segments : GroupTrace}
    (h : GroupRuns settings group segments) :
    handedMessages segments <+: group ∧
      ∀ message ∈ handedMessages segments, message.Sendable settings := by
  induction h with
  | done => exact ⟨List.prefix_refl _, by simp [handedMessages]⟩
  | @sent message group trace result rest h hsent hrest ih =>
      have hhanded : callsClient trace = true := callsClient_of_sent h hsent
      have hcons : handedMessages ((message, trace) :: rest) = message :: handedMessages rest := by
        simp [handedMessages, hhanded]
      rw [hcons]
      refine ⟨List.cons_prefix_cons.mpr ⟨rfl, ih.1⟩, ?_⟩
      intro other hother
      rcases List.mem_cons.mp hother with rfl | hother
      · exact sendable_of_callsClient h hhanded
      · exact ih.2 other hother
  | @stopped message group trace outcome h hstop =>
      by_cases hhanded : callsClient trace = true
      · have hone : handedMessages [(message, trace)] = [message] := by
          simp [handedMessages, hhanded]
        rw [hone]
        refine ⟨⟨group, rfl⟩, ?_⟩
        intro other hother
        rw [List.mem_singleton.mp hother]
        exact sendable_of_callsClient h hhanded
      · have hnone : handedMessages [(message, trace)] = [] := by
          simp [handedMessages, hhanded]
        rw [hnone]
        exact ⟨List.nil_prefix, by simp⟩

theorem exists_groupRuns (settings : SenderSettings) (group : List LeasedMessage) :
    ∃ segments, GroupRuns settings group segments := by
  induction group with
  | nil => exact ⟨[], .done⟩
  | cons message rest ih =>
      obtain ⟨trace, outcome, h⟩ : ∃ trace outcome,
          Prog.Runs (processOrRelease settings message) trace outcome :=
        ⟨_, _, Prog.runs_traceOf (I := senderOps) (fun _ => .error (.timeout "timed out")) _⟩
      by_cases hsent : ∃ result, outcome = .ok result ∧ result.status = .sent
      · obtain ⟨result, rfl, hsent⟩ := hsent
        obtain ⟨segments, hrest⟩ := ih
        exact ⟨_, .sent h hsent hrest⟩
      · refine ⟨_, .stopped h ?_⟩
        intro result hresult hstatus
        exact hsent ⟨result, hresult, hstatus⟩

/-- Messages that can be sent, and that lead their group, are handed over in some run. -/
theorem exists_handed {front : List LeasedMessage}
    (h : ∀ message ∈ front, message.Sendable settings) (rest : List LeasedMessage) :
    ∃ segments, GroupRuns settings (front ++ rest) segments ∧
      front <+: handedMessages segments := by
  induction front with
  | nil =>
      obtain ⟨segments, hgroup⟩ := exists_groupRuns settings rest
      exact ⟨segments, hgroup, List.nil_prefix⟩
  | cons message front ih =>
      obtain ⟨trace, result, hfirst, hsent⟩ := exists_sent (h message List.mem_cons_self)
      obtain ⟨segments, hgroup, hprefix⟩ :=
        ih fun other hother => h other (List.mem_cons_of_mem _ hother)
      refine ⟨(message, trace) :: segments, .sent hfirst hsent hgroup, ?_⟩
      have hhanded : callsClient trace = true := callsClient_of_sent hfirst hsent
      have hcons : handedMessages ((message, trace) :: segments) =
          message :: handedMessages segments := by
        simp [handedMessages, hhanded]
      rw [hcons]
      exact List.cons_prefix_cons.mpr ⟨rfl, hprefix⟩

end AiCustomerService
