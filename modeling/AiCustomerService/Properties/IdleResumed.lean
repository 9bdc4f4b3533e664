import AiCustomerService.Support.Trace
import AiCustomerService.Workers.IdleTimer

/-!
# The idle timer after an answer

A conversation goes on after its chat was closed, or after the customer wrote while the follow-up
was on its way.  What the earlier cycle left in the slot memory is still there when the assistant
has answered, and the timer reads it before it looks at the answer.
-/

namespace AiCustomerService

open Support

/-- What the timer finds in the database: the latest message is of the assistant, and every
activity of the customer is processed and was before it. -/
structure AnsweredChat where
  latest : ConversationMessageRow
  activity : List Nat
  createdAt : Int → Option Nat
  unfinished : Bool
  assistant : latest.senderRole = "assistant"
  answered : ∀ time ∈ activity, time < latest.createdAt

/-- The customer was active after the cutoff. -/
def AnsweredChat.activeAfter (chat : AnsweredChat) (cutoff : Nat) : Bool :=
  chat.activity.any fun time => decide (cutoff < time)

/-- Where a query of the timer is answered, it is answered with what is stored; the other
operations may answer anything, and every operation may raise. -/
def AnsweredChat.Answers (chat : AnsweredChat) : idleOps.Event → Prop
  | ⟨.fetchLatestMessage _, .ok found⟩ => found = some chat.latest
  | ⟨.fetchMessageCreatedAt _ messageId, .ok found⟩ => found = chat.createdAt messageId
  | ⟨.hasUnfinishedWork _, .ok found⟩ => found = chat.unfinished
  | ⟨.hasCustomerActivityAfter _ cutoff, .ok found⟩ => found = chat.activeAfter cutoff
  | _ => True

/-- The two results that tell the timer to leave the conversation alone. -/
def standingStatuses : List String :=
  ["SKIPPED_ALREADY_CLOSED", "SKIPPED_PENDING_INBOUND_CUSTOMER_REPLY"]

/-- The result is that of a timer that goes on. -/
def GoesOn (processed : IdleResult × JsonObject) : Prop :=
  processed.1.status ∉ standingStatuses

/-- Whatever the operations answer, the timer goes on. -/
def AnsweredChat.KeepsTimer (chat : AnsweredChat) (rt : Runtime) (settings : IdleSettings)
    (now : Nat) (candidate : IdleCandidate) : Prop :=
  ∀ processed, Prog.CanReturn chat.Answers
    (processIdleConversation rt settings now candidate) processed → GoesOn processed

/-- The time of the message that an earlier cycle started from, as it is remembered. -/
def AnsweredChat.cutoff? (chat : AnsweredChat) (rt : Runtime) (slotMemory : JsonObject) :
    Option Nat :=
  match parseDatetime rt (getKey slotMemory "idle_base_assistant_created_at") with
  | some persisted => some persisted
  | none =>
      let messageId := getKey slotMemory "idle_base_assistant_message_id"
      if messageId.isNull then none
      else
        match messageId.toInt rt with
        | .ok messageId => chat.createdAt messageId
        | .error _ => none

/-- An unfinished cycle has come to the point where the timer acts again. -/
def CycleIsDue (settings : IdleSettings) (now : Nat) (followupSentAt closeSentAt : Option Nat) :
    Prop :=
  closeSentAt.isSome = true ∨
    ∃ sentAt, followupSentAt = some sentAt ∧
      withinSeconds now sentAt settings.closeSeconds = false

/-- The customer wrote after the message that the unfinished cycle started from, but not after the
follow-up, and the cycle is due. -/
def AnsweredChat.HidesReply (chat : AnsweredChat) (rt : Runtime) (settings : IdleSettings)
    (now : Nat) (slotMemory : JsonObject) : Prop :=
  let followupSentAt := parseDatetime rt (getKey slotMemory "idle_followup_sent_at")
  let closeSentAt := parseDatetime rt (getKey slotMemory "idle_close_sent_at")
  (∀ sentAt, followupSentAt = some sentAt → chat.activeAfter sentAt = false) ∧
    CycleIsDue settings now followupSentAt closeSentAt ∧
    ∃ cutoff, chat.cutoff? rt slotMemory = some cutoff ∧ chat.activeAfter cutoff = true

/-! ## Results that do not depend on the answers -/

section Returns

variable {rt : Runtime} {settings : IdleSettings} {candidate : IdleCandidate} {now cutoff : Nat}
  {slotMemory : JsonObject}

theorem goesOn_result {status : String} {error : Option String}
    (hstatus : status ∉ standingStatuses) :
    GoesOn (idleResult candidate status error, slotMemory) := hstatus

theorem goesOn_unlessActive {activeStatus : String} {next : IdleProg (IdleResult × JsonObject)}
    (hstatus : activeStatus ∉ standingStatuses) (hnext : next.Returns GoesOn) :
    (unlessActive rt candidate slotMemory cutoff activeStatus next).Returns GoesOn := by
  apply (Prog.returns_true _).bind
  rintro (exc | found) -
  · exact goesOn_result (by decide)
  · cases found with
    | true => exact hstatus
    | false => exact hnext

theorem goesOn_finishClosed {status : String} {error : Option String}
    (hstatus : status ∉ standingStatuses) :
    (finishClosed candidate slotMemory status error).Returns GoesOn :=
  (Prog.returns_true _).bind fun _ _ => hstatus

theorem goesOn_finishUpdated {result : IdleResult} (hresult : GoesOn (result, slotMemory)) :
    (finishUpdated candidate slotMemory result).Returns GoesOn :=
  (Prog.returns_true _).bind fun _ _ => hresult

theorem goesOn_handOverFailedReply (reason : String) (replyLanguage : Json) :
    (handOverFailedReply rt settings candidate now slotMemory reason replyLanguage).Returns
      GoesOn := by
  apply (Prog.returns_true _).bind
  rintro requested -
  cases requested with
  | false =>
      exact goesOn_result (by decide)
  | true =>
      apply (Prog.returns_true _).bind
      rintro (exc | sent) -
      · exact goesOn_result (by decide)
      · exact goesOn_result (by decide)

theorem goesOn_deliverIdleText {idleText : IdleText} (sendText : String)
    (hstatus : idleText.status ∉ standingStatuses) :
    (deliverIdleText rt candidate now slotMemory idleText sendText).Returns GoesOn := by
  apply (Prog.returns_true _).bind
  rintro (exc | sent) -
  · apply (Prog.returns_true _).bind
    rintro closed -
    dsimp only
    split
    · exact goesOn_finishClosed (by decide)
    · exact goesOn_finishUpdated (goesOn_result (by decide))
  · apply (Prog.returns_true _).bind
    rintro messageId -
    exact goesOn_finishUpdated hstatus

theorem goesOn_sendIdleText {idleText : IdleText} (hstatus : idleText.status ∉ standingStatuses) :
    (sendIdleText rt settings candidate now slotMemory idleText cutoff).Returns GoesOn := by
  apply (Prog.returns_true _).bind
  rintro finalized -
  apply goesOn_unlessActive (by decide)
  split
  · exact goesOn_handOverFailedReply _ _
  · exact goesOn_deliverIdleText _ hstatus

theorem goesOn_closeChat : (closeChat rt candidate slotMemory now cutoff).Returns GoesOn := by
  apply goesOn_unlessActive (by decide)
  apply (Prog.returns_true _).bind
  rintro (exc | done) -
  · apply (Prog.returns_true _).bind
    rintro closed -
    split
    · exact goesOn_finishClosed (by decide)
    · exact goesOn_finishUpdated (goesOn_result (by decide))
  · exact goesOn_finishClosed (by decide)

/-- The closing text, and the closing of the chat after it. -/
theorem goesOn_sendClose :
    ((do
      let sent ← sendIdleText rt settings candidate now slotMemory .close cutoff
      if sent.1.status ≠ "CLOSE_TEXT_SENT" then pure sent
      else closeChat rt candidate sent.2 now cutoff) :
        IdleProg (IdleResult × JsonObject)).Returns GoesOn := by
  apply (goesOn_sendIdleText (by decide)).bind
  intro sent hsent
  split
  · exact hsent
  · exact goesOn_closeChat

end Returns

/-! ## The checks for activity -/

section Activity

variable {chat : AnsweredChat} {rt : Runtime} {settings : IdleSettings}
  {candidate : IdleCandidate} {now cutoff : Nat} {slotMemory : JsonObject}

/-- Nothing happened after the latest message. -/
theorem AnsweredChat.not_activeAfter_latest (chat : AnsweredChat) :
    chat.activeAfter chat.latest.createdAt = false := by
  unfold activeAfter
  rw [List.any_eq_false]
  intro time htime
  simpa using (chat.answered time htime).le

theorem canReturn_hasCustomerActivityAfter {r : Except ServiceError Bool} :
    Prog.CanReturn chat.Answers (hasCustomerActivityAfter candidate cutoff) r ↔
      chat.Answers ⟨.hasCustomerActivityAfter candidate.chatId cutoff, r⟩ :=
  Prog.canReturn_attempt_perform_iff

/-- A check that waits for a reply stands in the way exactly if there was activity. -/
theorem goesOn_check_iff {next : IdleProg (IdleResult × JsonObject)}
    (hnext : next.Returns GoesOn) :
    (∀ processed, Prog.CanReturn chat.Answers (unlessActive rt candidate slotMemory cutoff
        "SKIPPED_PENDING_INBOUND_CUSTOMER_REPLY" next) processed → GoesOn processed) ↔
      chat.activeAfter cutoff = false := by
  unfold unlessActive
  constructor
  · intro h
    by_contra hactive
    rw [Bool.not_eq_false] at hactive
    have hreturn := h (idleResult candidate "SKIPPED_PENDING_INBOUND_CUSTOMER_REPLY" none,
      slotMemory) (Prog.canReturn_bind_iff.mpr
        ⟨.ok true, canReturn_hasCustomerActivityAfter.mpr hactive.symm, Prog.canReturn_ret_iff.mpr rfl⟩)
    exact hreturn (List.mem_cons_of_mem _ List.mem_cons_self)
  · intro hquiet processed hreturn
    obtain ⟨r, hr, hrest⟩ := Prog.canReturn_bind_iff.mp hreturn
    rw [canReturn_hasCustomerActivityAfter] at hr
    rcases r with exc | found
    · cases Prog.canReturn_ret_iff.mp hrest
      exact goesOn_result (by decide)
    · have hfound : found = false := hr.trans hquiet
      subst hfound
      exact hnext.canReturn hrest

/-- A new cycle is never in the way. -/
theorem goesOn_startIdleCycle {processed : IdleResult × JsonObject}
    (h : Prog.CanReturn chat.Answers
      (startIdleCycle rt settings candidate now slotMemory chat.latest) processed) :
    GoesOn processed := by
  refine (goesOn_check_iff ?_).mpr chat.not_activeAfter_latest processed h
  split
  · exact goesOn_finishClosed (by decide)
  · split
    · exact goesOn_result (by decide)
    · exact goesOn_sendIdleText (by decide)

/-- An earlier cycle is in the way if it is due and the customer was active since its base. -/
theorem goesOn_continueIdleCycle_iff {followupSentAt closeSentAt : Option Nat} :
    (∀ processed, Prog.CanReturn chat.Answers (continueIdleCycle rt settings candidate now
        slotMemory chat.latest followupSentAt closeSentAt cutoff) processed → GoesOn processed) ↔
      (CycleIsDue settings now followupSentAt closeSentAt → chat.activeAfter cutoff = false) := by
  unfold continueIdleCycle CycleIsDue
  cases closeSentAt with
  | some closeSentAt =>
      rw [goesOn_check_iff goesOn_closeChat]
      simp
  | none =>
      cases followupSentAt with
      | none =>
          simp only [Option.isSome_none, Bool.false_eq_true, false_or, reduceCtorEq, false_and,
            exists_false, false_implies, iff_true]
          exact fun processed h => goesOn_startIdleCycle h
      | some sentAt =>
          dsimp only
          by_cases hwithin : withinSeconds now sentAt settings.closeSeconds = true
          · rw [if_pos hwithin]
            constructor
            · rintro - (hclose | ⟨_, hsent, hdue⟩)
              · cases hclose
              · cases hsent
                rw [hwithin] at hdue
                cases hdue
            · intro _ processed hreturn
              cases Prog.canReturn_ret_iff.mp hreturn
              exact goesOn_result (by decide)
          · rw [if_neg hwithin, goesOn_check_iff goesOn_sendClose]
            simp [hwithin]

end Activity

/-! ## The cycle -/

section Cycle

variable {chat : AnsweredChat} {rt : Runtime} {settings : IdleSettings}
  {candidate : IdleCandidate} {now : Nat} {slotMemory : JsonObject}

/-- The cutoff is the remembered time, unless it cannot be found out. -/
theorem canReturn_resolveIdleCycleCutoff {conversationId : String}
    {resolved : Except ServiceError (Option Nat) × JsonObject}
    (h : Prog.CanReturn chat.Answers (resolveIdleCycleCutoff rt conversationId slotMemory)
      resolved) :
    (∃ exc, resolved.1 = .error exc) ∨ resolved.1 = .ok (chat.cutoff? rt slotMemory) := by
  unfold resolveIdleCycleCutoff at h
  unfold AnsweredChat.cutoff?
  cases hpersisted : parseDatetime rt (getKey slotMemory "idle_base_assistant_created_at") with
  | some persisted =>
      rw [hpersisted] at h
      cases Prog.canReturn_ret_iff.mp h
      exact Or.inr rfl
  | none =>
      rw [hpersisted] at h
      dsimp only at h ⊢
      by_cases hnull : (getKey slotMemory "idle_base_assistant_message_id").isNull = true
      · rw [if_pos hnull] at h ⊢
        cases Prog.canReturn_ret_iff.mp h
        exact Or.inr rfl
      · rw [if_neg hnull] at h ⊢
        rcases Prog.canReturn_of_tryCatch_ret h with hreturn | ⟨exc, rfl⟩
        · obtain ⟨messageId, hmessage, hrest⟩ := Prog.canReturn_bind_iff.mp hreturn
          obtain ⟨found, hfound, hrest⟩ := Prog.canReturn_bind_iff.mp hrest
          have hcreated : found = chat.createdAt messageId := Prog.canReturn_perform_iff.mp hfound
          cases hread : (getKey slotMemory "idle_base_assistant_message_id").toInt rt with
          | error e =>
              rw [hread] at hmessage
              exact absurd hmessage Prog.not_canReturn_raise
          | ok id =>
              rw [hread] at hmessage
              cases Prog.canReturn_ret_iff.mp hmessage
              dsimp only
              rw [← hcreated]
              cases found with
              | none =>
                  cases Prog.canReturn_ret_iff.mp hrest
                  exact Or.inr rfl
              | some recovered =>
                  obtain ⟨-, -, hlast⟩ := Prog.canReturn_bind_iff.mp hrest
                  cases Prog.canReturn_ret_iff.mp hlast
                  exact Or.inr rfl
        · exact Or.inl ⟨exc, rfl⟩

/-- A remembered cutoff can be found. -/
theorem exists_canReturn_resolveIdleCycleCutoff {cutoff : Nat} (conversationId : String)
    (hcutoff : chat.cutoff? rt slotMemory = some cutoff) :
    ∃ filled, Prog.CanReturn chat.Answers
      (resolveIdleCycleCutoff rt conversationId slotMemory) (.ok (some cutoff), filled) := by
  unfold AnsweredChat.cutoff? at hcutoff
  unfold resolveIdleCycleCutoff
  cases hpersisted : parseDatetime rt (getKey slotMemory "idle_base_assistant_created_at") with
  | some persisted =>
      rw [hpersisted] at hcutoff
      cases hcutoff
      exact ⟨slotMemory, Prog.canReturn_ret_iff.mpr rfl⟩
  | none =>
      rw [hpersisted] at hcutoff
      dsimp only at hcutoff ⊢
      by_cases hnull : (getKey slotMemory "idle_base_assistant_message_id").isNull = true
      · rw [if_pos hnull] at hcutoff
        cases hcutoff
      · rw [if_neg hnull] at hcutoff ⊢
        cases hread : (getKey slotMemory "idle_base_assistant_message_id").toInt rt with
        | error e =>
            rw [hread] at hcutoff
            cases hcutoff
        | ok messageId =>
            rw [hread] at hcutoff
            refine ⟨slotMemory.set "idle_base_assistant_created_at"
              (.str (rt.isoFormat cutoff)), ?_⟩
            apply Prog.CanReturn.tryCatch
            unfold recoverIdleCycleCutoff
            rw [hread]
            refine Prog.canReturn_bind_iff.mpr ⟨messageId, Prog.canReturn_ret_iff.mpr rfl, ?_⟩
            refine Prog.canReturn_bind_iff.mpr
              ⟨some cutoff, Prog.canReturn_perform_iff.mpr hcutoff.symm, ?_⟩
            exact Prog.canReturn_bind_iff.mpr
              ⟨(), Prog.canReturn_perform_iff.mpr trivial, Prog.canReturn_ret_iff.mpr rfl⟩

theorem goesOn_advanceIdleCycle_iff {followupSentAt closeSentAt : Option Nat} :
    (∀ processed, Prog.CanReturn chat.Answers (advanceIdleCycle rt settings candidate now
        slotMemory chat.latest followupSentAt closeSentAt) processed → GoesOn processed) ↔
      (CycleIsDue settings now followupSentAt closeSentAt →
        ∀ cutoff, chat.cutoff? rt slotMemory = some cutoff → chat.activeAfter cutoff = false) := by
  unfold advanceIdleCycle
  by_cases hfresh : (followupSentAt.isNone && closeSentAt.isNone) = true
  · rw [if_pos hfresh]
    rw [Bool.and_eq_true, Option.isNone_iff_eq_none, Option.isNone_iff_eq_none] at hfresh
    obtain ⟨rfl, rfl⟩ := hfresh
    simp only [CycleIsDue, Option.isSome_none, Bool.false_eq_true, false_or, reduceCtorEq,
      false_and, exists_false, false_implies, iff_true]
    exact fun processed h => goesOn_startIdleCycle h
  · rw [if_neg hfresh]
    constructor
    · intro h hdue cutoff hcutoff
      obtain ⟨filled, hresolved⟩ := @exists_canReturn_resolveIdleCycleCutoff chat rt slotMemory
        cutoff candidate.conversationId hcutoff
      refine (@goesOn_continueIdleCycle_iff chat rt settings candidate now cutoff filled
        followupSentAt closeSentAt).mp ?_ hdue
      intro processed hreturn
      exact h processed (Prog.canReturn_bind_iff.mpr ⟨_, hresolved, hreturn⟩)
    · intro hquiet processed hreturn
      obtain ⟨⟨outcome, filled⟩, hresolved, hrest⟩ := Prog.canReturn_bind_iff.mp hreturn
      rcases canReturn_resolveIdleCycleCutoff hresolved with ⟨exc, rfl⟩ | houtcome
      · cases Prog.canReturn_ret_iff.mp hrest
        exact goesOn_result (by decide)
      · dsimp only at houtcome
        subst houtcome
        cases hcutoff : chat.cutoff? rt slotMemory with
        | none =>
            rw [hcutoff] at hrest
            cases Prog.canReturn_ret_iff.mp hrest
            exact goesOn_result (by decide)
        | some cutoff =>
            rw [hcutoff] at hrest
            exact goesOn_continueIdleCycle_iff.mpr (fun hdue => hquiet hdue cutoff hcutoff)
              processed hrest

/-- The conversation waits for others, who have something to do. -/
def AnsweredChat.waits (chat : AnsweredChat) (candidate : IdleCandidate) : Bool :=
  decide (candidate.status = .waitingExternal) && chat.unfinished

theorem canReturn_waitsForWork {unfinished : Bool} :
    Prog.CanReturn chat.Answers (waitsForWork candidate) unfinished ↔
      unfinished = chat.waits candidate := by
  unfold waitsForWork AnsweredChat.waits
  by_cases hstatus : candidate.status = .waitingExternal
  · rw [if_pos hstatus, decide_eq_true hstatus, Bool.true_and]
    exact Prog.canReturn_perform_iff
  · rw [if_neg hstatus, decide_eq_false hstatus, Bool.false_and]
    exact Prog.canReturn_ret_iff

/-- Activity after the follow-up starts the cycle anew. -/
theorem goesOn_clear {processed : IdleResult × JsonObject}
    (h : Prog.CanReturn chat.Answers (do
      let cleared ← clearIdleState candidate.conversationId slotMemory
      advanceIdleCycle rt settings candidate now cleared chat.latest none none) processed) :
    GoesOn processed := by
  obtain ⟨cleared, -, hrest⟩ := Prog.canReturn_bind_iff.mp h
  exact goesOn_startIdleCycle hrest

/-- The part of the timer after its guards. -/
theorem goesOn_cycle_iff :
    (∀ processed, Prog.CanReturn chat.Answers
        (match parseDatetime rt (getKey slotMemory "idle_followup_sent_at") with
        | none =>
            advanceIdleCycle rt settings candidate now slotMemory chat.latest none
              (parseDatetime rt (getKey slotMemory "idle_close_sent_at"))
        | some sentAt => do
            match ← hasCustomerActivityAfter candidate sentAt with
            | .error exc =>
                pure (idleResult candidate "SKIPPED_CUSTOMER_ACTIVITY_CHECK_FAILED"
                  (some (exc.text rt)), slotMemory)
            | .ok true => do
                let cleared ← clearIdleState candidate.conversationId slotMemory
                advanceIdleCycle rt settings candidate now cleared chat.latest none none
            | .ok false =>
                advanceIdleCycle rt settings candidate now slotMemory chat.latest
                  (parseDatetime rt (getKey slotMemory "idle_followup_sent_at"))
                  (parseDatetime rt (getKey slotMemory "idle_close_sent_at"))) processed →
        GoesOn processed) ↔
      ¬chat.HidesReply rt settings now slotMemory := by
  unfold AnsweredChat.HidesReply
  cases hfollowup : parseDatetime rt (getKey slotMemory "idle_followup_sent_at") with
  | none =>
      dsimp only
      rw [goesOn_advanceIdleCycle_iff]
      simp
  | some sentAt =>
      dsimp only
      cases hactive : chat.activeAfter sentAt with
      | true =>
          simp only [Option.some.injEq, forall_eq', hactive, Bool.true_eq_false, false_and,
            not_false_eq_true, iff_true]
          intro processed hreturn
          obtain ⟨r, hr, hrest⟩ := Prog.canReturn_bind_iff.mp hreturn
          rw [canReturn_hasCustomerActivityAfter] at hr
          rcases r with exc | found
          · cases Prog.canReturn_ret_iff.mp hrest
            exact goesOn_result (by decide)
          · have hfound : found = true := hr.trans hactive
            subst hfound
            exact goesOn_clear hrest
      | false =>
          have hadvance := @goesOn_advanceIdleCycle_iff chat rt settings candidate now slotMemory
            (some sentAt) (parseDatetime rt (getKey slotMemory "idle_close_sent_at"))
          simp only [Option.some.injEq, forall_eq', hactive, true_and]
          rw [not_and, not_exists]
          simp only [not_and, Bool.not_eq_true]
          rw [← hadvance]
          constructor
          · intro h processed hreturn
            exact h processed (Prog.canReturn_bind_iff.mpr
              ⟨.ok false, canReturn_hasCustomerActivityAfter.mpr hactive.symm, hreturn⟩)
          · intro h processed hreturn
            obtain ⟨r, hr, hrest⟩ := Prog.canReturn_bind_iff.mp hreturn
            rw [canReturn_hasCustomerActivityAfter] at hr
            rcases r with exc | found
            · cases Prog.canReturn_ret_iff.mp hrest
              exact goesOn_result (by decide)
            · have hfound : found = false := hr.trans hactive
              subst hfound
              exact h processed hrest

end Cycle

/-- Where the assistant has answered everything, the timer goes on exactly if the conversation was
not closed by an earlier cycle, and, unless it is handed over or waits for others, no earlier cycle
that is due hides a reply. -/
theorem keepsTimer_iff (chat : AnsweredChat) (rt : Runtime) (settings : IdleSettings) (now : Nat)
    (candidate : IdleCandidate) :
    chat.KeepsTimer rt settings now candidate ↔
      (getKey candidate.slotMemory "idle_closed_at").truthy = false ∧
        ((getKey candidate.slotMemory "ai_service_failure_handoff_at").truthy = true ∨
          chat.waits candidate = true ∨
          ¬chat.HidesReply rt settings now candidate.slotMemory) := by
  have hlatest : (some chat.latest).filter (·.senderRole = "assistant") = some chat.latest := by
    rw [Option.filter_some, if_pos (decide_eq_true chat.assistant)]
  have hfetched : ∀ found, Prog.CanReturn chat.Answers
      (IdleOp.fetchLatestMessage candidate.conversationId).call found ↔
        found = some chat.latest := fun _ => Prog.canReturn_perform_iff
  unfold AnsweredChat.KeepsTimer processIdleConversation
  simp only [Prog.canReturn_bind_iff_of hfetched]
  rw [hlatest]
  dsimp only
  by_cases hclosed : (getKey candidate.slotMemory "idle_closed_at").truthy = true
  · rw [if_pos hclosed]
    refine ⟨fun h => ?_, fun h => ?_⟩
    · have hreturn := h _ (Prog.canReturn_ret_iff.mpr rfl)
      exact absurd List.mem_cons_self hreturn
    · rw [h.1] at hclosed
      cases hclosed
  · rw [if_neg hclosed, eq_false_of_ne_true hclosed]
    by_cases hhandoff :
        (getKey candidate.slotMemory "ai_service_failure_handoff_at").truthy = true
    · rw [if_pos hhandoff]
      refine ⟨fun _ => ⟨rfl, Or.inl hhandoff⟩, fun _ processed hreturn => ?_⟩
      cases Prog.canReturn_ret_iff.mp hreturn
      exact goesOn_result (by decide)
    · rw [if_neg hhandoff]
      simp only [Prog.canReturn_bind_iff_of fun unfinished => canReturn_waitsForWork]
      cases hwaits : chat.waits candidate with
      | true =>
          rw [if_pos rfl]
          refine ⟨fun _ => ⟨trivial, Or.inr (Or.inl rfl)⟩, fun _ processed hreturn => ?_⟩
          cases Prog.canReturn_ret_iff.mp hreturn
          exact goesOn_result (by decide)
      | false =>
          rw [if_neg Bool.false_ne_true]
          refine Iff.trans goesOn_cycle_iff ?_
          simp [hhandoff]

/-! ## Two conversations that are left alone -/

/-- The minutes after nine in which something happens. -/
def clockRuntime : Runtime :=
  { Runtime.plain with
    fromIsoFormat := fun text =>
      [("2026-07-03 09:00:00", 0), ("2026-07-03 09:02:00", 2 * 60000000)].lookup text }

/-- The customer wrote at 09:01 and was answered at 09:03. -/
def repliedChat : AnsweredChat where
  latest :=
    { id := 11, conversationId := "livechat:C1:T1", tenantId := "default",
      channelType := "livechat", chatId := some "C1", threadId := some "T1",
      inboundEventId := none, outboundMessageId := none, externalCommandResultId := none,
      senderRole := "assistant", messageType := "text", textContent := some "hola",
      source := "sender_worker", createdAt := 3 * 60000000 }
  activity := [60000000]
  createdAt := fun _ => none
  unfinished := false
  assistant := rfl
  answered := by
    intro time htime
    rw [List.mem_singleton.mp htime]
    decide

/-- The conversation with a slot memory. -/
def idleCandidateWith (slotMemory : JsonObject) : IdleCandidate where
  conversationId := "livechat:C1:T1"
  tenantId := "default"
  channelType := "livechat"
  chatId := "C1"
  threadId := some "T1"
  status := .aiActive
  activeWorkflow := none
  slotMemory
  latestMessageId := 11
  latestSenderRole := "assistant"
  latestCreatedAt := 3 * 60000000

/-- A conversation that was closed for inactivity and opened again by the customer. -/
def reopenedCandidate : IdleCandidate :=
  idleCandidateWith (.ofList [("idle_closed_at", .str "2026-07-03 09:00:00")])

/-- The customer wrote between the message at 09:00 and the follow-up at 09:02. -/
def racedCandidate : IdleCandidate :=
  idleCandidateWith (.ofList [
    ("idle_base_assistant_message_id", .int 9),
    ("idle_base_assistant_created_at", .str "2026-07-03 09:00:00"),
    ("idle_followup_sent_at", .str "2026-07-03 09:02:00"),
    ("idle_followup_message_id", .int 10)])

/-- A quarter of an hour after the answer the timer still leaves both conversations alone. -/
theorem answered_chat_is_left_alone :
    ¬repliedChat.KeepsTimer clockRuntime ⟨20, 120, 120, fun _ => ""⟩ (18 * 60000000)
        reopenedCandidate ∧
      ¬repliedChat.KeepsTimer clockRuntime ⟨20, 120, 120, fun _ => ""⟩ (18 * 60000000)
        racedCandidate := by
  have hlatest : ∀ conversationId, Prog.CanReturn repliedChat.Answers
      (IdleOp.fetchLatestMessage conversationId).call (some repliedChat.latest) :=
    fun _ => Prog.canReturn_perform_iff.mpr rfl
  constructor
  · intro h
    refine h (idleResult reopenedCandidate "SKIPPED_ALREADY_CLOSED" none,
      reopenedCandidate.slotMemory) ?_ List.mem_cons_self
    exact Prog.canReturn_bind_iff.mpr ⟨_, hlatest _, Prog.canReturn_ret_iff.mpr rfl⟩
  · intro h
    refine h (idleResult racedCandidate "SKIPPED_PENDING_INBOUND_CUSTOMER_REPLY" none,
      racedCandidate.slotMemory) ?_ (List.mem_cons_of_mem _ List.mem_cons_self)
    refine Prog.canReturn_bind_iff.mpr ⟨_, hlatest _, ?_⟩
    refine Prog.canReturn_bind_iff.mpr ⟨false, canReturn_waitsForWork.mpr rfl, ?_⟩
    -- nothing happened after the follow-up, but the customer wrote after its base message
    refine Prog.canReturn_bind_iff.mpr
      ⟨.ok false, canReturn_hasCustomerActivityAfter.mpr rfl, ?_⟩
    refine Prog.canReturn_bind_iff.mpr
      ⟨(.ok (some 0), racedCandidate.slotMemory), Prog.canReturn_ret_iff.mpr rfl, ?_⟩
    exact Prog.canReturn_bind_iff.mpr
      ⟨.ok true, canReturn_hasCustomerActivityAfter.mpr rfl, Prog.canReturn_ret_iff.mpr rfl⟩

end AiCustomerService
