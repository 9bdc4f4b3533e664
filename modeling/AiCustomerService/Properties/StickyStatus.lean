import AiCustomerService.Workers.CaseRuns

/-!
# Statuses that should not be left

A staff reply keeps the status `completed_confirmed_by_customer` and `completion_disputed` of its
case, as it was when the reply was looked up.  The update of the table is unconditional, so a
status that the customer reaches between the look-up and the commit is overwritten.
-/

namespace AiCustomerService

open Support Support.Machine

variable {settings : ReplySettings} {botUserId : Int} {T : Type} [DecidableEq T]

/-- What a case does not leave: a confirmation, or a dispute unless it is confirmed. -/
inductive Sticky
  | confirmed
  | disputed

/-- The statuses among which the case stays. -/
def Sticky.statuses : Sticky → List String
  | .confirmed => ["completed_confirmed_by_customer"]
  | .disputed => ["completion_disputed", "completed_confirmed_by_customer"]

/-- A case with the first status may take the second one. -/
def Supersedes (current status : String) : Prop :=
  ∀ kind : Sticky, current ∈ kind.statuses → status ∈ kind.statuses

/-- The status of the case is among those of the kind. -/
def Database.CaseAmong (db : Database) (stuck : Sticky × Nat) : Prop :=
  ∃ status, db.caseStatus? stuck.2 = some status ∧ status ∈ stuck.1.statuses

/-- The same, where the run has come to. -/
def CaseAmong (stuck : Sticky × Nat) (c : Config (caseMachine settings botUserId) T) : Prop :=
  (PollWorld.replies c.world).db.CaseAmong stuck

/-- The status with which the reply of a result row was looked up. -/
def ExternalResultRow.snapshot? (row : ExternalResultRow) : Option String :=
  match getKey row.resultJson "telegram_case_status" with
  | .str status => some status
  | _ => none

/-- A transaction that takes effect does. -/
def ReplyChoice.takesEffect (choice : ReplyChoice) : Bool := choice.fault.all Fault.applied

/-- When a reply is committed, the status that it was looked up with still supersedes the one in
the table. -/
def CommitsFresh (w : PollWorld) : PollOp → ReplyChoice → Prop
  | .reply (.processResult row graphState _ _), choice =>
      choice.takesEffect = true →
        ∀ update ∈ w.replies.db.effectiveUpdate row.chatId row.threadId
            graphState.telegramCaseUpdate,
          ∀ current ∈ w.replies.db.caseStatus? update.telegramCaseId,
            ∀ snapshot ∈ row.snapshot?, Supersedes current snapshot
  | _, _ => True

/-- A commit of the gateway that goes through writes a status that supersedes the one in the
table. -/
def GatewayRespects (w : PollWorld) : CaseEvent → Prop
  | .gateway commit =>
      (∃ done, commit.execute w.replies.db = .ok done) →
        ∀ update ∈ commit.update? w.replies.db,
          ∀ current ∈ w.replies.db.caseStatus? update.telegramCaseId,
            Supersedes current update.status
  | .poll _ => True

/-- The step overwrites no status that should not be left. -/
def RespectsStatuses (c : Config (caseMachine settings botUserId) T) :
    Label (caseMachine settings botUserId) T → Prop
  | .env e => GatewayRespects c.world e
  | l => Executes (M := caseMachine settings botUserId) CommitsFresh c l

/-! ## What a staff reply writes -/

/-- A reply is classified into the statuses exactly when its case had one of them. -/
theorem classifyMoneyCaseStatus_among (services : StaffReplyServices)
    (intent rawReply currentStatus : String) (kind : Sticky) :
    classifyMoneyCaseStatus services intent rawReply currentStatus ∈ kind.statuses ↔
      currentStatus ∈ kind.statuses := by
  have hother : ∀ status ∈ ["waiting_customer", "under_review", "completed_by_staff",
      "terminal_other", ""], status ∉ kind.statuses := by
    cases kind with
    | confirmed => decide
    | disputed => decide
  simp only [classifyMoneyCaseStatus]
  split
  · by_cases hempty : currentStatus = ""
    · subst hempty
      exact iff_of_false (hother "under_review" (by simp)) (hother "" (by simp))
    · simp [textOr, hempty]
  · split
    · rfl
    · rename_i hsticky
      have hcurrent : currentStatus ∉ kind.statuses := by
        intro hmem
        apply hsticky
        cases kind with
        | confirmed => exact List.mem_cons_of_mem _ hmem
        | disputed => exact hmem
      refine iff_of_false (hother _ ?_) hcurrent
      repeat' split
      all_goals simp

theorem snapshot_of_reply {row : ExternalResultRow} {reply : StaffReply}
    (h : row.resultJson = reply.json) : row.snapshot? = some reply.telegramCaseStatus := by
  unfold ExternalResultRow.snapshot?
  rw [h]
  rfl

/-- The update of a staff commit is among the statuses exactly when the snapshot is. -/
theorem staffCommit_among {services : StaffReplyServices} {row : ExternalResultRow}
    {graphState : GraphState} {messages : List OutboundMessage} {summary : ConversationMessage}
    (h : IsStaffCommit services (.processResult row graphState messages summary))
    {update : TelegramCaseUpdate} (hupdate : graphState.telegramCaseUpdate = some update) :
    ∃ snapshot, row.snapshot? = some snapshot ∧
      ∀ kind : Sticky, update.status ∈ kind.statuses ↔ snapshot ∈ kind.statuses := by
  obtain ⟨now, reply, text, hrow, hstate, -⟩ := h
  refine ⟨reply.telegramCaseStatus, snapshot_of_reply hrow, ?_⟩
  intro kind
  rcases hstate with hstate | hstate
  · have hstatus : update.status = classifyMoneyCaseStatus services
        (textOr (textOr? reply.activeWorkflow reply.intent) "") reply.rawReply
        reply.telegramCaseStatus := by
      rw [hstate] at hupdate
      simp only [buildStaffReplyHandler, staffReplyState] at hupdate
      split at hupdate
      · cases hupdate
        rfl
      · split at hupdate
        · cases hupdate
          rfl
        · cases hupdate
          rfl
    rw [hstatus]
    exact classifyMoneyCaseStatus_among services _ _ _ kind
  · rw [hstate] at hupdate
    cases hupdate

/-! ## The steps of the polls -/

theorem caseAmong_congr {db db' : Database} (h : db'.telegramCases = db.telegramCases)
    {stuck : Sticky × Nat} (hamong : db.CaseAmong stuck) : db'.CaseAmong stuck := by
  obtain ⟨status, hstatus, hmem⟩ := hamong
  exact ⟨status, (caseStatus?_congr h _).trans hstatus, hmem⟩

theorem caseAmong_of_statusesKept {db db' : Database} (h : StatusesKept db db')
    {stuck : Sticky × Nat} (hamong : db.CaseAmong stuck) : db'.CaseAmong stuck := by
  obtain ⟨status, hstatus, hmem⟩ := hamong
  refine ⟨status, h _ status ?_ hstatus, hmem⟩
  rintro rfl
  obtain ⟨kind, caseId⟩ := stuck
  cases kind with
  | confirmed => simp [Sticky.statuses] at hmem
  | disputed => simp [Sticky.statuses] at hmem

/-- An update keeps the case among the statuses when it supersedes what it overwrites. -/
theorem caseAmong_applyCaseUpdate {db : Database} {update? : Option TelegramCaseUpdate}
    {stuck : Sticky × Nat} (hamong : db.CaseAmong stuck)
    (h : ∀ update ∈ update?, ∀ current ∈ db.caseStatus? update.telegramCaseId,
      Supersedes current update.status) : (applyCaseUpdate db update?).CaseAmong stuck := by
  cases update? with
  | none => exact hamong
  | some update =>
      obtain ⟨status, hstatus, hmem⟩ := hamong
      refine ⟨update.over stuck.2 status, ?_, ?_⟩
      · change (updateCaseStatus db update).caseStatus? stuck.2 = _
        rw [caseStatus?_updateCaseStatus, hstatus]
        rfl
      · unfold TelegramCaseUpdate.over
        split
        · rename_i hid
          exact h update rfl status (hid ▸ hstatus) stuck.1 hmem
        · exact hmem

/-- An update that does not supersede what it overwrites takes the case out of some statuses. -/
theorem exists_left_applyCaseUpdate {db : Database} {update : TelegramCaseUpdate}
    {current : String} (hcurrent : db.caseStatus? update.telegramCaseId = some current)
    (h : ¬Supersedes current update.status) :
    ∃ stuck, db.CaseAmong stuck ∧ ¬(applyCaseUpdate db (some update)).CaseAmong stuck := by
  unfold Supersedes at h
  push Not at h
  obtain ⟨kind, hmem, hleft⟩ := h
  refine ⟨(kind, update.telegramCaseId), ⟨current, hcurrent, hmem⟩, ?_⟩
  rintro ⟨status, hstatus, hstill⟩
  change (updateCaseStatus db update).caseStatus? update.telegramCaseId = _ at hstatus
  rw [caseStatus?_updateCaseStatus, hcurrent] at hstatus
  simp only [Option.map_some, TelegramCaseUpdate.over, if_true, Option.some.injEq] at hstatus
  exact hleft (hstatus ▸ hstill)

theorem chatId_staffReplyOutbounds (row : ExternalResultRow) (reply : StaffReply) (text : String) :
    ∀ message ∈ staffReplyOutbounds row reply text, message.chatId.isSome := by
  unfold staffReplyOutbounds
  simp only
  split
  · split
    · intro message hmem
      rcases List.mem_pair.mp hmem with rfl | rfl
      · rfl
      · rfl
    · intro message hmem
      rw [List.mem_singleton.mp hmem]
      rfl
  · intro message hmem
    rw [List.mem_singleton.mp hmem]
    rfl

/-- What the transaction of a staff reply does to the cases. -/
theorem telegramCases_commitStaffResult {services : StaffReplyServices} {choice : ReplyChoice}
    {w : ReplyWorld} {row : ExternalResultRow} {graphState : GraphState}
    {messages : List OutboundMessage} {summary : ConversationMessage}
    (h : IsStaffCommit services (.processResult row graphState messages summary)) :
    (commitStaffResult choice w row graphState messages summary).2.db.telegramCases =
      (applyCaseUpdate w.db (w.db.effectiveUpdate row.chatId row.threadId
        graphState.telegramCaseUpdate)).telegramCases := by
  obtain ⟨now, reply, text, -, -, hmessages⟩ := h
  have hchat : ∀ message ∈ messages, message.chatId.isSome := by
    rw [hmessages]
    exact chatId_staffReplyOutbounds row reply text
  have hnone : ∀ command ∈ ([] : List ExternalCommand), command.chatId.isSome := by simp
  obtain ⟨db', result, hcommit⟩ := processResult_of_chatId hchat hnone w.db choice.context row.ref
    graphState (some summary)
  have hcases := telegramCases_processResult hcommit
  simp only [commitStaffResult, hcommit]
  exact hcases

/-- Only the transaction writes a status. -/
theorem telegramCases_handleReplyOp (rt : Runtime) (op : ReplyOp) (choice : ReplyChoice)
    (w : ReplyWorld) (h : ∀ row graphState messages summary,
      op ≠ .processResult row graphState messages summary) :
    (handleReplyOp rt op choice w).2.db.telegramCases = w.db.telegramCases := by
  cases op with
  | processResult row graphState messages summary =>
      exact absurd rfl (h row graphState messages summary)
  | recordStaffReplyMessage caseId chatId messageId threadId =>
      refine faulty_induction (motive := fun w' : ReplyWorld =>
        w'.db.telegramCases = w.db.telegramCases) rfl rfl
  | insertResult result =>
      change (insertExternalResult w.db result).1.telegramCases = _
      rfl
  | _ => rfl

theorem mem_of_effectiveUpdate {db : Database} {chatId : String} {threadId : Option String}
    {update? : Option TelegramCaseUpdate} {update : TelegramCaseUpdate}
    (h : update ∈ db.effectiveUpdate chatId threadId update?) : update? = some update := by
  unfold Database.effectiveUpdate at h
  split at h
  · cases h
  · exact h

/-- A transaction that takes effect leaves its world. -/
theorem snd_faulty_of_takesEffect {choice : ReplyChoice} {α : Type} {before : ReplyWorld}
    {done : Except ServiceError α × ReplyWorld} (h : choice.takesEffect = true) :
    (faulty choice.fault before done).2 = done.2 := by
  unfold ReplyChoice.takesEffect at h
  cases hfault : choice.fault with
  | none => rfl
  | some fault =>
      rw [hfault] at h
      exact if_pos h

/-- Any other one leaves what was before. -/
theorem snd_faulty_of_not_takesEffect {choice : ReplyChoice} {α : Type} {before : ReplyWorld}
    {done : Except ServiceError α × ReplyWorld} (h : ¬choice.takesEffect = true) :
    (faulty choice.fault before done).2 = before := by
  unfold ReplyChoice.takesEffect at h
  cases hfault : choice.fault with
  | none => simp [hfault] at h
  | some fault =>
      rw [hfault] at h
      exact if_neg h

/-- The reply is committed where its look-up is fresh, or takes no effect. -/
theorem caseAmong_handleReplyOp (rt : Runtime) {op : ReplyOp} {choice : ReplyChoice}
    {w : PollWorld} (hstaff : IsStaffCommit settings.services op)
    (hfresh : CommitsFresh w (.reply op) choice) {stuck : Sticky × Nat}
    (h : w.replies.db.CaseAmong stuck) :
    (handleReplyOp rt op choice w.replies).2.db.CaseAmong stuck := by
  cases op with
  | processResult row graphState messages summary =>
      change (faulty choice.fault w.replies
        (commitStaffResult choice w.replies row graphState messages summary)).2.db.CaseAmong stuck
      have hcommit : choice.takesEffect = true →
          (commitStaffResult choice w.replies row graphState messages summary).2.db.CaseAmong
            stuck := by
        intro htakes
        refine caseAmong_congr (telegramCases_commitStaffResult hstaff)
          (caseAmong_applyCaseUpdate h ?_)
        intro update hupdate current hcurrent kind hmem
        obtain ⟨snapshot, hsnapshot, hiff⟩ := staffCommit_among hstaff
          (mem_of_effectiveUpdate hupdate)
        exact (hiff kind).mpr
          (hfresh htakes update hupdate current hcurrent snapshot hsnapshot kind hmem)
      by_cases htakes : choice.takesEffect = true
      · rw [snd_faulty_of_takesEffect htakes]
        exact hcommit htakes
      · rw [snd_faulty_of_not_takesEffect htakes]
        exact h
  | _ => exact caseAmong_congr (telegramCases_handleReplyOp rt _ choice w.replies (by simp)) h

theorem caseAmong_handlePollOp (rt : Runtime) {op : PollOp} {choice : ReplyChoice}
    {w : PollWorld} (hstaff : op.IsStaffCommit settings.services)
    (hfresh : CommitsFresh w op choice) {stuck : Sticky × Nat}
    (h : w.replies.db.CaseAmong stuck) :
    (handlePollOp rt op choice w).2.replies.db.CaseAmong stuck := by
  cases op with
  | selectRecent limit =>
      exact faulty_induction (motive := fun w' : PollWorld => w'.replies.db.CaseAmong stuck) h h
  | upsert row =>
      refine faulty_induction (motive := fun w' : PollWorld => w'.replies.db.CaseAmong stuck) h ?_
      unfold handleUpsert
      split
      · rename_i db hupsert
        exact caseAmong_of_statusesKept (statusesKept_upsertFromExternalResult hupsert) h
      · exact h
      · exact h
  | reply op =>
      have hreply := caseAmong_handleReplyOp rt hstaff hfresh h
      cases op with
      | getUpdates offset limit =>
          exact faulty_induction (motive := fun w' : PollWorld => w'.replies.db.CaseAmong stuck) h h
      | _ => exact hreply

/-- A commit on a status that it does not supersede takes a case out of some statuses. -/
theorem exists_left_handlePollOp (rt : Runtime) {op : PollOp} {choice : ReplyChoice}
    {w : PollWorld} (hstaff : op.IsStaffCommit settings.services)
    (hstale : ¬CommitsFresh w op choice) :
    ∃ stuck, w.replies.db.CaseAmong stuck ∧
      ¬(handlePollOp rt op choice w).2.replies.db.CaseAmong stuck := by
  cases op with
  | selectRecent limit => exact absurd trivial hstale
  | upsert row => exact absurd trivial hstale
  | reply op =>
      cases op with
      | processResult row graphState messages summary =>
          have hstaff : IsStaffCommit settings.services
            (.processResult row graphState messages summary) := hstaff
          simp only [CommitsFresh] at hstale
          push Not at hstale
          obtain ⟨htakes, update, hupdate, current, hcurrent, snapshot, hsnapshot, hleft⟩ := hstale
          obtain ⟨snapshot', hsnapshot', hiff⟩ := staffCommit_among hstaff
            (mem_of_effectiveUpdate hupdate)
          have hsame : snapshot' = snapshot :=
            Option.some.inj (hsnapshot'.symm.trans hsnapshot)
          subst hsame
          have hnot : ¬Supersedes current update.status := by
            intro hsupersedes
            apply hleft
            intro kind hmem
            exact (hiff kind).mp (hsupersedes kind hmem)
          obtain ⟨stuck, hbefore, hafter⟩ := exists_left_applyCaseUpdate hcurrent hnot
          refine ⟨stuck, hbefore, ?_⟩
          intro hstill
          apply hafter
          rw [← show _ = some update from hupdate]
          have hcases := @telegramCases_commitStaffResult _ choice w.replies _ _ _ summary hstaff
          refine caseAmong_congr hcases.symm ?_
          exact @snd_faulty_of_takesEffect choice _ _ _ htakes ▸ hstill
      | _ => exact absurd trivial hstale

/-! ## The steps of the gateway -/

theorem telegramCases_afterPoll (w : PollWorld) (event : PollEvent) :
    (w.after event).replies.db.telegramCases = w.replies.db.telegramCases := by
  cases event with
  | accept card =>
      simp only [PollWorld.after]
      split
      · rfl
      · rfl
  | insertResult result => rfl
  | write update => rfl
  | elapse microseconds => rfl

theorem caseAmong_afterCase {w : PollWorld} {e : CaseEvent} (hrespects : GatewayRespects w e)
    {stuck : Sticky × Nat} (h : w.replies.db.CaseAmong stuck) :
    (w.afterCase e).replies.db.CaseAmong stuck := by
  cases e with
  | poll event => exact caseAmong_congr (telegramCases_afterPoll w event) h
  | gateway commit =>
      cases hcommit : commit.execute w.replies.db with
      | error exc =>
          simp only [PollWorld.afterCase, hcommit]
          exact h
      | ok done =>
          simp only [PollWorld.afterCase, hcommit]
          exact caseAmong_congr (telegramCases_processEvent hcommit)
            (caseAmong_applyCaseUpdate h (hrespects ⟨done, hcommit⟩))

theorem exists_left_afterCase {w : PollWorld} {e : CaseEvent} (h : ¬GatewayRespects w e) :
    ∃ stuck, w.replies.db.CaseAmong stuck ∧ ¬(w.afterCase e).replies.db.CaseAmong stuck := by
  cases e with
  | poll event => exact absurd trivial h
  | gateway commit =>
      simp only [GatewayRespects] at h
      push Not at h
      obtain ⟨⟨done, hcommit⟩, update, hupdate, current, hcurrent, hnot⟩ := h
      obtain ⟨stuck, hbefore, hafter⟩ := exists_left_applyCaseUpdate hcurrent hnot
      refine ⟨stuck, hbefore, ?_⟩
      intro hstill
      apply hafter
      simp only [PollWorld.afterCase, hcommit] at hstill
      rw [← show commit.update? w.replies.db = some update from hupdate]
      exact caseAmong_congr (telegramCases_processEvent hcommit).symm hstill

/-! ## Runs -/

/-- All that the polls commit are staff replies. -/
def StaffThreads (c : Config (caseMachine settings botUserId) T) : Prop :=
  ThreadsWithin (PollOp.IsStaffCommit settings.services) c

theorem StaffThreads.step {c : Config (caseMachine settings botUserId) T} (h : StaffThreads c)
    (l : Label (caseMachine settings botUserId) T) : StaffThreads (Machine.step c l) := by
  refine ThreadsWithin.step ?_ h l
  intro job w prog w' hstart
  cases hstart
  apply (staffCommits_syncAndProcess _).bind
  intro _
  exact Prog.all_ret _

/-- A step that overwrites no status that should not be left keeps them all. -/
theorem caseAmong_step {c : Config (caseMachine settings botUserId) T}
    {l : Label (caseMachine settings botUserId) T} (hthreads : StaffThreads c)
    (hrespects : RespectsStatuses c l) {stuck : Sticky × Nat} (h : CaseAmong stuck c) :
    CaseAmong stuck (step c l) := by
  cases l with
  | env e => exact caseAmong_afterCase hrespects h
  | spawn t job =>
      cases hhead : (c.threads t).head? with
      | some op => rwa [step_spawn_of_head_eq_some hhead]
      | none =>
          rw [step_spawn hhead rfl]
          exact h
  | act t choice =>
      cases hprog : c.threads t with
      | ret a => rwa [step_act_finished (by rw [hprog]; rfl)]
      | raise e => rwa [step_act_finished (by rw [hprog]; rfl)]
      | call op k =>
          have hhead : (c.threads t).head? = some op := by rw [hprog]; rfl
          rw [step_act hprog]
          exact caseAmong_handlePollOp settings.runtime (hthreads.head hhead)
            (hrespects op hhead) h

/-- Any other step takes a case out of statuses that should not be left. -/
theorem exists_left_step {c : Config (caseMachine settings botUserId) T}
    {l : Label (caseMachine settings botUserId) T} (hthreads : StaffThreads c)
    (h : ¬RespectsStatuses c l) : ∃ stuck, CaseAmong stuck c ∧ ¬CaseAmong stuck (step c l) := by
  cases l with
  | env e => exact exists_left_afterCase h
  | spawn t job => exact absurd trivial h
  | act t choice =>
      simp only [RespectsStatuses, Executes] at h
      push Not at h
      obtain ⟨op, hhead, hstale⟩ := h
      cases hprog : c.threads t with
      | ret a => simp [hprog, Prog.head?] at hhead
      | raise e => simp [hprog, Prog.head?] at hhead
      | call op' k =>
          have hop : op' = op := by simpa [hprog, Prog.head?] using hhead
          subst hop
          rw [step_act hprog]
          exact exists_left_handlePollOp settings.runtime (hthreads.head hhead) hstale

/-- Confirmed cases stay confirmed and disputed ones stay disputed until they are confirmed,
exactly if no step of the run overwrites such a status. -/
theorem sticky_statuses_iff (w : PollWorld)
    (labels : List (Label (caseMachine settings botUserId) T)) :
    Persists CaseAmong (idle w) labels ↔ AllSteps RespectsStatuses (idle w) labels :=
  persists_iff_allSteps StaffThreads (fun _ l h => h.step l)
    (fun _ _ _ hthreads hrespects h => caseAmong_step hthreads hrespects h)
    (fun _ _ hthreads h => exists_left_step hthreads h) (threadsWithin_idle _ w) labels

/-! ## A confirmed case that is reopened -/

/-- The customer confirms that case 1 is resolved. -/
def confirmingCommit : GatewayCommit where
  context := ⟨none, false⟩
  inboundEventId := 12
  event := ⟨some "C1", some "T1", none, none, none, ∅⟩
  customerMessage := none
  outboundMessages := []
  externalCommands := []
  graphState := some ⟨some .aiActive, none, some "completed", none, none, [],
    some ⟨1, "completed_confirmed_by_customer"⟩⟩
  assistantMessages := []

/-- Operations of the poll that succeed. -/
def caseSteps (n : Nat) : List (Label (caseMachine plainReplySettings 42) Unit) :=
  List.replicate n (.act () ⟨none, ⟨none, false⟩, .ok [], .ok ""⟩)

/-- The staff has answered the card of case 1. -/
def answeredCase : Config (caseMachine plainReplySettings 42) Unit :=
  idle ⟨⟨openCaseDatabase, []⟩, [], [waitUpdate.update]⟩

/-- The customer confirms after the reply has been looked up. -/
def confirmedBeforeCommit : List (Label (caseMachine plainReplySettings 42) Unit) :=
  .spawn () (true, 0) :: caseSteps 6 ++ [.env (.gateway confirmingCommit)]

/-- The reply of the staff puts the case back under review. -/
theorem confirmed_case_is_reopened :
    ¬Persists CaseAmong answeredCase (confirmedBeforeCommit ++ caseSteps 1) ∧
      (run answeredCase confirmedBeforeCommit).world.replies.db.caseStatus? 1 =
        some "completed_confirmed_by_customer" ∧
      (run answeredCase (confirmedBeforeCommit ++ caseSteps 1)).world.replies.db.caseStatus? 1 =
        some "under_review" := by
  have hconfirmed : (run answeredCase confirmedBeforeCommit).world.replies.db.caseStatus? 1 =
      some "completed_confirmed_by_customer" := by decide +kernel
  have hreopened : (run answeredCase
      (confirmedBeforeCommit ++ caseSteps 1)).world.replies.db.caseStatus? 1 =
        some "under_review" := by decide +kernel
  refine ⟨?_, hconfirmed, hreopened⟩
  intro hpersists
  obtain ⟨status, hstatus, hmem⟩ := hpersists (.confirmed, 1) confirmedBeforeCommit (caseSteps 1) []
    (List.append_nil _).symm ⟨_, hconfirmed, List.mem_singleton.mpr rfl⟩
  have hsame : "under_review" = status := Option.some.inj (hreopened.symm.trans hstatus)
  subst hsame
  simp [Sticky.statuses] at hmem

end AiCustomerService
