import AiCustomerService.Properties.IdleTakeover
import AiCustomerService.Properties.RecheckMemory

/-!
# The slot memory next to the idle timer

The timer works on the candidate row that it has read, and every step that it takes writes back
the slot memory of that row: the acknowledged and the failed reminders, the recovered cycle, the
closing mark and the failure that hands the chat over.  A gateway or a result may commit in
between.
-/

namespace AiCustomerService

open Support

/-- The database, and the slot memory of the conversation as the last commit left it. -/
structure SlotWorld where
  db : Database
  committed : Option JsonObject

/-- A transaction of the gateway or of a result for the conversation. -/
abbrev CommitOf (conversationId : String) :=
  {writer : Writer // writer.processedConversation? = some conversationId}

/-- One run of the timer for a candidate next to the commits of its conversation. -/
def slotMachine (rt : Runtime) (candidate : IdleCandidate) : Machine idleOps where
  World := SlotWorld
  Choice := IdleChoice
  Env := CommitOf candidate.conversationId
  Job := Empty
  handle op choice w :=
    let done := faulty choice.fault w.db (executeIdleOp rt choice w.db op)
    (done.1, { w with db := done.2 })
  environ commit w :=
    let db := applyWriter rt w.db commit.1
    ⟨db, db.slotMemory? candidate.conversationId⟩
  start job _ := nomatch job

/-- The candidate has been read from the database. -/
def slotStart (rt : Runtime) (settings : IdleSettings) (now : Nat) (candidate : IdleCandidate)
    (db : Database) : Machine.Config (slotMachine rt candidate) Unit where
  world := ⟨db, none⟩
  threads _ := processIdleConversation rt settings now candidate >>= fun _ => .ret ()

/-- Every value that the last commit left under a key that is not the timer's own is stored. -/
def KeepsCommitted (conversationId : String) (w : SlotWorld) : Prop :=
  ∀ memory, w.committed = some memory → ∀ key value, isIdleKey key = false →
    memory.get? key = some value →
    ∃ stored, w.db.slotMemory? conversationId = some stored ∧ stored.get? key = some value

/-- What `request_ai_failure_handoff` merges into the stored slot memory. -/
def aiFailureEntries (rt : Runtime) (now : Nat) (reason : String) : JsonObject :=
  .ofList [
    ("ai_service_failure_handoff_at", .str (rt.isoFormat now)),
    ("ai_service_failure_reason", .str reason),
    ("ai_service_failure_source", .str "livechat_idle_timer")]

/-- When the operation takes effect, what a commit has left is in the way of nothing that it
writes: the candidate was read with the same values, or a handoff writes the same values. -/
def WritesFresh (rt : Runtime) (candidate : IdleCandidate) (w : SlotWorld) (op : IdleOp)
    (choice : IdleChoice) : Prop :=
  choice.fault.all Fault.applied = true → ∀ memory, w.committed = some memory →
    ∀ key value, isIdleKey key = false → memory.get? key = some value →
    match op with
    | .updateSlotMemory _ _ => candidate.slotMemory.get? key = some value
    | .markClosed _ _ => candidate.slotMemory.get? key = some value
    | .requestAiFailureHandoff _ now reason =>
        (∃ db, requestAiFailureHandoff rt w.db candidate now reason = .ok (db, true)) →
          ∀ written, (aiFailureEntries rt now reason).get? key = some written → written = value
    | _ => True

section Operations

variable {rt : Runtime} {candidate : IdleCandidate} {w : SlotWorld} {op : IdleOp}
  {choice : IdleChoice}

theorem slotMemory?_updateConversation (db : Database) (conversationId : String)
    (assign : ConversationRow → ConversationRow)
    (hkey : ∀ row, (assign row).conversationId = row.conversationId) :
    (db.updateConversation conversationId assign hkey).slotMemory? conversationId =
      (db.conversation? conversationId).map fun row => (assign row).slotMemory := by
  rw [Database.slotMemory?, conversation?_updateConversation, Option.map_map]
  simp [Function.comp_def]

/-- A handoff merges its entries into the slot memory that is stored at that moment. -/
theorem slotMemory?_requestAiFailureHandoff {db db' : Database} {now : Nat} {reason : String}
    {requested : Bool}
    (h : requestAiFailureHandoff rt db candidate now reason = .ok (db', requested)) :
    db'.slotMemory? candidate.conversationId =
      if requested then
        (db.slotMemory? candidate.conversationId).map (·.merge (aiFailureEntries rt now reason))
      else db.slotMemory? candidate.conversationId := by
  unfold requestAiFailureHandoff at h
  cases hrow : db.conversation? candidate.conversationId with
  | none =>
      simp only [hrow, Except.ok.injEq, Prod.mk.injEq] at h
      obtain ⟨rfl, rfl⟩ := h
      rfl
  | some row =>
      simp only [hrow] at h
      by_cases heligible : aiFailureHandoffEligible rt row = true
      · rw [if_neg (by simp [heligible])] at h
        obtain ⟨⟨inserted, report⟩, hinsert, hpure⟩ := bind_eq_ok.mp h
        cases hpure
        have hstates := congrArg Database.conversationStates (insertExternalCommand_ok hinsert).1
        rw [if_pos rfl]
        refine Eq.trans ?_ ((slotMemory?_updateConversation db candidate.conversationId
          (fun stored => stored.handedOver (row.slotMemory.merge (aiFailureEntries rt now reason)))
          fun _ => rfl).trans ?_)
        · simp only [Database.slotMemory?, Database.conversation?]
          exact congrArg _ (congrArg (Table.find? · _) hstates)
        · simp [Database.slotMemory?, hrow, ConversationRow.handedOver]
      · rw [if_pos (by simp [heligible])] at h
        simp only [Except.ok.injEq, Prod.mk.injEq] at h
        obtain ⟨rfl, rfl⟩ := h
        rfl

/-- What an operation of the timer that takes effect leaves in the slot memory. -/
def slotMemoryAfter (rt : Runtime) (candidate : IdleCandidate) (db : Database) :
    IdleOp → Option JsonObject
  | .updateSlotMemory _ slotMemory =>
      (db.slotMemory? candidate.conversationId).map fun _ => slotMemory
  | .markClosed _ slotMemory =>
      (db.slotMemory? candidate.conversationId).map fun _ => slotMemory
  | .requestAiFailureHandoff _ now reason =>
      match requestAiFailureHandoff rt db candidate now reason with
      | .ok (_, true) =>
          (db.slotMemory? candidate.conversationId).map (·.merge (aiFailureEntries rt now reason))
      | _ => db.slotMemory? candidate.conversationId
  | _ => db.slotMemory? candidate.conversationId

theorem slotMemory?_executeIdleOp (db : Database) (hop : op.WritesOwn candidate) :
    (executeIdleOp rt choice db op).2.slotMemory? candidate.conversationId =
      slotMemoryAfter rt candidate db op := by
  cases op with
  | updateSlotMemory conversationId slotMemory =>
      obtain ⟨rfl, -⟩ := hop
      refine (slotMemory?_updateConversation _ _ _ _).trans ?_
      simp [slotMemoryAfter, Database.slotMemory?, Function.comp_def]
  | markClosed conversationId slotMemory =>
      obtain ⟨rfl, -⟩ := hop
      refine (slotMemory?_updateConversation _ _ _ _).trans ?_
      simp [slotMemoryAfter, Database.slotMemory?, Function.comp_def]
  | requestAiFailureHandoff handedOver now reason =>
      cases hop
      simp only [executeIdleOp]
      cases hrun : requestAiFailureHandoff rt db candidate now reason with
      | error e => simp only [slotMemoryAfter, hrun]
      | ok outcome =>
          obtain ⟨db', requested⟩ := outcome
          dsimp only [slotMemoryAfter]
          rw [slotMemory?_requestAiFailureHandoff hrun, hrun]
          cases requested with
          | true => rfl
          | false => rfl
  | _ => rfl

theorem handle_db (op : IdleOp) (choice : IdleChoice) (w : SlotWorld) :
    ((slotMachine rt candidate).handle op choice w).2 =
      ⟨if choice.fault.all Fault.applied then (executeIdleOp rt choice w.db op).2 else w.db,
        w.committed⟩ := by
  change (⟨(faulty choice.fault w.db (executeIdleOp rt choice w.db op)).2, w.committed⟩ :
    SlotWorld) = _
  rw [faulty_world]

/-- An operation that meets the condition keeps what is committed. -/
theorem keepsCommitted_handle (hop : op.WritesOwn candidate)
    (hfresh : WritesFresh rt candidate w op choice)
    (h : KeepsCommitted candidate.conversationId w) :
    KeepsCommitted candidate.conversationId ((slotMachine rt candidate).handle op choice w).2 := by
  intro memory hmemory key value hkey hvalue
  rw [handle_db] at hmemory ⊢
  obtain ⟨stored, hstored, hget⟩ := h memory hmemory key value hkey hvalue
  dsimp only
  split
  · next happlied =>
    have hcondition := hfresh happlied memory hmemory key value hkey hvalue
    rw [slotMemory?_executeIdleOp _ hop]
    unfold slotMemoryAfter
    rw [hstored]
    cases op with
    | updateSlotMemory conversationId slotMemory =>
        exact ⟨slotMemory, rfl, (hop.2 key hkey).trans hcondition⟩
    | markClosed conversationId slotMemory =>
        exact ⟨slotMemory, rfl, (hop.2 key hkey).trans hcondition⟩
    | requestAiFailureHandoff handedOver now reason =>
        dsimp only at hcondition ⊢
        split
        · next db hrun =>
          refine ⟨_, rfl, ?_⟩
          rw [Dict.get?_merge]
          cases hentry : (aiFailureEntries rt now reason).get? key with
          | none => exact hget
          | some written => exact congrArg some (hcondition ⟨_, hrun⟩ written hentry)
        · exact ⟨stored, rfl, hget⟩
    | _ => exact ⟨stored, rfl, hget⟩
  · exact ⟨stored, hstored, hget⟩

/-- Any other operation loses something that is committed. -/
theorem not_keepsCommitted_handle (hop : op.WritesOwn candidate)
    (hstale : ¬WritesFresh rt candidate w op choice) :
    ¬KeepsCommitted candidate.conversationId
      ((slotMachine rt candidate).handle op choice w).2 := by
  intro hkeeps
  apply hstale
  intro happlied memory hmemory key value hkey hvalue
  rw [handle_db, if_pos happlied] at hkeeps
  obtain ⟨stored, hstored, hget⟩ := hkeeps memory hmemory key value hkey hvalue
  dsimp only at hstored
  rw [slotMemory?_executeIdleOp _ hop] at hstored
  unfold slotMemoryAfter at hstored
  cases op with
  | updateSlotMemory conversationId slotMemory =>
      obtain ⟨-, -, rfl⟩ := Option.map_eq_some_iff.mp hstored
      exact (hop.2 key hkey).symm.trans hget
  | markClosed conversationId slotMemory =>
      obtain ⟨-, -, rfl⟩ := Option.map_eq_some_iff.mp hstored
      exact (hop.2 key hkey).symm.trans hget
  | requestAiFailureHandoff handedOver now reason =>
      rintro ⟨db, hrun⟩ written hentry
      dsimp only at hstored
      rw [hrun] at hstored
      obtain ⟨before, -, rfl⟩ := Option.map_eq_some_iff.mp hstored
      rw [Dict.get?_merge, hentry] at hget
      exact Option.some.inj hget
  | _ => trivial

end Operations

section Runs

variable {rt : Runtime} {candidate : IdleCandidate}

/-- What is left of the program writes only the timer's own keys. -/
abbrev TimerWrites (c : Machine.Config (slotMachine rt candidate) Unit) : Prop :=
  Machine.ThreadsWithin (IdleOp.WritesOwn candidate) c

theorem timerWrites_step (c : Machine.Config (slotMachine rt candidate) Unit)
    (l : Machine.Label (slotMachine rt candidate) Unit) (h : TimerWrites c) :
    TimerWrites (Machine.step c l) :=
  Machine.ThreadsWithin.step (fun job => Empty.elim job) h l

/-- A commit leaves what it leaves, and a step of the timer that meets the condition keeps it. -/
theorem keepsCommitted_step (c : Machine.Config (slotMachine rt candidate) Unit)
    (l : Machine.Label (slotMachine rt candidate) Unit) (hwrites : TimerWrites c)
    (hl : Machine.Executes (WritesFresh rt candidate) c l)
    (h : KeepsCommitted candidate.conversationId c.world) :
    KeepsCommitted candidate.conversationId (Machine.step c l).world := by
  cases l with
  | env commit =>
      intro memory hmemory key value _ hvalue
      exact ⟨memory, hmemory, hvalue⟩
  | spawn t job => exact Empty.elim job
  | act t choice =>
      cases hprog : c.threads t with
      | ret a => rwa [Machine.step_act_finished (by rw [hprog]; rfl)]
      | raise e => rwa [Machine.step_act_finished (by rw [hprog]; rfl)]
      | call op k =>
          have hop : (c.threads t).head? = some op := by rw [hprog]; rfl
          rw [Machine.step_act hprog]
          exact keepsCommitted_handle (hwrites.head hop) (hl op hop) h

theorem not_keepsCommitted_step (c : Machine.Config (slotMachine rt candidate) Unit)
    (l : Machine.Label (slotMachine rt candidate) Unit) (hwrites : TimerWrites c)
    (hl : ¬Machine.Executes (WritesFresh rt candidate) c l) :
    ¬KeepsCommitted candidate.conversationId (Machine.step c l).world := by
  cases l with
  | env commit => exact absurd trivial hl
  | spawn t job => exact Empty.elim job
  | act t choice =>
      simp only [Machine.Executes, not_forall] at hl
      obtain ⟨op, hop, hstale⟩ := hl
      cases hprog : c.threads t with
      | ret a => simp [hprog, Prog.head?] at hop
      | raise e => simp [hprog, Prog.head?] at hop
      | call op' k =>
          have hop' : op' = op := by simpa [hprog, Prog.head?] using hop
          subst hop'
          rw [Machine.step_act hprog]
          exact not_keepsCommitted_handle (hwrites.head hop) hstale

/-- Along every interleaving of one run of the timer with the commits of the conversation, every
committed value outside the timer's own keys stays stored exactly if every write of the timer that
takes effect finds only committed values that its candidate was read with (a handoff: that it
writes itself). -/
theorem committed_values_stay_iff (rt : Runtime) (settings : IdleSettings) (now : Nat)
    (candidate : IdleCandidate) (db : Database)
    (labels : List (Machine.Label (slotMachine rt candidate) Unit)) :
    (∀ first rest, labels = first ++ rest → KeepsCommitted candidate.conversationId
        (Machine.run (slotStart rt settings now candidate db) first).world) ↔
      Machine.AllSteps (Machine.Executes (WritesFresh rt candidate))
        (slotStart rt settings now candidate db) labels := by
  apply Machine.always_iff_allSteps (P := fun c => KeepsCommitted candidate.conversationId c.world)
    TimerWrites timerWrites_step
  · exact keepsCommitted_step
  · exact not_keepsCommitted_step
  · intro t
    apply (writesCandidate_processIdleConversation rt settings now candidate).bind
    intro processed
    exact Prog.all_ret _
  · intro memory hmemory
    cases hmemory

end Runs

/-! ## A case that is lost -/

/-- The candidate of the forgotten chat. -/
def forgottenCandidate : IdleCandidate where
  conversationId := "livechat:C1:T1"
  tenantId := "default"
  channelType := "livechat"
  chatId := "C1"
  threadId := some "T1"
  status := .aiActive
  activeWorkflow := none
  slotMemory := ∅
  latestMessageId := 1
  latestSenderRole := "assistant"
  latestCreatedAt := 0

/-- The result of a new Telegram case. -/
def caseCommit : CommitOf forgottenCandidate.conversationId :=
  ⟨.processResult ⟨none, false⟩ ⟨7, "C1", some "T1"⟩
    ⟨some .waitingExternal, none, some "waiting_backend",
      some (.ofList [("telegram_case_id", .str "tg:1")]), none, [], none⟩ [] [] none, by decide⟩

/-- The case is created while the timer asks for the activity of the customer. -/
def caseSchedule : List (Machine.Label (slotMachine .plain forgottenCandidate) Unit) :=
  [.act () quietChoice, .env caseCommit, .act () quietChoice, .act () quietChoice]

/-- The timer closes the chat and forgets the case. -/
theorem committed_case_is_lost :
    ¬∀ first rest, caseSchedule = first ++ rest →
      KeepsCommitted forgottenCandidate.conversationId
        (Machine.run (slotStart .plain ⟨20, 120, 120, fun _ => ""⟩ (seconds 2000)
          forgottenCandidate forgottenChat) first).world := by
  intro h
  have hlast := h caseSchedule [] rfl
  obtain ⟨stored, hstored, hget⟩ := hlast (.ofList [("telegram_case_id", .str "tg:1")]) rfl
    "telegram_case_id" (.str "tg:1") (by decide) rfl
  cases hstored
  cases hget

end AiCustomerService
