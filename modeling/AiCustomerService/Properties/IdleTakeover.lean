import AiCustomerService.Support.Pool
import AiCustomerService.Workers.IdleTimer
import AiCustomerService.Properties.HandoffLock

/-!
# A takeover while the idle timer is waiting

Between reading a conversation and closing it the timer waits for a model, for
activity checks and for LiveChat.  The writers of the status may act at every
such point.
-/

namespace AiCustomerService

open Support

/-- What a schedule decides about one operation: a failure, the clock of the
process, the answer of the activity query and the answer of the model. -/
structure IdleChoice where
  fault : Option (Fault ServiceError)
  clock : Nat
  activity : Bool
  finalized : FinalizedText

/-- The answer of an operation of the timer and the database after it. -/
def executeIdleOp (rt : Runtime) (choice : IdleChoice) (db : Database) :
    (op : IdleOp) → Except ServiceError op.Res × Database
  | .fetchCandidates limit => (.ok (fetchCandidates rt db limit choice.clock), db)
  | .fetchLatestMessage conversationId => (.ok (fetchLatestMessage db conversationId), db)
  | .fetchMessageCreatedAt conversationId messageId =>
      (.ok ((db.conversationMessages.find? fun row =>
        row.conversationId = conversationId && decide ((row.id : Int) = messageId)).map
          ConversationMessageRow.createdAt), db)
  | .hasUnfinishedWork conversationId => (.ok (hasUnfinishedWork db conversationId), db)
  | .hasCustomerActivityAfter _ _ => (.ok choice.activity, db)
  | .insertAssistantMessage candidate text now =>
      let inserted := insertAssistantMessage db candidate text now
      (.ok inserted.2, inserted.1)
  | .updateSlotMemory conversationId slotMemory =>
      (.ok (), updateSlotMemory db conversationId slotMemory)
  | .markClosed conversationId slotMemory => (.ok (), markClosed db conversationId slotMemory)
  | .requestAiFailureHandoff candidate now reason =>
      match requestAiFailureHandoff rt db candidate now reason with
      | .ok (db', requested) => (.ok requested, db')
      | .error e => (.error (.python e), db)
  | .finalizeUserVisibleText _ _ _ _ => (.ok choice.finalized, db)
  | .sendText _ _ _ => (.ok (), db)
  | .deactivateChat _ => (.ok (), db)

/-- The conversations that an answer lets the timer know. -/
def idsRead : (op : IdleOp) → Except ServiceError op.Res → List String
  | .fetchCandidates _, .ok candidates =>
      List.map IdleCandidate.conversationId candidates
  | _, _ => []

/-- The database, and the conversations that a timer has read so far. -/
structure IdleWorld where
  db : Database
  read : List String

/-- Execute an operation and keep a record of what was read. -/
def handleIdleOp (rt : Runtime) (op : IdleOp) (choice : IdleChoice) (w : IdleWorld) :
    Except ServiceError op.Res × IdleWorld :=
  let done := faulty choice.fault w.db (executeIdleOp rt choice w.db op)
  (done.1, ⟨done.2, idsRead op done.1 ++ w.read⟩)

/-- Runs of the timer next to the writers of the status. -/
def idleMachine (rt : Runtime) : Machine idleOps where
  World := IdleWorld
  Choice := IdleChoice
  Env := Writer
  Job := IdleSettings × Nat
  handle := handleIdleOp rt
  environ writer w := { w with db := applyWriter rt w.db writer }
  start job w := some (processIdleConversations rt job.1 job.2 >>= fun _ => .ret (), w)

/-- A timer has read the conversation, and it is handed over now. -/
def TakenOver (conversationId : String) (w : IdleWorld) : Prop :=
  conversationId ∈ w.read ∧ w.db.isLocked conversationId = true

/-- The operation closes no conversation that is handed over when it takes effect. -/
def ClosesUnlocked (w : IdleWorld) (op : IdleOp) (choice : IdleChoice) : Prop :=
  ∀ conversationId slotMemory, op = .markClosed conversationId slotMemory →
    choice.fault.all Fault.applied = true → w.db.isLocked conversationId = false

/-! ## What the timer has read -/

/-- The timer closes only what it has read; a phase is what it has read so far. -/
def ReadsFirst : Protocol idleOps (List String) := fun ids op r ids' =>
  (∀ conversationId slotMemory, op = .markClosed conversationId slotMemory →
    conversationId ∈ ids) ∧ ids' = idsRead op r ++ ids

theorem readsFirst_processIdleConversations (rt : Runtime) (settings : IdleSettings)
    (now : Nat) : Follows ReadsFirst (fun _ => True) [] (processIdleConversations rt settings now) := by
  have hfetch : FollowsTo ReadsFirst
      (fun ids r => ∀ candidates, r = .ok candidates →
        ids = List.map IdleCandidate.conversationId candidates)
      [] (IdleOp.fetchCandidates settings.limit).call := by
    apply FollowsTo.perform
    intro r
    refine ⟨_, ⟨by rintro _ _ ⟨⟩, rfl⟩, ?_⟩
    rintro candidates rfl
    simp [idsRead]
  apply hfetch.bind
  · intro ids candidates hids
    have hread := hids candidates rfl
    have hall : Prog.All (I := idleOps)
        (fun op => ∃ candidate ∈ candidates, op.ClosesOnly candidate.conversationId)
        (candidates.mapM fun candidate => do
          let processed ← processIdleConversation rt settings now candidate
          pure processed.1) := by
      apply Prog.All.mapM
      intro candidate hcandidate
      have hclose := closesCandidate_processIdleConversation rt settings now candidate
      apply Prog.All.bind (hclose.mono fun op hop => ⟨candidate, hcandidate, hop⟩)
      intro processed
      exact Prog.all_ret _
    refine FollowsTo.follows (FollowsTo.of_all hall ?_) fun _ _ _ => trivial
    rintro op r ⟨candidate, hcandidate, hop⟩
    constructor
    · rintro conversationId slotMemory rfl
      rw [hread, hop]
      exact List.mem_map_of_mem hcandidate
    · cases op with
      | fetchCandidates limit => exact hop.elim
      | _ => rfl
  · intro ids e _
    trivial

/-! ## Single operations -/

/-- Writing only the slot memory keeps every status. -/
theorem isLocked_updateSlotMemory {db : Database} {conversationId : String} (id : String)
    (slotMemory : JsonObject) (h : db.isLocked conversationId = true) :
    (updateSlotMemory db id slotMemory).isLocked conversationId = true := by
  have hupdate := @statusHolds_update db ConversationStatus.isLocked conversationId id (fun _ => true)
    (fun row => { row with slotMemory }) (fun _ => rfl) (fun _ hlocked _ => hlocked) h
  simpa [updateSlotMemory, Database.updateConversation, Database.isLocked] using hupdate

/-- Closing another conversation keeps the status. -/
theorem isLocked_markClosed_of_ne {db : Database} {conversationId id : String}
    (slotMemory : JsonObject) (hne : conversationId ≠ id)
    (h : db.isLocked conversationId = true) :
    (markClosed db id slotMemory).isLocked conversationId = true := by
  unfold Database.isLocked Database.statusHolds at h ⊢
  rw [markClosed, conversation?_updateConversation]
  simpa [hne] using h

/-- A closed conversation is not handed over any more. -/
theorem not_isLocked_markClosed (db : Database) (id : String) (slotMemory : JsonObject) :
    (markClosed db id slotMemory).isLocked id = false := by
  unfold Database.isLocked Database.statusHolds
  rw [markClosed, conversation?_updateConversation]
  cases db.conversation? id with
  | none => rfl
  | some row => simp [ConversationStatus.isLocked]

/-- Every operation but `mark_closed` of the conversation keeps it handed over. -/
theorem isLocked_executeIdleOp {rt : Runtime} {db : Database} {conversationId : String} (op : IdleOp)
    (choice : IdleChoice)
    (hother : ∀ slotMemory, op ≠ .markClosed conversationId slotMemory)
    (h : db.isLocked conversationId = true) :
    (executeIdleOp rt choice db op).2.isLocked conversationId = true := by
  cases op with
  | updateSlotMemory id slotMemory => exact isLocked_updateSlotMemory id slotMemory h
  | markClosed id slotMemory =>
      apply isLocked_markClosed_of_ne slotMemory _ h
      rintro rfl
      exact hother slotMemory rfl
  | requestAiFailureHandoff candidate now reason =>
      have hcommitted := @isLocked_requestAiFailureHandoff rt db conversationId candidate now
        reason h
      simp only [executeIdleOp]
      cases hrun : requestAiFailureHandoff rt db candidate now reason with
      | ok outcome => simpa [hrun, committed] using hcommitted
      | error e => exact h
  | fetchCandidates limit => exact h
  | fetchLatestMessage id => exact h
  | fetchMessageCreatedAt id messageId => exact h
  | hasUnfinishedWork id => exact h
  | hasCustomerActivityAfter chatId occurredAfter => exact h
  | insertAssistantMessage candidate text now => exact h
  | finalizeUserVisibleText candidate slotMemory fallbackText template => exact h
  | sendText chatId threadId text => exact h
  | deactivateChat chatId => exact h

/-- An operation that meets the condition keeps the conversation handed over. -/
theorem isLocked_handleIdleOp {rt : Runtime} {w : IdleWorld} {op : IdleOp}
    {choice : IdleChoice} {conversationId : String} (hcloses : ClosesUnlocked w op choice)
    (h : w.db.isLocked conversationId = true) :
    (handleIdleOp rt op choice w).2.db.isLocked conversationId = true := by
  change (faulty choice.fault w.db (executeIdleOp rt choice w.db op)).2.isLocked
    conversationId = true
  by_cases hclose : ∃ slotMemory, op = .markClosed conversationId slotMemory
  · obtain ⟨slotMemory, rfl⟩ := hclose
    by_cases happlied : choice.fault.all Fault.applied = true
    · have hunlocked := hcloses conversationId slotMemory rfl happlied
      rw [hunlocked] at h
      cases h
    · cases hfault : choice.fault with
      | none => simp [hfault] at happlied
      | some fault =>
          have hlost : fault.applied = false := by simpa [hfault] using happlied
          simpa [faulty, hlost] using h
  · refine faulty_induction
      (motive := fun db : Database => db.isLocked conversationId = true) h ?_
    apply isLocked_executeIdleOp op choice _ h
    intro slotMemory heq
    exact hclose ⟨slotMemory, heq⟩

/-- A conversation that `mark_closed` really closes is not handed over. -/
theorem not_isLocked_handleIdleOp {rt : Runtime} {w : IdleWorld} {choice : IdleChoice}
    (conversationId : String) (slotMemory : JsonObject)
    (happlied : choice.fault.all Fault.applied = true) :
    (handleIdleOp rt (.markClosed conversationId slotMemory) choice w).2.db.isLocked
      conversationId = false := by
  have hclosed := not_isLocked_markClosed w.db conversationId slotMemory
  change (faulty choice.fault w.db (Except.ok (), markClosed w.db conversationId
    slotMemory)).2.isLocked conversationId = false
  cases hfault : choice.fault with
  | none => simpa [faulty] using hclosed
  | some fault =>
      have happlied' : fault.applied = true := by simpa [hfault] using happlied
      simpa [faulty, happlied'] using hclosed

/-! ## Runs -/

section Runs

variable {T : Type} [DecidableEq T] {rt : Runtime}

/-- Every conversation that a thread has read is on record. -/
def ReadsRecorded (w : IdleWorld) (phases : T → List String) : Prop :=
  ∀ t conversationId, conversationId ∈ phases t → conversationId ∈ w.read


theorem isInvariant_readsRecorded :
    Machine.IsInvariant (M := idleMachine rt) (T := T) ReadsFirst (fun _ => True)
      (fun _ _ _ => True) ReadsRecorded := by
  refine ⟨?_, ?_, ?_⟩
  · rintro w phases t op choice p hread - ⟨-, rfl⟩ t' conversationId hmem
    change conversationId ∈ idsRead op _ ++ w.read
    by_cases ht : t' = t
    · subst ht
      rw [Function.update_self, List.mem_append] at hmem
      rw [List.mem_append]
      rcases hmem with hnew | hold
      · exact Or.inl hnew
      · exact Or.inr (hread _ _ hold)
    · rw [Function.update_of_ne ht] at hmem
      exact List.mem_append_right _ (hread _ _ hmem)
  · intro w phases writer hread
    exact hread
  · intro w phases t job prog w' hread _ hstart
    cases hstart
    refine ⟨[], ?_, ?_⟩
    · apply (readsFirst_processIdleConversations rt job.1 job.2).bind
      · intro p results _
        trivial
      · intro p e _
        trivial
    · intro t' conversationId hmem
      by_cases ht : t' = t
      · subst ht
        simp at hmem
      · rw [Function.update_of_ne ht] at hmem
        exact hread _ _ hmem

/-- A step that meets the condition keeps a taken over conversation. -/
theorem takenOver_step {conversationId : String} (c : Machine.Config (idleMachine rt) T)
    (l : Machine.Label (idleMachine rt) T) (hl : Machine.Executes ClosesUnlocked c l)
    (h : TakenOver conversationId c.world) :
    TakenOver conversationId (Machine.step c l).world := by
  cases l with
  | env writer => exact ⟨h.1, isLocked_applyWriter rt writer h.2⟩
  | spawn t job =>
      cases hhead : (c.threads t).head? with
      | some op => rwa [Machine.step_spawn_of_head_eq_some hhead]
      | none =>
          have hstart : (idleMachine rt).start job c.world = some
              (processIdleConversations rt job.1 job.2 >>= fun _ => .ret (), c.world) := rfl
          rwa [Machine.step_spawn hhead hstart]
  | act t choice =>
      cases hprog : c.threads t with
      | ret a => rwa [Machine.step_act_finished (by rw [hprog]; rfl)]
      | raise e => rwa [Machine.step_act_finished (by rw [hprog]; rfl)]
      | call op k =>
          have hcloses : ClosesUnlocked c.world op choice := hl op (by rw [hprog]; rfl)
          rw [Machine.step_act hprog]
          exact ⟨List.mem_append_right _ h.1, isLocked_handleIdleOp hcloses h.2⟩

/-- A step that does not meet the condition closes a conversation that a timer had
read and that was taken over since. -/
theorem takenOver_broken (c : Machine.Config (idleMachine rt) T)
    (l : Machine.Label (idleMachine rt) T)
    (hread : Machine.Tracks ReadsFirst (fun _ => True) ReadsRecorded c)
    (hl : ¬Machine.Executes ClosesUnlocked c l) :
    ∃ conversationId, TakenOver conversationId c.world ∧
      ¬TakenOver conversationId (Machine.step c l).world := by
  cases l with
  | env writer => exact absurd trivial hl
  | spawn t job => exact absurd trivial hl
  | act t choice =>
      simp only [Machine.Executes, ClosesUnlocked, not_forall] at hl
      obtain ⟨op, hop, conversationId, slotMemory, rfl, happlied, hlocked⟩ := hl
      obtain ⟨phases, hrecorded, hthreads⟩ := hread
      cases hprog : c.threads t with
      | ret a => simp [hprog, Prog.head?] at hop
      | raise e => simp [hprog, Prog.head?] at hop
      | call op k =>
          have hop' : op = .markClosed conversationId slotMemory := by
            simpa [hprog, Prog.head?] using hop
          subst hop'
          have hfollows := hthreads t
          rw [hprog] at hfollows
          obtain ⟨p, hδ, -⟩ := hfollows (.ok ())
          have hmem := hrecorded t conversationId (hδ.1 _ _ rfl)
          refine ⟨conversationId, ⟨hmem, by simpa using hlocked⟩, ?_⟩
          rintro ⟨-, hstill⟩
          rw [Machine.step_act hprog] at hstill
          have hclosed := @not_isLocked_handleIdleOp rt c.world choice conversationId
            slotMemory happlied
          exact absurd (hclosed.symm.trans hstill) (by decide)

/-- No timer is running, and none has read anything. -/
def idleStart (rt : Runtime) (T : Type) [DecidableEq T] (db : Database) :
    Machine.Config (idleMachine rt) T :=
  Machine.idle (M := idleMachine rt) ⟨db, []⟩

/-- Along every interleaving of timers and writers, a conversation that is taken
over after a timer has read it stays taken over exactly when `mark_closed` never
takes effect on a conversation that is handed over at that moment. -/
theorem takeover_survives_idle_timer_iff (db : Database)
    (labels : List (Machine.Label (idleMachine rt) T)) :
    Machine.Persists (fun conversationId c => TakenOver conversationId c.world)
        (idleStart rt T db) labels ↔
      Machine.AllSteps (Machine.Executes ClosesUnlocked) (idleStart rt T db) labels := by
  apply Machine.persists_iff_allSteps (Machine.Tracks ReadsFirst (fun _ => True) ReadsRecorded)
  · intro c l hread
    apply hread.step isInvariant_readsRecorded
    cases l with
    | act t choice => exact fun _ _ => trivial
    | env writer => trivial
    | spawn t job => trivial
  · intro conversationId c l _ hl h
    exact takenOver_step c l hl h
  · intro c l hread hl
    exact takenOver_broken c l hread hl
  · refine ⟨fun _ => [], ?_, fun _ => trivial⟩
    intro t conversationId hmem
    cases hmem

end Runs

/-! ## A takeover that is closed -/

/-- A forgotten chat: the assistant wrote the last message a long time ago. -/
def forgottenChat : Database :=
  { Database.empty.entered "C1" (some "T1") with
    conversationMessages :=
      [{ id := 1, conversationId := "livechat:C1:T1", tenantId := "default",
         channelType := "livechat", chatId := some "C1", threadId := some "T1",
         inboundEventId := none, outboundMessageId := none, externalCommandResultId := none,
         senderRole := "assistant", messageType := "text", textContent := some "hola",
         source := "sender_worker", createdAt := 0 }] }

/-- Nothing fails and the customer says nothing. -/
def quietChoice : IdleChoice := ⟨none, seconds 2000, false, ⟨"", ∅, .null⟩⟩

/-- The timer has found the chat forgotten when an agent answers it. -/
def takeoverSchedule : List (Machine.Label (idleMachine .plain) Unit) :=
  [.spawn () (⟨20, 120, 120, fun _ => ""⟩, seconds 2000), .act () quietChoice,
    .act () quietChoice, .act () quietChoice,
    .env (.markHumanActive ⟨some "C1", some "T1", none, none, none, ∅⟩), .act () quietChoice]

/-- The stored status of a conversation. -/
def Database.status? (db : Database) (conversationId : String) : Option ConversationStatus :=
  (db.conversation? conversationId).map ConversationRow.status

/-- The conversation of the agent is closed. -/
theorem taken_over_conversation_is_closed :
    let start := idleStart .plain Unit forgottenChat
    let before := Machine.run start (takeoverSchedule.take 5)
    let after := Machine.run start takeoverSchedule
    "livechat:C1:T1" ∈ before.world.read ∧
      Database.status? before.world.db "livechat:C1:T1" = some .humanActive ∧
      Database.status? after.world.db "livechat:C1:T1" = some .closed := by
  refine ⟨?_, ?_, ?_⟩
  · decide
  · decide
  · decide

end AiCustomerService
