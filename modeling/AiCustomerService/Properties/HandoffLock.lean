import AiCustomerService.Workers.IdleTimerRepository

/-!
# The handoff lock

`HANDOFF_REQUESTED` and `HUMAN_ACTIVE` lock a conversation.  Every writer of the
status respects the lock in its own way: the two transactions give up, the
workflow update is guarded, a failed handoff and a takeover write a locked
status themselves, and the idle timer hands over unlocked conversations only.
-/

namespace AiCustomerService

open Support

/-- A call that may write `conversation_states.status`. -/
inductive Writer
  | processEvent (ctx : TxContext) (inboundEventId : Nat) (event : InboundEvent)
      (customerMessage : Option ConversationMessage) (outboundMessages : List OutboundMessage)
      (externalCommands : List ExternalCommand) (graphState : Option GraphState)
      (assistantMessages : List ConversationMessage)
  | processResult (ctx : TxContext) (result : ResultRef) (graphState : GraphState)
      (outboundMessages : List OutboundMessage) (externalCommands : List ExternalCommand)
      (summaryMessage : Option ConversationMessage)
  | updateWorkflowState (ctx : TxContext) (conversationId : String) (graphState : GraphState)
  | recordHandoffFailure (conversationId : String) (failure : JsonObject)
  | markHumanActive (event : InboundEvent)
  | requestAiFailureHandoff (candidate : IdleCandidate) (now : Nat) (reason : String)

/-- The database after a transaction; one that raised was rolled back. -/
def committed {α : Type} (db : Database) : Except PyError (Database × α) → Database
  | .ok (db', _) => db'
  | .error _ => db

theorem committed_induction {α : Type} {db : Database}
    {outcome : Except PyError (Database × α)} {motive : Database → Prop}
    (hrollback : motive db) (hcommit : ∀ db' a, outcome = .ok (db', a) → motive db') :
    motive (committed db outcome) := by
  cases outcome with
  | error e => exact hrollback
  | ok pair => exact hcommit pair.1 pair.2 rfl

/-- Execute one call. -/
def applyWriter (rt : Runtime) (db : Database) : Writer → Database
  | .processEvent ctx inboundEventId event customer messages commands graphState assistant =>
      committed db (processEventTransactionally db ctx inboundEventId event customer messages
        commands graphState assistant)
  | .processResult ctx result graphState messages commands summary =>
      committed db (processResultTransactionally db ctx result graphState messages commands
        summary)
  | .updateWorkflowState ctx conversationId graphState =>
      (updateWorkflowStateOnConnection db ctx conversationId graphState).1
  | .recordHandoffFailure conversationId failure =>
      (recordHandoffFailure db conversationId failure).1
  | .markHumanActive event => markHumanActiveOnConnection db event
  | .requestAiFailureHandoff candidate now reason =>
      committed db (requestAiFailureHandoff rt db candidate now reason)

/-- The conversation of a `process_*` transaction. -/
def Writer.processedConversation? : Writer → Option String
  | .processEvent _ _ event _ _ _ _ _ =>
      some (conversationIdForChat (some (textOr event.chatId "unknown")) event.threadId)
  | .processResult _ result _ _ _ _ =>
      some (conversationIdForChat (some result.chatId) result.threadId)
  | _ => none

/-- The call is one of the `process_*` transactions or `record_handoff_failure`. -/
def Writer.isAutomatic : Writer → Bool
  | .processEvent .. => true
  | .processResult .. => true
  | .recordHandoffFailure .. => true
  | _ => false

/-- Execute calls one after another. -/
def runWriters (rt : Runtime) (db : Database) (writers : List Writer) : Database :=
  writers.foldl (applyWriter rt) db

/-- The stored status of the conversation satisfies `P`. -/
def Database.statusHolds (db : Database) (P : ConversationStatus → Bool)
    (conversationId : String) : Bool :=
  (db.conversation? conversationId).any fun row => P row.status

/-- The conversation is handed over. -/
def Database.isLocked (db : Database) (conversationId : String) : Bool :=
  db.statusHolds ConversationStatus.isLocked conversationId

/-- A human agent answers the conversation. -/
def Database.isHumanActive (db : Database) (conversationId : String) : Bool :=
  db.statusHolds (fun status => status = .humanActive) conversationId

/-! ## Statements that keep a status -/

theorem statusHolds_congr {db db' : Database} (P : ConversationStatus → Bool)
    {conversationId : String}
    (h : db'.conversation? conversationId = db.conversation? conversationId) :
    db'.statusHolds P conversationId = db.statusHolds P conversationId := by
  rw [Database.statusHolds, Database.statusHolds, h]

theorem statusHolds_of_conversationStates {db db' : Database} (P : ConversationStatus → Bool)
    (conversationId : String) (h : db'.conversationStates = db.conversationStates) :
    db'.statusHolds P conversationId = db.statusHolds P conversationId := by
  apply statusHolds_congr
  rw [Database.conversation?, Database.conversation?, h]

/-- An insert never changes the status of a stored conversation. -/
theorem statusHolds_insertConversation {db : Database} {P : ConversationStatus → Bool}
    {conversationId : String} (id chatId : String) (threadId : Option String)
    (route : Option String → Option String) (h : db.statusHolds P conversationId = true) :
    (db.insertConversation id chatId threadId route).statusHolds P conversationId = true := by
  unfold Database.statusHolds at h ⊢
  rw [conversation?_insertConversation]
  by_cases hid : conversationId = id
  · subst hid
    rw [if_pos rfl, Database.rowAfterInsert]
    cases hrow : db.conversation? conversationId with
    | none => simp [hrow] at h
    | some row => simpa [hrow] using h
  · rw [if_neg hid]
    exact h

/-- A guarded statement keeps `P` when it keeps `P` on the rows it selects. -/
theorem statusHolds_update {db : Database} {P : ConversationStatus → Bool}
    {conversationId : String} (id : String) (select : ConversationRow → Bool)
    (assign : ConversationRow → ConversationRow)
    (hkey : ∀ row, (assign row).conversationId = row.conversationId)
    (hassign : ∀ row, P row.status = true → select row = true → P (assign row).status = true)
    (h : db.statusHolds P conversationId = true) :
    Database.statusHolds
      { db with
        conversationStates := db.conversationStates.updateWhere
          (fun row => row.conversationId = id && select row) assign hkey }
      P conversationId = true := by
  have hfind := find?_updateWhere_conversation db id conversationId select assign hkey
  unfold Database.statusHolds at h ⊢
  rw [Database.conversation?, hfind]
  cases hrow : db.conversation? conversationId with
  | none => simp [hrow] at h
  | some row =>
      have hP : P row.status = true := by simpa [hrow] using h
      by_cases hselect : conversationId = id ∧ select row = true
      · simpa [hselect] using hassign row hP hselect.2
      · simp [hselect, hP]

/-- A statement without a guard keeps `P` when it assigns a status with `P`. -/
theorem statusHolds_updateConversation {db : Database} {P : ConversationStatus → Bool}
    {conversationId : String} (id : String) (assign : ConversationRow → ConversationRow)
    (hkey : ∀ row, (assign row).conversationId = row.conversationId)
    (hassign : ∀ row, P (assign row).status = true)
    (h : db.statusHolds P conversationId = true) :
    (db.updateConversation id assign hkey).statusHolds P conversationId = true := by
  have hupdate := statusHolds_update id (fun _ => true) assign hkey
    (fun row _ _ => hassign row) h
  simpa [Database.updateConversation] using hupdate

/-- The guard of the workflow update: a locked row only takes a locked status. -/
theorem isLocked_updateGraphState {db : Database} {conversationId : String} (id : String)
    (graphState : GraphState) (h : db.isLocked conversationId = true) :
    (db.updateGraphState id graphState).isLocked conversationId = true := by
  refine statusHolds_update id _ _ _ ?_ h
  intro row hlocked haccepts
  have hstatus : statusIsLocked graphState.status = true := by
    simpa [ConversationRow.acceptsGraphState, hlocked] using haccepts
  cases hsome : graphState.status with
  | none => simp [hsome, statusIsLocked] at hstatus
  | some status =>
      simpa [hsome, statusIsLocked, ConversationRow.withGraphState] using hstatus

/-- A failed handoff is recorded next to a locked status, and not at all next to
`HUMAN_ACTIVE`. -/
theorem statusHolds_recordHandoffFailure {db : Database} {P : ConversationStatus → Bool}
    {conversationId : String} (id : String) (failure : JsonObject)
    (hP : P .handoffRequested = true ∨ ∀ status, P status = true → status = .humanActive)
    (h : db.statusHolds P conversationId = true) :
    (recordHandoffFailure db id failure).1.statusHolds P conversationId = true := by
  unfold recordHandoffFailure
  cases hrow : db.conversation? id with
  | none => exact h
  | some row =>
      by_cases hhuman : row.status = .humanActive
      · simpa [hhuman] using h
      · simp only [if_neg hhuman]
        refine statusHolds_update id _ _ _ ?_ h
        intro row hProw hselect
        rcases hP with hrequested | honly
        · exact hrequested
        · simp [honly row.status hProw] at hselect

/-- A takeover keeps every property that `HUMAN_ACTIVE` has. -/
theorem statusHolds_markHumanActive {db : Database} {P : ConversationStatus → Bool}
    {conversationId : String} (event : InboundEvent) (hP : P .humanActive = true)
    (h : db.statusHolds P conversationId = true) :
    (markHumanActiveOnConnection db event).statusHolds P conversationId = true := by
  have hinserted := statusHolds_insertConversation
    (conversationIdForChat event.chatId event.threadId) (textOr event.chatId "unknown")
    event.threadId (fun stored => event.threadId.or stored) h
  have hupdated := statusHolds_updateConversation
    (conversationIdForChat event.chatId event.threadId) (fun row => row.takenOver event)
    (fun _ => rfl) (fun _ => hP) hinserted
  rw [← hupdated]
  apply statusHolds_of_conversationStates
  exact cancelQueued_conversationStates _ _

theorem isLocked_requestAiFailureHandoff {rt : Runtime} {db : Database}
    {conversationId : String} (candidate : IdleCandidate) (now : Nat) (reason : String)
    (h : db.isLocked conversationId = true) :
    (committed db (requestAiFailureHandoff rt db candidate now reason)).isLocked
      conversationId = true := by
  refine committed_induction (motive := fun db' => db'.isLocked conversationId = true) h ?_
  intro db' requested hrun
  unfold requestAiFailureHandoff at hrun
  cases hrow : db.conversation? candidate.conversationId with
  | none =>
      simp only [hrow, Except.ok.injEq, Prod.mk.injEq] at hrun
      exact hrun.1 ▸ h
  | some row =>
      simp only [hrow] at hrun
      by_cases heligible : aiFailureHandoffEligible rt row = true
      · rw [if_neg (by simp [heligible])] at hrun
        obtain ⟨⟨inserted, report⟩, hinsert, hpure⟩ := bind_eq_ok.mp hrun
        cases hpure
        have hframe := (insertExternalCommand_ok hinsert).1
        have hstates := congrArg Database.conversationStates hframe
        refine (statusHolds_of_conversationStates _ _ hstates).trans ?_
        exact statusHolds_updateConversation _ (fun row => row.handedOver _) (fun _ => rfl)
          (fun _ => rfl) h
      · rw [if_pos (by simp [heligible])] at hrun
        simp only [Except.ok.injEq, Prod.mk.injEq] at hrun
        exact hrun.1 ▸ h

/-! ## The transactions -/

/-- A transaction that goes through finds its conversation unlocked, and it
writes no other conversation. -/
theorem statusHolds_enqueued {db db' : Database} {P : ConversationStatus → Bool}
    {chatId : String} {threadId : Option String} {conversationId : String}
    {messages : List OutboundMessage} {commands : List ExternalCommand}
    {result : TransactionResult}
    {states : Table String ConversationRow ConversationRow.conversationId}
    (hP : ∀ status, P status = true → status.isLocked = true)
    (hstates : states = (db.entered chatId threadId).conversationStates ∨
      ∃ graphState, states = ((db.entered chatId threadId).updateGraphState
        (conversationIdForChat (some chatId) threadId) graphState).conversationStates)
    (henqueued : Enqueued db chatId threadId states messages commands db' result)
    (h : db.statusHolds P conversationId = true) :
    db'.statusHolds P conversationId = true := by
  have hne : conversationId ≠ conversationIdForChat (some chatId) threadId := by
    rintro rfl
    have hfree := henqueued.free
    unfold Database.statusHolds at h
    unfold Database.ensuredRow Database.rowAfterInsert at hfree
    cases hrow : db.conversation? (conversationIdForChat (some chatId) threadId) with
    | none => simp [hrow] at h
    | some row =>
        have hlocked := hP row.status (by simpa [hrow] using h)
        simp [hrow, hlocked] at hfree
  have hentered := conversation?_entered db chatId threadId conversationId
  rw [if_neg hne] at hentered
  rcases hstates with rfl | ⟨graphState, rfl⟩
  · rw [statusHolds_of_conversationStates P conversationId henqueued.states,
      statusHolds_congr P hentered]
    exact h
  · have hupdate := conversation?_updateGraphState (db.entered chatId threadId)
      (conversationIdForChat (some chatId) threadId) graphState conversationId
    rw [statusHolds_of_conversationStates P conversationId henqueued.states]
    unfold Database.statusHolds at h ⊢
    rw [hupdate, hentered]
    simpa [hne] using h

theorem afterEvent_cases (db : Database) (chatId : String) (threadId : Option String)
    (graphState : Option GraphState) :
    db.afterEvent chatId threadId graphState =
        (db.entered chatId threadId).conversationStates ∨
      ∃ state, db.afterEvent chatId threadId graphState =
        ((db.entered chatId threadId).updateGraphState
          (conversationIdForChat (some chatId) threadId) state).conversationStates := by
  cases graphState with
  | none => exact Or.inl rfl
  | some state => exact Or.inr ⟨state, rfl⟩

/-- A `process_*` transaction keeps every locked status as it is. -/
theorem statusHolds_processed {rt : Runtime} {db : Database}
    {P : ConversationStatus → Bool} {writer : Writer} {conversationId : String}
    (hP : ∀ status, P status = true → status.isLocked = true)
    (hprocess : writer.processedConversation?.isSome = true)
    (h : db.statusHolds P conversationId = true) :
    (applyWriter rt db writer).statusHolds P conversationId = true := by
  cases writer with
  | processEvent ctx inboundEventId event customer messages commands graphState assistant =>
      refine committed_induction (motive := fun db' => db'.statusHolds P conversationId = true)
        h ?_
      intro db' outcome hrun
      rcases processEvent_cases hrun with hskipped | henqueued
      · rw [statusHolds_of_conversationStates P _ hskipped.states]
        exact statusHolds_insertConversation _ _ _ _ h
      · exact statusHolds_enqueued hP (afterEvent_cases db _ _ graphState) henqueued h
  | processResult ctx result graphState messages commands summary =>
      refine committed_induction (motive := fun db' => db'.statusHolds P conversationId = true)
        h ?_
      intro db' outcome hrun
      rcases processResult_cases hrun with hskipped | henqueued
      · rw [statusHolds_of_conversationStates P _ hskipped.states]
        exact statusHolds_insertConversation _ _ _ _ h
      · exact statusHolds_enqueued hP (Or.inr ⟨_, rfl⟩) henqueued h
  | updateWorkflowState ctx id graphState => simp [Writer.processedConversation?] at hprocess
  | recordHandoffFailure id failure => simp [Writer.processedConversation?] at hprocess
  | markHumanActive event => simp [Writer.processedConversation?] at hprocess
  | requestAiFailureHandoff candidate now reason =>
      simp [Writer.processedConversation?] at hprocess

/-- A `process_*` transaction on a locked conversation enqueues nothing. -/
theorem queues_processed_of_locked {rt : Runtime} {db : Database} {writer : Writer}
    {conversationId : String}
    (hprocess : writer.processedConversation? = some conversationId)
    (h : db.isLocked conversationId = true) :
    (applyWriter rt db writer).outboundMessages = db.outboundMessages ∧
      (applyWriter rt db writer).externalCommands = db.externalCommands := by
  have hensured : ∀ chatId threadId,
      conversationIdForChat (some chatId) threadId = conversationId →
        (db.ensuredRow chatId threadId).status.isLocked = true := by
    rintro chatId threadId rfl
    unfold Database.isLocked Database.statusHolds at h
    unfold Database.ensuredRow Database.rowAfterInsert
    cases hrow : db.conversation? (conversationIdForChat (some chatId) threadId) with
    | none => simp [hrow] at h
    | some row => simpa [hrow] using h
  cases writer with
  | processEvent ctx inboundEventId event customer messages commands graphState assistant =>
      have hid : conversationIdForChat (some (textOr event.chatId "unknown"))
          event.threadId = conversationId := by
        simpa [Writer.processedConversation?] using hprocess
      refine committed_induction (motive := fun db' =>
        db'.outboundMessages = db.outboundMessages ∧
          db'.externalCommands = db.externalCommands) ⟨rfl, rfl⟩ ?_
      intro db' outcome hrun
      rcases processEvent_cases hrun with hskipped | henqueued
      · exact ⟨hskipped.outbound, hskipped.commands⟩
      · have hlocked := hensured _ _ hid
        rw [henqueued.free] at hlocked
        cases hlocked
  | processResult ctx result graphState messages commands summary =>
      have hid : conversationIdForChat (some result.chatId) result.threadId =
          conversationId := by
        simpa [Writer.processedConversation?] using hprocess
      refine committed_induction (motive := fun db' =>
        db'.outboundMessages = db.outboundMessages ∧
          db'.externalCommands = db.externalCommands) ⟨rfl, rfl⟩ ?_
      intro db' outcome hrun
      rcases processResult_cases hrun with hskipped | henqueued
      · exact ⟨hskipped.outbound, hskipped.commands⟩
      · have hlocked := hensured _ _ hid
        rw [henqueued.free] at hlocked
        cases hlocked
  | updateWorkflowState ctx id graphState => simp [Writer.processedConversation?] at hprocess
  | recordHandoffFailure id failure => simp [Writer.processedConversation?] at hprocess
  | markHumanActive event => simp [Writer.processedConversation?] at hprocess
  | requestAiFailureHandoff candidate now reason =>
      simp [Writer.processedConversation?] at hprocess

/-! ## Runs -/

/-- One call keeps a locked conversation locked. -/
theorem isLocked_applyWriter (rt : Runtime) {db : Database} {conversationId : String}
    (writer : Writer) (h : db.isLocked conversationId = true) :
    (applyWriter rt db writer).isLocked conversationId = true := by
  cases writer with
  | processEvent ctx inboundEventId event customer messages commands graphState assistant =>
      exact statusHolds_processed (fun _ hlocked => hlocked) rfl h
  | processResult ctx result graphState messages commands summary =>
      exact statusHolds_processed (fun _ hlocked => hlocked) rfl h
  | updateWorkflowState ctx id graphState => exact isLocked_updateGraphState id graphState h
  | recordHandoffFailure id failure =>
      exact statusHolds_recordHandoffFailure id failure (Or.inl rfl) h
  | markHumanActive event => exact statusHolds_markHumanActive event rfl h
  | requestAiFailureHandoff candidate now reason =>
      exact isLocked_requestAiFailureHandoff candidate now reason h

/-- The automatic calls keep `HUMAN_ACTIVE` as it is. -/
theorem isHumanActive_applyWriter (rt : Runtime) {db : Database} {conversationId : String}
    {writer : Writer} (hautomatic : writer.isAutomatic = true)
    (h : db.isHumanActive conversationId = true) :
    (applyWriter rt db writer).isHumanActive conversationId = true := by
  have hP : ∀ status : ConversationStatus, decide (status = .humanActive) = true →
      status.isLocked = true := by
    intro status hstatus
    rw [of_decide_eq_true hstatus]
    rfl
  cases writer with
  | processEvent ctx inboundEventId event customer messages commands graphState assistant =>
      exact statusHolds_processed hP rfl h
  | processResult ctx result graphState messages commands summary =>
      exact statusHolds_processed hP rfl h
  | updateWorkflowState ctx id graphState => simp [Writer.isAutomatic] at hautomatic
  | recordHandoffFailure id failure =>
      exact statusHolds_recordHandoffFailure id failure
        (Or.inr fun _ hstatus => of_decide_eq_true hstatus) h
  | markHumanActive event => simp [Writer.isAutomatic] at hautomatic
  | requestAiFailureHandoff candidate now reason => simp [Writer.isAutomatic] at hautomatic

theorem isLocked_runWriters (rt : Runtime) {db : Database} {conversationId : String}
    (writers : List Writer) (h : db.isLocked conversationId = true) :
    (runWriters rt db writers).isLocked conversationId = true := by
  induction writers generalizing db with
  | nil => exact h
  | cons writer rest ih => exact ih (isLocked_applyWriter rt writer h)

theorem runWriters_append (rt : Runtime) (db : Database) (first second : List Writer) :
    runWriters rt db (first ++ second) = runWriters rt (runWriters rt db first) second :=
  List.foldl_append

/-- Once a conversation is locked it stays locked, whatever is called in
whatever order.  Along the way no automatic call takes `HUMAN_ACTIVE` away, and
no `process_*` transaction on the conversation enqueues anything. -/
theorem locked_conversation_stays_locked (rt : Runtime) (db : Database)
    (conversationId : String) (earlier later : List Writer)
    (hlocked : (runWriters rt db earlier).isLocked conversationId = true) :
    (runWriters rt db (earlier ++ later)).isLocked conversationId = true ∧
      ∀ first writer rest, later = first ++ writer :: rest →
        let before := runWriters rt db (earlier ++ first)
        let after := applyWriter rt before writer
        (writer.isAutomatic = true → before.isHumanActive conversationId = true →
          after.isHumanActive conversationId = true) ∧
        (writer.processedConversation? = some conversationId →
          after.outboundMessages = before.outboundMessages ∧
            after.externalCommands = before.externalCommands) := by
  constructor
  · rw [runWriters_append]
    exact isLocked_runWriters rt later hlocked
  · intro first writer rest _
    refine ⟨isHumanActive_applyWriter rt, ?_⟩
    intro hprocess
    apply queues_processed_of_locked hprocess
    rw [runWriters_append]
    exact isLocked_runWriters rt first hlocked

/-- An agent answers chat `C1`, and a result of the conversation arrives later. -/
theorem locked_conversation_stays_locked_after_takeover :
    let takeover : Writer := .markHumanActive ⟨some "C1", some "T1", none, none, none, ∅⟩
    let result : Writer := .processResult ⟨none, false⟩ ⟨7, "C1", some "T1"⟩
      ⟨some .waitingExternal, none, none, some ∅, none, [], none⟩ [] [] none
    (runWriters .plain .empty ([takeover] ++ [result])).isLocked "livechat:C1:T1" = true :=
  (locked_conversation_stays_locked .plain .empty "livechat:C1:T1"
    [.markHumanActive ⟨some "C1", some "T1", none, none, none, ∅⟩]
    [.processResult ⟨none, false⟩ ⟨7, "C1", some "T1"⟩
      ⟨some .waitingExternal, none, none, some ∅, none, [], none⟩ [] [] none]
    (by decide)).1

end AiCustomerService
