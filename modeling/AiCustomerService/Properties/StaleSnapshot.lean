import AiCustomerService.Services.Gateway
import AiCustomerService.Properties.RecheckMemory

/-!
# A result that is committed while the gateway is thinking

The gateway computes a whole slot memory from the conversation that it loaded
and later replaces the stored one by it.  A result that is committed in between
overlays its own keys on the stored slot memory, and the gateway then writes the
older values back.
-/

namespace AiCustomerService

open Support

/-- When the result is committed, seen from the gateway. -/
inductive CommitOrder
  | beforeLoad
  | betweenLoadAndCommit
  | afterCommit

/-- One run of the gateway and one result of the same conversation. -/
structure Race where
  workflow : Workflow
  inboundEventId : Nat
  event : StandardEvent
  loadCtx : TxContext
  eventCtx : TxContext
  commit : ResultCommit

/-- What the gateway loaded, what the result's transaction returned, and the
database after both. -/
structure RaceOutcome where
  snapshot : ConversationView
  result : TransactionResult
  database : Database

/-- Execute the three transactions. -/
def Race.run (rt : Runtime) (race : Race) (db : Database) :
    CommitOrder → Except PyError RaceOutcome
  | .beforeLoad => do
      let committed ← commitResult db race.commit
      let loaded := loadTransactionalConversation committed.1 race.loadCtx race.event
      let final ← commitEvent rt race.workflow loaded.1 race.eventCtx race.inboundEventId
        race.event loaded.2
      pure ⟨loaded.2, committed.2, final.1⟩
  | .betweenLoadAndCommit => do
      let loaded := loadTransactionalConversation db race.loadCtx race.event
      let committed ← commitResult loaded.1 race.commit
      let final ← commitEvent rt race.workflow committed.1 race.eventCtx race.inboundEventId
        race.event loaded.2
      pure ⟨loaded.2, committed.2, final.1⟩
  | .afterCommit => do
      let loaded := loadTransactionalConversation db race.loadCtx race.event
      let final ← commitEvent rt race.workflow loaded.1 race.eventCtx race.inboundEventId
        race.event loaded.2
      let committed ← commitResult final.1 race.commit
      pure ⟨loaded.2, committed.2, committed.1⟩

/-- The conversation of the gateway's event. -/
def Race.conversationId (race : Race) : String :=
  conversationIdForChat (some (textOr race.event.chatId "unknown")) race.event.threadId

/-- The value that a result writes under a key. -/
def ResultCommit.writes (commit : ResultCommit) (key : String) : Option Json :=
  ((commit.graphState.slotMemory.getD ∅).eraseAll
    commit.graphState.deleteSlotMemoryKeys).get? key

/-- The slot memory that the gateway leaves where `stored` was. -/
def memoryAfter (output : Option GatewayOutput) (stored : JsonObject) : JsonObject :=
  match output with
  | none => stored
  | some output => output.graphState.slotMemory.getD ∅

/-- The workflow did not itself change the key. -/
def Race.leavesAlone (race : Race) (snapshot : ConversationView) (key : String) : Prop :=
  ∀ output, race.workflow.output race.event snapshot = .ok output →
    (memoryAfter output snapshot.slotMemory).get? key = snapshot.slotMemory.get? key

/-- Every key that the result wrote and the workflow left alone is stored with the
value of the result. -/
def Race.keepsResult (race : Race) (outcome : RaceOutcome) : Prop :=
  ∀ key value, race.commit.writes key = some value → race.leavesAlone outcome.snapshot key →
    ∃ stored, outcome.database.slotMemory? race.conversationId = some stored ∧
      stored.get? key = some value

/-- The values that the gateway would write back are already those of the result. -/
def Race.snapshotAgrees (race : Race) (snapshot : ConversationView) : Prop :=
  ∀ key value, race.commit.writes key = some value → race.leavesAlone snapshot key →
    snapshot.slotMemory.get? key = some value

/-- The gateway writes a state over that of the result: it has one, and the result
did not hand the conversation over. -/
def Race.writesState (race : Race) (snapshot : ConversationView) : Prop :=
  statusIsLocked race.commit.graphState.status = false ∧
    ∃ output, race.workflow.output race.event snapshot = .ok (some output)

/-! ## The three transactions -/

/-- Loading a conversation keeps its stored slot memory. -/
theorem slotMemory?_entered {db : Database} {chatId : String} {threadId : Option String}
    {stored : JsonObject}
    (h : db.slotMemory? (conversationIdForChat (some chatId) threadId) = some stored) :
    (db.ensuredRow chatId threadId).slotMemory = stored ∧
      (db.entered chatId threadId).slotMemory? (conversationIdForChat (some chatId) threadId) =
        some stored := by
  have hrow : (db.ensuredRow chatId threadId).slotMemory = stored := by
    unfold Database.slotMemory? at h
    unfold Database.ensuredRow Database.rowAfterInsert
    cases hfind : db.conversation? (conversationIdForChat (some chatId) threadId) with
    | none => simp [hfind] at h
    | some row => simpa [hfind] using h
  refine ⟨hrow, ?_⟩
  rw [Database.slotMemory?, conversation?_entered, if_pos rfl, Option.map_some, hrow]

/-- A committed result is stored under every key that it writes, and the
conversation is locked only if the result locks it. -/
theorem commitResult_writes {db db' : Database} {commit : ResultCommit}
    {result : TransactionResult} (h : commitResult db commit = .ok (db', result))
    (hskip : result.humanActiveSkipped = false) :
    ∃ stored,
      db'.slotMemory? (conversationIdForChat (some commit.row.chatId) commit.row.threadId) =
        some stored ∧
      (∀ key value, commit.writes key = some value → stored.get? key = some value) ∧
      db'.isLocked (conversationIdForChat (some commit.row.chatId) commit.row.threadId) =
        statusIsLocked commit.graphState.status := by
  have hrow := processResult_conversation? h hskip
  change db'.conversation? (conversationIdForChat (some commit.row.chatId)
    commit.row.threadId) = _ at hrow
  refine ⟨_, by rw [Database.slotMemory?, hrow, Option.map_some], ?_, ?_⟩
  · intro key value hwrites
    unfold ResultCommit.writes at hwrites
    cases hmemory : commit.graphState.slotMemory with
    | none => simp [hmemory] at hwrites
    | some memory =>
        simp only [hmemory, Option.getD_some, Dict.get?_eraseAll] at hwrites
        split at hwrites
        · cases hwrites
        · next hkey =>
            simp [ConversationRow.withGraphState, GraphState.mergedOver, hmemory, hkey, hwrites]
  · rw [Database.isLocked, Database.statusHolds, hrow]
    have hfree : (db.ensuredRow commit.row.chatId commit.row.threadId).status.isLocked =
        false := by
      rcases processResult_cases h with hskipped | henqueued
      · rw [hskipped.skipped] at hskip
        cases hskip
      · exact henqueued.free
    have hstatus : ∀ stored, (commit.graphState.mergedOver stored).status =
        commit.graphState.status := by
      intro stored
      unfold GraphState.mergedOver
      split
      · rfl
      · rfl
    simp only [Option.any_some, ConversationRow.withGraphState, hstatus]
    change _ = statusIsLocked commit.graphState.status
    cases commit.graphState.status with
    | none => exact hfree
    | some status => rfl

/-- The gateway replaces the stored slot memory unless the conversation is locked
or there is no graph state. -/
theorem commitEvent_slotMemory? {rt : Runtime} {workflow : Workflow} {db db' : Database}
    {ctx : TxContext} {inboundEventId : Nat} {event : StandardEvent}
    {snapshot : ConversationView} {result : TransactionResult} {stored : JsonObject}
    {conversationId : String}
    (h : commitEvent rt workflow db ctx inboundEventId event snapshot = .ok (db', result))
    (hid : conversationIdForChat (some (textOr event.chatId "unknown")) event.threadId =
      conversationId)
    (hstored : db.slotMemory? conversationId = some stored) :
    ∃ output, workflow.output event snapshot = .ok output ∧
      db'.slotMemory? conversationId =
        some (if db.isLocked conversationId then stored else memoryAfter output stored) := by
  subst hid
  obtain ⟨output, houtput, hrest⟩ := bind_eq_ok.mp h
  obtain ⟨customer, -, hcommit⟩ := bind_eq_ok.mp hrest
  obtain ⟨hensured, hentered⟩ := slotMemory?_entered hstored
  have hlocked : db.isLocked (conversationIdForChat (some (textOr event.chatId "unknown"))
      event.threadId) =
      (db.ensuredRow (textOr event.chatId "unknown") event.threadId).status.isLocked := by
    unfold Database.slotMemory? at hstored
    unfold Database.isLocked Database.statusHolds Database.ensuredRow Database.rowAfterInsert
    cases hfind : db.conversation? (conversationIdForChat
        (some (textOr event.chatId "unknown")) event.threadId) with
    | none => simp [hfind] at hstored
    | some row => simp
  refine ⟨output, houtput, ?_⟩
  rcases processEvent_cases hcommit with hskipped | henqueued
  · rw [hlocked, if_pos hskipped.locked, ← hentered]
    simp only [Database.slotMemory?, Database.conversation?]
    exact congrArg _ (congrArg (Table.find? · _) hskipped.states)
  · rw [hlocked, if_neg (by rw [henqueued.free]; simp)]
    have hstates := henqueued.states
    cases output with
    | none =>
        refine Eq.trans ?_ hentered
        simp only [Database.slotMemory?, Database.conversation?]
        exact congrArg _ (congrArg (Table.find? · _) hstates)
    | some output =>
        rw [Database.slotMemory?, henqueued.conversation?_afterEvent]
        rfl

/-! ## The race -/

/-- Loaded after the result, the snapshot has the values of the result. -/
theorem snapshot_of_committed {db : Database} {chatId key : String}
    {threadId : Option String} {stored : JsonObject} {value : Json} (ctx : TxContext)
    (hstored : db.slotMemory? (conversationIdForChat (some chatId) threadId) = some stored)
    (hkey : stored.get? key = some value) :
    (db.viewed ctx chatId threadId).slotMemory = stored := by
  have hensured := (slotMemory?_entered hstored).1
  rw [← hensured] at hkey ⊢
  exact viewOf_slotMemory _ hkey

theorem keepsResult_beforeLoad {rt : Runtime} {race : Race} {db : Database}
    {outcome : RaceOutcome}
    (hsame : conversationIdForChat (some race.commit.row.chatId) race.commit.row.threadId =
      race.conversationId)
    (hrun : race.run rt db .beforeLoad = .ok outcome)
    (hskip : outcome.result.humanActiveSkipped = false) : race.keepsResult outcome := by
  obtain ⟨⟨committed, result⟩, hcommit, hrest⟩ := bind_eq_ok.mp hrun
  obtain ⟨⟨final, eventResult⟩, hevent, hpure⟩ := bind_eq_ok.mp hrest
  cases hpure
  obtain ⟨stored, hstored, hwritten, -⟩ := commitResult_writes hcommit hskip
  rw [hsame] at hstored
  intro key value hwrites halone
  have hkey := hwritten key value hwrites
  have hsnapshot := snapshot_of_committed race.loadCtx hstored hkey
  have hloaded := (slotMemory?_entered hstored).2
  simp only [loadTransactionalConversation, getOrCreateOnConnection_eq] at hevent halone
  obtain ⟨output, houtput, hfinal⟩ := commitEvent_slotMemory? hevent rfl hloaded
  refine ⟨_, hfinal, ?_⟩
  split
  · exact hkey
  · have hunchanged := halone output houtput
    rw [hsnapshot] at hunchanged
    exact hunchanged.trans hkey

theorem keepsResult_afterCommit {rt : Runtime} {race : Race} {db : Database}
    {outcome : RaceOutcome}
    (hsame : conversationIdForChat (some race.commit.row.chatId) race.commit.row.threadId =
      race.conversationId)
    (hrun : race.run rt db .afterCommit = .ok outcome)
    (hskip : outcome.result.humanActiveSkipped = false) : race.keepsResult outcome := by
  obtain ⟨⟨committed, eventResult⟩, -, hrest⟩ := bind_eq_ok.mp hrun
  obtain ⟨⟨final, result⟩, hcommit, hpure⟩ := bind_eq_ok.mp hrest
  cases hpure
  obtain ⟨stored, hstored, hwritten, -⟩ := commitResult_writes hcommit hskip
  rw [hsame] at hstored
  intro key value hwrites _
  exact ⟨stored, hstored, hwritten key value hwrites⟩

/-- Committed in between, the result survives exactly when the gateway writes no
state over it, or writes back the same values. -/
theorem keepsResult_between_iff {rt : Runtime} {race : Race} {db : Database}
    {outcome : RaceOutcome}
    (hsame : conversationIdForChat (some race.commit.row.chatId) race.commit.row.threadId =
      race.conversationId)
    (hrun : race.run rt db .betweenLoadAndCommit = .ok outcome)
    (hskip : outcome.result.humanActiveSkipped = false) :
    race.keepsResult outcome ↔
      (race.writesState outcome.snapshot → race.snapshotAgrees outcome.snapshot) := by
  obtain ⟨⟨committed, result⟩, hcommit, hrest⟩ := bind_eq_ok.mp hrun
  obtain ⟨⟨final, eventResult⟩, hevent, hpure⟩ := bind_eq_ok.mp hrest
  cases hpure
  obtain ⟨stored, hstored, hwritten, hlocked⟩ := commitResult_writes hcommit hskip
  rw [hsame] at hstored hlocked
  obtain ⟨output, houtput, hfinal⟩ := commitEvent_slotMemory? hevent rfl hstored
  change final.slotMemory? race.conversationId = some (if committed.isLocked
    race.conversationId = true then stored else memoryAfter output stored) at hfinal
  rw [hlocked] at hfinal
  dsimp only at hfinal hskip ⊢
  constructor
  · rintro hkeeps ⟨hunlocked, written, hwrittenState⟩ key value hwrites halone
    obtain ⟨last, hlast, hkey⟩ := hkeeps key value hwrites halone
    cases houtput.symm.trans hwrittenState
    rw [hunlocked] at hfinal
    cases hlast.symm.trans hfinal
    rw [← halone _ houtput]
    exact hkey
  · intro hagrees key value hwrites halone
    refine ⟨_, hfinal, ?_⟩
    by_cases hlock : statusIsLocked race.commit.graphState.status = true
    · rw [if_pos hlock]
      exact hwritten key value hwrites
    · rw [if_neg hlock]
      cases output with
      | none => exact hwritten key value hwrites
      | some output =>
          have hvalue := hagrees ⟨by simpa using hlock, output, houtput⟩ key value hwrites halone
          exact (halone _ houtput).trans hvalue

/-- After a gateway run and a result of the same conversation have both committed,
the values of the result are stored exactly when the result was not committed
between the load and the commit of the gateway, or the gateway wrote no state, or
it wrote the same values back. -/
theorem result_survives_gateway_iff {rt : Runtime} {race : Race} {db : Database}
    {order : CommitOrder} {outcome : RaceOutcome}
    (hsame : conversationIdForChat (some race.commit.row.chatId) race.commit.row.threadId =
      race.conversationId)
    (hrun : race.run rt db order = .ok outcome)
    (hskip : outcome.result.humanActiveSkipped = false) :
    race.keepsResult outcome ↔
      (order = .betweenLoadAndCommit → race.writesState outcome.snapshot →
        race.snapshotAgrees outcome.snapshot) := by
  cases order with
  | beforeLoad => simp [keepsResult_beforeLoad hsame hrun hskip]
  | betweenLoadAndCommit => simpa using keepsResult_between_iff hsame hrun hskip
  | afterCommit => simp [keepsResult_afterCommit hsame hrun hskip]

/-! ## A lost Telegram case -/

/-- A workflow that answers with its own key and keeps the rest. -/
def askingWorkflow : Workflow where
  preGraph _ _ := .ok none
  runGraph _ conversation :=
    .ok ⟨⟨some .waitingExternal, none, some "collecting_slots",
      some (conversation.slotMemory.set "asked" (.bool true)), none, [], none⟩, [], [], []⟩

/-- The case of chat `C1` is created while a second message of the chat is answered. -/
def caseRace : Race where
  workflow := askingWorkflow
  inboundEventId := 12
  event := ⟨customerEvent, none, "MESSAGE_CREATED", false⟩
  loadCtx := ⟨none, false⟩
  eventCtx := ⟨none, false⟩
  commit :=
    ⟨⟨none, false⟩, resultOfEvent 7 "telegram.case.created" ∅, "", false,
      handlerState .waitingExternal none (some "waiting_backend")
        (.ofList [("telegram_case_id", .str "tg:1")]), [], none⟩

/-- The gateway erases the case that was created in between. -/
theorem case_id_is_lost :
    ∃ outcome, caseRace.run .plain .empty .betweenLoadAndCommit = .ok outcome ∧
      outcome.result.humanActiveSkipped = false ∧
      caseRace.commit.writes "telegram_case_id" = some (.str "tg:1") ∧
      caseRace.leavesAlone outcome.snapshot "telegram_case_id" ∧
      ∀ stored, outcome.database.slotMemory? caseRace.conversationId = some stored →
        stored.get? "telegram_case_id" = none := by
  refine ⟨_, rfl, rfl, rfl, ?_, ?_⟩
  · intro output houtput
    cases houtput
    rfl
  · intro stored hstored
    cases hstored
    rfl

/-- A case that was created before the conversation was loaded stays. -/
theorem case_id_created_before_load_survives :
    ∃ outcome, caseRace.run .plain .empty .beforeLoad = .ok outcome ∧
      ∃ stored, outcome.database.slotMemory? caseRace.conversationId = some stored ∧
        stored.get? "telegram_case_id" = some (.str "tg:1") := by
  refine ⟨_, rfl, ?_⟩
  have hiff := @result_survives_gateway_iff .plain caseRace .empty .beforeLoad _ (by decide)
    rfl rfl
  refine hiff.mpr (by rintro ⟨⟩) "telegram_case_id" (.str "tg:1") rfl ?_
  intro output houtput
  cases houtput
  rfl

end AiCustomerService
