import AiCustomerService.Properties.ConfirmationHandled
import AiCustomerService.Properties.FailureCount
import AiCustomerService.Services.CustomerTurns
import AiCustomerService.Support.Exec
import AiCustomerService.Support.Steps
import AiCustomerService.Workers.TelegramPoll

/-!
# The case that a resolution closes

The memory of a conversation holds two ids of a case: the message of its card, which every new
case overwrites, and the id of the row, which only a follow-up writes.  A resolution closes the
case of the second id, whichever case the conversation waits on.
-/

namespace AiCustomerService

open Support

/-! ## Runs -/

/-- The gateway and the two consumers. -/
structure TurnoverSettings where
  graph : GraphSettings
  consumer : ConsumerSettings
  reply : ReplySettings
  botUserId : Int

/-- What happens: a customer writes, a result is stored, a result is processed, or the replies of
the staff are polled after the cases have been synced. -/
inductive CaseStep
  | event (turn : CustomerTurn)
  | insertResult (result : ExternalResult)
  | consume (row : ExternalResultRow) (previous : Option ConversationRow)
      (choice : ConsumerOp → CountChoice)
  | poll (knowsBot : Bool) (now : Nat) (updates : List TelegramUpdate)
      (choice : PollOp → ReplyChoice)

/-- The database after a step. -/
def CaseStep.execute (settings : TurnoverSettings) (db : Database) : CaseStep → Database
  | .event turn => turn.execute settings.graph db
  | .insertResult result => (insertExternalResult db result).1
  | .consume row previous choice =>
      ((processOne settings.consumer row).exec (W := CountWorld)
        (fun op => handleConsumerOp settings.consumer previous op (choice op)) ⟨db, []⟩).2.db
  | .poll knowsBot now updates choice =>
      ((syncAndProcess settings.reply
          ⟨if knowsBot then some settings.botUserId else none, now⟩).exec (W := PollWorld)
        (fun op => handlePollOp settings.reply.runtime op (choice op))
        ⟨⟨db, []⟩, [], updates⟩).2.replies.db

/-- The database after a run. -/
def runCases (settings : TurnoverSettings) (db : Database) (steps : List CaseStep) : Database :=
  runSteps (CaseStep.execute settings) db steps

/-- Every step of the run is as it should be, in the database that it finds. -/
abbrev EveryCaseStep (ok : Database → CaseStep → Prop) (settings : TurnoverSettings)
    (db : Database) (steps : List CaseStep) : Prop :=
  EveryStep ok (CaseStep.execute settings) db steps

/-! ## The open case -/

/-- The conversation waits on the open case: the one that the event matched, or else the one of
its chat whose card is the message in the memory. -/
def WaitsOn (rt : Runtime) (db : Database) (chatId : String) (routed : TurnState)
    (caseId : Nat) : Prop :=
  ∃ row ∈ db.telegramCases, row.id = caseId ∧ row.chatId = chatId ∧ row.IsOpen ∧
    match routed.matchedTelegramMoneyCase with
    | some case => case.id = caseId
    | none => hasInheritedRoot rt (getKey routed.slotMemory "telegram_message_id")
        (row.candidate db) = true

/-- A turn that ends as resolved names the case that the conversation waits on, and names one if
there is one. -/
def NamesWaitingCase (settings : TurnoverSettings) (db : Database) : CaseStep → Prop
  | .event turn =>
      let routed := turn.routed settings.graph db
      turn.runsGraph settings.graph db = true → ∀ update,
        waitingOutcome settings.graph routed = .ok (some (.resolved update)) →
          (∀ named, update = some named → WaitsOn settings.graph.turn.rt db turn.chatId routed
              named.telegramCaseId) ∧
            ((∃ caseId, WaitsOn settings.graph.turn.rt db turn.chatId routed caseId) →
              update.isSome = true)
  | _ => True

/-- The text is taken for a resolution. -/
def ReadAsResolution (settings : GraphSettings) (routed : TurnState) : Prop :=
  let plan := settings.turn.planSopDialogue routed
  (routed.route = some "sop" ∧ awaitsBackend settings.turn routed = true) ∧
    isDelayedSupplementForResolvedCase settings.turn.rt routed plan.slotMemory = false ∧
    routed.relation plan = some "current_workflow_resolution" ∧
      hasWorkflowResolutionSignal settings.turn routed routed.text plan.slotMemory = true

/-- The memory names the case that the conversation waits on: the id in it is that of such a
case, and without an id there is no such case. -/
def MemoryNamesCase (settings : GraphSettings) (db : Database) (chatId : String)
    (routed : TurnState) : Prop :=
  let remembered := getKey routed.slotMemory "telegram_internal_case_id"
  if remembered.isNull then ∀ caseId, ¬WaitsOn settings.turn.rt db chatId routed caseId
  else ∀ caseId, remembered.toInt settings.turn.rt = .ok caseId →
    WaitsOn settings.turn.rt db chatId routed caseId.toNat

/-- A text that is taken for a resolution is about a case that the router matched, or the memory
names the case. -/
def ResolvesKnownCase (settings : TurnoverSettings) (db : Database) : CaseStep → Prop
  | .event turn =>
      let routed := turn.routed settings.graph db
      turn.runsGraph settings.graph db = true → ReadAsResolution settings.graph routed →
        routed.matchedTelegramMoneyCase = none →
          MemoryNamesCase settings.graph db turn.chatId routed
  | _ => True

/-! ## The resolved state -/

/-- The plans keep the id of the case. -/
def PlansKeepCaseId (settings : TurnSettings) : Prop :=
  ∀ s : TurnState, getKey (settings.planSopDialogue s).slotMemory "telegram_internal_case_id" =
    getKey s.slotMemory "telegram_internal_case_id"

variable {settings : TurnoverSettings}

/-- A turn ends as resolved exactly when its text is taken for a resolution. -/
theorem waitingOutcome_resolved_iff (settings : GraphSettings) (routed : TurnState)
    (update : Option TelegramCaseUpdate) :
    waitingOutcome settings routed = .ok (some (.resolved update)) ↔
      ReadAsResolution settings routed ∧
        resolvedState settings.turn.rt (settings.turn.planSopDialogue routed).slotMemory =
          .ok (.resolved update) := by
  unfold waitingOutcome ReadAsResolution
  by_cases hreached : routed.route = some "sop" ∧ awaitsBackend settings.turn routed = true
  · rw [if_pos hreached]
    have hmap : some <$> handleWaitingBackend settings.turn routed =
          .ok (some (.resolved update)) ↔
        handleWaitingBackend settings.turn routed = .ok (.resolved update) := by
      cases handleWaitingBackend settings.turn routed with
      | ok outcome => simp [Functor.map, Except.map]
      | error e => simp [Functor.map, Except.map]
    rw [hmap, handleWaitingBackend]
    simp only [hreached, and_self, true_and]
    split
    · rename_i hdelayed
      simp [hdelayed]
    · rename_i hdelayed
      split
      · rename_i hresolved
        simp [hdelayed, hresolved]
      · rename_i hresolved
        constructor
        · intro h
          split at h
          · cases h
          · split at h
            · cases h
            · split at h
              · simp only [moneyCaseFollowupState] at h
                split at h
                · cases h
                · cases h
              · cases h
        · rintro ⟨⟨-, hrelation, hsignal⟩, -⟩
          exact absurd ⟨hrelation, hsignal⟩ hresolved
  · rw [if_neg hreached]
    constructor
    · intro h
      cases h
    · rintro ⟨⟨h, -⟩, -⟩
      exact absurd h hreached

/-- The update of the resolved state is read from the memory alone. -/
theorem resolvedState_iff (rt : Runtime) (memory : JsonObject)
    (update : Option TelegramCaseUpdate) :
    resolvedState rt memory = .ok (.resolved update) ↔
      if (getKey memory "telegram_internal_case_id").isNull then update = none
      else ∃ caseId, (getKey memory "telegram_internal_case_id").toInt rt = .ok caseId ∧
        update = some ⟨caseId.toNat, "completed_confirmed_by_customer"⟩ := by
  simp only [resolvedState]
  split
  · simp [eq_comm]
  · constructor
    · intro h
      obtain ⟨caseId, hcaseId, hpure⟩ := bind_eq_ok.mp h
      cases hpure
      exact ⟨caseId, hcaseId, rfl⟩
    · rintro ⟨caseId, hcaseId, rfl⟩
      exact bind_eq_ok.mpr ⟨caseId, hcaseId, rfl⟩

/-- What one text does: where it is taken for a resolution, its update is right exactly when the
memory names the case. -/
theorem resolved_right_iff {graph : GraphSettings} (hplans : PlansKeepCaseId graph.turn)
    {db : Database} {chatId : String} {routed : TurnState}
    (hread : ReadAsResolution graph routed) :
    (∀ update, waitingOutcome graph routed = .ok (some (.resolved update)) →
        (∀ named, update = some named →
            WaitsOn graph.turn.rt db chatId routed named.telegramCaseId) ∧
          ((∃ caseId, WaitsOn graph.turn.rt db chatId routed caseId) → update.isSome = true)) ↔
      MemoryNamesCase graph db chatId routed := by
  have houtcome : ∀ update, waitingOutcome graph routed = .ok (some (.resolved update)) ↔
      resolvedState graph.turn.rt (graph.turn.planSopDialogue routed).slotMemory =
        .ok (.resolved update) := by
    intro update
    rw [waitingOutcome_resolved_iff]
    exact and_iff_right hread
  simp only [houtcome, resolvedState_iff, hplans routed, MemoryNamesCase]
  split
  · constructor
    · intro h caseId hwaits
      exact absurd ((h none rfl).2 ⟨caseId, hwaits⟩) (by simp)
    · rintro h update rfl
      constructor
      · intro named hnamed
        cases hnamed
      · rintro ⟨caseId, hwaits⟩
        exact absurd hwaits (h caseId)
  · constructor
    · intro h caseId hcaseId
      exact (h _ ⟨caseId, hcaseId, rfl⟩).1 _ rfl
    · rintro h update ⟨caseId, hcaseId, rfl⟩
      refine ⟨?_, fun _ => rfl⟩
      rintro named ⟨⟩
      exact h caseId hcaseId

/-- Where the router matched a case, the memory names it. -/
theorem memoryNamesCase_of_matched {graph : GraphSettings}
    (hbranches : graph.branches.MatchNothing) {turn : CustomerTurn} {db : Database}
    {case : MoneyCase}
    (h : (turn.routed graph db).matchedTelegramMoneyCase = some case) :
    MemoryNamesCase graph db turn.chatId (turn.routed graph db) := by
  obtain ⟨hmemory, candidate, hmem, hid⟩ := matched_of_intentRouter hbranches
    (s := turn.initialState graph db) rfl h
  obtain ⟨row, hrow, hrowId, hchat, hopen⟩ := exists_row_of_initialState hmem
  unfold MemoryNamesCase
  rw [show getKey (turn.routed graph db).slotMemory "telegram_internal_case_id" = .int case.id
    from hmemory]
  simp only [Json.isNull, Bool.false_eq_true, if_false]
  rintro caseId ⟨⟩
  refine ⟨row, hrow, hrowId.trans hid, hchat, hopen, ?_⟩
  rw [h]
  exact rfl

/-- Along a run of events, results and staff replies, every resolution names the case that the
conversation waits on exactly when, wherever a text that matched no case is taken for a
resolution, the memory names the case. -/
theorem resolution_names_case_iff (settings : TurnoverSettings)
    (hplans : PlansKeepCaseId settings.graph.turn)
    (hbranches : settings.graph.branches.MatchNothing) (db : Database) (steps : List CaseStep) :
    EveryCaseStep (NamesWaitingCase settings) settings db steps ↔
      EveryCaseStep (ResolvesKnownCase settings) settings db steps := by
  have hstep : ∀ db step, NamesWaitingCase settings db step ↔ ResolvesKnownCase settings db step := by
    intro db step
    cases step with
    | event turn =>
        apply imp_congr_right
        intro _
        by_cases hread : ReadAsResolution settings.graph (turn.routed settings.graph db)
        · rw [resolved_right_iff hplans hread]
          constructor
          · exact fun h _ _ => h
          · intro h
            cases hmatched : (turn.routed settings.graph db).matchedTelegramMoneyCase with
            | none => exact h hread hmatched
            | some case => exact memoryNamesCase_of_matched hbranches hmatched
        · refine iff_of_true ?_ fun h => absurd h hread
          intro update houtcome
          exact absurd ((waitingOutcome_resolved_iff _ _ _).mp houtcome).1 hread
    | insertResult result => exact Iff.rfl
    | consume row previous choice => exact Iff.rfl
    | poll knowsBot now updates choice => exact Iff.rfl
  exact everyStep_congr hstep

/-! ## A confirmed case that stays open -/

/-- The language model takes the text for a resolution of the current workflow. -/
def resolvingBranches : RouterBranches where
  earlier _ := none
  later s :=
    { s with
      route := some "sop"
      workflowRelation := some "current_workflow_resolution"
      activeWorkflow := some "deposit_missing" }

def plainTurnover : TurnoverSettings where
  graph := ⟨plainTurns, resolvingBranches, fun _ _ => .ok none⟩
  consumer := plainConsumerSettings
  reply := plainReplySettings
  botUserId := 42

theorem matchNothing_resolvingBranches : resolvingBranches.MatchNothing :=
  ⟨fun _ _ h => (Option.some_ne_none _ h.symm).elim, fun _ => rfl⟩

/-- The result of a card that has been sent as message 7. -/
def sentCard : ExternalResult where
  externalCommandId := 1
  tenantId := none
  conversationId := "livechat:C1:T1"
  chatId := "C1"
  threadId := some "T1"
  inboundEventId := some 1
  commandType := "telegram.send_case_card"
  resultType := "telegram.case.created"
  resultJson := .ofList [("case_id", .str "tg:7"), ("telegram_message_id", .int 7),
    ("target_chat_id", .str "-100"), ("intent", .str "deposit_missing")]
  status := none
  lastError := none
  dedupKey := some "card"

/-- The customer writes in a thread of the chat. -/
def customerWrites (threadId text : String) : CustomerTurn where
  context := ⟨none, false⟩
  inboundEventId := 2
  event :=
    { chatId := some "C1", threadId := some threadId, eventId := some "e2", authorId := none
      occurredAt := none, payloadJson := ∅, organizationId := none
      standardEventType := "MESSAGE_CREATED", ignored := false }
  inputs := turnOf text
  updatedAt := fun _ => 0
  finish := fun _ _ => .ok ⟨⟨none, none, none, none, none, [], none⟩, [], [], []⟩

/-- The card is sent, its result is merged into the conversation, and the case is mapped. -/
def cardSteps : List CaseStep :=
  [.insertResult sentCard,
    .consume (sentCard.row 1 0) none fun _ => goodChoice,
    .poll true 0 [] fun _ => replyChoice none]

/-- The database with the case. -/
def carded : Database := runCases plainTurnover .empty cardSteps

/-- Then the customer writes. -/
def thenWrites (threadId text : String) : List CaseStep :=
  cardSteps ++ [.event (customerWrites threadId text)]

/-- The state that the router hands on. -/
def routedText (threadId text : String) : TurnState :=
  (customerWrites threadId text).routed plainTurnover.graph carded

/-- In the thread of the case, the confirmation of its customer names no case, and the case stays
open. -/
theorem confirmed_case_stays_open :
    ¬EveryCaseStep (NamesWaitingCase plainTurnover) plainTurnover .empty
        (thenWrites "T1" "It has arrived") ∧
      (runCases plainTurnover .empty (thenWrites "T1" "It has arrived")).caseStatus? 1 =
        some "awaiting_review" := by
  constructor
  · intro h
    have hread : ReadAsResolution plainTurnover.graph (routedText "T1" "It has arrived") :=
      ⟨⟨by decide +kernel, by decide +kernel⟩, by decide +kernel, by decide +kernel,
        by decide +kernel⟩
    have hnull : (getKey (plainTurns.planSopDialogue (routedText "T1" "It has arrived")).slotMemory
        "telegram_internal_case_id").isNull = true := by decide +kernel
    have houtcome : waitingOutcome plainTurnover.graph (routedText "T1" "It has arrived") =
        .ok (some (.resolved none)) := by
      refine (waitingOutcome_resolved_iff _ _ _).mpr ⟨hread, (resolvedState_iff _ _ _).mpr ?_⟩
      exact (if_pos hnull).mpr rfl
    have hunmatched : (routedText "T1" "It has arrived").matchedTelegramMoneyCase = none :=
      Option.isNone_iff_eq_none.mp (by decide +kernel)
    have hcard : ∃ row ∈ carded.telegramCases, row.id = 1 ∧ row.chatId = "C1" ∧ row.IsOpen ∧
        hasInheritedRoot .plain
          (getKey (routedText "T1" "It has arrived").slotMemory "telegram_message_id")
          (row.candidate carded) = true := by
      decide +kernel
    have hwaits : WaitsOn .plain carded "C1" (routedText "T1" "It has arrived") 1 := by
      unfold WaitsOn
      rw [hunmatched]
      exact hcard
    have hnamed := (h cardSteps (.event (customerWrites "T1" "It has arrived")) [] rfl
      (by decide +kernel) none houtcome).2 ⟨1, hwaits⟩
    cases hnamed
  · decide +kernel

/-- In another thread, the router matches the case, and the confirmation names it. -/
theorem confirmed_elsewhere_names_case :
    NamesWaitingCase plainTurnover carded (.event (customerWrites "T2" "It has arrived")) := by
  have hmatched : (routedText "T2" "It has arrived").matchedTelegramMoneyCase.isSome = true := by
    decide +kernel
  have hcard : EveryCaseStep (ResolvesKnownCase plainTurnover) plainTurnover .empty cardSteps := by
    intro first step rest hsteps
    have hmem : step ∈ cardSteps := hsteps ▸ List.mem_append_right _ List.mem_cons_self
    simp only [cardSteps, List.mem_cons, List.not_mem_nil, or_false] at hmem
    rcases hmem with rfl | rfl | rfl
    · trivial
    · trivial
    · trivial
  have hknown : EveryCaseStep (ResolvesKnownCase plainTurnover) plainTurnover .empty
      (thenWrites "T2" "It has arrived") := by
    refine everyStep_concat.mpr ⟨hcard, ?_⟩
    intro _ _ hnone
    change (routedText "T2" "It has arrived").matchedTelegramMoneyCase = none at hnone
    rw [hnone] at hmatched
    cases hmatched
  exact (resolution_names_case_iff plainTurnover (fun _ => rfl) matchNothing_resolvingBranches
    .empty (thenWrites "T2" "It has arrived")).mpr hknown cardSteps _ [] rfl

end AiCustomerService
