import AiCustomerService.Properties.ReplyKeys

/-!
# What a finished recheck leaves in the slot memory

`resolve_backend_recheck` says that a recheck is over by removing keys from a
copy of the slot memory.  The transaction overlays the copy on the stored slot
memory, so a removed key survives wherever it was stored before.
-/

namespace AiCustomerService

open Support

/-- The keys that describe the current conclusion. -/
def conclusionKeys : List String :=
  ["backend_conclusion", "backend_dispute_count", "backend_dispute_last_event_id"]

/-- The stored slot memory is one in which the recheck resolved to `resolved` is
over. -/
structure RecheckFinished (stored resolved : JsonObject) : Prop where
  removed : ∀ key ∈ recheckKeys, stored.get? key = none
  agrees : ∀ key ∈ conclusionKeys, stored.get? key = resolved.get? key

/-- The result replaces the stored conclusion by another one. -/
def startsConclusion (rt : Runtime) (slotMemory result : JsonObject) : Bool :=
  isAuthoritativeResult rt result && !sameFingerprint rt slotMemory result

/-- The resolver finds no key that it has to remove. -/
structure NothingToRemove (rt : Runtime) (slotMemory result : JsonObject) : Prop where
  recheck : ∀ key ∈ recheckKeys, slotMemory.get? key = none
  lastEvent : startsConclusion rt slotMemory result = true →
    slotMemory.get? "backend_dispute_last_event_id" = none

/-! ## The resolver -/

/-- A new conclusion forgets the last disputing event. -/
theorem applyBackendConclusion_lastEvent {rt : Runtime} {slotMemory result concluded : JsonObject}
    {recordedAt : String}
    (h : applyBackendConclusion rt slotMemory result recordedAt = .ok concluded) :
    concluded.get? "backend_dispute_last_event_id" =
      if startsConclusion rt slotMemory result then none
      else slotMemory.get? "backend_dispute_last_event_id" := by
  unfold applyBackendConclusion at h
  unfold startsConclusion
  by_cases hauthoritative : isAuthoritativeResult rt result = true
  · by_cases hsame : sameFingerprint rt slotMemory result = true
    · simp only [hauthoritative, hsame, Bool.not_true, Bool.false_eq_true, if_false,
        if_true] at h
      obtain ⟨count, -, hpure⟩ := bind_eq_ok.mp h
      cases hpure
      simp [hauthoritative, hsame]
    · simp only [hauthoritative, hsame, Bool.not_true, Bool.false_eq_true, if_false,
        Except.ok.injEq] at h
      simp [← h, hauthoritative, hsame]
  · simp only [hauthoritative, Bool.not_false, if_true, Except.ok.injEq] at h
    simp [← h, hauthoritative]

/-- No other key of the slot memory is lost. -/
theorem applyBackendConclusion_keeps {rt : Runtime} {slotMemory result concluded : JsonObject}
    {recordedAt key : String}
    (h : applyBackendConclusion rt slotMemory result recordedAt = .ok concluded)
    (hkey : key ≠ "backend_dispute_last_event_id") (hnone : concluded.get? key = none) :
    slotMemory.get? key = none := by
  unfold applyBackendConclusion at h
  by_cases hauthoritative : isAuthoritativeResult rt result = true
  · by_cases hsame : sameFingerprint rt slotMemory result = true
    · simp only [hauthoritative, hsame, Bool.not_true, Bool.false_eq_true, if_false,
        if_true] at h
      obtain ⟨count, -, hpure⟩ := bind_eq_ok.mp h
      cases hpure
      simp only [Dict.get?_set] at hnone
      split at hnone
      · cases hnone
      · split at hnone
        · cases hnone
        · exact hnone
    · simp only [hauthoritative, hsame, Bool.not_true, Bool.false_eq_true, if_false,
        Except.ok.injEq] at h
      simp only [← h, Dict.get?_erase, Dict.get?_set, if_neg hkey] at hnone
      split at hnone
      · cases hnone
      · split at hnone
        · cases hnone
        · exact hnone
  · simp only [hauthoritative, Bool.not_false, if_true, Except.ok.injEq] at h
    exact h ▸ hnone

/-- What the resolver returns, key by key: the recheck keys are gone, the last
disputing event is the concluded one, and every other key that is missing was
missing before. -/
theorem resolveBackendRecheck_get? {rt : Runtime} {slotMemory result : JsonObject}
    {recordedAt : String} {recheck : RecheckResolution}
    (h : resolveBackendRecheck rt slotMemory result recordedAt = .ok recheck) :
    ∃ concluded, applyBackendConclusion rt slotMemory result recordedAt = .ok concluded ∧
      ∀ key, recheck.slotMemory.get? key = (concluded.eraseAll recheckKeys).get? key ∨
        key = "backend_dispute_count" ∧ (recheck.slotMemory.get? key).isSome = true := by
  obtain ⟨concluded, hconcluded, hrest⟩ := bind_eq_ok.mp h
  refine ⟨concluded, hconcluded, ?_⟩
  intro key
  dsimp only at hrest
  split at hrest
  · obtain ⟨count, -, hpure⟩ := bind_eq_ok.mp hrest
    cases hpure
    by_cases hkey : key = "backend_dispute_count"
    · right
      simp [hkey]
    · left
      rw [Dict.get?_set, if_neg hkey]
  · cases hrest
    exact Or.inl rfl

theorem resolveBackendRecheck_removed {rt : Runtime} {slotMemory result : JsonObject}
    {recordedAt : String} {recheck : RecheckResolution}
    (h : resolveBackendRecheck rt slotMemory result recordedAt = .ok recheck) {key : String}
    (hkey : key ∈ recheckKeys) : recheck.slotMemory.get? key = none := by
  obtain ⟨concluded, -, hget⟩ := resolveBackendRecheck_get? h
  rcases hget key with heq | ⟨rfl, -⟩
  · rw [heq, Dict.get?_eraseAll, if_pos hkey]
  · exact absurd hkey (by decide)

theorem resolveBackendRecheck_keeps {rt : Runtime} {slotMemory result : JsonObject}
    {recordedAt : String} {recheck : RecheckResolution}
    (h : resolveBackendRecheck rt slotMemory result recordedAt = .ok recheck) {key : String}
    (hrecheck : key ∉ recheckKeys) (hlast : key ≠ "backend_dispute_last_event_id")
    (hnone : recheck.slotMemory.get? key = none) : slotMemory.get? key = none := by
  obtain ⟨concluded, hconcluded, hget⟩ := resolveBackendRecheck_get? h
  rcases hget key with heq | ⟨-, hsome⟩
  · rw [heq, Dict.get?_eraseAll, if_neg hrecheck] at hnone
    exact applyBackendConclusion_keeps hconcluded hlast hnone
  · simp [hnone] at hsome

theorem resolveBackendRecheck_lastEvent {rt : Runtime} {slotMemory result : JsonObject}
    {recordedAt : String} {recheck : RecheckResolution}
    (h : resolveBackendRecheck rt slotMemory result recordedAt = .ok recheck) :
    recheck.slotMemory.get? "backend_dispute_last_event_id" =
      if startsConclusion rt slotMemory result then none
      else slotMemory.get? "backend_dispute_last_event_id" := by
  obtain ⟨concluded, hconcluded, hget⟩ := resolveBackendRecheck_get? h
  rcases hget "backend_dispute_last_event_id" with heq | ⟨habsurd, -⟩
  · rw [heq, Dict.get?_eraseAll, if_neg (by decide), applyBackendConclusion_lastEvent hconcluded]
  · exact absurd habsurd (by decide)

/-- Overlaying the resolved slot memory on the one it came from finishes the
recheck exactly when the resolver had nothing to remove. -/
theorem recheckFinished_overlay_iff {rt : Runtime} {slotMemory result stored : JsonObject}
    {recordedAt : String} {recheck : RecheckResolution}
    (h : resolveBackendRecheck rt slotMemory result recordedAt = .ok recheck)
    (hstored : ∀ key ∈ recheckKeys ++ conclusionKeys,
      stored.get? key = (recheck.slotMemory.get? key).or (slotMemory.get? key)) :
    RecheckFinished stored recheck.slotMemory ↔ NothingToRemove rt slotMemory result := by
  have hremoved : ∀ key ∈ recheckKeys, stored.get? key = slotMemory.get? key := by
    intro key hkey
    rw [hstored key (List.mem_append_left _ hkey), resolveBackendRecheck_removed h hkey,
      Option.none_or]
  have hlast := hstored "backend_dispute_last_event_id" (by decide)
  rw [resolveBackendRecheck_lastEvent h] at hlast
  constructor
  · intro hfinished
    constructor
    · intro key hkey
      rw [← hremoved key hkey]
      exact hfinished.removed key hkey
    · intro hstarts
      have hagrees := hfinished.agrees "backend_dispute_last_event_id" (by decide)
      rw [hlast, resolveBackendRecheck_lastEvent h, if_pos hstarts, Option.none_or] at hagrees
      exact hagrees
  · intro hnothing
    constructor
    · intro key hkey
      rw [hremoved key hkey]
      exact hnothing.recheck key hkey
    · intro key hkey
      by_cases hevent : key = "backend_dispute_last_event_id"
      · subst hevent
        rw [hlast, resolveBackendRecheck_lastEvent h]
        by_cases hstarts : startsConclusion rt slotMemory result = true
        · rw [if_pos hstarts, hnothing.lastEvent hstarts, Option.none_or]
        · rw [if_neg hstarts, Option.or_self]
      · rw [hstored key (List.mem_append_right _ hkey)]
        cases hresolved : recheck.slotMemory.get? key with
        | some value => rfl
        | none =>
            have hother : key ∉ recheckKeys := by
              intro hmem
              revert hkey hmem
              simp only [recheckKeys, conclusionKeys, List.mem_cons, List.not_mem_nil, or_false]
              rintro (rfl | rfl | rfl) <;> decide
            rw [Option.none_or, resolveBackendRecheck_keeps h hother hevent hresolved]

/-! ## The handler -/

/-- Every key that a lookup counter writes. -/
def lookupKeys : List String :=
  ["backend_not_found_count", "backend_not_found_last_value_hash",
    "backend_query_failed_count", "backend_query_failed_last_value_hash",
    "backend_not_found_handoff_requested"]

theorem backendLookupReset_get? {key : String} (hkey : key ∉ lookupKeys) :
    backendLookupReset.slotMemory.get? key = none := by
  apply Dict.get?_ofList_of_notMem
  intro hmem
  exact hkey hmem

theorem restrictTo_get? {slotMemory : JsonObject} {keys : List String} {key : String}
    (hkey : key ∉ keys) : (restrictTo slotMemory keys).get? key = none := by
  apply Dict.get?_ofList_of_notMem
  intro hmem
  simp only [List.mem_map, List.mem_filterMap, Option.map_eq_some_iff] at hmem
  obtain ⟨entry, ⟨kept, hkept, value, -, rfl⟩, rfl⟩ := hmem
  exact hkey hkept

/-- A counter writes its own two keys and the handoff mark. -/
theorem countLookup_get? {rt : Runtime} {row : ExternalResultRow} {slotMemory : JsonObject}
    {kind : LookupKind} {ignoreRepeated : Bool} {value : Json} {threshold : Int}
    {escalation : LookupEscalation} {key : String}
    (h : countLookup rt row slotMemory kind ignoreRepeated value threshold = .ok escalation)
    (hkey : key ∉ [kind.countKey, kind.hashKey, "backend_not_found_handoff_requested"]) :
    escalation.slotMemory.get? key = none := by
  obtain ⟨existing, count, -, -, -, hmemory, -⟩ := countLookup_ok h
  simp only [List.mem_cons, List.not_mem_nil, or_false, not_or] at hkey
  have hupdated : (Dict.ofList [(kind.countKey, Json.int count),
      (kind.hashKey, .ofText? (stableLookupValueHash rt value))]).get? key = none := by
    apply Dict.get?_ofList_of_notMem
    simp [hkey.1, hkey.2.1]
  rw [hmemory]
  split
  · rw [Dict.get?_set, if_neg hkey.2.2, hupdated]
  · rw [hupdated]

theorem notFoundEscalation_get? {rt : Runtime} {row : ExternalResultRow}
    {slotMemory : JsonObject} {value identitySource : Json} {escalation : LookupEscalation}
    {key : String}
    (h : notFoundEscalation rt row slotMemory value identitySource = .ok escalation)
    (hkey : key ∉ lookupKeys) : escalation.slotMemory.get? key = none := by
  simp only [lookupKeys, List.mem_cons, List.not_mem_nil, or_false, not_or] at hkey
  obtain ⟨given, -, hrest⟩ := bind_eq_ok.mp h
  cases given with
  | true =>
      apply countLookup_get? hrest
      simp [notFoundLookup, hkey.1, hkey.2.1, hkey.2.2.2.2]
  | false =>
      cases hrest
      apply restrictTo_get?
      simp [hkey.1, hkey.2.1, hkey.2.2.2.2]

/-- The slot memory that the handler of a successful query asks to write holds
what the resolver returned, apart from the bookkeeping of the lookup. -/
theorem backendSuccessHandler_slotMemory {rt : Runtime} {render : Renderer}
    {row : ExternalResultRow} {slotMemory : JsonObject} {recordedAt : String}
    {handler : ResultHandler} {reply : String × JsonObject} {recheck : RecheckResolution}
    (h : backendSuccessHandler rt render row slotMemory recordedAt = .ok handler)
    (hreply : resolveBackendReply rt row.resultJson = .ok reply)
    (hrecheck : resolveBackendRecheck rt slotMemory (resolvedResult row.resultJson reply)
      recordedAt = .ok recheck) :
    handler.graphState.deleteSlotMemoryKeys = [] ∧
      ∃ memory, handler.graphState.slotMemory = some memory ∧
        ∀ key, key ∉ "backend_query_status" :: lookupKeys →
          memory.get? key = recheck.slotMemory.get? key := by
  unfold backendSuccessHandler at h
  obtain ⟨reply', hreply', h⟩ := bind_eq_ok.mp h
  obtain ⟨text, -, h⟩ := bind_eq_ok.mp h
  obtain ⟨escalation, hescalation, h⟩ := bind_eq_ok.mp h
  obtain ⟨recheck', hrecheck', h⟩ := bind_eq_ok.mp h
  cases hreply.symm.trans hreply'
  cases hrecheck.symm.trans hrecheck'
  cases h
  have hget : ∀ key, key ∉ lookupKeys → escalation.slotMemory.get? key = none := by
    intro key hkey
    unfold backendSuccessEscalation at hescalation
    dsimp only at hescalation
    split at hescalation
    · exact notFoundEscalation_get? hescalation hkey
    · cases hescalation
      exact backendLookupReset_get? hkey
  have hmemory : ∀ key, key ∉ "backend_query_status" :: lookupKeys →
      ((recheck.slotMemory.merge (.ofList [("backend_query_status", .str "success")])).merge
        escalation.slotMemory).get? key = recheck.slotMemory.get? key := by
    intro key hkey
    simp only [List.mem_cons, not_or] at hkey
    have hstatus : (Dict.ofList [("backend_query_status", Json.str "success")]).get? key =
        none := by
      apply Dict.get?_ofList_of_notMem
      simp [hkey.1]
    rw [Dict.get?_merge, hget key hkey.2, Option.none_or, Dict.get?_merge, hstatus,
      Option.none_or]
  dsimp only
  split
  · exact ⟨rfl, _, rfl, hmemory⟩
  · exact ⟨rfl, _, rfl, hmemory⟩

/-- A successful query is handled by its own branch. -/
theorem buildResultHandler_success {rt : Runtime} {render : Renderer} {row : ExternalResultRow}
    (slotMemory : JsonObject) (recordedAt : String)
    (htype : row.resultType = "backend.query.result")
    (hsuccess : getKey row.resultJson "status" = .str "success") :
    buildResultHandler rt render row slotMemory recordedAt =
      backendSuccessHandler rt render row slotMemory recordedAt := by
  simp [buildResultHandler, htype, hsuccess]

/-! ## The committed slot memory -/

/-- The slot memory stored for a conversation. -/
def Database.slotMemory? (db : Database) (conversationId : String) : Option JsonObject :=
  (db.conversation? conversationId).map ConversationRow.slotMemory

/-- A result that goes through overlays its slot memory on the loaded one. -/
theorem processResult_slotMemory? {db db' : Database} {ctx : TxContext} {ref : ResultRef}
    {graphState : GraphState} {messages : List OutboundMessage}
    {commands : List ExternalCommand} {summary : Option ConversationMessage}
    {result : TransactionResult} {memory : JsonObject}
    (h : processResultTransactionally db ctx ref graphState messages commands summary =
      .ok (db', result))
    (hskip : result.humanActiveSkipped = false)
    (hmemory : graphState.slotMemory = some memory)
    (hkeep : graphState.deleteSlotMemoryKeys = []) :
    db'.slotMemory? (conversationIdForChat (some ref.chatId) ref.threadId) =
      some ((db.viewed ctx ref.chatId ref.threadId).slotMemory.merge memory) := by
  rw [Database.slotMemory?, processResult_conversation? h hskip, Option.map_some]
  simp [ConversationRow.withGraphState, GraphState.mergedOver, hmemory, hkeep, Dict.eraseAll]

/-- A successful query is loaded, handled and committed.  The stored slot memory
then says that the recheck is over exactly when the loaded slot memory had
nothing for the resolver to remove. -/
theorem committed_recheck_is_finished_iff {rt : Runtime} {render : Renderer}
    {db loaded db' : Database} {ctx : TxContext} {row : ExternalResultRow}
    {view : ConversationView} {recordedAt : String} {handler : ResultHandler}
    {reply : String × JsonObject} {recheck : RecheckResolution}
    {messages : List OutboundMessage} {commands : List ExternalCommand}
    {summary : Option ConversationMessage} {result : TransactionResult}
    (hload : getOrCreateOnConnection db ctx row.chatId row.threadId = (loaded, view))
    (htype : row.resultType = "backend.query.result")
    (hsuccess : getKey row.resultJson "status" = .str "success")
    (hhandler : buildResultHandler rt render row view.slotMemory recordedAt = .ok handler)
    (hreply : resolveBackendReply rt row.resultJson = .ok reply)
    (hrecheck : resolveBackendRecheck rt view.slotMemory
      (resolvedResult row.resultJson reply) recordedAt = .ok recheck)
    (hcommit : processResultTransactionally loaded ctx row.ref handler.graphState messages
      commands summary = .ok (db', result))
    (hskip : result.humanActiveSkipped = false) :
    ∃ stored,
      db'.slotMemory? (conversationIdForChat (some row.chatId) row.threadId) = some stored ∧
      (RecheckFinished stored recheck.slotMemory ↔
        NothingToRemove rt view.slotMemory (resolvedResult row.resultJson reply)) := by
  rw [getOrCreateOnConnection_eq, Prod.mk.injEq] at hload
  obtain ⟨rfl, rfl⟩ := hload
  rw [buildResultHandler_success _ _ htype hsuccess] at hhandler
  obtain ⟨hkeep, memory, hmemory, hget⟩ :=
    backendSuccessHandler_slotMemory hhandler hreply hrecheck
  have hstored := processResult_slotMemory? hcommit hskip hmemory hkeep
  change _ = some ((Database.viewed (db.entered row.chatId row.threadId) ctx row.chatId
    row.threadId).slotMemory.merge memory) at hstored
  rw [Database.viewed, ensuredRow_entered] at hstored
  refine ⟨_, hstored, recheckFinished_overlay_iff hrecheck ?_⟩
  intro key hkey
  have hother : key ∉ "backend_query_status" :: lookupKeys := by
    intro hmem
    revert hkey
    simp only [lookupKeys, List.mem_cons, List.not_mem_nil, or_false] at hmem
    rcases hmem with rfl | rfl | rfl | rfl | rfl | rfl <;> decide
  rw [Dict.get?_merge, hget key hother]

/-- A chat whose conversation remembers the given slot memory. -/
def rememberingChat (slotMemory : JsonObject) : Database :=
  (Database.empty.entered "C1" (some "T1")).updateGraphState "livechat:C1:T1"
    ⟨some .aiActive, none, none, some slotMemory, none, [], none⟩

/-- The backend reports that the turnover is met. -/
def turnoverMetRow : ExternalResultRow :=
  resultOfEvent 9 "backend.query.result"
    (.ofList [("status", .str "success"), ("intent", .str "turnover"),
      ("reply_intent", .str "backend_turnover_met"), ("answer", .str "ok")])

/-- Load the conversation, handle the row and commit what the handler returns. -/
def processedSlotMemory (slotMemory : JsonObject) (row : ExternalResultRow) :
    Except PyError JsonObject := do
  let (loaded, view) :=
    getOrCreateOnConnection (rememberingChat slotMemory) ⟨none, false⟩ row.chatId row.threadId
  let handler ← buildResultHandler .plain (fun _ _ _ => .ok "") row view.slotMemory ""
  let (db, _) ← processResultTransactionally loaded ⟨none, false⟩ row.ref handler.graphState
    [] handler.externalCommands none
  pure ((db.slotMemory? "livechat:C1:T1").getD ∅)

/-- The slot memory that `mark_backend_recheck_pending` leaves. -/
def pendingRecheck : JsonObject :=
  .ofList [
    ("backend_conclusion", .obj (.ofList [("fingerprint", .str "f1")])),
    ("backend_recheck_pending", .bool true),
    ("backend_recheck_origin_fingerprint", .str "f1")]

/-- The recheck is answered and stays pending. -/
theorem pending_recheck_survives_its_result :
    ∃ stored, processedSlotMemory pendingRecheck turnoverMetRow = .ok stored ∧
      stored.get? "backend_recheck_pending" ≠ none := by
  have hsurvives : (processedSlotMemory pendingRecheck turnoverMetRow).toOption.any
      (fun stored => (stored.get? "backend_recheck_pending").isSome) = true := by
    decide +kernel
  cases hrun : processedSlotMemory pendingRecheck turnoverMetRow with
  | error e => simp [hrun, Except.toOption] at hsurvives
  | ok stored =>
      refine ⟨stored, rfl, ?_⟩
      intro hnone
      simp [hrun, Except.toOption, hnone] at hsurvives

/-- Nothing was pending and no dispute was recorded when the answer arrived. -/
theorem first_answer_finishes_recheck :
    ∃ recheck stored,
      resolveBackendRecheck .plain ∅
        (resolvedResult turnoverMetRow.resultJson ("backend_turnover_met", ∅)) "" =
          .ok recheck ∧
      processedSlotMemory ∅ turnoverMetRow = .ok stored ∧
      RecheckFinished stored recheck.slotMemory := by
  obtain ⟨stored, hstored, hiff⟩ := @committed_recheck_is_finished_iff .plain
    (fun _ _ _ => .ok "") (rememberingChat ∅) _ _ ⟨none, false⟩ turnoverMetRow _ "" _ _ _
    [] [] none _ rfl rfl rfl rfl rfl rfl rfl (by rfl)
  refine ⟨_, stored, rfl, ?_, hiff.mpr ⟨by decide, fun _ => rfl⟩⟩
  exact congrArg (fun memory? => Except.ok (memory?.getD ∅)) hstored

end AiCustomerService
