import AiCustomerService.Graph.SopNode
import AiCustomerService.Workflows.SopCommands

/-!
# Keys of the slot memory that are left alone

The planning and the handlers of a workflow fill slots; none of them touches the mark of a recheck
that is pending, or the image that waits for a confirmation.  The handlers write the identity of
the customer in a few places only.
-/

namespace AiCustomerService

open Support

/-- `backend_recheck_pending`. -/
def recheckMark (memory : JsonObject) : Json := getKey memory "backend_recheck_pending"

/-- The keys that the planning and the handlers of a workflow leave alone. -/
def keptKeys : List String := ["backend_recheck_pending", "pending_image_candidates"]

/-- The keys that hold the identity of the customer, and where it comes from. -/
def identityMemoryKeys : List String := identitySlotKeys ++ identitySourceKeys

/-- The keys that a handler leaves as its plan has them. -/
def untouchedKeys : List String := keptKeys ++ identityMemoryKeys

theorem mem_untouchedKeys {key : String} (h : key ∈ keptKeys) : key ∈ untouchedKeys :=
  List.mem_append_left _ h

/-- The value of a key in the slot memory. -/
def slotAt (key : String) (memory : JsonObject) : Json := getKey memory key

theorem getKey_eraseAll (d : JsonObject) (keys : List String) (key : String) :
    getKey (d.eraseAll keys) key = if key ∈ keys then .null else getKey d key := by
  unfold getKey
  rw [Dict.get?_eraseAll]
  split
  · rfl
  · rfl

section

variable {keys : List String} {key : String} (hkey : key ∈ keys)

include hkey

theorem slotAt_set (memory : JsonObject) {other : String} (value : Json)
    (hother : other ∉ keys) : slotAt key (memory.set other value) = slotAt key memory := by
  rw [slotAt, getKey_set, if_neg (ne_of_mem_of_not_mem hkey hother), slotAt]

theorem slotAt_eraseAll (memory : JsonObject) {erased : List String}
    (herased : ∀ kept ∈ keys, kept ∉ erased) :
    slotAt key (memory.eraseAll erased) = slotAt key memory := by
  rw [slotAt, getKey_eraseAll, if_neg (herased key hkey), slotAt]

theorem slotAt_setDefault (memory : JsonObject) {other : String} (value : Json)
    (hother : other ∉ keys) :
    slotAt key (setDefault memory other value) = slotAt key memory := by
  unfold setDefault
  split
  · rfl
  · exact slotAt_set hkey memory value hother

end

theorem slotAt_foldl {key : String} {α : Type} {f : JsonObject → α → JsonObject} {items : List α}
    (hf : ∀ memory, ∀ item ∈ items, slotAt key (f memory item) = slotAt key memory)
    (memory : JsonObject) : slotAt key (items.foldl f memory) = slotAt key memory := by
  induction items generalizing memory with
  | nil => rfl
  | cons item rest ih =>
      have hrest := ih (fun memory other hother =>
        hf memory other (List.mem_cons_of_mem _ hother)) (f memory item)
      rw [List.foldl_cons, hrest, hf memory item List.mem_cons_self]

/-! ## The keys of a dictionary -/

/-- No entry has a key that is left alone. -/
def SparesKept (updates : JsonObject) : Prop := ∀ entry ∈ updates.entries, entry.1 ∉ keptKeys

theorem SparesKept.empty : SparesKept ∅ := by
  intro entry hmem
  cases hmem

theorem SparesKept.set {updates : JsonObject} (h : SparesKept updates) {key : String}
    (value : Json) (hkey : key ∉ keptKeys) : SparesKept (updates.set key value) := by
  intro entry hmem
  rcases List.mem_cons.mp hmem with rfl | herased
  · exact hkey
  · exact h entry (List.mem_of_mem_filter herased)

/-- What holds of all listed entries holds of the entries of their dictionary. -/
theorem forall_mem_ofList {P : String × Json → Prop} {entries : List (String × Json)}
    (h : ∀ entry ∈ entries, P entry) : ∀ entry ∈ (Dict.ofList entries).entries, P entry := by
  have hfold : ∀ d : JsonObject, (∀ entry ∈ d.entries, P entry) → ∀ entry ∈
      (entries.foldl (fun d entry => d.set entry.1 entry.2) d).entries, P entry := by
    induction entries with
    | nil => exact fun _ hd => hd
    | cons entry rest ih =>
        intro d hd
        refine ih (fun other hother => h other (List.mem_cons_of_mem _ hother)) _ ?_
        intro other hmem
        rcases List.mem_cons.mp hmem with rfl | herased
        · exact h entry List.mem_cons_self
        · exact hd other (List.mem_of_mem_filter herased)
  exact hfold ∅ fun entry hmem => by cases hmem

theorem SparesKept.setInOrder {updates : JsonObject} (h : SparesKept updates) {key : String}
    (value : Json) (hkey : key ∉ keptKeys) : SparesKept (setInOrder updates key value) := by
  unfold AiCustomerService.setInOrder
  split
  · intro entry hmem
    obtain ⟨old, hold, rfl⟩ := List.mem_map.mp hmem
    split
    · exact hkey
    · exact h old hold
  · intro entry hmem
    rcases List.mem_append.mp hmem with hold | hnew
    · exact h entry hold
    · rw [List.mem_singleton.mp hnew]
      exact hkey

/-- A dictionary without the key leaves its value in the one that it is merged into. -/
theorem slotAt_merge {key : String} (memory : JsonObject) {updates : JsonObject}
    (h : ∀ entry ∈ updates.entries, entry.1 ≠ key) :
    slotAt key (memory.merge updates) = slotAt key memory := by
  have hnone : updates.get? key = none := by
    rw [Dict.get?, List.lookup_eq_none_iff]
    intro entry hmem
    simpa using (h entry hmem).symm
  rw [slotAt, getKey, Dict.get?_merge, hnone, slotAt, getKey]
  rfl

theorem SparesKept.ne {updates : JsonObject} (h : SparesKept updates) {key : String}
    (hkey : key ∈ keptKeys) : ∀ entry ∈ updates.entries, entry.1 ≠ key :=
  fun entry hmem => (ne_of_mem_of_not_mem hkey (h entry hmem)).symm

/-- No entry is the mark of a recheck. -/
def Unmarked (updates : JsonObject) : Prop :=
  ∀ entry ∈ updates.entries, entry.1 ≠ "backend_recheck_pending"

theorem Unmarked.ofList {entries : List (String × Json)}
    (h : ∀ entry ∈ entries, entry.1 ≠ "backend_recheck_pending") : Unmarked (.ofList entries) :=
  forall_mem_ofList h

theorem recheckMark_merge (memory : JsonObject) {updates : JsonObject} (h : Unmarked updates) :
    recheckMark (memory.merge updates) = recheckMark memory :=
  slotAt_merge memory h

/-! ## Planning -/

theorem screenshotKey_notMem (intent : String) : screenshotKey intent ∉ untouchedKeys := by
  unfold screenshotKey
  split
  · decide
  · decide

theorem screenshotKey_notKept (intent : String) : screenshotKey intent ∉ keptKeys :=
  fun hkey => screenshotKey_notMem intent (mem_untouchedKeys hkey)

theorem sparesKept_extractedSlots (rt : Runtime) (tables : SlotTables) (intent text : String)
    (urls : List String) : SparesKept (extractedSlots rt tables intent text urls) := by
  have hempty : SparesKept (.ofList [("account_or_phone", .null), ("phone", .null),
      ("amount", .null), ("payment_channel", .null), ("deposit_screenshot", .null),
      ("withdrawal_screenshot", .null)]) := by
    exact forall_mem_ofList (by decide)
  have hidentity (identity : ExtractedIdentity) {slots : JsonObject} (hslots : SparesKept slots) :
      SparesKept (((slots.set "account_or_phone" (.str identity.value)).set "identity_kind"
        (.str identity.kind)).set "identity_source" (.str "user_text")) :=
    ((hslots.set _ (by decide)).set _ (by decide)).set _ (by decide)
  have hphone (phone : String) {slots : JsonObject} (hslots : SparesKept slots) :
      SparesKept ((((slots.set "phone" (.str phone)).set "account_or_phone" (.str phone)).set
        "identity_kind" (.str "phone")).set "identity_source" (.str "user_text")) :=
    (((hslots.set _ (by decide)).set _ (by decide)).set _ (by decide)).set _ (by decide)
  have hamount {slots : JsonObject} (hslots : SparesKept slots) (amount channel : Json) :
      SparesKept ((slots.set "amount" amount).set "payment_channel" channel) :=
    (hslots.set _ (by decide)).set _ (by decide)
  have hfound : SparesKept (extractedSlots rt tables intent text []) := by
    unfold extractedSlots
    simp only
    refine hamount ?_ _ _
    split
    · refine hphone _ ?_
      split
      · split
        · exact (hidentity _ hempty).set _ (by decide)
        · exact hidentity _ hempty
      · exact hempty
    · split
      · split
        · exact (hidentity _ hempty).set _ (by decide)
        · exact hidentity _ hempty
      · exact hempty
  cases urls with
  | nil => exact hfound
  | cons url rest => exact hfound.set (.str url) (screenshotKey_notKept intent)

section

variable {key : String} (hkey : key ∈ untouchedKeys)

include hkey

theorem slotAt_mergeAttachmentSlots (rt : Runtime) (intent : String) (memory : JsonObject)
    (attachments : List JsonObject) :
    slotAt key (mergeAttachmentSlots rt intent memory attachments) = slotAt key memory := by
  unfold mergeAttachmentSlots
  split
  · rfl
  · rw [slotAt_setDefault hkey _ _ (screenshotKey_notMem intent),
      slotAt_setDefault hkey _ _ (by decide), slotAt_set hkey _ _ (by decide)]

/-- Of the aliases only those of the identity are untouched keys. -/
theorem slotAt_syncLegacyAliases (rt : Runtime) (tables : SlotTables) (intent : String)
    (memory updates previous : JsonObject) :
    slotAt key (syncLegacyAliases rt tables intent memory updates previous) =
      slotAt key (syncIdentityAliases rt tables memory updates previous) := by
  have hchannel (d : JsonObject) : slotAt key (if (getKey d "payment_channel").truthy = true then
      setDefault d "channel" (getKey d "payment_channel") else d) = slotAt key d := by
    split
    · rw [slotAt_setDefault hkey _ _ (by decide)]
    · rfl
  unfold syncLegacyAliases
  simp only
  rw [hchannel]
  split
  · rw [slotAt_setDefault hkey _ _ (screenshotKey_notMem intent)]
  · split
    · rw [slotAt_setDefault hkey _ _ (by decide)]
    · rfl

/-- The slot memory that a plan completes with its attachments and aliases. -/
theorem slotAt_plannedMemory (rt : Runtime) (tables : SlotTables) (s : NodeState) (intent : String)
    (slots : PlannedSlots) :
    slotAt key (plannedMemory rt tables s intent slots) =
      slotAt key (syncIdentityAliases rt tables (mergeAttachmentSlots rt intent
        (slots.slotMemory.merge slots.updates) s.attachments) slots.updates slots.slotMemory) := by
  unfold plannedMemory
  simp only
  split
  · rw [slotAt_eraseAll hkey _ (by decide), slotAt_syncLegacyAliases hkey]
  · exact slotAt_syncLegacyAliases hkey rt tables intent _ _ _

theorem slotAt_fallbackPlan (rt : Runtime) (tables : SlotTables) (s : NodeState)
    (intent : String) (reason : Json) :
    slotAt key (fallbackPlan rt tables s intent reason).slotMemory =
      slotAt key (syncIdentityAliases rt tables (mergeAttachmentSlots rt intent
        (extractSopSlots rt tables intent s.slotMemory (s.inputText rt) s.attachments).2
          s.attachments) ∅ ∅) := by
  unfold fallbackPlan
  simp only
  split
  · rw [slotAt_eraseAll hkey _ (by decide), slotAt_syncLegacyAliases hkey]
  · exact slotAt_syncLegacyAliases hkey rt tables intent _ _ _

end

section

variable {key : String} (hkey : key ∈ keptKeys)

include hkey

theorem slotAt_syncIdentityAliases (rt : Runtime) (tables : SlotTables)
    (memory updates previous : JsonObject) :
    slotAt key (syncIdentityAliases rt tables memory updates previous) = slotAt key memory := by
  unfold syncIdentityAliases
  simp only
  split
  · split
    · rw [slotAt_setDefault hkey _ _ (by decide), slotAt_set hkey _ _ (by decide),
        slotAt_set hkey _ _ (by decide)]
    · rw [slotAt_set hkey _ _ (by decide), slotAt_set hkey _ _ (by decide)]
  · rfl

theorem slotAt_extractSopSlots (rt : Runtime) (tables : SlotTables) (intent : String)
    (memory : JsonObject) (text : String) (attachments : List JsonObject) :
    slotAt key (extractSopSlots rt tables intent memory text attachments).2 =
      slotAt key memory := by
  have hcomplete (d : JsonObject) : slotAt key (completeIdentity d) = slotAt key d := by
    unfold completeIdentity
    simp only
    split
    · exact slotAt_set hkey d _ (by decide)
    · rfl
  have hextracted (slots d : JsonObject) (hslots : SparesKept slots) :
      slotAt key (slots.entries.foldl setExtracted d) = slotAt key d := by
    refine slotAt_foldl (fun memory entry hentry => ?_) d
    unfold setExtracted
    split
    · exact slotAt_set hkey memory _ (hslots entry hentry)
    · rfl
  have hstart : slotAt key (completeIdentity (memory.eraseAll orderSlotKeys)) =
      slotAt key memory := by
    rw [hcomplete, slotAt_eraseAll hkey _ (by decide)]
  unfold extractSopSlots
  simp only
  split
  · rw [hextracted _ _ (sparesKept_extractedSlots _ _ _ _ _), hstart]
  · rw [slotAt_set hkey _ _ (by decide), hextracted _ _ (sparesKept_extractedSlots _ _ _ _ _),
      hstart]

omit hkey in
theorem notMem_of_identitySource {source : String}
    (h : identitySourceKeys.contains source = true) : source ∉ keptKeys := by
  intro hkept
  have hnone : (keptKeys.all fun kept => !identitySourceKeys.contains kept) = true := by decide
  have hsource := List.all_eq_true.mp hnone source hkept
  rw [h] at hsource
  cases hsource

omit hkey in
theorem notMem_of_allowed {definition : SopDefinition} {intent slot : String}
    (h : slot ∈ allowedSlotKeys definition intent) : slot ∉ keptKeys := by
  intro hkept
  have hslots : (keptKeys.all fun kept => !definition.slotKeys.contains kept) = true := by
    cases definition
    all_goals decide
  have hlisted : slot ∈ definition.slotKeys ∨ slot = "account_or_phone" ∨
      slot = screenshotKey intent ∨ slot = "channel" := by
    simpa [allowedSlotKeys] using h
  rcases hlisted with hslot | rfl | rfl | rfl
  · have hfree := List.all_eq_true.mp hslots slot hkept
    rw [List.contains_iff_mem.mpr hslot] at hfree
    cases hfree
  · exact absurd hkept (by decide)
  · exact screenshotKey_notKept intent hkept
  · exact absurd hkept (by decide)

/-- The loop of `apply_llm_sop_plan` leaves the key alone. -/
structure PlansSpare (key : String) (memory : JsonObject) (slots : PlannedSlots) : Prop where
  memory : slotAt key slots.slotMemory = slotAt key memory
  updates : SparesKept slots.updates

theorem planSlot_spares {rt : Runtime} {tables : SlotTables} {s : NodeState} {intent : String}
    {definition : SopDefinition} {urls : List String} {memory : JsonObject} {slots : PlannedSlots}
    (h : PlansSpare key memory slots) (entry : String × Json) :
    PlansSpare key memory (planSlot rt tables s intent definition urls slots entry) := by
  obtain ⟨slot, value⟩ := entry
  unfold planSlot
  simp only
  split
  · rename_i hsource
    split
    · exact ⟨h.memory, h.updates.setInOrder value (notMem_of_identitySource hsource)⟩
    · exact h
  · split
    · exact ⟨h.memory, h.updates⟩
    · rename_i hallowed
      have hslot : slot ∉ keptKeys := by
        have hkeys : (slot ∉ protectedSlotKeys ∧ slot ∈ allowedSlotKeys definition intent) ∧
            (intent ∈ imageCollectionSops → slot ∉ orderSlotKeys) := by
          simpa using hallowed
        exact notMem_of_allowed hkeys.1.2
      split
      · exact h
      · split
        · refine ⟨?_, h.updates⟩
          unfold recordIdentityHint
          simp only
          split
          · exact h.memory
          · rw [slotAt_set hkey _ _ (by decide), slotAt_set hkey _ _ (by decide),
              slotAt_set hkey _ _ (by decide), h.memory]
        · split
          · exact ⟨h.memory, h.updates⟩
          · refine ⟨h.memory, ?_⟩
            have hset := h.updates.setInOrder value hslot
            simp only
            split
            · exact hset.setInOrder _ (by decide)
            · exact hset

theorem foldl_planSlot_spares {rt : Runtime} {tables : SlotTables} {s : NodeState}
    {intent : String} {definition : SopDefinition} {urls : List String} {memory : JsonObject}
    (entries : List (String × Json)) {slots : PlannedSlots} (h : PlansSpare key memory slots) :
    PlansSpare key memory
      (entries.foldl (planSlot rt tables s intent definition urls) slots) := by
  induction entries generalizing slots with
  | nil => exact h
  | cons entry rest ih => exact ih (planSlot_spares hkey h entry)

/-- What a plan leaves of the key, and its updates. -/
structure PlanSpares (key : String) (s : NodeState) (plan : SopDialoguePlan) : Prop where
  memory : slotAt key plan.slotMemory = slotAt key s.slotMemory
  updates : SparesKept plan.slotUpdates

theorem fallbackPlan_spares (rt : Runtime) (tables : SlotTables) (s : NodeState)
    (intent : String) (reason : Json) :
    PlanSpares key s (fallbackPlan rt tables s intent reason) := by
  constructor
  · rw [slotAt_fallbackPlan (mem_untouchedKeys hkey), slotAt_syncIdentityAliases hkey,
      slotAt_mergeAttachmentSlots (mem_untouchedKeys hkey), slotAt_extractSopSlots hkey]
  · have hupdates : (fallbackPlan rt tables s intent reason).slotUpdates = extractedSlots rt tables
        intent (s.inputText rt) (extractedReceiptUrls rt intent s.attachments) := by
      simp only [fallbackPlan, extractSopSlots]
    rw [hupdates]
    exact sparesKept_extractedSlots rt tables intent _ _

theorem applyLlmSopPlan_spares {rt : Runtime} {tables : SlotTables} {s : NodeState}
    {intent : String} {output : JsonObject} {plan : SopDialoguePlan}
    (h : applyLlmSopPlan rt tables s intent output = .ok plan) : PlanSpares key s plan := by
  unfold applyLlmSopPlan at h
  split at h
  · cases h
    exact fallbackPlan_spares hkey rt tables s intent _
  · obtain ⟨updates, -, h⟩ := bind_eq_ok.mp h
    obtain ⟨confidence, -, h⟩ := bind_eq_ok.mp h
    have hmemory : slotAt key (if intent ∈ imageCollectionSops then
        s.slotMemory.eraseAll orderSlotKeys else s.slotMemory) = slotAt key s.slotMemory := by
      split
      · exact slotAt_eraseAll hkey _ (by decide)
      · rfl
    have hplanned (slots : PlannedSlots) (hslots : PlansSpare key s.slotMemory slots) :
        slotAt key (plannedMemory rt tables s intent slots) = slotAt key s.slotMemory := by
      rw [slotAt_plannedMemory (mem_untouchedKeys hkey), slotAt_syncIdentityAliases hkey,
        slotAt_mergeAttachmentSlots (mem_untouchedKeys hkey),
        slotAt_merge _ (hslots.updates.ne hkey), hslots.memory]
    cases h
    refine ⟨hplanned _ ?_, ?_⟩
    · exact foldl_planSlot_spares hkey _ ⟨hmemory, .empty⟩
    · exact (foldl_planSlot_spares hkey updates.entries ⟨hmemory, .empty⟩).updates

theorem planSopDialogueFromState_spares {rt : Runtime} {tables : SlotTables} {s : NodeState}
    {intent : String} {plan : SopDialoguePlan}
    (h : planSopDialogueFromState rt tables s intent = .ok plan) : PlanSpares key s plan := by
  unfold planSopDialogueFromState at h
  split at h
  · cases h
    exact fallbackPlan_spares hkey rt tables s intent _
  · obtain ⟨dialogue, -, h⟩ := bind_eq_ok.mp h
    obtain ⟨usable, -, h⟩ := bind_eq_ok.mp h
    cases usable with
    | some planned => exact applyLlmSopPlan_spares hkey h
    | none =>
        obtain ⟨slotResult, -, h⟩ := bind_eq_ok.mp h
        obtain ⟨usable, -, h⟩ := bind_eq_ok.mp h
        cases usable with
        | some planned => exact applyLlmSopPlan_spares hkey h
        | none =>
            cases h
            exact fallbackPlan_spares hkey rt tables s intent _

end

/-! ## The handlers -/

/-- The mark in the slot memory of a state. -/
def NodeState.mark (s : NodeState) : Json := recheckMark s.slotMemory

/-- The value of a key in the slot memory of a state. -/
def NodeState.kept (key : String) (s : NodeState) : Json := slotAt key s.slotMemory

namespace NodeState

variable (s : NodeState) {key : String}

theorem kept_set {other : String} (value : Json) (hother : other ≠ "slot_memory") :
    (s.set other value).kept key = s.kept key := by
  rw [kept, s.slotMemory_set value hother, kept]

theorem kept_withSlotMemory (memory : JsonObject) :
    (s.withSlotMemory memory).kept key = slotAt key memory := by
  rw [kept, s.slotMemory_withSlotMemory]

theorem kept_withCommands (commands : List WorkflowCommand) :
    (s.withCommands commands).kept key = s.kept key := rfl

theorem kept_withReply (text : String) : (s.withReply text).kept key = s.kept key := by
  rw [withReply, kept_withCommands, kept_set _ _ (by decide), kept_set _ _ (by decide)]

end NodeState

namespace SopSettings

open NodeState

variable {settings : SopSettings} {s r : NodeState} {memory : JsonObject} {key : String}

theorem kept_atStage (s : NodeState) (workflow stage : String) :
    (atStage s workflow stage).kept key = s.kept key := by
  rw [atStage, kept_set _ _ (by decide), kept_set _ _ (by decide)]

theorem kept_waitingReply (s : NodeState) (memory : JsonObject) (text : String) :
    (waitingReply s memory text).kept key = slotAt key memory := by
  rw [waitingReply, kept_withReply, kept_set _ _ (by decide), kept_withSlotMemory]

theorem kept_buildHandoffState (s : NodeState) (memory : JsonObject) (reason : String) :
    (buildHandoffState s memory reason).kept key = slotAt key memory := by
  rw [buildHandoffState, kept_withCommands, kept_withReply, kept_set _ _ (by decide),
    kept_withSlotMemory]

theorem kept_backendQueryState (s : NodeState) (memory : JsonObject) :
    (backendQueryState s memory).kept key = slotAt key memory := by
  unfold backendQueryState
  simp only
  rw [kept_withCommands, kept_atStage, kept_set _ _ (by decide), kept_set _ _ (by decide),
    kept_set _ _ (by decide), kept_withSlotMemory]

theorem kept_supplementState (plan : SopDialoguePlan) :
    (settings.supplementState s memory plan).kept key = slotAt key memory := by
  unfold supplementState
  split
  · exact kept_backendQueryState s memory
  · split
    · exact kept_waitingReply s memory _
    · split
      · exact kept_buildHandoffState s memory _
      · exact kept_waitingReply s memory _

variable (hkey : key ∈ untouchedKeys)

include hkey

theorem kept_idleState {plan : SopDialoguePlan} (h : settings.idleState s memory plan = .ok r) :
    r.kept key = slotAt key memory := by
  unfold idleState at h
  simp only at h
  split at h
  · cases h
    exact kept_buildHandoffState s memory _
  · split at h
    · cases h
      exact kept_waitingReply s memory _
    · split at h
      · cases h
        exact kept_buildHandoffState s memory _
      · split at h
        · obtain ⟨⟨counted, count⟩, hcount, h⟩ := bind_eq_ok.mp h
          have hcounted : slotAt key counted = slotAt key memory := by
            obtain ⟨_, -, hcount⟩ := bind_eq_ok.mp hcount
            cases hcount
            exact slotAt_set hkey _ _ (by decide)
          rw [← hcounted]
          simp only at h
          split at h
          · cases h
            exact kept_buildHandoffState s counted _
          · cases h
            exact kept_waitingReply s counted _
        · cases h
          exact kept_waitingReply s memory _

omit hkey in
theorem kept_completedState (texts : ReplyTexts) :
    (settings.completedState s memory texts).kept key = slotAt key memory := by
  unfold completedState
  rw [kept_withReply, kept_set _ _ (by decide), kept_set _ _ (by decide), kept_withSlotMemory]

theorem kept_resolvedState (h : settings.resolvedState s memory = .ok r) :
    r.kept key = slotAt key memory := by
  rw [← slotAt_set hkey memory (.bool true) (by decide : "customer_confirmed_resolved" ∉ _)]
  unfold resolvedState at h
  simp only at h
  split at h
  · cases h
    exact kept_completedState _
  · obtain ⟨caseId, -, h⟩ := bind_eq_ok.mp h
    cases h
    exact (kept_set _ _ (by decide)).trans (kept_completedState _)

theorem kept_moneyCaseFollowupState (case : MoneyCase) (urls : List Json) (updates : JsonObject) :
    (settings.moneyCaseFollowupState s memory case urls updates).kept key = slotAt key memory := by
  have hreminded (workflow : Json) (memory : JsonObject) (text : String)
      (commands : List WorkflowCommand) :
      (((((s.withSlotMemory memory).set "active_workflow" workflow).set "workflow_stage"
        (.str "waiting_backend")).withReply text).withCommands commands).kept key =
          slotAt key memory := by
    rw [kept_withCommands, kept_withReply, kept_set _ _ (by decide), kept_set _ _ (by decide),
      kept_withSlotMemory]
  rw [← slotAt_set hkey memory (.int case.id) (by decide : "telegram_internal_case_id" ∉ _)]
  unfold moneyCaseFollowupState
  simp only
  split
  · exact (kept_set _ _ (by decide)).trans (hreminded _ _ _ _)
  · exact hreminded _ _ _ _

omit hkey in
/-- What a handler does to the untouched keys: it leaves the slot memory alone, takes that of a
plan, adds the number that the customer was asked for, or reads an identity in the text. -/
inductive FillsFrom (settings : SopSettings) (s : NodeState) : JsonObject → Prop
  | kept : FillsFrom settings s s.slotMemory
  | planned (intent : String) (plan : SopDialoguePlan)
      (h : planSopDialogueFromState settings.rt settings.tables s intent = .ok plan) :
      FillsFrom settings s plan.slotMemory
  | supplemented (intent : String) (plan : SopDialoguePlan)
      (h : planSopDialogueFromState settings.rt settings.tables s intent = .ok plan) :
      FillsFrom settings s
        (settings.mergeWaitingSupplement plan.slotMemory (s.inputText settings.rt))
  | identified : FillsFrom settings s
      (settings.withUserIdentity s.slotMemory (s.rawText settings.rt))

/-- The state holds a slot memory that a handler fills. -/
def Fills (settings : SopSettings) (s r : NodeState) : Prop :=
  ∃ memory, FillsFrom settings s memory ∧
    ∀ key ∈ untouchedKeys, r.kept key = slotAt key memory

omit hkey in
theorem fills_handleWaitingBackend (h : settings.handleWaitingBackend s = .ok r) :
    Fills settings s r := by
  obtain ⟨plan, hplan, h⟩ := bind_eq_ok.mp h
  have hplanned : FillsFrom settings s plan.slotMemory := .planned _ plan hplan
  simp only at h
  split at h
  · cases h
    exact ⟨_, hplanned, fun key hkey => kept_completedState _⟩
  · split at h
    · exact ⟨_, hplanned, fun key hkey => kept_resolvedState hkey h⟩
    · split at h
      · cases h
        refine ⟨_, hplanned, fun key hkey => ?_⟩
        unfold acknowledgementState
        simp only
        rw [kept_withReply, kept_set _ _ (by decide), kept_withSlotMemory]
      · split at h
        · cases h
          refine ⟨_, hplanned, fun key hkey => ?_⟩
          unfold contextualFollowupState
          simp only
          rw [kept_withReply, kept_set _ _ (by decide), kept_withSlotMemory]
        · have hmerged : FillsFrom settings s (if awaitsSupplement s plan.slotMemory = true then
              settings.mergeWaitingSupplement plan.slotMemory (s.inputText settings.rt)
              else plan.slotMemory) := by
            split
            · exact .supplemented _ plan hplan
            · exact hplanned
          split at h
          · cases h
            exact ⟨_, hmerged, fun key hkey => kept_moneyCaseFollowupState hkey _ _ _⟩
          · split at h
            · cases h
              exact ⟨_, hmerged, fun key hkey => kept_supplementState plan⟩
            · exact ⟨_, hmerged, fun key hkey => kept_idleState hkey h⟩

theorem kept_moneyMissingSop {intent : String} {plan : SopDialoguePlan}
    (hplan : planSopDialogueFromState settings.rt settings.tables s intent = .ok plan)
    (h : settings.moneyMissingSop s intent = .ok r) : r.kept key = slotAt key plan.slotMemory := by
  obtain ⟨found, hfound, h⟩ := bind_eq_ok.mp h
  rw [hplan] at hfound
  cases hfound
  have hintro (condition : Prop) [Decidable condition] : slotAt key (if condition then
      plan.slotMemory.set "deposit_missing_example_sent" (.bool true) else plan.slotMemory) =
        slotAt key plan.slotMemory := by
    split
    · exact slotAt_set hkey _ _ (by decide)
    · rfl
  have hnext (memory : JsonObject) (summary : Json) (text : String)
      (commands : List WorkflowCommand) : ((((s.withSlotMemory memory).set "llm_sop_dialogue_plan"
        summary).withReply text).withCommands commands).kept key = slotAt key memory := by
    rw [kept_withCommands, kept_withReply, kept_set _ _ (by decide), kept_withSlotMemory]
  have hstates (c : Bool) {t t' : NodeState} (ht : t.kept key = slotAt key plan.slotMemory)
      (ht' : t'.kept key = slotAt key plan.slotMemory) :
      (if c = true then pure (atStage t intent "waiting_backend")
        else pure (atStage t' intent "collecting_slots") : Except PyError NodeState) = .ok r →
      r.kept key = slotAt key plan.slotMemory := by
    intro h
    cases c with
    | true =>
        cases h
        exact (kept_atStage _ _ _).trans ht
    | false =>
        cases h
        exact (kept_atStage _ _ _).trans ht'
  simp only at h
  refine hstates _ ?_ ?_ h
  · rw [kept_set _ _ (by decide)]
    exact (hnext _ _ _ _).trans (hintro _)
  · exact (hnext _ _ _ _).trans (hintro _)

omit hkey in
theorem fills_moneyMissingSop {intent : String} (h : settings.moneyMissingSop s intent = .ok r) :
    Fills settings s r := by
  obtain ⟨plan, hplan, -⟩ := bind_eq_ok.mp h
  exact ⟨_, .planned intent plan hplan, fun key hkey => kept_moneyMissingSop hkey hplan h⟩

theorem slotAt_blockedMemory (s : NodeState) : slotAt key (settings.blockedMemory s) =
    slotAt key (settings.withUserIdentity s.slotMemory (s.rawText settings.rt)) := by
  unfold blockedMemory
  simp only
  split
  · exact slotAt_set hkey _ _ (by decide)
  · rfl

omit hkey in
theorem fills_withdrawalBlockedSop (s : NodeState) :
    Fills settings s (settings.withdrawalBlockedSop s) := by
  refine ⟨_, .identified, fun key hkey => ?_⟩
  have hasking (text : String) : ((atStage (s.withSlotMemory (settings.blockedMemory s))
      "withdrawal_blocked_or_rollover" "collecting_slots").withReply text).kept key =
        slotAt key (settings.withUserIdentity s.slotMemory (s.rawText settings.rt)) := by
    rw [kept_withReply, kept_atStage, kept_withSlotMemory, slotAt_blockedMemory hkey]
  unfold withdrawalBlockedSop
  simp only
  split
  · exact hasking _
  · split
    · exact hasking _
    · rw [kept_backendQueryState, slotAt_blockedMemory hkey]

omit hkey in
theorem fills_pendingReplyLookupSop (s : NodeState) :
    Fills settings s (settings.pendingReplyLookupSop s) := by
  unfold pendingReplyLookupSop
  dsimp only
  refine ⟨_, .kept, fun key hkey => ?_⟩
  have hstates (memory : JsonObject) (hmemory : slotAt key memory = s.kept key) (c : Prop)
      [Decidable c] (text other : String) (commands : List WorkflowCommand) :
      (if c then (atStage (s.withSlotMemory memory) "pending_reply_lookup"
          "collecting_slots").withReply text
        else ((atStage ((s.withSlotMemory memory).set "status" (.str "WAITING_EXTERNAL"))
          "pending_reply_lookup" "lookup_pending_reply").withReply other).withCommands
            commands).kept key = s.kept key := by
    split
    · rw [kept_withReply, kept_atStage, kept_withSlotMemory, hmemory]
    · rw [kept_withCommands, kept_withReply, kept_atStage, kept_set _ _ (by decide),
        kept_withSlotMemory, hmemory]
  refine hstates _ ?_ _ _ _ _
  split
  · exact slotAt_set hkey _ _ (by decide)
  · rfl

omit hkey in
theorem fills_runSop (h : settings.runSop s = .ok r) : Fills settings s r := by
  unfold runSop at h
  split at h
  · exact fills_moneyMissingSop h
  · exact fills_moneyMissingSop h
  · obtain rfl := Except.ok.inj h
    exact fills_withdrawalBlockedSop s
  · obtain rfl := Except.ok.inj h
    exact fills_pendingReplyLookupSop s
  · obtain rfl := Except.ok.inj h
    refine ⟨_, .kept, fun key hkey => ?_⟩
    rw [kept_withCommands, kept_withReply, kept]

omit hkey in
theorem fills_sopNode (h : settings.sopNode s = .ok r) : Fills settings s r := by
  unfold sopNode at h
  split at h
  · exact fills_handleWaitingBackend h
  · exact fills_runSop h

omit hkey in
/-- No handler touches the kept keys. -/
theorem Fills.kept (h : Fills settings s r) (hkey : key ∈ keptKeys) : r.kept key = s.kept key := by
  obtain ⟨memory, hfills, hr⟩ := h
  rw [hr key (mem_untouchedKeys hkey)]
  cases hfills with
  | kept => rfl
  | planned intent plan hplan => exact (planSopDialogueFromState_spares hkey hplan).memory
  | supplemented intent plan hplan =>
      refine Eq.trans ?_ (planSopDialogueFromState_spares hkey hplan).memory
      unfold mergeWaitingSupplement
      split
      · rw [slotAt_set hkey _ _ (by decide), slotAt_set hkey _ _ (by decide)]
      · rfl
  | identified =>
      unfold withUserIdentity
      split
      · rw [slotAt_set hkey _ _ (by decide), slotAt_set hkey _ _ (by decide),
          slotAt_set hkey _ _ (by decide), NodeState.kept]
      · split
        · rw [slotAt_set hkey _ _ (by decide), NodeState.kept]
        · rfl

end SopSettings

end AiCustomerService
