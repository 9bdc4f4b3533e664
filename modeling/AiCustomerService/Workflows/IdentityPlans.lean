import AiCustomerService.Workflows.IdentityMemory

/-!
# The identities of plans

The extractors, the plan of a language model and the handlers keep the identity in the slot memory
sound, as long as what they read is vouched for.
-/

namespace AiCustomerService

open Support

section

variable {rt : Runtime} {tables : SlotTables} {Vouched : Json → Prop}
variable {start memory updates : JsonObject} {text : String} {s : NodeState} {intent : String}

/-! ## Single entries -/

theorem truthy_text {value : String} (h : value ≠ "") : (Json.str value).truthy = true := by
  simpa using h

theorem notMem_sources {key : String} (h : key ∈ identitySlotKeys) :
    key ∉ identitySourceKeys := by
  intro hsource
  have hfree : (identitySlotKeys.all fun slot => !identitySourceKeys.contains slot) = true := by
    decide
  have hkey := List.all_eq_true.mp hfree key h
  rw [List.contains_iff_mem.mpr hsource] at hkey
  cases hkey

theorem overlays_set {key : String} {value : Json} (hvalue : value.truthy = true) :
    Overlays ((∅ : JsonObject).set key value) memory (memory.set key value) := by
  intro other hother
  by_cases hsame : other = key
  · subst hsame
    exact .inl ⟨value, List.mem_cons_self, hvalue, by rw [slotAt, getKey_set, if_pos rfl]⟩
  · refine .inr ⟨fun found hmem => ?_, by rw [slotAt, getKey_set, if_neg hsame, slotAt]⟩
    have hempty := ((writes_set ∅ key value).kept other hsame found).mp hmem
    exact absurd hempty List.not_mem_nil

theorem Sound.set (h : Sound rt Vouched start memory) {key : String} {value : Json}
    (hvalue : value.truthy = true) (hslot : key ∈ identitySlotKeys → Vouched value)
    (hsource : key ∈ identitySourceKeys → isPresentSource rt value = true →
      IdentityVouched Vouched memory) : Sound rt Vouched start (memory.set key value) :=
  h.overlay (UpdatesFit.empty.writes (writes_set ∅ key value)
    (fun hkey => ⟨hvalue, hslot hkey⟩) fun hkey hpresent => .inl (hsource hkey hpresent))
    (overlays_set hvalue)

theorem Sound.set_other (h : Sound rt Vouched start memory) {key : String} (value : Json)
    (hkey : key ∉ identityMemoryKeys) : Sound rt Vouched start (memory.set key value) :=
  h.congr fun _ hother => slotAt_set hother memory value hkey

theorem Sound.eraseAll (h : Sound rt Vouched start memory) {erased : List String}
    (herased : ∀ key ∈ identityMemoryKeys, key ∉ erased) :
    Sound rt Vouched start (memory.eraseAll erased) :=
  h.congr fun _ hother => slotAt_eraseAll hother memory herased

/-- A slot of the identity without a source. -/
theorem Sound.setSlot (h : Sound rt Vouched start memory) {key : String} {value : Json}
    (hkey : key ∈ identitySlotKeys) (hvalue : value.truthy = true) (hvouched : Vouched value) :
    Sound rt Vouched start (memory.set key value) :=
  h.set hvalue (fun _ => hvouched) fun hsource => absurd hsource (notMem_sources hkey)

theorem Sound.completeIdentity (h : Sound rt Vouched start memory) :
    Sound rt Vouched start (completeIdentity memory) := by
  unfold AiCustomerService.completeIdentity
  simp only
  split
  · rename_i hcond
    have hphone : (slotAt "phone" memory).truthy = true := by
      rw [Bool.and_eq_true] at hcond
      exact hcond.1
    exact h.setSlot (by decide) hphone (h.phone hphone)
  · exact h

theorem Sound.syncIdentityAliases (h : Sound rt Vouched start memory) (previous : JsonObject) :
    Sound rt Vouched start (syncIdentityAliases rt tables memory updates previous) := by
  unfold AiCustomerService.syncIdentityAliases
  simp only
  split
  · rename_i hcond
    have hphone : (slotAt "phone" memory).truthy = true := by
      rw [Bool.and_eq_true] at hcond
      exact hcond.1
    have hsynced : Sound rt Vouched start ((memory.set "account_or_phone"
        (slotAt "phone" memory)).set "identity_kind" (.str "phone")) :=
      (h.setSlot (by decide) hphone (h.phone hphone)).set_other _ (by decide)
    split
    · rename_i hsource
      unfold setDefault
      split
      · exact hsynced
      · refine hsynced.set hsource (fun hslot => absurd hslot (by decide)) fun _ _ => ?_
        have hsame : slotAt "phone" ((memory.set "account_or_phone"
            (slotAt "phone" memory)).set "identity_kind" (.str "phone")) =
              slotAt "phone" memory := by
          simp [slotAt, getKey_set]
        refine identityVouched_of hsynced.phone fun hnone => ?_
        rw [hsame] at hnone
        exact absurd hphone hnone
    · exact hsynced
  · exact h

/-! ## The deterministic extractor -/

/-- The identities that the extractors read in a text are vouched for. -/
structure ReadsVouched (rt : Runtime) (tables : SlotTables) (Vouched : Json → Prop)
    (text : String) : Prop where
  identity : ∀ found, extractIdentityFromText rt tables text = some found →
    found.value ≠ "" ∧ Vouched (.str found.value)
  standalone : ∀ phone, standalonePhoneDigits tables text = some phone →
    phone ≠ "" ∧ Vouched (.str phone)

theorem updatesFit_extractedSlots (h : ReadsVouched rt tables Vouched text) (urls : List String) :
    UpdatesFit rt Vouched memory (extractedSlots rt tables intent text urls) := by
  have hempty : UpdatesFit rt Vouched memory (.ofList [("account_or_phone", .null),
      ("phone", .null), ("amount", .null), ("payment_channel", .null),
      ("deposit_screenshot", .null), ("withdrawal_screenshot", .null)]) := by
    have hnull : ∀ entry ∈ (Dict.ofList [("account_or_phone", Json.null), ("phone", .null),
        ("amount", .null), ("payment_channel", .null), ("deposit_screenshot", .null),
        ("withdrawal_screenshot", .null)]).entries, entry.2.truthy = false :=
      forall_mem_ofList (by decide)
    constructor
    · intro key _ value hmem htruthy
      rw [hnull (key, value) hmem] at htruthy
      cases htruthy
    · intro key _ value hmem htruthy
      rw [hnull (key, value) hmem] at htruthy
      cases htruthy
  have hsource {slots : JsonObject} (hslots : UpdatesFit rt Vouched memory slots)
      (hfills : FillsSlot slots) (kind : Json) : UpdatesFit rt Vouched memory
        ((slots.set "identity_kind" kind).set "identity_source" (.str "user_text")) := by
    have hkind := writes_set slots "identity_kind" kind
    refine (hslots.writes_other hkind (by decide)).writes (writes_set _ _ _)
      (fun hslot => absurd hslot (by decide)) fun _ _ => .inr ?_
    exact hfills.writes hkind fun hslot => absurd hslot (by decide)
  have hslot {slots : JsonObject} (hslots : UpdatesFit rt Vouched memory slots) (key value : String)
      (hvalue : value ≠ "" ∧ Vouched (.str value)) (hkey : key ∈ identitySlotKeys) :
      UpdatesFit rt Vouched memory (slots.set key (.str value)) ∧
        FillsSlot (slots.set key (.str value)) := by
    have hwrites := writes_set slots key (.str value)
    exact ⟨hslots.writes hwrites (fun _ => ⟨truthy_text hvalue.1, hvalue.2⟩)
      fun hsource => absurd hsource (notMem_sources hkey),
      .of_writes hwrites hkey (truthy_text hvalue.1)⟩
  have hidentity (found : ExtractedIdentity)
      (hfound : found.value ≠ "" ∧ Vouched (.str found.value)) {slots : JsonObject}
      (hslots : UpdatesFit rt Vouched memory slots) : UpdatesFit rt Vouched memory
        (((slots.set "account_or_phone" (.str found.value)).set "identity_kind"
          (.str found.kind)).set "identity_source" (.str "user_text")) := by
    obtain ⟨haccount, hfills⟩ := hslot hslots "account_or_phone" found.value hfound (by decide)
    exact hsource haccount hfills _
  have hphone (phone : String) (hvalue : phone ≠ "" ∧ Vouched (.str phone)) {slots : JsonObject}
      (hslots : UpdatesFit rt Vouched memory slots) : UpdatesFit rt Vouched memory
        ((((slots.set "phone" (.str phone)).set "account_or_phone" (.str phone)).set
          "identity_kind" (.str "phone")).set "identity_source" (.str "user_text")) := by
    have hnumber := (hslot hslots "phone" phone hvalue (by decide)).1
    obtain ⟨haccount, hfills⟩ := hslot hnumber "account_or_phone" phone hvalue (by decide)
    exact hsource haccount hfills _
  have hread {found : ExtractedIdentity} (hfound : (if amountLabelPresent tables text = true then
      none else extractIdentityFromText rt tables text) = some found) :
      found.value ≠ "" ∧ Vouched (.str found.value) := by
    split at hfound
    · cases hfound
    · exact h.identity found hfound
  have hother {slots : JsonObject} (hslots : UpdatesFit rt Vouched memory slots)
      (amount channel : Json) :
      UpdatesFit rt Vouched memory ((slots.set "amount" amount).set "payment_channel" channel) :=
    (hslots.writes_other (writes_set _ _ _) (by decide)).writes_other (writes_set _ _ _) (by decide)
  have hnone : UpdatesFit rt Vouched memory (extractedSlots rt tables intent text []) := by
    unfold extractedSlots
    simp only
    refine hother ?_ _ _
    split
    · rename_i phone hstandalone
      refine hphone phone (h.standalone phone hstandalone) ?_
      split
      · rename_i found hfound
        have hslots := hidentity found (hread hfound) hempty
        split
        · exact (hslot hslots "phone" found.value (hread hfound) (by decide)).1
        · exact hslots
      · exact hempty
    · split
      · rename_i found hfound
        have hslots := hidentity found (hread hfound) hempty
        split
        · exact (hslot hslots "phone" found.value (hread hfound) (by decide)).1
        · exact hslots
      · exact hempty
  cases urls with
  | nil => exact hnone
  | cons url rest =>
      exact hnone.writes_other (writes_set _ (screenshotKey intent) (.str url)) fun hkey =>
        screenshotKey_notMem intent (untouched_of_identity hkey)

theorem Sound.extractSopSlots (h : Sound rt Vouched start memory)
    (hreads : ReadsVouched rt tables Vouched text) (attachments : List JsonObject) :
    Sound rt Vouched start (extractSopSlots rt tables intent memory text attachments).2 := by
  have hset : ∀ (d : JsonObject) (key : String) (value : Json), ∀ other ∈ identityMemoryKeys,
      slotAt other (setExtracted d (key, value)) =
        if other = key ∧ value.truthy = true then value else slotAt other d := by
    intro d key value other hother
    have hfree : (identityMemoryKeys.all fun slot => !protectedSlotKeys.contains slot) = true := by
      decide
    refine slotAt_setIf fun hsame => ?_
    rw [← hsame, List.all_eq_true.mp hfree other hother, Bool.and_true]
  have herased : Sound rt Vouched start (memory.eraseAll orderSlotKeys) := h.eraseAll (by decide)
  have hfit : UpdatesFit rt Vouched
      (AiCustomerService.completeIdentity (memory.eraseAll orderSlotKeys))
      (extractedSlots rt tables intent text (extractedReceiptUrls rt intent attachments)) :=
    updatesFit_extractedSlots hreads _
  have hextracted := herased.completeIdentity.overlay hfit (overlays_foldl hset _ _)
  unfold AiCustomerService.extractSopSlots
  simp only
  split
  · exact hextracted
  · exact hextracted.set_other _ (by decide)

/-- The plan without a language model. -/
theorem Sound.fallbackPlan (h : Sound rt Vouched start s.slotMemory)
    (hreads : ReadsVouched rt tables Vouched (s.inputText rt)) (reason : Json) :
    Sound rt Vouched start (fallbackPlan rt tables s intent reason).slotMemory := by
  have hmerged : Sound rt Vouched start (mergeAttachmentSlots rt intent
      (AiCustomerService.extractSopSlots rt tables intent s.slotMemory (s.inputText rt)
        s.attachments).2 s.attachments) :=
    (h.extractSopSlots hreads s.attachments).congr fun key hkey =>
      slotAt_mergeAttachmentSlots (untouched_of_identity hkey) rt intent _ _
  exact (hmerged.syncIdentityAliases ∅).congr fun key hkey =>
    slotAt_fallbackPlan (untouched_of_identity hkey) rt tables s intent reason

/-! ## The plan of a language model -/

/-- An entry of a plan: an identity that is accepted is vouched for, and a source with which the
identity of the slot memory counts as present is named only where that identity is. -/
structure EntryFits (rt : Runtime) (tables : SlotTables) (Vouched : Json → Prop) (s : NodeState)
    (entry : String × Json) : Prop where
  slot : entry.1 ∈ identitySlotKeys → hasUserTextEvidence rt tables s entry.1 entry.2 = true →
    entry.2.truthy = true ∧ Vouched entry.2
  source : entry.1 ∈ identitySourceKeys → entry.2.truthy = true →
    isPresentSource rt entry.2 = true → IdentityVouched Vouched s.slotMemory

/-- The entries of a plan fit. -/
def PlanFits (rt : Runtime) (tables : SlotTables) (Vouched : Json → Prop) (s : NodeState)
    (plan : JsonObject) : Prop :=
  ∀ updates, plannedUpdates plan = .ok updates →
    ∀ entry ∈ updates.entries, EntryFits rt tables Vouched s entry

/-- The dictionary leaves no slot of the identity empty. -/
def FillsOnly (updates : JsonObject) : Prop :=
  ∀ key ∈ identityMemoryKeys, ∀ value, (key, value) ∈ updates.entries → value.truthy = true

theorem FillsOnly.writes {result : JsonObject} {key : String} {value : Json}
    (hupdates : FillsOnly updates) (h : Writes updates key value result)
    (hvalue : key ∈ identityMemoryKeys → value.truthy = true) : FillsOnly result := by
  intro other hother found hmem
  by_cases hsame : other = key
  · subst hsame
    rw [h.only found hmem]
    exact hvalue hother
  · exact hupdates other hother found ((h.kept other hsame found).mp hmem)

/-- What the loop of `apply_llm_sop_plan` collects. -/
structure LoopFits (rt : Runtime) (Vouched : Json → Prop) (memory : JsonObject)
    (slots : PlannedSlots) : Prop where
  same : ∀ key ∈ identityMemoryKeys, slotAt key slots.slotMemory = slotAt key memory
  updates : UpdatesFit rt Vouched memory slots.updates
  fills : FillsOnly slots.updates

theorem LoopFits.planSlot {definition : SopDefinition} {urls : List String} {slots : PlannedSlots}
    (h : LoopFits rt Vouched memory slots) {entry : String × Json}
    (hentry : EntryFits rt tables Vouched s entry)
    (hmemory : IdentityVouched Vouched s.slotMemory → IdentityVouched Vouched memory) :
    LoopFits rt Vouched memory (planSlot rt tables s intent definition urls slots entry) := by
  obtain ⟨key, value⟩ := entry
  unfold AiCustomerService.planSlot
  simp only
  split
  · rename_i hsource
    have hkey : key ∈ identitySourceKeys := List.contains_iff_mem.mp hsource
    split
    · rename_i htruthy
      have hwrites := writes_setInOrder slots.updates key value
      refine ⟨h.same, h.updates.writes hwrites (fun hslot => ?_) (fun _ hpresent => ?_),
        h.fills.writes hwrites fun _ => htruthy⟩
      · exact absurd hkey (notMem_sources hslot)
      · exact .inl (hmemory (hentry.source hkey htruthy hpresent))
    · exact h
  · rename_i hsource
    split
    · exact ⟨h.same, h.updates, h.fills⟩
    · split
      · exact h
      · split
        · refine ⟨fun other hother => ?_, h.updates, h.fills⟩
          unfold recordIdentityHint
          simp only
          split
          · exact h.same other hother
          · rw [slotAt_set hother _ _ (by decide), slotAt_set hother _ _ (by decide),
              slotAt_set hother _ _ (by decide), h.same other hother]
        · rename_i hevidence
          split
          · exact ⟨h.same, h.updates, h.fills⟩
          · have hwrites := writes_setInOrder slots.updates key value
            by_cases hslot : key ∈ identitySlotKeys
            · have hcontains : identitySlotKeys.contains key = true :=
                List.contains_iff_mem.mpr hslot
              rw [hcontains, Bool.true_and, Bool.not_eq_true', Bool.not_eq_false] at hevidence
              obtain ⟨htruthy, hvouched⟩ := hentry.slot hslot hevidence
              have hupdates := h.updates.writes hwrites (fun _ => ⟨htruthy, hvouched⟩)
                fun hkey => absurd hkey (notMem_sources hslot)
              have hfills := h.fills.writes hwrites fun _ => htruthy
              rw [if_pos hcontains]
              have htagged := writes_setInOrder (setInOrder slots.updates key value)
                "identity_source" (.str "user_text")
              refine ⟨h.same, hupdates.writes htagged (fun hkey => absurd hkey (by decide))
                fun _ _ => .inr (.of_writes hwrites hslot htruthy),
                hfills.writes htagged fun _ => by decide⟩
            · have hother : key ∉ identityMemoryKeys := by
                intro hkey
                rcases mem_identityMemoryKeys hkey with hkey | hkey
                · exact hslot hkey
                · exact hsource (List.contains_iff_mem.mpr hkey)
              rw [if_neg fun hcontains => hslot (List.contains_iff_mem.mp hcontains)]
              exact ⟨h.same, h.updates.writes_other hwrites hother,
                h.fills.writes hwrites fun hkey => absurd hkey hother⟩

theorem LoopFits.foldl {definition : SopDefinition} {urls : List String}
    (entries : List (String × Json)) {slots : PlannedSlots} (h : LoopFits rt Vouched memory slots)
    (hentries : ∀ entry ∈ entries, EntryFits rt tables Vouched s entry)
    (hmemory : IdentityVouched Vouched s.slotMemory → IdentityVouched Vouched memory) :
    LoopFits rt Vouched memory
      (entries.foldl (AiCustomerService.planSlot rt tables s intent definition urls) slots) := by
  induction entries generalizing slots with
  | nil => exact h
  | cons entry rest ih =>
      exact ih (h.planSlot (hentries entry List.mem_cons_self) hmemory)
        fun other hother => hentries other (List.mem_cons_of_mem _ hother)

/-- What is read and planned for a message is vouched for. -/
structure SourcesFit (rt : Runtime) (tables : SlotTables) (Vouched : Json → Prop) (s : NodeState) :
    Prop where
  reads : ReadsVouched rt tables Vouched (s.inputText rt)
  stored : ∀ key ∈ ["llm_sop_dialogue_plan", "llm_sop_slot_result"], ∀ plan,
    normaliseLlmPlan (s.get key) = .ok (some plan) → PlanFits rt tables Vouched s plan

/-- A plan keeps the identity sound, and its updates fit. -/
structure PlanSound (rt : Runtime) (Vouched : Json → Prop) (start : JsonObject) (s : NodeState)
    (plan : SopDialoguePlan) : Prop where
  memory : Sound rt Vouched start plan.slotMemory
  updates : UpdatesFit rt Vouched s.slotMemory plan.slotUpdates

theorem planSound_fallback (h : Sound rt Vouched start s.slotMemory)
    (hreads : ReadsVouched rt tables Vouched (s.inputText rt)) (reason : Json) :
    PlanSound rt Vouched start s (fallbackPlan rt tables s intent reason) := by
  refine ⟨h.fallbackPlan hreads reason, ?_⟩
  have hupdates : (fallbackPlan rt tables s intent reason).slotUpdates = extractedSlots rt tables
      intent (s.inputText rt) (extractedReceiptUrls rt intent s.attachments) := by
    simp only [fallbackPlan, extractSopSlots]
  rw [hupdates]
  exact updatesFit_extractedSlots hreads _

theorem planSound_applied {definition : SopDefinition} {plan : JsonObject}
    {applied : SopDialoguePlan} (hdefinition : getSopDefinition intent = some definition)
    (h : Sound rt Vouched start s.slotMemory) (hfits : PlanFits rt tables Vouched s plan)
    (hplan : applyLlmSopPlan rt tables s intent plan = .ok applied) :
    PlanSound rt Vouched start s applied ∧ FillsOnly applied.slotUpdates := by
  unfold applyLlmSopPlan at hplan
  rw [hdefinition] at hplan
  obtain ⟨updates, hupdates, hplan⟩ := bind_eq_ok.mp hplan
  obtain ⟨confidence, -, hplan⟩ := bind_eq_ok.mp hplan
  have hloop (memory : JsonObject)
      (hmemory : ∀ key ∈ identityMemoryKeys, slotAt key memory = slotAt key s.slotMemory)
      (urls dropped : List String) : LoopFits rt Vouched s.slotMemory (updates.entries.foldl
        (planSlot rt tables s intent definition urls) ⟨memory, ∅, dropped⟩) :=
    LoopFits.foldl _ ⟨hmemory, .empty, fun _ _ _ hmem => absurd hmem List.not_mem_nil⟩
      (hfits updates hupdates) id
  have hplanned (slots : PlannedSlots) (hslots : LoopFits rt Vouched s.slotMemory slots) :
      Sound rt Vouched start (plannedMemory rt tables s intent slots) := by
    have hover : Overlays slots.updates s.slotMemory (slots.slotMemory.merge slots.updates) :=
      fun key hkey => (overlays_merge hslots.fills key hkey).imp_right fun hsame =>
        ⟨hsame.1, hsame.2.trans (hslots.same key hkey)⟩
    have hmerged : Sound rt Vouched start (mergeAttachmentSlots rt intent
        (slots.slotMemory.merge slots.updates) s.attachments) :=
      (h.overlay hslots.updates hover).congr fun key hkey =>
        slotAt_mergeAttachmentSlots (untouched_of_identity hkey) rt intent _ _
    exact (hmerged.syncIdentityAliases slots.slotMemory).congr fun key hkey =>
      slotAt_plannedMemory (untouched_of_identity hkey) rt tables s intent slots
  have herased : ∀ key ∈ identityMemoryKeys, slotAt key (if intent ∈ imageCollectionSops then
      s.slotMemory.eraseAll orderSlotKeys else s.slotMemory) = slotAt key s.slotMemory := by
    intro key hkey
    split
    · exact slotAt_eraseAll hkey _ (by decide)
    · rfl
  cases hplan
  have hslots := hloop _ herased
  exact ⟨⟨hplanned _ (hslots _ _), (hslots _ _).updates⟩, (hslots _ _).fills⟩

theorem planSound_fromState {plan : SopDialoguePlan} (h : Sound rt Vouched start s.slotMemory)
    (hsources : SourcesFit rt tables Vouched s)
    (hplan : planSopDialogueFromState rt tables s intent = .ok plan) :
    PlanSound rt Vouched start s plan := by
  unfold planSopDialogueFromState at hplan
  split at hplan
  · cases hplan
    exact planSound_fallback h hsources.reads _
  · rename_i hsome
    obtain ⟨definition, hdefinition⟩ := Option.ne_none_iff_exists'.mp fun hnone =>
      hsome (Option.isNone_iff_eq_none.mpr hnone)
    have husable {stored : Option JsonObject} {usable : Option JsonObject} {found : JsonObject}
        (husable : usablePlan rt stored = .ok usable) (hfound : usable = some found) :
        stored = some found := by
      subst hfound
      unfold usablePlan at husable
      split at husable
      · split at husable
        · obtain ⟨low, -, husable⟩ := bind_eq_ok.mp husable
          cases low with
          | true => cases husable
          | false =>
              cases husable
              rfl
        · cases husable
      · cases husable
    obtain ⟨dialogue, hdialogue, hplan⟩ := bind_eq_ok.mp hplan
    obtain ⟨usable, hfirst, hplan⟩ := bind_eq_ok.mp hplan
    cases usable with
    | some found =>
        rw [husable hfirst rfl] at hdialogue
        exact (planSound_applied hdefinition h
          (hsources.stored _ (by simp) found hdialogue) hplan).1
    | none =>
        obtain ⟨slotResult, hresult, hplan⟩ := bind_eq_ok.mp hplan
        obtain ⟨usable, hsecond, hplan⟩ := bind_eq_ok.mp hplan
        cases usable with
        | some found =>
            rw [husable hsecond rfl] at hresult
            have hfits := hsources.stored _ (by simp) found hresult
            refine (planSound_applied hdefinition h ?_ hplan).1
            split
            · intro updates hupdates
              refine hfits updates ?_
              unfold plannedUpdates at hupdates ⊢
              rw [getKey_set, getKey_set, if_neg (by decide), if_neg (by decide)] at hupdates
              exact hupdates
            · exact hfits
        | none =>
            cases hplan
            exact planSound_fallback h hsources.reads _

/-! ## The handlers -/

/-- The identity in the customer's own text. -/
theorem Sound.withUserIdentity {settings : SopSettings} {rawText : String}
    (h : Sound settings.rt Vouched start memory)
    (hraw : ∀ found, extractIdentityFromText settings.rt settings.tables rawText = some found →
      Vouched (.str found.value)) :
    Sound settings.rt Vouched start (settings.withUserIdentity memory rawText) := by
  unfold SopSettings.withUserIdentity
  split
  · rename_i found hfound
    have hphone : slotAt "phone" (((memory.set "account_or_phone" (.str found.value)).set
        "identity_kind" (.str found.kind)).set "identity_source" (.str "user_text")) =
          slotAt "phone" memory := by
      simp [slotAt, getKey_set]
    have haccount : slotAt "account_or_phone" (((memory.set "account_or_phone"
        (.str found.value)).set "identity_kind" (.str found.kind)).set "identity_source"
          (.str "user_text")) = .str found.value := by
      simp [slotAt, getKey_set]
    have hidentity : IdentityVouched Vouched (((memory.set "account_or_phone"
        (.str found.value)).set "identity_kind" (.str found.kind)).set "identity_source"
          (.str "user_text")) := by
      refine identityVouched_of (by rw [hphone]; exact h.phone) fun _ _ => ?_
      rw [haccount]
      exact hraw found hfound
    refine ⟨by rw [hphone]; exact h.phone, .inr (by rw [haccount]; exact hraw found hfound),
      fun key hkey hstart => ?_, fun _ _ _ _ => .inr hidentity, fun _ => hidentity⟩
    by_cases hsame : key = "identity_source"
    · rw [hsame, slotAt, getKey_set, if_pos rfl]
      decide
    · have hslots : key ≠ "account_or_phone" ∧ key ≠ "identity_kind" := by
        constructor
        · rintro rfl
          exact absurd hkey (by decide)
        · rintro rfl
          exact absurd hkey (by decide)
      rw [slotAt, getKey_set, if_neg hsame, getKey_set, if_neg hslots.2, getKey_set,
        if_neg hslots.1]
      exact h.stays key hkey hstart
  · split
    · exact h.set_other _ (by decide)
    · exact h

/-- A handler keeps the identity sound. -/
theorem Sound.fillsFrom {settings : SopSettings}
    (h : Sound settings.rt Vouched start s.slotMemory)
    (hsources : SourcesFit settings.rt settings.tables Vouched s)
    (hraw : ∀ found, extractIdentityFromText settings.rt settings.tables
      (s.rawText settings.rt) = some found → Vouched (.str found.value))
    (hlabelled : ∀ phone, settings.labelledPhone (s.inputText settings.rt) = some phone →
      phone ≠ "" ∧ Vouched (.str phone))
    (hfills : SopSettings.FillsFrom settings s memory) :
    Sound settings.rt Vouched start memory := by
  cases hfills with
  | kept => exact h
  | planned intent plan hplan => exact (planSound_fromState h hsources hplan).memory
  | supplemented intent plan hplan =>
      have hmemory := (planSound_fromState h hsources hplan).memory
      unfold SopSettings.mergeWaitingSupplement
      split
      · rename_i phone hphone
        obtain ⟨hvalue, hvouched⟩ := hlabelled phone hphone
        exact (hmemory.setSlot (by decide) (truthy_text hvalue) hvouched).setSlot (by decide)
          (truthy_text hvalue) hvouched
      · exact hmemory
  | identified => exact h.withUserIdentity hraw

end

end AiCustomerService
