import AiCustomerService.Graph.InitialState
import AiCustomerService.Workflows.IdentityPlans
import AiCustomerService.Workflows.SopCommands

/-!
# Identities without evidence

The node of a workflow checks that an identity of the planner occurs in the text of the customer,
but in a text that was rewritten; the extractors read that text too, a plan may name the source of
the identity itself, and a phone that nobody confirmed is copied to the account.  Where none of
this brings an identity that the customer did not write, the node leaves none.
-/

namespace AiCustomerService

open Support

/-! ## Evidence -/

/-- The value occurs in the text, in the form that `_normalize_identity_value` gives both, without
regard to case, or without regard to blanks. -/
def occursIn (rt : Runtime) (tables : SlotTables) (value raw : String) : Bool :=
  let normalized := tables.normalizeIdentityValue value
  textContains (tables.normalizeIdentityValue raw) normalized ||
    textContains (rt.lower raw) (rt.lower normalized) ||
    textContains (withoutSpaces raw.toList) (withoutSpaces value.toList)

theorem infix_strip (text : String) : (strip text).toList <:+: text.toList := by
  rw [strip, String.toList_ofList]
  have hright := List.dropWhile_suffix (l := (text.toList.dropWhile isPySpace).reverse) isPySpace
  have hprefix : ((text.toList.dropWhile isPySpace).reverse.dropWhile isPySpace).reverse <+:
      text.toList.dropWhile isPySpace := by
    rw [← List.reverse_suffix, List.reverse_reverse]
    exact hright
  exact hprefix.isInfix.trans (List.dropWhile_suffix isPySpace).isInfix

/-- What a group takes of a stripped text occurs in the text, with its blanks or without. -/
theorem occursIn_of_infix {rt : Runtime} {tables : SlotTables} {raw : String} {taken : List Char}
    (h : taken <:+: (strip raw).toList) {value : String}
    (hvalue : value = String.ofList taken ∨ value = withoutSpaces taken) :
    occursIn rt tables value raw = true := by
  have hsame : (withoutSpaces value.toList).toList = taken.filter fun c => !isPySpace c := by
    rcases hvalue with rfl | rfl
    · rw [withoutSpaces, String.toList_ofList, String.toList_ofList]
    · rw [withoutSpaces, withoutSpaces, String.toList_ofList, String.toList_ofList,
        List.filter_filter]
      simp
  have hblanks : textContains (withoutSpaces raw.toList) (withoutSpaces value.toList) = true := by
    rw [textContains, decide_eq_true_eq, hsame, withoutSpaces, String.toList_ofList]
    exact (h.trans (infix_strip raw)).filter _
  rw [occursIn, hblanks, Bool.or_true]

theorem occursIn_of_identity {rt : Runtime} {tables : SlotTables} {raw : String}
    {found : ExtractedIdentity} (h : extractIdentityFromText rt tables raw = some found) :
    occursIn rt tables found.value raw = true := by
  have hextracted (text : String) (hwithin : (strip text).toList <:+: (strip raw).toList)
      (h : extractIdentity rt tables text = some found) :
      occursIn rt tables found.value raw = true := by
    unfold extractIdentity at h
    simp only at h
    split at h
    · cases h
    · split at h
      · rename_i email hemail
        cases h
        exact occursIn_of_infix ((Regex.infix_of_groupOf hemail).trans hwithin) (.inl rfl)
      · split at h
        · rename_i phone hphone
          cases h
          exact occursIn_of_infix ((Regex.infix_of_groupOf hphone).trans hwithin) (.inr rfl)
        · split at h
          · rename_i name hname
            split at h
            · cases h
            · cases h
              exact occursIn_of_infix ((Regex.infix_of_groupOf hname).trans hwithin) (.inl rfl)
          · cases h
  have hraw : (strip (strip raw)).toList <:+: (strip raw).toList := infix_strip (strip raw)
  unfold extractIdentityFromText at h
  simp only at h
  split at h
  · cases h
  · split at h
    · rename_i phone hphone
      split at h
      · cases h
        exact occursIn_of_infix (Regex.infix_of_groupOf hphone) (.inr rfl)
      · exact hextracted _ hraw h
    · exact hextracted _ hraw h

namespace SopSettings

variable {settings : SopSettings} {service : SlotService} {s t r : NodeState}

/-- The customer wrote the identity in the message, or had confirmed it before. -/
def Evidenced (settings : SopSettings) (s : NodeState) (value : Json) : Prop :=
  occursIn settings.rt settings.tables (value.textOrEmpty settings.rt) (s.rawText settings.rt) =
      true ∨
    isConfirmed settings.rt s.slotMemory = true ∧
      (value = slotAt "phone" s.slotMemory ∨ value = slotAt "account_or_phone" s.slotMemory)

theorem evidenced_of_identity {found : ExtractedIdentity}
    (h : extractIdentityFromText settings.rt settings.tables (s.rawText settings.rt) =
      some found) : settings.Evidenced s (.str found.value) := by
  refine .inl ?_
  rw [Json.textOrEmpty_str]
  exact occursIn_of_identity h

/-- What the node can take an identity from brings none that the customer did not write. -/
structure IdentityGrounded (settings : SopSettings) (service : SlotService) (s : NodeState) :
    Prop where
  reads : ReadsVouched settings.rt settings.tables (settings.Evidenced s)
    (s.inputText settings.rt)
  labelled : ∀ phone, settings.labelledPhone (s.inputText settings.rt) = some phone →
    phone ≠ "" ∧ settings.Evidenced s (.str phone)
  planner : shouldRunSlotExtraction service s = true →
    ∀ output, service.planSopDialogue s = .answered output →
      PlanFits settings.rt settings.tables (settings.Evidenced s) (settings.validatorState s) output
  extractor : shouldRunSlotExtraction service s = true →
    ∀ t output, PlansSlots s t → service.extractSopSlots t = .answered output →
      ∀ extracted, (getKey output "extracted_slots").mappingOrEmpty = .ok extracted →
        ∀ entry ∈ extracted.entries, ∀ value, optionalStr settings.rt entry.2 = some value →
          entry.1 = "account_or_phone" → settings.isExtractable t entry.1 value = true →
            settings.Evidenced s (.str value)
  stored : ∀ key ∈ ["llm_sop_dialogue_plan", "llm_sop_slot_result"], ∀ plan,
    normaliseLlmPlan (s.get key) = .ok (some plan) →
      PlanFits settings.rt settings.tables (settings.Evidenced s) s plan
  phone : (slotAt "phone" s.slotMemory).truthy = true →
    settings.Evidenced s (slotAt "phone" s.slotMemory)

/-! ## Stored plans -/

theorem planFits_congr {rt : Runtime} {tables : SlotTables} {Vouched : Json → Prop}
    {plan : JsonObject} (h : PlanFits rt tables Vouched s plan)
    (hsource : t.get "identity_source" = s.get "identity_source")
    (hraw : t.get "raw_user_input" = s.get "raw_user_input")
    (hmemory : IdentityVouched Vouched s.slotMemory → IdentityVouched Vouched t.slotMemory) :
    PlanFits rt tables Vouched t plan := by
  intro updates hupdates entry hentry
  have hfits := h updates hupdates entry hentry
  constructor
  · intro hslot hevidence
    refine hfits.slot hslot ?_
    unfold hasUserTextEvidence NodeState.rawText at hevidence ⊢
    rw [hsource, hraw] at hevidence
    exact hevidence
  · exact fun hkey htruthy hpresent => hmemory (hfits.source hkey htruthy hpresent)

/-- The updates of a stored summary are read as they were stored. -/
theorem plannedUpdates_of_normalised {fields plan : JsonObject}
    (hresult : getKey fields "result" = .null)
    (hextracted : fields.get? "extracted_slots" = none)
    (h : normaliseLlmPlan (.obj fields) = .ok (some plan)) :
    plannedUpdates plan = plannedUpdates fields := by
  have hkeys (key : String) (hkey : key ∈ ["slot_updates", "extracted_slots"]) :
      getKey plan key = getKey fields key := by
    unfold normaliseLlmPlan at h
    simp only [Json.dict?] at h
    split at h
    · cases h
      rfl
    · rw [hresult] at h
      obtain ⟨result, hmapping, h⟩ := bind_eq_ok.mp h
      cases hmapping
      have hmerged (other : String) : getKey ((∅ : JsonObject).merge fields) other =
          getKey fields other := by
        unfold getKey
        rw [Dict.get?_merge, Dict.get?_empty, Option.or_none]
      have hdefault (d : JsonObject) (other : String) (value : Json)
          (hother : other ∉ ["slot_updates", "extracted_slots"]) :
          getKey (setDefault d other value) key = getKey d key :=
        slotAt_setDefault hkey d value hother
      have hnone : (setDefault ((∅ : JsonObject).merge fields) "status"
          ((getKey fields "status").orElse (.str "accepted"))).contains "extracted_slots" =
            false := by
        unfold setDefault
        split
        · simp [Dict.contains, Dict.get?_merge, hextracted]
        · simp [Dict.contains, Dict.get?_set, Dict.get?_merge, hextracted]
      cases h
      rw [if_neg (fun hcontains => Bool.false_ne_true (hnone.symm.trans hcontains))]
      split
      · rw [hdefault _ _ _ (by decide), hdefault _ _ _ (by decide), hmerged]
      · rw [hdefault _ _ _ (by decide), hmerged]
  unfold plannedUpdates
  rw [hkeys _ (by decide), hkeys _ (by decide)]

/-- A summary without updates fits. -/
theorem planFits_of_none {rt : Runtime} {tables : SlotTables} {Vouched : Json → Prop}
    {fields plan : JsonObject} (hresult : getKey fields "result" = .null)
    (hextracted : fields.get? "extracted_slots" = none)
    (hupdates : getKey fields "slot_updates" = .null)
    (h : normaliseLlmPlan (.obj fields) = .ok (some plan)) :
    PlanFits rt tables Vouched s plan := by
  intro updates hplanned entry hentry
  have hnone : getKey fields "extracted_slots" = .null := by
    rw [getKey, hextracted]
    rfl
  rw [plannedUpdates_of_normalised hresult hextracted h, plannedUpdates, hupdates, hnone]
    at hplanned
  cases hplanned
  cases hentry

/-- The summary of an accepted plan fits where its updates were laid over the slot memory. -/
theorem planFits_summary {rt : Runtime} {tables : SlotTables} {Vouched : Json → Prop}
    {plan : SopDialoguePlan} {stored : JsonObject} (hfills : FillsOnly plan.slotUpdates)
    (hslots : ∀ key ∈ identitySlotKeys, ∀ value, (key, value) ∈ plan.slotUpdates.entries →
      value.truthy = true → Vouched value)
    (hsources : ∀ key ∈ identitySourceKeys, ∀ value, (key, value) ∈ plan.slotUpdates.entries →
      value.truthy = true → isPresentSource rt value = true → IdentityVouched Vouched t.slotMemory)
    (h : normaliseLlmPlan (acceptedPlanSummary plan) = .ok (some stored)) :
    PlanFits rt tables Vouched t stored := by
  intro updates hplanned entry hentry
  unfold acceptedPlanSummary at h
  rw [plannedUpdates_of_normalised (by simp [Dict.ofList, getKey_set])
    (by simp [Dict.ofList, Dict.get?_set]) h] at hplanned
  have hfound : getKey (Dict.ofList [("status", .str "accepted"),
      ("intent_relation", .str plan.intentRelation), ("slot_updates", .obj plan.slotUpdates),
      ("slot_confidence", .obj plan.slotConfidence),
      ("missing_slots", .arr (plan.missingSlots.map .str)),
      ("should_ask_confirmation", .bool plan.shouldAskConfirmation),
      ("reply_draft", .str plan.replyDraft), ("reason", .str plan.reason),
      ("dropped_slots", .arr (plan.droppedSlots.map .str))]) "slot_updates" =
        .obj plan.slotUpdates := by
    simp [Dict.ofList, getKey_set]
  have hnone : getKey (Dict.ofList [("status", .str "accepted"),
      ("intent_relation", .str plan.intentRelation), ("slot_updates", .obj plan.slotUpdates),
      ("slot_confidence", .obj plan.slotConfidence),
      ("missing_slots", .arr (plan.missingSlots.map .str)),
      ("should_ask_confirmation", .bool plan.shouldAskConfirmation),
      ("reply_draft", .str plan.replyDraft), ("reason", .str plan.reason),
      ("dropped_slots", .arr (plan.droppedSlots.map .str))]) "extracted_slots" = .null := by
    simp [Dict.ofList, getKey_set]
  unfold plannedUpdates Json.orElse at hplanned
  rw [hfound, hnone] at hplanned
  have hmem : entry ∈ plan.slotUpdates.entries := by
    split at hplanned
    · rename_i htruthy
      unfold Json.mappingOrEmpty Json.orElse at hplanned
      rw [if_pos htruthy] at hplanned
      cases hplanned
      exact hentry
    · cases hplanned
      cases hentry
  obtain ⟨key, value⟩ := entry
  refine ⟨fun hslot _ => ?_, fun hsource htruthy hpresent => ?_⟩
  · have htruthy := hfills key (mem_of_slot hslot) value hmem
    exact ⟨htruthy, hslots key hslot value hmem htruthy⟩
  · exact hsources key hsource value hmem htruthy hpresent

theorem mappingOrEmpty_obj (fields : JsonObject) :
    (Json.obj fields).mappingOrEmpty = .ok (if fields.isEmpty then ∅ else fields) := by
  cases hempty : fields.isEmpty with
  | true => simp [Json.mappingOrEmpty, Json.orElse, Json.truthy, hempty]
  | false => simp [Json.mappingOrEmpty, Json.orElse, Json.truthy, hempty]

theorem isEmpty_of_truthy {value : Json} {fields : JsonObject} (hvalue : value.truthy = true)
    (h : value.mappingOrEmpty = .ok fields) : fields.isEmpty = false := by
  unfold Json.mappingOrEmpty Json.orElse at h
  rw [if_pos hvalue] at h
  split at h
  · cases h
    simpa [Json.truthy] using hvalue
  · cases h

/-- The validator reads the updates of the planner as they are. -/
theorem planFits_normalized {Vouched : Json → Prop} {output plan : JsonObject}
    (h : PlanFits settings.rt settings.tables Vouched t output)
    (hplan : settings.normalizedPlan output = .ok plan) :
    PlanFits settings.rt settings.tables Vouched t plan := by
  obtain ⟨extracted, hextracted, hplan⟩ := bind_eq_ok.mp hplan
  obtain ⟨updates, hupdates, hplan⟩ := bind_eq_ok.mp hplan
  obtain ⟨confidence, -, hplan⟩ := bind_eq_ok.mp hplan
  obtain ⟨reason, -, hplan⟩ := bind_eq_ok.mp hplan
  have hstored : getKey plan "slot_updates" = .obj updates := by
    cases hplan
    simp [Dict.ofList, getKey_set]
  have hlisted : getKey plan "extracted_slots" = .obj extracted := by
    cases hplan
    simp [Dict.ofList, getKey_set]
  intro planned hplanned entry hentry
  refine h updates hupdates entry ?_
  unfold plannedUpdates Json.orElse at hplanned
  rw [hstored, hlisted] at hplanned
  cases hempty : updates.isEmpty with
  | false =>
      rw [if_pos (by simp [Json.truthy, hempty]), mappingOrEmpty_obj, hempty] at hplanned
      cases hplanned
      exact hentry
  | true =>
      -- the updates are empty only where the slots that were extracted are
      have hsame : extracted.isEmpty = true := by
        unfold plannedUpdates Json.orElse at hupdates
        split at hupdates
        · rename_i htruthy
          rw [isEmpty_of_truthy htruthy hupdates] at hempty
          cases hempty
        · rw [hextracted] at hupdates
          cases hupdates
          exact hempty
      rw [if_neg (by simp [Json.truthy, hempty]), mappingOrEmpty_obj, hsame] at hplanned
      cases hplanned
      cases hentry

/-! ## The planning of slots -/

/-- What the planning of slots leaves. -/
structure PlanningSound (settings : SopSettings) (s t : NodeState) : Prop where
  plans : PlansSlots s t
  memory : Sound settings.rt (settings.Evidenced s) s.slotMemory t.slotMemory
  stored : ∀ key ∈ ["llm_sop_dialogue_plan", "llm_sop_slot_result"], ∀ plan,
    normaliseLlmPlan (t.get key) = .ok (some plan) →
      PlanFits settings.rt settings.tables (settings.Evidenced s) t plan

theorem PlanningSound.refl (h : settings.IdentityGrounded service s) :
    PlanningSound settings s s :=
  ⟨.refl s, .refl h.phone, h.stored⟩

/-- A step that stores summaries and lays fitting updates over the slot memory. -/
theorem PlanningSound.step {next : NodeState} {updates : JsonObject}
    (h : PlanningSound settings s t) (hplans : PlansSlots t next)
    (hfit : UpdatesFit settings.rt (settings.Evidenced s) t.slotMemory updates)
    (hover : Overlays updates t.slotMemory next.slotMemory)
    (hstored : ∀ key ∈ ["llm_sop_dialogue_plan", "llm_sop_slot_result"],
      next.get key = t.get key ∨ ∀ plan, normaliseLlmPlan (next.get key) = .ok (some plan) →
        PlanFits settings.rt settings.tables (settings.Evidenced s) next plan) :
    PlanningSound settings s next where
  plans := h.plans.trans hplans
  memory := h.memory.overlay hfit hover
  stored := by
    intro key hkey plan hplan
    rcases hstored key hkey with hsame | hfits
    · rw [hsame] at hplan
      refine planFits_congr (h.stored key hkey plan hplan) ?_ ?_ ?_
      · exact hplans.get _ (by decide)
      · exact hplans.get _ (by decide)
      · exact fun hidentity => overlay_identity h.memory hfit hover (.inl hidentity)
    · exact hfits plan hplan

theorem overlays_empty {memory result : JsonObject} (h : result = memory) :
    Overlays ∅ memory result :=
  fun _ _ => .inr ⟨fun _ hmem => absurd hmem List.not_mem_nil, by rw [h]⟩

theorem PlanningSound.slotFallbackState (h : PlanningSound settings s t) (reason : String)
    (plan : Bool) : PlanningSound settings s (slotFallbackState t reason plan) := by
  have hmemory : (SopSettings.slotFallbackState t reason plan).slotMemory = t.slotMemory := by
    unfold SopSettings.slotFallbackState
    simp only
    split
    · rw [NodeState.slotMemory_set _ _ (by decide), NodeState.slotMemory_set _ _ (by decide),
        NodeState.slotMemory_set _ _ (by decide)]
    · rw [NodeState.slotMemory_set _ _ (by decide), NodeState.slotMemory_set _ _ (by decide)]
  have hsummary (stored : JsonObject) (hstored : normaliseLlmPlan (.obj (.ofList
      [("status", .str "fallback"), ("fallback_reason", .str reason)])) = .ok (some stored)) :
      PlanFits settings.rt settings.tables (settings.Evidenced s)
        (SopSettings.slotFallbackState t reason plan) stored :=
    planFits_of_none (by simp [Dict.ofList, getKey_set]) (by simp [Dict.ofList, Dict.get?_set])
      (by simp [Dict.ofList, getKey_set]) hstored
  refine h.step (PlansSlots.refl t |>.slotFallbackState reason plan) .empty
    (overlays_empty hmemory) fun key hkey => ?_
  have hget : (SopSettings.slotFallbackState t reason plan).get key = t.get key ∨
      (SopSettings.slotFallbackState t reason plan).get key = .obj (.ofList
        [("status", .str "fallback"), ("fallback_reason", .str reason)]) := by
    unfold SopSettings.slotFallbackState
    simp only
    rcases List.mem_cons.mp hkey with rfl | hresult
    · split
      · exact .inr (by simp)
      · exact .inl (by simp)
    · obtain rfl := List.mem_singleton.mp hresult
      split
      · exact .inr (by simp)
      · exact .inr (by simp)
  refine hget.imp_right fun hstored stored hplan => ?_
  rw [hstored] at hplan
  exact hsummary stored hplan

theorem overlays_mergeUpdates (updates memory : JsonObject) :
    Overlays updates memory (mergeUpdates memory updates) :=
  overlays_foldl (fun _ _ _ _ _ => slotAt_setIf fun _ => rfl) updates memory

theorem slotMemory_validatorState (s : NodeState) :
    (settings.validatorState s).slotMemory = s.slotMemory := by
  simp [validatorState, NodeState.slotMemory, NodeState.get, Dict.ofList, getKey_set,
    Json.dictOrEmpty]

/-- The slots are planned for a workflow with a definition. -/
theorem definition_of_shouldRun (h : shouldRunSlotExtraction service s = true) :
    ∃ definition, getSopDefinition (settings.routedIntent s) = some definition := by
  have hintent : imageCollectionSops.any (getKey s.intentResult "intent").eqText = true := by
    unfold shouldRunSlotExtraction at h
    simp only [Bool.and_eq_true] at h
    exact h.1.2
  obtain ⟨intent, hmem, heq⟩ := List.any_eq_true.mp hintent
  have hrouted : settings.routedIntent s = intent := by
    have hsome : (getKey s.intentResult "intent").str? = some intent := of_decide_eq_true heq
    unfold routedIntent
    unfold Json.str? at hsome
    split at hsome
    · rename_i text hfound
      rw [hfound, Json.pyStr]
      exact Option.some.inj hsome
    · cases hsome
  rw [hrouted]
  rcases List.mem_cons.mp hmem with rfl | hwithdrawal
  · exact ⟨.depositMissing, rfl⟩
  · obtain rfl := List.mem_singleton.mp hwithdrawal
    exact ⟨.withdrawalMissing, rfl⟩

theorem planningSound_dialogue (h : settings.IdentityGrounded service s)
    (hrun : shouldRunSlotExtraction service s = true) :
    PlanningSound settings s (settings.runSopDialoguePlanning service s) := by
  have hs : PlanningSound settings s s := .refl h
  unfold runSopDialoguePlanning
  simp only
  split
  · exact hs
  · exact hs.slotFallbackState _ _
  · rename_i output hanswered
    split
    · rename_i next haccept
      obtain ⟨plan, hplan, haccept⟩ := bind_eq_ok.mp haccept
      obtain ⟨low, -, haccept⟩ := bind_eq_ok.mp haccept
      cases low with
      | true =>
          cases haccept
          exact hs.slotFallbackState _ _
      | false =>
          obtain ⟨normalized, hnormalized, hplan⟩ := bind_eq_ok.mp hplan
          obtain ⟨definition, hdefinition⟩ := @definition_of_shouldRun settings service s hrun
          have hmemory := @slotMemory_validatorState settings s
          have hstart : Sound settings.rt (settings.Evidenced s) s.slotMemory
              (settings.validatorState s).slotMemory := by
            rw [hmemory]
            exact hs.memory
          obtain ⟨hsound, hfills⟩ := planSound_applied hdefinition hstart
            (planFits_normalized (h.planner hrun output hanswered) hnormalized) hplan
          have hfit := hsound.updates
          rw [hmemory] at hfit
          have hover := overlays_mergeUpdates plan.slotUpdates s.slotMemory
          cases haccept
          have hnext : Overlays plan.slotUpdates s.slotMemory ((((s.withSlotMemory (mergeUpdates
              s.slotMemory plan.slotUpdates)).set "llm_sop_dialogue_plan"
              (acceptedPlanSummary plan)).set "llm_sop_slot_result" (.obj (.ofList
                [("status", .str "accepted"), ("intent", .str (settings.routedIntent s)),
                ("missing_slots", .arr (plan.missingSlots.map .str)),
                ("confidence", .obj plan.slotConfidence), ("reason", .str plan.reason),
                ("dropped_slots", .arr (plan.droppedSlots.map .str))]))).set "sop_slot_source"
                (.str "llm_dialogue_planner")).slotMemory := by
            rw [NodeState.slotMemory_set _ _ (by decide), NodeState.slotMemory_set _ _ (by decide),
              NodeState.slotMemory_set _ _ (by decide), NodeState.slotMemory_withSlotMemory]
            exact hover
          refine hs.step ?_ hfit hnext fun key hkey => .inr fun stored hstored => ?_
          · exact ((((PlansSlots.refl s).withSlotMemory _).set _ (by decide)).set _
              (by decide)).set _ (by decide)
          · rcases List.mem_cons.mp hkey with rfl | hresult
            · refine planFits_summary hfills hfit.slots (fun key hkey value hmem htruthy hpresent =>
                overlay_identity hs.memory hfit hnext
                  (hfit.sources key hkey value hmem htruthy hpresent)) ?_
              simpa using hstored
            · obtain rfl := List.mem_singleton.mp hresult
              rw [NodeState.get_set, if_neg (by decide), NodeState.get_set, if_pos rfl] at hstored
              exact planFits_of_none (by simp [Dict.ofList, getKey_set])
                (by simp [Dict.ofList, Dict.get?_set]) (by simp [Dict.ofList, getKey_set]) hstored
    · exact hs.slotFallbackState _ _
    · exact hs.slotFallbackState _ _

theorem planningSound_legacy (h : settings.IdentityGrounded service s)
    (hrun : shouldRunSlotExtraction service s = true) (ht : PlanningSound settings s t) :
    PlanningSound settings s (settings.runLegacySopSlotExtraction service t) := by
  unfold runLegacySopSlotExtraction
  simp only
  split
  · exact ht
  · exact ht.slotFallbackState _ _
  · rename_i output hanswered
    refine toOption_getD_of (fun next haccept => ?_) (ht.slotFallbackState _ _)
    obtain ⟨intent, -, haccept⟩ := bind_eq_ok.mp haccept
    obtain ⟨_, -, haccept⟩ := bind_eq_ok.mp haccept
    obtain ⟨reason, -, haccept⟩ := bind_eq_ok.mp haccept
    obtain ⟨extracted, hextracted, haccept⟩ := bind_eq_ok.mp haccept
    obtain ⟨confidence, -, haccept⟩ := bind_eq_ok.mp haccept
    split at haccept
    · cases haccept
      exact ht.slotFallbackState _ _
    · rename_i hkept
      simp only [Bool.or_eq_true, not_or, Bool.not_eq_true] at hkept
      -- every value that is kept is one of a field of the node, and was not refused
      have hvalues : ∀ entry ∈ (Dict.ofList ((extracted.entries.filterMap fun entry =>
          (optionalStr settings.rt entry.2).map fun value => (entry.1, value)).map
            fun entry => (entry.1, Json.str entry.2))).entries,
          sopSlotFields.contains entry.1 = true ∧ (entry.1 = "account_or_phone" →
            entry.2.truthy = true ∧ settings.Evidenced s entry.2) := by
        refine forall_mem_ofList fun entry hentry => ?_
        obtain ⟨value, hvalue, rfl⟩ := List.mem_map.mp hentry
        obtain ⟨slot, hslot, hsome⟩ := List.mem_filterMap.mp hvalue
        obtain ⟨text, htext, rfl⟩ := Option.map_eq_some_iff.mp hsome
        have hfield := List.any_eq_false.mp hkept.1 slot hslot
        have hextractable := List.any_eq_false.mp hkept.2 _ hvalue
        simp only [Bool.not_eq_true, Bool.not_eq_false', Bool.or_eq_false_iff]
          at hfield hextractable
        refine ⟨hfield, fun haccount => ⟨truthy_text fun hnone => ?_, ?_⟩⟩
        · unfold optionalStr at htext
          simp only at htext
          split at htext
          · cases htext
          · split at htext
            · cases htext
            · rename_i hne
              cases htext
              exact hne hnone
        · exact h.extractor hrun t output ht.plans hanswered extracted hextracted slot hslot text
            htext haccount hextractable.1
      have hfit : UpdatesFit settings.rt (settings.Evidenced s) t.slotMemory
          (.ofList ((extracted.entries.filterMap fun entry =>
            (optionalStr settings.rt entry.2).map fun value => (entry.1, value)).map
              fun entry => (entry.1, Json.str entry.2))) := by
        constructor
        · intro key hkey value hmem _
          rcases List.mem_cons.mp hkey with rfl | hphone
          · exact ((hvalues _ hmem).2 rfl).2
          · obtain rfl := List.mem_singleton.mp hphone
            have hfield : sopSlotFields.contains "phone" = true := (hvalues _ hmem).1
            exact absurd hfield (by decide)
        · intro key hkey value hmem
          have hfree : (identitySourceKeys.all fun source => !sopSlotFields.contains source) =
              true := by
            decide
          have hfield := List.all_eq_true.mp hfree key hkey
          rw [(hvalues _ hmem).1] at hfield
          cases hfield
      cases haccept
      refine ht.step ?_ hfit ?_ fun key hkey => ?_
      · exact (((PlansSlots.refl t).withSlotMemory _).set _ (by decide)).set _ (by decide)
      · rw [NodeState.slotMemory_set _ _ (by decide), NodeState.slotMemory_set _ _ (by decide),
          NodeState.slotMemory_withSlotMemory]
        exact overlays_mergeUpdates _ t.slotMemory
      · rcases List.mem_cons.mp hkey with rfl | hresult
        · exact .inl (by simp)
        · obtain rfl := List.mem_singleton.mp hresult
          refine .inr fun stored hstored => ?_
          rw [NodeState.get_set, if_neg (by decide), NodeState.get_set, if_pos rfl] at hstored
          exact planFits_of_none (by simp [Dict.ofList, getKey_set])
            (by simp [Dict.ofList, Dict.get?_set]) (by simp [Dict.ofList, getKey_set]) hstored

theorem planningSound_withPlannedSlots (h : settings.IdentityGrounded service s) :
    PlanningSound settings s (settings.withPlannedSlots service s) := by
  unfold withPlannedSlots
  split
  · rename_i hrun
    unfold runSopSlotExtraction
    split
    · simp only
      split
      · exact planningSound_dialogue h hrun
      · exact planningSound_legacy h hrun (planningSound_dialogue h hrun)
    · exact planningSound_legacy h hrun (.refl h)
  · exact .refl h

/-! ## Case cards -/

theorem identitySlotPresent_congr {rt : Runtime} {tables : SlotTables} {memory result : JsonObject}
    (hsame : ∀ key ∈ identityMemoryKeys, slotAt key result = slotAt key memory) :
    identitySlotPresent rt tables result = identitySlotPresent rt tables memory := by
  have hget (key : String) (hkey : key ∈ identityMemoryKeys) :
      getKey result key = getKey memory key := hsame key hkey
  unfold identitySlotPresent
  rw [hget _ (by decide), hget _ (by decide), hget _ (by decide), hget _ (by decide),
    hget _ (by decide)]

/-- A card is sent only when no slot is missing. -/
theorem missing_of_send {intent : String} {memory : JsonObject} {status workflow : Json}
    {text : String} {attachments : List JsonObject}
    (h : (settings.evaluateSopPolicy intent memory status workflow "collecting_slots" text
      attachments).action = "send_telegram_case") :
    computeMissingSlots settings.rt settings.tables intent memory = [] := by
  unfold evaluateSopPolicy at h
  split at h
  · exact absurd h (by decide)
  · split at h
    · exact absurd h (by decide)
    · rw [if_neg (by decide)] at h
      split at h
      · simp at h
      · rename_i hmissing
        exact hmissing

theorem present_of_missing {intent : String} {memory : JsonObject}
    (hintent : intent ∈ imageCollectionSops)
    (h : computeMissingSlots settings.rt settings.tables intent memory = []) :
    identitySlotPresent settings.rt settings.tables memory = true := by
  have hphone : slotPresent settings.rt settings.tables intent "phone" memory = true := by
    rcases List.mem_cons.mp hintent with rfl | hwithdrawal
    · simpa using List.filter_eq_nil_iff.mp h "phone" (by decide)
    · obtain rfl := List.mem_singleton.mp hwithdrawal
      simpa using List.filter_eq_nil_iff.mp h "phone" (by decide)
  exact hphone

theorem present_of_card_moneyMissingSop {intent : String} (hintent : intent ∈ imageCollectionSops)
    (h : settings.moneyMissingSop t intent = .ok r)
    (hcard : CommandType.telegramSendCaseCard ∈ r.types) :
    identitySlotPresent settings.rt settings.tables r.slotMemory = true := by
  obtain ⟨plan, hplan, hbody⟩ := bind_eq_ok.mp h
  rw [identitySlotPresent_congr fun key hkey =>
    kept_moneyMissingSop (untouched_of_identity hkey) hplan h]
  refine present_of_missing hintent (Decidable.byContradiction fun hmissing => ?_)
  have hpolicy : (settings.evaluateSopPolicy intent plan.slotMemory (t.get "status")
      ((t.get "active_workflow").orElse (.str intent)) "collecting_slots" (t.inputText settings.rt)
      t.attachments).action ≠ "send_telegram_case" :=
    fun hsend => hmissing (missing_of_send hsend)
  have hstates (c : Bool) {n n' : NodeState} (hn : CommandType.telegramSendCaseCard ∉ n.types)
      (hn' : CommandType.telegramSendCaseCard ∉ n'.types) :
      (if c = true then pure (atStage n intent "waiting_backend")
        else pure (atStage n' intent "collecting_slots") : Except PyError NodeState) = .ok r →
      CommandType.telegramSendCaseCard ∉ r.types := by
    intro h
    cases c with
    | true =>
        cases h
        exact hn
    | false =>
        cases h
        exact hn'
  have hcommands (intro : Prop) [Decidable intro] (reply : String) :
      CommandType.telegramSendCaseCard ∉ (if intro then settings.depositIntroCommands t reply
        else []).map WorkflowCommand.type := by
    split
    · simp [depositIntroCommands]
    · simp
  simp only [if_neg hpolicy] at hbody
  refine hstates _ ?_ ?_ hbody hcard
  · exact hcommands _ _
  · exact hcommands _ _

/-- A card that the node adds is sent for an identity that is present. -/
theorem present_of_card (h : settings.sopNode t = .ok r)
    (hcard : CommandType.telegramSendCaseCard ∈ r.types)
    (hbefore : CommandType.telegramSendCaseCard ∉ t.types) :
    identitySlotPresent settings.rt settings.tables r.slotMemory = true := by
  unfold sopNode at h
  split at h
  · obtain ⟨plan, -, htypes⟩ := types_handleWaitingBackend h
    rw [htypes] at hcard
    refine absurd hcard ?_
    split
    · unfold caseTypes
      simp only
      split
      · decide
      · split
        · unfold supplementTypes
          split
          · decide
          · split
            · decide
            · split
              · decide
              · decide
        · split
          · decide
          · decide
    · decide
  · unfold runSop at h
    split at h
    · exact present_of_card_moneyMissingSop (by decide) h hcard
    · exact present_of_card_moneyMissingSop (by decide) h hcard
    · obtain rfl := Except.ok.inj h
      rw [types_withdrawalBlockedSop] at hcard
      refine absurd hcard ?_
      split
      · decide
      · decide
    · obtain rfl := Except.ok.inj h
      have htype := types_pendingReplyLookupSop t _ hcard
      cases htype
    · obtain rfl := Except.ok.inj h
      exact absurd hcard hbefore

/-- The settings without language models. -/
def plain : SopSettings := GraphServices.plain.toSopSettings

/-- A message about a missing deposit. -/
def depositMessage (raw : String) (rewritten : Json) (slotMemory : JsonObject) : NodeState where
  values := .ofList [("raw_user_input", .str raw), ("rewritten_question", rewritten),
    ("route", .str "sop"), ("intent_result", .obj (.ofList [("intent", .str "deposit_missing")])),
    ("slot_memory", .obj slotMemory)]
  commands := []
  telegramMoneyCaseCandidates := []
  matchedTelegramMoneyCase := none

/-- A service whose planner answers with some updates. -/
def plannerOf (updates : List (String × Json)) : SlotService where
  enabled := true
  minConfidence := 0
  planSopDialogue := fun _ => .answered (.ofList [("slot_updates", .obj (.ofList updates)),
    ("reason", .str "the customer sent it")])
  extractSopSlots := fun _ => .missingMethod

theorem rawText_depositMessage (raw : String) (rewritten : Json) (slotMemory : JsonObject) :
    (depositMessage raw rewritten slotMemory).rawText plain.rt = raw := by
  simp [depositMessage, NodeState.rawText, NodeState.get, Dict.ofList, getKey_set,
    Json.textOrEmpty_str]

end SopSettings

end AiCustomerService
