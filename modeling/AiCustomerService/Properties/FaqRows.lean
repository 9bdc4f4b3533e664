import AiCustomerService.Services.FaqDelivery
import AiCustomerService.Support.Segments

/-!
# The rows of a FAQ answer

A block that is valid gives one row, but taking out the menu directives can leave a text without
content, and then the second validation gives up the whole answer.
-/

namespace AiCustomerService

open Support

variable {rt : FaqRuntime} {delivery : FaqDelivery} {address : FaqAddress}
variable {context : FaqContext} {state : FaqState} {block : JsonObject} {blocks : List JsonObject}

/-! ## Statement -/

/-- The text of a block as it is delivered. -/
def deliveredText (rt : FaqRuntime) (state : FaqState) (block : JsonObject) : String :=
  if isLivechatButtonFaq state then cleanOptionalText rt.toRuntime (getKey block "text")
  else stripMenuDirectives rt.toRuntime (getKey block "text")

/-- The row carries the block. -/
structure Renders (rt : FaqRuntime) (state : FaqState) (language : Json) (block : JsonObject)
    (row : FaqRow) : Prop where
  kind : getKey block "type" = .str row.messageKind
  text : row.messageKind = "text" → getKey row.payloadJson "text" =
    .str (adaptChineseScript rt.toRuntime (deliveredText rt state block) language)
  image : row.messageKind = "image" → getKey row.payloadJson "asset_key" =
    .str (cleanOptionalText rt.toRuntime (getKey block "asset_key"))
  buttons : row.messageKind = "buttons" → getKey row.payloadJson "menu_key" =
    .str (cleanOptionalText rt.toRuntime (getKey block "menu_key"))

/-- A text has content after the menu directives are stripped. -/
def keepsContent (rt : FaqRuntime) (block : JsonObject) : Bool :=
  !(getKey block "type").eqText "text" ||
    decide (stripMenuDirectives rt.toRuntime (getKey block "text") ≠ "")

/-- The delivery does not raise, and keeps the blocks with content in their order. -/
def DeliversFaq (rt : FaqRuntime) (delivery : FaqDelivery) (address : FaqAddress)
    (context : FaqContext) (state : FaqState) (blocks : List JsonObject) : Prop :=
  ∃ rows, deliverFaq rt delivery address context state = .ok rows ∧
    List.SublistForall₂ (Renders rt state delivery.language)
      (blocks.filter (keepsContent rt)) rows ∧
    rows.Pairwise (fun first second => first.blockIndex < second.blockIndex) ∧
    (rows.map FaqRow.dedupKey).Nodup

/-- The asset map of an image can be read. -/
def AssetMapReadable (block : JsonObject) : Prop :=
  getKey block "type" = .str "image" → (getKey block "platform_asset_map").truthy = true →
    ∃ assetMap, getKey block "platform_asset_map" = .obj assetMap

/-! ## Valid blocks -/

/-- What `validate_answer_blocks` accepts. -/
structure ValidBlock (rt : Runtime) (block : JsonObject) (kind key : String) : Prop where
  entry : (kind, key) ∈ [("text", "text"), ("image", "asset_key"), ("buttons", "menu_key")]
  type_eq : getKey block "type" = .str kind
  content : cleanOptionalText rt (getKey block key) ≠ ""

/-- What is found in a set of texts is one of them. -/
theorem exists_of_inTexts {value : Json} {texts : List String}
    (h : value.inTexts texts = .ok true) : ∃ text ∈ texts, value = .str text := by
  cases value with
  | str text => exact ⟨text, of_decide_eq_true (Except.ok.inj h), rfl⟩
  | arr items => cases h
  | obj fields => cases h
  | null => cases h
  | bool b => cases h
  | int n => cases h
  | float value repr => cases h

theorem validBlock_of_validate {rt : Runtime} {result : JsonObject}
    (h : validateAnswerBlock rt (.obj block) = .ok result) :
    result = block ∧ ∃ kind key, ValidBlock rt block kind key := by
  unfold validateAnswerBlock at h
  dsimp only at h
  split at h
  · cases h
  · obtain ⟨isKnown, hknown, h⟩ := bind_eq_ok.mp h
    split at h
    · cases h
    · rename_i hisKnown
      obtain rfl : isKnown = true := by simpa using hisKnown
      obtain ⟨kind, hkind, htype⟩ := exists_of_inTexts hknown
      simp only [htype, Json.eqText_str, decide_eq_true_eq] at h
      split at h
      · cases h
      · split at h
        · cases h
        · split at h
          · cases h
          · rename_i htext himage hbuttons
            refine ⟨(Except.ok.inj h).symm, ?_⟩
            simp only [List.mem_cons, List.not_mem_nil, or_false] at hkind
            rcases hkind with rfl | rfl | rfl
            · exact ⟨"text", "text", by simp, htype, fun hempty => htext ⟨rfl, hempty⟩⟩
            · exact ⟨"image", "asset_key", by simp, htype, fun hempty => himage ⟨rfl, hempty⟩⟩
            · exact ⟨"buttons", "menu_key", by simp, htype,
                fun hempty => hbuttons ⟨rfl, hempty⟩⟩

theorem validate_of_validBlock {rt : Runtime} {kind key : String}
    (h : ValidBlock rt block kind key) : validateAnswerBlock rt (.obj block) = .ok block := by
  have hcontent := h.content
  unfold cleanOptionalText at hcontent
  unfold validateAnswerBlock
  simp only [h.type_eq, Json.eqText_str, Json.truthy_str, Json.inTexts]
  rcases List.mem_cons.mp h.entry with hkind | hkind
  · cases hkind
    simp [bind, Except.bind, hcontent]
  · rcases List.mem_cons.mp hkind with hkind | hkind
    · cases hkind
      simp [bind, Except.bind, hcontent]
    · cases List.mem_singleton.mp hkind
      simp [bind, Except.bind, hcontent]

/-- A list of blocks is valid when each of them is, and stays as it is. -/
theorem validateAnswerBlocks_eq_ok {rt : Runtime} {valid : List JsonObject} :
    validateAnswerBlocks rt (.arr (blocks.map .obj)) = .ok valid ↔
      valid = blocks ∧ ∀ block ∈ blocks, ∃ kind key, ValidBlock rt block kind key := by
  unfold validateAnswerBlocks
  dsimp only
  constructor
  · intro h
    induction blocks generalizing valid with
    | nil =>
        rw [List.map_nil, List.mapM_nil] at h
        exact ⟨(Except.ok.inj h).symm, by simp⟩
    | cons block rest ih =>
        rw [List.map_cons, List.mapM_cons] at h
        obtain ⟨first, hfirst, htail⟩ := bind_eq_ok.mp h
        obtain ⟨others, hothers, hresult⟩ := bind_eq_ok.mp htail
        obtain ⟨hblock, hvalid⟩ := validBlock_of_validate hfirst
        obtain ⟨hothers, hrest⟩ := ih hothers
        subst hblock hothers
        exact ⟨(Except.ok.inj hresult).symm, List.forall_mem_cons.mpr ⟨hvalid, hrest⟩⟩
  · rintro ⟨rfl, hvalid⟩
    induction valid with
    | nil => rfl
    | cons block rest ih =>
        obtain ⟨⟨kind, key, hblock⟩, hrest⟩ := List.forall_mem_cons.mp hvalid
        rw [List.map_cons, List.mapM_cons, validate_of_validBlock hblock, ih hrest]
        rfl

/-! ## Blocks on their way -/

/-- The block that the renderer gets. -/
def deliveredBlock (rt : FaqRuntime) (state : FaqState) (block : JsonObject) : JsonObject :=
  if isLivechatButtonFaq state then block else prepareBlock rt.toRuntime block

theorem answerBlocks_prepare (hblocks : context.answerBlocks = some blocks) :
    (prepareFaqContextForDelivery rt.toRuntime context state).answerBlocks =
      some (blocks.map (deliveredBlock rt state)) := by
  unfold prepareFaqContextForDelivery deliveredBlock
  by_cases hbutton : isLivechatButtonFaq state = true
  · simp [hbutton, hblocks]
  · simp [hbutton, hblocks]

@[simp]
theorem getKey_deliveredBlock {key : String} (hkey : key ≠ "text") :
    getKey (deliveredBlock rt state block) key = getKey block key := by
  unfold deliveredBlock prepareBlock
  split
  · rfl
  · split
    · rw [getKey_set, if_neg hkey]
    · rfl

theorem cleanOptionalText_deliveredBlock (htype : getKey block "type" = .str "text") :
    cleanOptionalText rt.toRuntime (getKey (deliveredBlock rt state block) "text") =
      deliveredText rt state block := by
  unfold deliveredBlock deliveredText prepareBlock
  by_cases hbutton : isLivechatButtonFaq state = true
  · rw [if_pos hbutton, if_pos hbutton]
  · rw [if_neg hbutton, if_neg hbutton, if_pos (by simp [htype]), getKey_set, if_pos rfl,
      cleanOptionalText, Json.textOrEmpty_str, stripMenuDirectives, strip_strip]

/-- The rows of a preview. -/
def rowsOf (rt : FaqRuntime) (delivery : FaqDelivery) (address : FaqAddress)
    (previews : List PreviewBlock) : List FaqRow :=
  faqPlanToOutboundRows delivery address
    (previews.mapIdx fun index block => messagePlan rt.toRuntime delivery block index)

/-- The delivery succeeds when the prepared blocks are valid and can be rendered. -/
theorem deliverFaq_eq_ok {rows : List FaqRow} (hblocks : context.answerBlocks = some blocks) :
    deliverFaq rt delivery address context state = .ok rows ↔
      (∀ block ∈ blocks, ∃ kind key,
        ValidBlock rt.toRuntime (deliveredBlock rt state block) kind key) ∧
      ∃ previews, (blocks.map (deliveredBlock rt state)).mapM
          (renderBlock rt delivery.platform delivery.language) = .ok previews ∧
        rowsOf rt delivery address previews = rows := by
  unfold deliverFaq buildFaqOutboundPlanFromRagContext buildFaqOutboundPlan
    renderAnswerBlocksPreview
  rw [answerBlocks_prepare hblocks, Option.getD_some]
  constructor
  · intro h
    obtain ⟨messages, hmessages, h⟩ := bind_eq_ok.mp h
    obtain ⟨previews, hpreviews, hmessages⟩ := bind_eq_ok.mp hmessages
    obtain ⟨valid, hvalid, hpreviews⟩ := bind_eq_ok.mp hpreviews
    obtain ⟨hsame, hblocks⟩ := validateAnswerBlocks_eq_ok.mp hvalid
    subst hsame
    obtain rfl := Except.ok.inj hmessages
    refine ⟨fun block hmem => ?_, previews, hpreviews, Except.ok.inj h⟩
    exact hblocks _ (List.mem_map.mpr ⟨block, hmem, rfl⟩)
  · rintro ⟨hvalid, previews, hpreviews, rfl⟩
    have hprepared : validateAnswerBlocks rt.toRuntime
        (.arr ((blocks.map (deliveredBlock rt state)).map .obj)) =
          .ok (blocks.map (deliveredBlock rt state)) := by
      refine validateAnswerBlocks_eq_ok.mpr ⟨rfl, fun prepared hmem => ?_⟩
      obtain ⟨block, hblock, rfl⟩ := List.mem_map.mp hmem
      exact hvalid block hblock
    rw [hprepared]
    simp only [bind, Except.bind, hpreviews]
    rfl

/-! ## What a block needs -/

/-- The prepared text has content unless the directives were all of it. -/
theorem validBlock_deliveredBlock {kind key : String}
    (hvalid : ValidBlock rt.toRuntime block kind key) :
    (∃ kind key, ValidBlock rt.toRuntime (deliveredBlock rt state block) kind key) ↔
      isLivechatButtonFaq state = true ∨ keepsContent rt block = true := by
  have htype := @getKey_deliveredBlock rt state block "type" (by decide)
  constructor
  · rintro ⟨kind', key', hprepared⟩
    by_cases hbutton : isLivechatButtonFaq state = true
    · exact Or.inl hbutton
    · refine Or.inr ?_
      unfold keepsContent
      by_cases htext : getKey block "type" = .str "text"
      · have hkind : kind' = "text" := by
          have hsame := hprepared.type_eq
          rw [htype, htext] at hsame
          exact (Json.str.inj hsame).symm
        have hcontent := hprepared.content
        have hkey : key' = "text" := by
          have hentry := hprepared.entry
          simpa [hkind] using hentry
        rw [hkey, cleanOptionalText_deliveredBlock htext, deliveredText, if_neg hbutton] at hcontent
        simp [hcontent]
      · have hother : (getKey block "type").eqText "text" = false :=
          Bool.eq_false_iff.mpr fun h => htext (Json.eqText_iff.mp h)
        simp [hother]
  · intro h
    refine ⟨kind, key, hvalid.entry, htype.trans hvalid.type_eq, ?_⟩
    by_cases hkey : key = "text"
    · have hkind : kind = "text" := by
        have hentry := hvalid.entry
        simpa [hkey] using hentry
      have htext : getKey block "type" = .str "text" := hkind ▸ hvalid.type_eq
      rw [hkey, cleanOptionalText_deliveredBlock htext, deliveredText]
      split
      · exact hkey ▸ hvalid.content
      · rename_i hbutton
        have hkeeps := h.resolve_left hbutton
        simpa [keepsContent, htext] using hkeeps
    · rw [getKey_deliveredBlock hkey]
      exact hvalid.content

theorem selectPlatformAssetRef_ok (platform : Json) :
    (∃ assetRef, selectPlatformAssetRef rt block platform = .ok assetRef) ↔
      ((getKey block "platform_asset_map").truthy = true →
        ∃ assetMap, getKey block "platform_asset_map" = .obj assetMap) := by
  unfold selectPlatformAssetRef Json.orElse
  by_cases htruthy : (getKey block "platform_asset_map").truthy = true
  · rw [if_pos htruthy]
    generalize getKey block "platform_asset_map" = value at htruthy
    cases value with
    | obj assetMap => exact ⟨fun _ _ => ⟨assetMap, rfl⟩, fun _ => ⟨_, rfl⟩⟩
    | null => cases htruthy
    | bool b => simpa using htruthy
    | int n => simpa using htruthy
    | float value repr => simpa using htruthy
    | str text => simpa using htruthy
    | arr items => simpa using htruthy
  · rw [if_neg htruthy]
    exact ⟨fun _ h => absurd h htruthy, fun _ => ⟨_, rfl⟩⟩

/-- A valid block is of one of the three kinds. -/
theorem ValidBlock.kinds {rt : Runtime} {kind key : String} (h : ValidBlock rt block kind key) :
    kind = "text" ∨ kind = "image" ∨ kind = "buttons" := by
  have hentry := h.entry
  simp only [List.mem_cons, Prod.mk.injEq, List.not_mem_nil, or_false] at hentry
  rcases hentry with ⟨rfl, -⟩ | ⟨rfl, -⟩ | ⟨rfl, -⟩
  · exact Or.inl rfl
  · exact Or.inr (Or.inl rfl)
  · exact Or.inr (Or.inr rfl)

theorem renderBlock_ok {kind key : String} {platform language : Json}
    (hvalid : ValidBlock rt.toRuntime block kind key) :
    (∃ preview, renderBlock rt platform language (deliveredBlock rt state block) = .ok preview) ↔
      AssetMapReadable block := by
  have htype := @getKey_deliveredBlock rt state block "type" (by decide)
  have hmap := @getKey_deliveredBlock rt state block "platform_asset_map" (by decide)
  unfold renderBlock AssetMapReadable
  dsimp only
  rw [htype, hvalid.type_eq]
  rcases hvalid.kinds with rfl | rfl | rfl
  · rw [if_pos (by simp)]
    exact ⟨fun _ h => absurd (Json.str.inj h) (by decide), fun _ => ⟨_, rfl⟩⟩
  · rw [if_neg (by simp), if_pos (by simp)]
    have hselect := @selectPlatformAssetRef_ok rt (deliveredBlock rt state block) platform
    rw [hmap] at hselect
    refine Iff.trans ⟨?_, ?_⟩ (hselect.trans ⟨fun h _ => h, fun h => h rfl⟩)
    · rintro ⟨preview, h⟩
      obtain ⟨assetRef, hassetRef, -⟩ := bind_eq_ok.mp h
      exact ⟨assetRef, hassetRef⟩
    · rintro ⟨assetRef, h⟩
      exact ⟨_, bind_eq_ok.mpr ⟨assetRef, h, rfl⟩⟩
  · rw [if_neg (by simp), if_neg (by simp), if_pos (by simp)]
    exact ⟨fun _ h => absurd (Json.str.inj h) (by decide), fun _ => ⟨_, rfl⟩⟩

/-! ## Rows -/

/-- The row of one block of a preview. -/
def rowOf (rt : FaqRuntime) (delivery : FaqDelivery) (address : FaqAddress) (index : Nat)
    (preview : PreviewBlock) : FaqRow where
  tenantId := delivery.tenantId
  channelType := address.channelType
  chatId := address.chatId
  threadId := address.threadId
  conversationId := delivery.conversationId
  inboundEventId := delivery.inboundEventId
  actionType := preview.commandType
  commandType := preview.commandType
  messageType := preview.kind
  messageKind := preview.kind
  blockIndex := index
  dedupKey := faqDedupKey rt.toRuntime delivery index preview.kind preview.stableIdentity
  payloadJson := preview.payload delivery.language
  status := address.status

theorem rowsOf_eq_mapIdx (previews : List PreviewBlock) :
    rowsOf rt delivery address previews = previews.mapIdx (rowOf rt delivery address) := by
  unfold rowsOf faqPlanToOutboundRows
  refine List.ext_getElem (by simp) fun i hi hi' => ?_
  rw [List.getElem_map, List.getElem_mapIdx, List.getElem_mapIdx]
  rfl

theorem renders_of_renderBlock {kind key : String} {preview : PreviewBlock}
    (hvalid : ValidBlock rt.toRuntime block kind key)
    (h : renderBlock rt delivery.platform delivery.language (deliveredBlock rt state block) =
      .ok preview) (index : Nat) :
    Renders rt state delivery.language block (rowOf rt delivery address index preview) := by
  have htype := @getKey_deliveredBlock rt state block "type" (by decide)
  unfold renderBlock at h
  dsimp only at h
  rw [htype, hvalid.type_eq] at h
  have hkind := hvalid.type_eq
  rcases hvalid.kinds with rfl | rfl | rfl
  · rw [if_pos (by simp), cleanOptionalText_deliveredBlock hkind] at h
    obtain rfl := Except.ok.inj h
    exact ⟨hkind, fun _ => rfl, fun hother => absurd hother (by simp [rowOf, PreviewBlock.kind]),
      fun hother => absurd hother (by simp [rowOf, PreviewBlock.kind])⟩
  · rw [if_neg (by simp), if_pos (by simp)] at h
    obtain ⟨assetRef, -, h⟩ := bind_eq_ok.mp h
    obtain rfl := Except.ok.inj h
    refine ⟨hkind, fun hother => absurd hother (by simp [rowOf, PreviewBlock.kind]), fun _ => ?_,
      fun hother => absurd hother (by simp [rowOf, PreviewBlock.kind])⟩
    rw [getKey_deliveredBlock (by decide)]
    rfl
  · rw [if_neg (by simp), if_neg (by simp), if_pos (by simp)] at h
    obtain rfl := Except.ok.inj h
    refine ⟨hkind, fun hother => absurd hother (by simp [rowOf, PreviewBlock.kind]),
      fun hother => absurd hother (by simp [rowOf, PreviewBlock.kind]), fun _ => ?_⟩
    rw [getKey_deliveredBlock (by decide)]
    rfl

theorem blockIndex_increasing (previews : List PreviewBlock) :
    (previews.mapIdx (rowOf rt delivery address)).Pairwise
      fun first second => first.blockIndex < second.blockIndex := by
  rw [List.pairwise_iff_getElem]
  intro i j hi hj hlt
  rw [List.getElem_mapIdx, List.getElem_mapIdx]
  exact hlt

/-- The index of a block can be read back from its key. -/
theorem faqDedupKey_index {i j : Nat} {kind kind' identity identity' : String}
    (h : faqDedupKey rt.toRuntime delivery i kind identity =
      faqDedupKey rt.toRuntime delivery j kind' identity') : i = j := by
  have hlists := congrArg String.toList h
  simp only [faqDedupKey, String.toList_append, List.append_cancel_left_eq,
    List.append_assoc] at hlists
  have hsplit := append_cons_eq_append_cons (noColon_toString_nat i) (noColon_toString_nat j) hlists
  exact Nat.repr_injective (String.toList_inj.mp hsplit.1)

theorem nodup_dedupKey (previews : List PreviewBlock) :
    ((previews.mapIdx (rowOf rt delivery address)).map FaqRow.dedupKey).Nodup := by
  rw [List.Nodup, List.pairwise_map, List.pairwise_iff_getElem]
  intro i j hi hj hlt hsame
  rw [List.getElem_mapIdx, List.getElem_mapIdx] at hsame
  exact absurd (faqDedupKey_index hsame) hlt.ne

/-- Some of the items, in their order, are related to some of the others. -/
theorem sublistForall₂_filter {α β : Type} {R : α → β → Prop} {items : List α} {results : List β}
    (h : List.Forall₂ R items results) (p : α → Bool) :
    List.SublistForall₂ R (items.filter p) results := by
  induction h with
  | nil => exact .nil
  | @cons item result rest others hfirst _ ih =>
      by_cases hitem : p item = true
      · rw [List.filter_cons_of_pos hitem]
        exact .cons hfirst ih
      · rw [List.filter_cons_of_neg hitem]
        exact .cons_right ih

/-- The items of an indexed image are related to the ones they come from. -/
theorem forall₂_mapIdx {α β γ : Type} {R : α → β → Prop} {S : α → γ → Prop} {items : List α}
    {results : List β} (f : ℕ → β → γ) (h : List.Forall₂ R items results)
    (hstep : ∀ item ∈ items, ∀ result i, R item result → S item (f i result)) :
    List.Forall₂ S items (results.mapIdx f) := by
  induction h generalizing f with
  | nil => exact .nil
  | cons hfirst _ ih =>
      rw [List.mapIdx_cons]
      refine .cons (hstep _ List.mem_cons_self _ 0 hfirst) (ih _ fun item hmem result i h => ?_)
      exact hstep item (List.mem_cons_of_mem _ hmem) result (i + 1) h

/-! ## The theorem -/

/-- A FAQ answer is delivered exactly when no text is made of menu directives only, unless a
button asked for it, and the asset map of every image can be read. -/
theorem faq_delivered_iff (hblocks : context.answerBlocks = some blocks) {valid : List JsonObject}
    (hvalid : validateAnswerBlocks rt.toRuntime (.arr (blocks.map .obj)) = .ok valid) :
    DeliversFaq rt delivery address context state blocks ↔
      (isLivechatButtonFaq state = true ∨ ∀ block ∈ blocks, keepsContent rt block = true) ∧
        ∀ block ∈ blocks, AssetMapReadable block := by
  have hvalid := (validateAnswerBlocks_eq_ok.mp hvalid).2
  constructor
  · rintro ⟨rows, hrows, -⟩
    obtain ⟨hprepared, previews, hpreviews, -⟩ := (deliverFaq_eq_ok hblocks).mp hrows
    constructor
    · refine or_iff_not_imp_left.mpr fun hbutton block hmem => ?_
      obtain ⟨kind, key, hblock⟩ := hvalid block hmem
      exact ((validBlock_deliveredBlock hblock).mp (hprepared block hmem)).resolve_left hbutton
    · intro block hmem
      obtain ⟨kind, key, hblock⟩ := hvalid block hmem
      obtain ⟨preview, -, hrender⟩ :=
        mapM_ok_of_mem hpreviews (List.mem_map.mpr ⟨block, hmem, rfl⟩)
      exact (renderBlock_ok hblock).mp ⟨preview, hrender⟩
  · rintro ⟨hkeeps, hmaps⟩
    have hrenders : ∀ prepared ∈ blocks.map (deliveredBlock rt state), ∃ preview,
        renderBlock rt delivery.platform delivery.language prepared = .ok preview := by
      intro prepared hmem
      obtain ⟨block, hblock, rfl⟩ := List.mem_map.mp hmem
      obtain ⟨kind, key, hkind⟩ := hvalid block hblock
      exact (renderBlock_ok hkind).mpr (hmaps block hblock)
    obtain ⟨previews, hpreviews⟩ := mapM_ok hrenders
    have hprepared : ∀ block ∈ blocks, ∃ kind key,
        ValidBlock rt.toRuntime (deliveredBlock rt state block) kind key := by
      intro block hmem
      obtain ⟨kind, key, hblock⟩ := hvalid block hmem
      exact (validBlock_deliveredBlock hblock).mpr (hkeeps.imp_right fun h => h block hmem)
    refine ⟨_, (deliverFaq_eq_ok hblocks).mpr ⟨hprepared, previews, hpreviews, rfl⟩, ?_⟩
    rw [rowsOf_eq_mapIdx]
    have hrelated := forall₂_of_mapM_ok (fun _ _ h => h) hpreviews
    rw [List.forall₂_map_left_iff] at hrelated
    refine ⟨sublistForall₂_filter (forall₂_mapIdx _ hrelated ?_) _,
      blockIndex_increasing previews, nodup_dedupKey previews⟩
    intro block hmem preview i hpreview
    obtain ⟨kind, key, hblock⟩ := hvalid block hmem
    exact renders_of_renderBlock hblock hpreview i

/-! ## Runs -/

def plainFaqRuntime : FaqRuntime where
  toRuntime := .plain
  upper := id

/-- A text block. -/
def textBlock (text : String) : JsonObject :=
  .ofList [("type", .str "text"), ("text", .str text)]

/-- The answer of the blocks to a question that the customer typed. -/
def typedQuestion (blocks : List JsonObject) : FaqContext × FaqState :=
  (⟨none, some blocks, none⟩, ⟨∅, .str "intent"⟩)

def plainDelivery : FaqDelivery where
  tenantId := "default"
  conversationId := "c1"
  inboundEventId := .int 7
  platform := .str "CON777"
  language := .str "zh-Hans"

def plainAddress : FaqAddress where
  chatId := "chat"
  threadId := none
  channelType := "livechat"
  status := "PENDING"

/-- A greeting with a menu button is delivered. -/
theorem faq_delivered_greeting :
    let blocks := [textBlock "hello",
      .ofList [("type", .str "buttons"), ("menu_key", .str "main")]]
    let question := typedQuestion blocks
    DeliversFaq plainFaqRuntime plainDelivery plainAddress question.1 question.2 blocks := by
  intro blocks question
  have himages : blocks.all (fun block => !(getKey block "type").eqText "image") = true := by
    decide +kernel
  refine (@faq_delivered_iff plainFaqRuntime plainDelivery plainAddress question.1 question.2
    blocks rfl _ (eq_ok_of_toOption (by decide +kernel))).mpr ⟨Or.inr (by decide +kernel), ?_⟩
  intro block hmem himage
  have hother := List.all_eq_true.mp himages block hmem
  rw [himage] at hother
  cases hother

/-- A text that is only a menu directive gives up the whole answer. -/
theorem directive_loses_answer :
    let blocks := [textBlock "请回到选单并选择「存款未到账」。", textBlock "hello"]
    let question := typedQuestion blocks
    (∃ valid, validateAnswerBlocks plainFaqRuntime.toRuntime (.arr (blocks.map .obj)) =
      .ok valid) ∧
      ¬DeliversFaq plainFaqRuntime plainDelivery plainAddress question.1 question.2 blocks := by
  intro blocks question
  refine ⟨⟨_, eq_ok_of_toOption (by decide +kernel)⟩, ?_⟩
  rintro ⟨rows, hrows, -⟩
  have hraises : (deliverFaq plainFaqRuntime plainDelivery plainAddress question.1
      question.2).toOption.isSome = false := by
    decide +kernel
  rw [hrows] at hraises
  cases hraises

end AiCustomerService
