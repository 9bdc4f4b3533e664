import AiCustomerService.Llm.Guardrails

/-!
# Slots of a workflow

`sop_definitions.py`, `sop_slot_extractor.py` and `llm_sop_dialogue_planner.py` of
`app/workflows`: which slots a workflow asks for, and how a message, an image or the plan of a
language model fills them.
-/

namespace AiCustomerService

open Support

/-! ## Definitions -/

/-- A workflow whose slots are defined. -/
inductive SopDefinition
  | depositMissing
  | withdrawalMissing
  | withdrawalBlockedOrRollover
  deriving DecidableEq

/-- `get_sop_definition`. -/
def getSopDefinition : String → Option SopDefinition
  | "deposit_missing" => some .depositMissing
  | "withdrawal_missing" => some .withdrawalMissing
  | "withdrawal_blocked_or_rollover" => some .withdrawalBlockedOrRollover
  | _ => none

/-- `"deposit_screenshot" if intent == "deposit_missing" else "withdrawal_screenshot"`. -/
def screenshotKey (intent : String) : String :=
  if intent = "deposit_missing" then "deposit_screenshot" else "withdrawal_screenshot"

/-- `definition.slot_keys`. -/
def SopDefinition.slotKeys : SopDefinition → List String
  | depositMissing => ["customer_name", "account_or_phone", "phone", "deposit_screenshot",
      "receipt_screenshot", "amount", "payment_channel"]
  | withdrawalMissing => ["customer_name", "account_or_phone", "phone", "withdrawal_screenshot",
      "receipt_screenshot", "amount", "payment_channel"]
  | withdrawalBlockedOrRollover => ["account_or_phone"]

/-- `definition.required_slots`. -/
def SopDefinition.requiredSlots : SopDefinition → List String
  | withdrawalBlockedOrRollover => ["account_or_phone"]
  | _ => ["phone", "receipt_screenshot"]

/-- The slots of type `attachment`. -/
def attachmentSlots : List String :=
  ["deposit_screenshot", "withdrawal_screenshot", "receipt_screenshot"]

/-- `IMAGE_COLLECTION_SOPS`. -/
def imageCollectionSops : List String := ["deposit_missing", "withdrawal_missing"]

/-- `ORDER_SLOT_KEYS`. -/
def orderSlotKeys : List String := ["order_id", "deposit_order_id", "withdrawal_order_id"]

/-- `PROTECTED_SLOT_KEYS`. -/
def protectedSlotKeys : List String :=
  ["telegram_case_id", "telegram_message_id", "telegram_target_chat_id",
    "telegram_message_thread_id"]

/-- `IDENTITY_SLOT_KEYS`. -/
def identitySlotKeys : List String := ["account_or_phone", "phone"]

/-- `IDENTITY_SOURCE_KEYS`. -/
def identitySourceKeys : List String :=
  ["identity_source", "account_or_phone_source", "phone_source"]

/-! ## Identities -/

namespace SlotTables

variable (tables : SlotTables)

/-- `str.isdigit()`. -/
def isDigits (text : String) : Bool := text ≠ "" && text.toList.all tables.isDigit

/-- `_normalize_identity_value`. -/
def normalizeIdentityValue (value : String) : String :=
  let text := strip value
  if text.toList.any tables.isDigit then String.ofList (text.toList.filter tables.isDigit)
  else text

end SlotTables

/-- `_identity_update_has_user_text_evidence`, on the raw text of the customer. -/
def occursInUserText (rt : Runtime) (tables : SlotTables) (key value raw : String) : Bool :=
  let normalized := tables.normalizeIdentityValue value
  raw ≠ "" && normalized ≠ "" &&
    if key = "phone" ∨ tables.isDigits normalized then
      textContains (tables.normalizeIdentityValue raw) normalized &&
        decide (5 ≤ normalized.toList.length)
    else textContains (rt.lower raw) (rt.lower normalized)

/-- `_looks_like_image_identity_hint`. -/
def looksLikeImageIdentityHint (rt : Runtime) (tables : SlotTables) (value : Json) : Bool :=
  let text := rt.lower (strip (value.textOrEmpty rt))
  let digits := text.toList.filter tables.isDigit
  text = "" ||
    containsAny text ["terminado", "ending", "last ", "últimos", "ultimos", "尾号", "尾號"] ||
    !digits.isEmpty && decide (digits.length ≤ 4) && !tables.isDigits text

/-- `_identity_slot_present`. -/
def identitySlotPresent (rt : Runtime) (tables : SlotTables) (slotMemory : JsonObject) : Bool :=
  let value := (getKey slotMemory "phone").orElse (getKey slotMemory "account_or_phone")
  let source := rt.lower ((((getKey slotMemory "identity_source").orElse
    (getKey slotMemory "phone_source")).orElse
      (getKey slotMemory "account_or_phone_source")).textOrEmpty rt)
  value.truthy &&
    (["user_text", "confirmed_by_user"].contains source ||
      !(["image", "ocr", "llm_or_image", "image_analysis"].contains source) &&
        !looksLikeImageIdentityHint rt tables value)

/-- `_slot_present`. -/
def slotPresent (rt : Runtime) (tables : SlotTables) (intent key : String)
    (slotMemory : JsonObject) : Bool :=
  if key = "phone" then identitySlotPresent rt tables slotMemory
  else if key = "receipt_screenshot" then
    (getKey slotMemory "receipt_screenshot").truthy ||
      (getKey slotMemory (screenshotKey intent)).truthy
  else (getKey slotMemory key).truthy

/-- `compute_missing_slots`. -/
def computeMissingSlots (rt : Runtime) (tables : SlotTables) (intent : String)
    (slotMemory : JsonObject) : List String :=
  match getSopDefinition intent with
  | none => []
  | some definition =>
      definition.requiredSlots.filter fun key => !slotPresent rt tables intent key slotMemory

/-! ## Attachments -/

/-- `attachment.get("content_type") or attachment.get("mime_type")`, in lower case. -/
def contentType (rt : Runtime) (attachment : JsonObject) : String :=
  rt.lower (((getKey attachment "content_type").orElse
    (getKey attachment "mime_type")).textOrEmpty rt)

/-- `_is_image_attachment`. -/
def isImageAttachment (rt : Runtime) (attachment : JsonObject) : Bool :=
  let name := (rt.lower ((((getKey attachment "name").orElse (getKey attachment "filename")).orElse
    (getKey attachment "url")).textOrEmpty rt)).toList
  "image/".isPrefixOf (contentType rt attachment) ||
    [".png", ".jpg", ".jpeg", ".webp", ".gif", ".bmp", ".heic", ".heif"].any fun suffix =>
      suffix.toList.isSuffixOf name

/-- `str(value.get("receipt_kind") or "").lower()`. -/
def receiptKind (rt : Runtime) (value : JsonObject) : String :=
  rt.lower ((getKey value "receipt_kind").textOrEmpty rt)

/-- `expected_kind` and `opposite_kind`. -/
def expectedReceiptKinds (intent : String) : Option (String × String) :=
  if intent = "deposit_missing" then some ("deposit", "withdrawal")
  else if intent = "withdrawal_missing" then some ("withdrawal", "deposit")
  else none

/-- `_verified_receipt_attachment` of the planner.  The last test of the code is implied by the
one before it. -/
def verifiedReceiptAttachment (rt : Runtime) (intent : String) (attachment : JsonObject) :
    Option JsonObject :=
  match expectedReceiptKinds intent with
  | none => none
  | some (expected, opposite) =>
      let verified := (attachment.set "verified_receipt_attachment" (.bool true)).set
        "receipt_kind" (.str expected)
      if !(getKey attachment "url").truthy || receiptKind rt attachment = opposite then none
      else if (getKey attachment "verified_receipt_attachment").truthy &&
          receiptKind rt attachment = expected then
        some attachment
      else
        let image := if "image/".isPrefixOf (contentType rt attachment) then some verified else none
        match (getKey attachment "image_analysis").dict? with
        | none => image
        | some analysis =>
            if receiptKind rt analysis = opposite then none
            else if !(getKey analysis "is_receipt_like").truthy then image
            else if ["", "unknown", expected].contains (receiptKind rt analysis) then some verified
            else none

/-- `_verified_receipt_attachments` of the planner. -/
def verifiedReceiptAttachments (rt : Runtime) (intent : String) (attachments : List JsonObject) :
    List JsonObject :=
  attachments.filterMap (verifiedReceiptAttachment rt intent)

/-- `_is_verified_receipt_attachment` of the extractor. -/
def isVerifiedReceiptAttachment (rt : Runtime) (kinds : String × String) (attachment : JsonObject) :
    Bool :=
  let kind := receiptKind rt attachment
  let analysis := (getKey attachment "image_analysis").dictOrEmpty
  (getKey attachment "url").truthy && isImageAttachment rt attachment && kind ≠ kinds.2 &&
    ((getKey attachment "verified_receipt_attachment").truthy &&
        ["", "unknown", kinds.1].contains kind ||
      receiptKind rt analysis ≠ kinds.2 && ((getKey analysis "is_receipt_like").truthy ||
        "image/".isPrefixOf (contentType rt attachment)))

/-- The urls of the receipts that the extractor accepts. -/
def extractedReceiptUrls (rt : Runtime) (intent : String) (attachments : List JsonObject) :
    List String :=
  match expectedReceiptKinds intent with
  | none => []
  | some kinds => attachmentUrls rt (attachments.filter (isVerifiedReceiptAttachment rt kinds))

/-- `slot_memory.setdefault(key, value)`. -/
def setDefault (slotMemory : JsonObject) (key : String) (value : Json) : JsonObject :=
  if slotMemory.contains key then slotMemory else slotMemory.set key value

/-- `list(dict.fromkeys([*slot_memory.get("forwarded_attachment_urls", []), *urls]))`. -/
def forwardedUrls (rt : Runtime) (slotMemory : JsonObject) (urls : List String) : Json :=
  let known := match getKey slotMemory "forwarded_attachment_urls" with
    | .arr items => items.map (Json.pyStr rt)
    | _ => []
  .arr ((known ++ urls).eraseDups.map .str)

/-- `_merge_attachment_slots`. -/
def mergeAttachmentSlots (rt : Runtime) (intent : String) (slotMemory : JsonObject)
    (attachments : List JsonObject) : JsonObject :=
  match attachmentUrls rt (verifiedReceiptAttachments rt intent attachments) with
  | [] => slotMemory
  | url :: rest =>
      let merged := slotMemory.set "forwarded_attachment_urls"
        (forwardedUrls rt slotMemory (url :: rest))
      setDefault (setDefault merged "receipt_screenshot" (.str url)) (screenshotKey intent)
        (.str url)

/-! ## Legacy aliases -/

/-- `_looks_like_spurious_account_or_phone`. -/
def looksLikeSpuriousAccount (rt : Runtime) (tables : SlotTables) (value : String) : Bool :=
  let lowered := rt.lower (strip value)
  lowered = "" || !lowered.toList.any tables.isDigit &&
    ["indica", "indicar", "pregunta", "solicita", "proporciona", "usuario", "cliente", "retiro",
      "deposito", "depósito", "recibida", "recibido"].contains lowered

/-- `_should_replace_account_or_phone_with_phone`. -/
def shouldReplaceAccountWithPhone (rt : Runtime) (tables : SlotTables)
    (slotMemory updates previous : JsonObject) : Bool :=
  let current := normalizeText rt (getKey slotMemory "account_or_phone")
  (getKey updates "phone").truthy && !(getKey updates "account_or_phone").truthy &&
    (current = "" || rt.lower ((getKey slotMemory "identity_kind").textOrEmpty rt) = "phone" ||
      current = normalizeText rt (getKey previous "account_or_phone") &&
        looksLikeSpuriousAccount rt tables current)

/-- The part of `_sync_legacy_aliases` on the identity. -/
def syncIdentityAliases (rt : Runtime) (tables : SlotTables)
    (slotMemory updates previous : JsonObject) : JsonObject :=
  let phone := getKey slotMemory "phone"
  if phone.truthy && (!(getKey slotMemory "account_or_phone").truthy ||
      shouldReplaceAccountWithPhone rt tables slotMemory updates previous) then
    let synced := (slotMemory.set "account_or_phone" phone).set "identity_kind" (.str "phone")
    if (getKey synced "identity_source").truthy then
      setDefault synced "account_or_phone_source" (getKey synced "identity_source")
    else synced
  else slotMemory

/-- `_sync_legacy_aliases`. -/
def syncLegacyAliases (rt : Runtime) (tables : SlotTables) (intent : String)
    (slotMemory updates previous : JsonObject) : JsonObject :=
  let synced := syncIdentityAliases rt tables slotMemory updates previous
  let receipt := getKey synced "receipt_screenshot"
  let screenshot := getKey synced (screenshotKey intent)
  let synced :=
    if receipt.truthy then setDefault synced (screenshotKey intent) receipt
    else if screenshot.truthy then setDefault synced "receipt_screenshot" screenshot
    else synced
  let channel := getKey synced "payment_channel"
  if channel.truthy then setDefault synced "channel" channel else synced

/-! ## The deterministic extractor -/

/-- `_standalone_phone_digits`. -/
def standalonePhoneDigits (tables : SlotTables) (text : String) : Option String :=
  let raw := strip text
  if raw.toList.all tables.isDecimal ∧ 5 ≤ raw.toList.length ∧ raw.toList.length ≤ 18 then some raw
  else none

/-- `_amount_label_present`. -/
def amountLabelPresent (tables : SlotTables) (text : String) : Bool :=
  (Regex.seq [tables.literals ["金额", "金額", "monto", "valor", "amount"], SlotTables.blanks,
    .optional (.one (SlotTables.oneOfChars ":：-")), SlotTables.blanks, tables.decimal]).found
    text.toList

/-- `extracted_slots` of `extract_sop_slots`. -/
def extractedSlots (rt : Runtime) (tables : SlotTables) (intent text : String)
    (urls : List String) : JsonObject :=
  let standalone := standalonePhoneDigits tables text
  let amount := if standalone.isSome then none else extractAmount tables text
  let identity := if amountLabelPresent tables text then none
    else extractIdentityFromText rt tables text
  let slots : JsonObject := .ofList [("account_or_phone", .null), ("phone", .null),
    ("amount", .null), ("payment_channel", .null), ("deposit_screenshot", .null),
    ("withdrawal_screenshot", .null)]
  let slots := match identity with
    | some found =>
        let slots := ((slots.set "account_or_phone" (.str found.value)).set "identity_kind"
          (.str found.kind)).set "identity_source" (.str "user_text")
        if found.kind = "phone" then slots.set "phone" (.str found.value) else slots
    | none => slots
  let slots := match standalone with
    | some phone =>
        (((slots.set "phone" (.str phone)).set "account_or_phone" (.str phone)).set
          "identity_kind" (.str "phone")).set "identity_source" (.str "user_text")
    | none => slots
  let slots := (slots.set "amount" (Json.ofText? amount)).set "payment_channel"
    (Json.ofText? (extractChannel tables text))
  match urls with
  | url :: _ => slots.set (screenshotKey intent) (.str url)
  | [] => slots

/-- `if value and key not in PROTECTED_SLOT_KEYS: slot_memory[key] = value`. -/
def setExtracted (slotMemory : JsonObject) (entry : String × Json) : JsonObject :=
  if entry.2.truthy && !protectedSlotKeys.contains entry.1 then slotMemory.set entry.1 entry.2
  else slotMemory

/-- `slot_memory["account_or_phone"] = slot_memory["phone"]`, when only the phone is there. -/
def completeIdentity (slotMemory : JsonObject) : JsonObject :=
  let phone := getKey slotMemory "phone"
  if phone.truthy && !(getKey slotMemory "account_or_phone").truthy then
    slotMemory.set "account_or_phone" phone
  else slotMemory

/-- The slot memory of `extract_sop_slots`. -/
def extractSopSlots (rt : Runtime) (tables : SlotTables) (intent : String)
    (slotMemory : JsonObject) (text : String) (attachments : List JsonObject) :
    JsonObject × JsonObject :=
  let urls := extractedReceiptUrls rt intent attachments
  let slots := extractedSlots rt tables intent text urls
  let memory := slots.entries.foldl setExtracted
    (completeIdentity (slotMemory.eraseAll orderSlotKeys))
  (slots, if urls.isEmpty then memory
    else memory.set "forwarded_attachment_urls" (forwardedUrls rt memory urls))

/-! ## The plan of a dialogue -/

/-- What `plan_sop_dialogue_from_state` returns. -/
structure SopDialoguePlan where
  status : String
  source : String
  intentRelation : String
  slotMemory : JsonObject
  slotUpdates : JsonObject
  slotConfidence : JsonObject
  missingSlots : List String
  shouldAskConfirmation : Bool
  replyDraft : String
  reason : String
  fallbackReason : Json
  droppedSlots : List String

/-- `_fallback_plan`. -/
def fallbackPlan (rt : Runtime) (tables : SlotTables) (s : NodeState) (intent : String)
    (reason : Json) : SopDialoguePlan :=
  let (slots, memory) := extractSopSlots rt tables intent s.slotMemory (s.inputText rt)
    s.attachments
  let memory := syncLegacyAliases rt tables intent
    (mergeAttachmentSlots rt intent memory s.attachments) ∅ ∅
  let memory := if intent ∈ imageCollectionSops then memory.eraseAll orderSlotKeys else memory
  { status := "fallback"
    source := "deterministic"
    intentRelation := "current_sop_supplement"
    slotMemory := memory
    slotUpdates := slots
    slotConfidence := ⟨slots.entries.map fun entry =>
      (entry.1, if entry.2.truthy then .float (8 / 10) "0.8" else .float 0 "0.0")⟩
    missingSlots := computeMissingSlots rt tables intent memory
    shouldAskConfirmation := false
    replyDraft := ""
    reason := reason.pyStr rt
    fallbackReason := reason
    droppedSlots := [] }

/-- The values that the loop of `apply_llm_sop_plan` changes. -/
structure PlannedSlots where
  slotMemory : JsonObject
  updates : JsonObject
  dropped : List String

/-- `_record_identity_hint`. -/
def recordIdentityHint (rt : Runtime) (slotMemory : JsonObject) (key : String) (value : Json) :
    JsonObject :=
  let hint := normalizeText rt value
  if hint = "" then slotMemory
  else ((slotMemory.set "image_identity_hint" (.str hint)).set "image_identity_hint_key"
    (.str key)).set "image_identity_hint_source" (.str "llm_or_image")

/-- `_allowed_attachment_urls`. -/
def allowedAttachmentUrls (rt : Runtime) (s : NodeState) (intent : String)
    (slotMemory : JsonObject) : List String :=
  let summary := match s.get "attachments_summary" with
    | .arr items => items.filterMap Json.dict?
    | _ => []
  attachmentUrls rt (verifiedReceiptAttachments rt intent (s.attachments ++ summary)) ++
    (attachmentSlots.filter fun key => (getKey slotMemory key).truthy).map fun key =>
      (getKey slotMemory key).pyStr rt

/-- `_identity_update_has_user_text_evidence`. -/
def hasUserTextEvidence (rt : Runtime) (tables : SlotTables) (s : NodeState) (key : String)
    (value : Json) : Bool :=
  rt.lower ((s.get "identity_source").textOrEmpty rt) = "confirmed_by_user" ||
    occursInUserText rt tables key (value.textOrEmpty rt) (s.rawText rt)

/-- The keys that a plan may set. -/
def allowedSlotKeys (definition : SopDefinition) (intent : String) : List String :=
  definition.slotKeys ++ ["account_or_phone", screenshotKey intent, "channel"]

/-- `slot_updates[key] = value`; the loop runs again over what it collected, so a key keeps the
place of its first value. -/
def setInOrder (updates : JsonObject) (key : String) (value : Json) : JsonObject :=
  if updates.contains key then
    ⟨updates.entries.map fun entry => if entry.1 = key then (key, value) else entry⟩
  else ⟨updates.entries ++ [(key, value)]⟩

/-- One round of the loop of `apply_llm_sop_plan`. -/
def planSlot (rt : Runtime) (tables : SlotTables) (s : NodeState) (intent : String)
    (definition : SopDefinition) (urls : List String) (slots : PlannedSlots)
    (entry : String × Json) : PlannedSlots :=
  let (key, value) := entry
  let droppedKey : PlannedSlots := { slots with dropped := slots.dropped ++ [key] }
  if identitySourceKeys.contains key then
    if value.truthy then { slots with updates := setInOrder slots.updates key value } else slots
  else if protectedSlotKeys.contains key || !(allowedSlotKeys definition intent).contains key ||
      imageCollectionSops.contains intent && orderSlotKeys.contains key then droppedKey
  else if value.isNull || value.eqText "" then slots
  else if identitySlotKeys.contains key && !hasUserTextEvidence rt tables s key value then
    { droppedKey with slotMemory := recordIdentityHint rt slots.slotMemory key value }
  else if attachmentSlots.contains key && !urls.contains (value.pyStr rt) then droppedKey
  else
    let updates := setInOrder slots.updates key value
    { slots with
      updates := if identitySlotKeys.contains key then
          setInOrder updates "identity_source" (.str "user_text")
        else updates }

/-- `INTENT_RELATIONS`. -/
def intentRelations : List String :=
  ["current_sop_supplement", "current_workflow_resolution", "faq_interrupt", "new_issue",
    "human_request", "unclear"]

/-- `_intent_relation`. -/
def planIntentRelation (rt : Runtime) (plan : JsonObject) : String :=
  let relation := textOr (some ((getKey plan "intent_relation").textOrEmpty rt))
    "current_sop_supplement"
  if relation ∈ intentRelations then relation else "unclear"

/-- `plan.get("slot_updates") or plan.get("extracted_slots") or {}`. -/
def plannedUpdates (plan : JsonObject) : Except PyError JsonObject :=
  ((getKey plan "slot_updates").orElse (getKey plan "extracted_slots")).mappingOrEmpty

/-- `plan.get("slot_confidence") or plan.get("confidence") or {}`. -/
def plannedConfidence (plan : JsonObject) : Except PyError JsonObject :=
  ((getKey plan "slot_confidence").orElse (getKey plan "confidence")).mappingOrEmpty

/-- The slot memory of `apply_llm_sop_plan`, from the slots of its loop. -/
def plannedMemory (rt : Runtime) (tables : SlotTables) (s : NodeState) (intent : String)
    (slots : PlannedSlots) : JsonObject :=
  let merged := mergeAttachmentSlots rt intent (slots.slotMemory.merge slots.updates) s.attachments
  let synced := syncLegacyAliases rt tables intent merged slots.updates slots.slotMemory
  if intent ∈ imageCollectionSops then synced.eraseAll orderSlotKeys else synced

/-- `apply_llm_sop_plan`. -/
def applyLlmSopPlan (rt : Runtime) (tables : SlotTables) (s : NodeState) (intent : String)
    (plan : JsonObject) : Except PyError SopDialoguePlan :=
  match getSopDefinition intent with
  | none => .ok (fallbackPlan rt tables s intent (.str "unsupported_sop"))
  | some definition => do
      let memory := if intent ∈ imageCollectionSops then s.slotMemory.eraseAll orderSlotKeys
        else s.slotMemory
      let dropped := match getKey plan "dropped_slots" with
        | .arr items => (items.map (Json.pyStr rt)).eraseDups
        | _ => []
      let updates ← plannedUpdates plan
      let confidence ← plannedConfidence plan
      let slots := updates.entries.foldl (planSlot rt tables s intent definition
        (allowedAttachmentUrls rt s intent memory)) ⟨memory, ∅, dropped⟩
      let planned := plannedMemory rt tables s intent slots
      pure {
        status := "accepted"
        source := "llm_sop_dialogue_planner"
        intentRelation := planIntentRelation rt plan
        slotMemory := planned
        slotUpdates := slots.updates
        slotConfidence := confidence
        missingSlots := computeMissingSlots rt tables intent planned
        shouldAskConfirmation := (getKey plan "should_ask_confirmation").truthy
        replyDraft := (getKey plan "reply_draft").textOrEmpty rt
        reason := (getKey plan "reason").textOrEmpty rt
        fallbackReason := getKey plan "fallback_reason"
        droppedSlots := slots.dropped }

/-- `_normalise_llm_plan`. -/
def normaliseLlmPlan (value : Json) : Except PyError (Option JsonObject) :=
  match value.dict? with
  | none => .ok none
  | some plan =>
      if (getKey plan "status").eqText "fallback" then .ok (some plan)
      else do
        let result ← (getKey plan "result").mappingOrEmpty
        let normalized := result.merge plan
        let normalized := setDefault normalized "status"
          ((getKey plan "status").orElse (.str "accepted"))
        let normalized :=
          if normalized.contains "extracted_slots" then
            setDefault normalized "slot_updates" (getKey normalized "extracted_slots")
          else normalized
        pure (some (if normalized.contains "confidence" then
            setDefault normalized "slot_confidence" (getKey normalized "confidence")
          else normalized))

/-- `float(value)`. -/
def pyFloat (rt : Runtime) (value : Json) : Except PyError ℚ :=
  match toFloat? rt value with
  | some number => .ok number
  | none => .error (.valueError "could not convert to float")

/-- Some value that a plan sets, other than the source of an identity, has a confidence below the
bound; `missing` stands for a confidence that is not given. -/
def hasConfidenceBelow (rt : Runtime) (updates confidence : JsonObject) (missing bound : ℚ) :
    Except PyError Bool :=
  updates.entries.foldlM (fun low entry =>
    if low || identitySourceKeys.contains entry.1 || !entry.2.truthy then .ok low
    else do
      let number ← if (getKey confidence entry.1).truthy then pyFloat rt (getKey confidence entry.1)
        else pure missing
      pure (decide (number < bound))) false

/-- `_has_low_confidence`. -/
def hasLowConfidence (rt : Runtime) (plan : JsonObject) : Except PyError Bool := do
  hasConfidenceBelow rt (← plannedUpdates plan) (← plannedConfidence plan) 1 (55 / 100)

/-- A plan that is accepted with enough confidence. -/
def usablePlan (rt : Runtime) (plan? : Option JsonObject) : Except PyError (Option JsonObject) :=
  match plan? with
  | some plan =>
      if (getKey plan "status").eqText "accepted" then do
        if ← hasLowConfidence rt plan then pure none else pure (some plan)
      else .ok none
  | none => .ok none

/-- `plan.get("fallback_reason")` of a plan that may be missing. -/
def planFallbackReason (plan? : Option JsonObject) : Json := getKey (plan?.getD ∅) "fallback_reason"

/-- `plan_sop_dialogue_from_state`. -/
def planSopDialogueFromState (rt : Runtime) (tables : SlotTables) (s : NodeState)
    (intent : String) : Except PyError SopDialoguePlan :=
  if (getSopDefinition intent).isNone then
    .ok (fallbackPlan rt tables s intent (.str "unsupported_sop"))
  else do
    let dialogue ← normaliseLlmPlan (s.get "llm_sop_dialogue_plan")
    match ← usablePlan rt dialogue with
    | some plan => applyLlmSopPlan rt tables s intent plan
    | none =>
        let slotResult ← normaliseLlmPlan (s.get "llm_sop_slot_result")
        match ← usablePlan rt slotResult with
        | some plan =>
            let reason := planFallbackReason dialogue
            applyLlmSopPlan rt tables s intent
              (if reason.truthy then plan.set "fallback_reason" reason else plan)
        | none =>
            let chosen := if (dialogue.any fun plan => !plan.isEmpty) then dialogue else slotResult
            pure (fallbackPlan rt tables s intent
              ((planFallbackReason chosen).orElse (.str "llm_unavailable")))

end AiCustomerService
