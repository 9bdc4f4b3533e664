import AiCustomerService.Llm.Guardrails
import AiCustomerService.Services.ChineseScript

/-!
# The language of a conversation

`app/services/language_policy.py`: the language of a reply is the one that the rewrite reports, if
it is sure enough, or else the one of the recent messages, of the slot memory, or of the tenant.
-/

namespace AiCustomerService

open Support

/-- `FINAL_REPLY_LANGUAGE_CODES`. -/
def finalReplyLanguageCodes : List String := supportedLanguageCodes.filter (· ≠ "unknown")

/-- The argument of `parse_supported_languages`. -/
inductive LanguageSetting where
  | absent
  | text (value : String)
  | items (values : List String)

/-- The items of the setting. -/
def LanguageSetting.codes : LanguageSetting → List String
  | .absent => finalReplyLanguageCodes
  | .text value => (value.toList.splitOn ',').map fun item => strip (String.ofList item)
  | .items values => values

/-- `parse_supported_languages`. -/
def parseSupportedLanguages (rt : Runtime) (setting : LanguageSetting) : List String :=
  let normalized := setting.codes.foldl
    (fun kept item =>
      let code := normalizeLanguageCode rt (.str item)
      if code ≠ "unknown" ∧ code ∉ kept then kept ++ [code] else kept) []
  if normalized.isEmpty then ["es"] else normalized

/-- `_ensure_supported`. -/
def ensureSupported (rt : Runtime) (language : String) (supported : List String)
    (fallback : String) : String :=
  let isUsable := fun code : String => decide (code ≠ "unknown" ∧ code ∈ supported)
  let normalized := normalizeLanguageCode rt (.str language)
  let fallbackNormalized := normalizeLanguageCode rt (.str fallback)
  if isUsable normalized then normalized
  else if isUsable fallbackNormalized then fallbackNormalized
  else supported.headD "es"

/-- The message is one of the customer. -/
def isCustomerMessage (rt : Runtime) (message : JsonObject) : Bool :=
  ["customer", "user", "external"].contains (rt.lower
    (((getKey message "sender_role").orElse (getKey message "role")).textOrEmpty rt))

/-- The language that a message names. -/
def messageLanguage (rt : Runtime) (message : JsonObject) : String :=
  normalizeLanguageCode rt (((getKey message "language").orElse
    (getKey message "detected_language")).orElse (getKey message "reply_language"))

/-- `infer_recent_user_language`, where it finds a language. -/
def inferRecentUserLanguage (rt : Runtime) (recentMessages : List JsonObject) : Option String :=
  ((recentMessages.reverse.filter (isCustomerMessage rt)).map (messageLanguage rt)).find?
    (· ≠ "unknown")

/-- The sources of a rewrite whose language counts. -/
def authoritativeSources : List String :=
  ["llm_guarded_authoritative", "llm_guarded_authoritative_post_guard",
    "llm_rewrite_authoritative", "llm_rewrite"]

/-- `_rewrite_language`: the language that the rewrite reports, and its confidence. -/
def rewriteLanguage (rt : Runtime) (rewrite : JsonObject) (supported : List String) :
    Except PyError (Option (String × ℚ)) :=
  let language := normalizeLanguageCode rt
    ((getKey rewrite "detected_language").orElse (getKey rewrite "language"))
  let source := ((getKey rewrite "source").orElse (getKey rewrite "language_source")).textOrEmpty rt
  if language ≠ "unknown" ∧ language ∈ supported ∧ source ∈ authoritativeSources then
    let confidence := ((getKey rewrite "language_confidence").orElse
      (getKey rewrite "confidence")).orElse (.float 1 "1.0")
    match toFloat? rt confidence with
    | some value => .ok (some (language, value))
    | none => .error (.valueError "could not convert to float")
  else .ok none

/-- The parts of a state that the policy reads, besides the slot memory. -/
structure LanguageTurn where
  rawUserInput : Option String
  rewriteResult : JsonObject
  recentMessages : List JsonObject

/-- The arguments of `resolve_language_policy`. -/
structure LanguageSettings where
  rt : Runtime
  tenantDefaultLanguage : String
  supportedLanguages : LanguageSetting
  minConfidence : ℚ
  fallbackLanguage : String
  persistToSlotMemory : Bool

namespace LanguageSettings

variable (settings : LanguageSettings)

def supported : List String := parseSupportedLanguages settings.rt settings.supportedLanguages

/-- `tenant_default`. -/
def tenantDefault : String :=
  ensureSupported settings.rt
    (normalizeLanguageCode settings.rt (.str settings.tenantDefaultLanguage)) settings.supported
    settings.fallbackLanguage

/-- `fallback`. -/
def fallback : String :=
  ensureSupported settings.rt
    (normalizeLanguageCode settings.rt (.str settings.fallbackLanguage)) settings.supported
    settings.tenantDefault

end LanguageSettings

/-- What `resolve_language_policy` returns. -/
structure LanguageDecision where
  detectedLanguage : String
  languageConfidence : ℚ
  deterministicLanguage : String
  deterministicLanguageConfidence : ℚ
  llmLanguage : String
  llmLanguageSource : Option String
  llmLanguageConfidence : ℚ
  languageSource : String
  conversationLanguage : String
  replyLanguage : String
  supportedLanguages : List String
  reason : String
  detectionReason : String

/-- The language that the slot memory holds. -/
def rememberedLanguage (rt : Runtime) (slotMemory : JsonObject) : String :=
  normalizeLanguageCode rt
    ((getKey slotMemory "last_user_language").orElse (getKey slotMemory "last_reply_language"))

/-- The language, its source and the reason when the rewrite decides nothing. -/
def fallbackLanguage (settings : LanguageSettings) (turn : LanguageTurn) (slotMemory : JsonObject) :
    String × String × String :=
  let recent := (inferRecentUserLanguage settings.rt turn.recentMessages).getD "unknown"
  let remembered := rememberedLanguage settings.rt slotMemory
  if recent ≠ "unknown" ∧ recent ∈ settings.supported then
    (recent, "recent_messages", "recent message explicit language metadata")
  else if remembered ≠ "unknown" ∧ remembered ∈ settings.supported then
    (remembered, "slot_memory", "slot memory supplied conversation language")
  else (settings.tenantDefault, "tenant_default", "tenant default language")

/-- The language that the rewrite reports, if it is sure enough. -/
def confidentLanguage? (settings : LanguageSettings) (reported : Option (String × ℚ)) :
    Option String :=
  match reported with
  | some (language, confidence) =>
      if settings.minConfidence ≤ confidence then some language else none
  | none => none

/-- `conversation_language`, `source` and `reason`. -/
def conversationLanguage (settings : LanguageSettings) (turn : LanguageTurn)
    (slotMemory : JsonObject) (reported : Option (String × ℚ)) : String × String × String :=
  match confidentLanguage? settings reported with
  | some language =>
      (language, "rewrite_result", "authoritative rewrite result supplied language")
  | none => fallbackLanguage settings turn slotMemory

/-- The slot memory that the policy leaves. -/
def persistLanguages (settings : LanguageSettings) (slotMemory : JsonObject)
    (reported : Option (String × ℚ)) (replyLanguage : String) : JsonObject :=
  if settings.persistToSlotMemory then
    let withUser :=
      match reported with
      | some (language, _) => slotMemory.set "last_user_language" (.str language)
      | none => slotMemory
    withUser.set "last_reply_language" (.str replyLanguage)
  else slotMemory

/-- `resolve_language_policy`, with the slot memory that it leaves. -/
def resolveLanguagePolicy (settings : LanguageSettings) (turn : LanguageTurn)
    (slotMemory : JsonObject) : Except PyError (LanguageDecision × JsonObject) := do
  let reported ← rewriteLanguage settings.rt turn.rewriteResult settings.supported
  let conversation := conversationLanguage settings turn slotMemory reported
  let replyLanguage :=
    ensureSupported settings.rt conversation.1 settings.supported settings.fallback
  let language := (reported.map Prod.fst).getD "unknown"
  let confidence := (reported.map Prod.snd).getD 0
  pure (
    { detectedLanguage := language
      languageConfidence := confidence
      deterministicLanguage := "unknown"
      deterministicLanguageConfidence := 0
      llmLanguage := language
      llmLanguageSource := reported.map fun _ => "rewrite_result"
      llmLanguageConfidence := confidence
      languageSource := conversation.2.1
      conversationLanguage := conversation.1
      replyLanguage
      supportedLanguages := settings.supported
      reason := conversation.2.2
      detectionReason :=
        if hasText (turn.rawUserInput.map strip) then "llm_language_required" else "empty_input" },
    persistLanguages settings slotMemory reported replyLanguage)

/-! ## Codes -/

variable {rt : Runtime}

/-- The supported languages are codes, and there is one of them. -/
theorem parseSupportedLanguages_spec (setting : LanguageSetting) :
    parseSupportedLanguages rt setting ≠ [] ∧
      ∀ code ∈ parseSupportedLanguages rt setting,
        code ∈ supportedLanguageCodes ∧ code ≠ "unknown" := by
  have hkept : ∀ (items kept : List String),
      (∀ code ∈ kept, code ∈ supportedLanguageCodes ∧ code ≠ "unknown") →
        ∀ code ∈ items.foldl
          (fun kept item =>
            let code := normalizeLanguageCode rt (.str item)
            if code ≠ "unknown" ∧ code ∉ kept then kept ++ [code] else kept) kept,
          code ∈ supportedLanguageCodes ∧ code ≠ "unknown" := by
    intro items
    induction items with
    | nil => exact fun kept h => h
    | cons item rest ih =>
        intro kept h
        apply ih
        dsimp only
        split
        · rename_i hnew
          intro code hcode
          rcases List.mem_append.mp hcode with hold | hnew'
          · exact h code hold
          · rw [List.mem_singleton.mp hnew']
            exact ⟨normalizeLanguageCode_mem _ _, hnew.1⟩
        · exact h
  unfold parseSupportedLanguages
  dsimp only
  split
  · exact ⟨List.cons_ne_nil _ _, by decide⟩
  · rename_i hsome
    exact ⟨fun hnil => hsome (List.isEmpty_iff.mpr hnil), hkept _ [] (by simp)⟩

theorem ensureSupported_mem {supported : List String} (hsome : supported ≠ [])
    (language fallback : String) : ensureSupported rt language supported fallback ∈ supported := by
  unfold ensureSupported
  dsimp only
  split
  · rename_i h
    exact (of_decide_eq_true h).2
  · split
    · rename_i h
      exact (of_decide_eq_true h).2
    · obtain ⟨first, rest, rfl⟩ := List.exists_cons_of_ne_nil hsome
      exact List.mem_cons_self

/-- A supported language stays as it is. -/
theorem ensureSupported_of_mem {supported : List String} {language : String}
    (hcode : language ∈ supportedLanguageCodes) (hknown : language ≠ "unknown")
    (hmem : language ∈ supported) (fallback : String) :
    ensureSupported rt language supported fallback = language := by
  unfold ensureSupported
  rw [normalizeLanguageCode_of_mem hcode]
  simp [hknown, hmem]

end AiCustomerService
