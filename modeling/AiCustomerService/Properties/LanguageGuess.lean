import AiCustomerService.Services.LanguagePolicy
import Mathlib.Data.List.Induction

/-!
# Uncertain guesses of a language

A language that the rewrite reports without being sure does not decide the reply, but the policy
remembers it as the customer's language, and the next turn without a confident report takes it up.
-/

namespace AiCustomerService

open Support

/-! ## Turns -/

/-- A turn of a conversation, with the settings that it runs under. -/
structure LanguageStep where
  settings : LanguageSettings
  turn : LanguageTurn

namespace LanguageStep

variable (step : LanguageStep)

/-- The language that the rewrite reports in this turn, and its confidence. -/
def report? : Option (String × ℚ) :=
  (rewriteLanguage step.settings.rt step.turn.rewriteResult
    step.settings.supported).toOption.join

/-- The slot memory after the turn; a turn that raises leaves it. -/
def execute (slotMemory : JsonObject) : JsonObject :=
  ((resolveLanguagePolicy step.settings step.turn slotMemory).toOption.map Prod.snd).getD slotMemory

/-- `reply_language`. -/
def reply? (slotMemory : JsonObject) : Option String :=
  (resolveLanguagePolicy step.settings step.turn slotMemory).toOption.map fun decided =>
    decided.1.replyLanguage

/-- The policy returns without a report that is sure enough. -/
def FallsBack : Prop :=
  ∃ reported, rewriteLanguage step.settings.rt step.turn.rewriteResult step.settings.supported =
    .ok reported ∧ confidentLanguage? step.settings reported = none

/-- No recent message names a language. -/
def NoLanguageMetadata : Prop :=
  ∀ message ∈ step.turn.recentMessages, ∀ key ∈ ["language", "detected_language", "reply_language"],
    (getKey message key).truthy = false

end LanguageStep

/-- The slot memory after some turns. -/
def runLanguageTurns (slotMemory : JsonObject) (steps : List LanguageStep) : JsonObject :=
  steps.foldl (fun memory step => step.execute memory) slotMemory

/-- The last language that the rewrite has reported. -/
def lastReport? (steps : List LanguageStep) : Option (String × ℚ) :=
  (steps.filterMap LanguageStep.report?).getLast?

/-- Whenever the rewrite reports the language, it is not sure enough. -/
def OnlyGuessed (steps : List LanguageStep) (language : String) : Prop :=
  ∀ step ∈ steps, ∀ confidence, step.report? = some (language, confidence) →
    confidence < step.settings.minConfidence

/-- The language is the one of the tenant or the fallback. -/
def IsDefault (settings : LanguageSettings) (language : String) : Prop :=
  language = settings.tenantDefault ∨ language = settings.fallback

/-- A language that was only ever guessed is not the language of a later reply, unless it is the
one of the tenant or the fallback. -/
def GuessesNeverUsed (slotMemory : JsonObject) (steps : List LanguageStep) : Prop :=
  ∀ before step after, steps = before ++ step :: after → ∀ language,
    (∃ guess ∈ before, ∃ confidence, guess.report? = some (language, confidence)) →
      OnlyGuessed steps language →
        step.reply? (runLanguageTurns slotMemory before) = some language →
          IsDefault step.settings language

/-- A turn that falls back does not follow, as the last report, a language that was only ever
guessed, that it supports and that is no default. -/
def GuessesOverwritten (steps : List LanguageStep) : Prop :=
  ∀ before step after, steps = before ++ step :: after → step.FallsBack →
    ∀ language confidence, lastReport? before = some (language, confidence) →
      OnlyGuessed steps language → language ∈ step.settings.supported →
        IsDefault step.settings language

/-! ## One turn -/

variable {step : LanguageStep} {slotMemory : JsonObject} {language : String} {confidence : ℚ}

theorem rewriteLanguage_supported {rt : Runtime} {rewrite : JsonObject} {supported : List String}
    (h : rewriteLanguage rt rewrite supported = .ok (some (language, confidence))) :
    language ∈ supported := by
  unfold rewriteLanguage at h
  dsimp only at h
  split at h
  · rename_i hreported
    split at h
    · rw [← (Prod.mk.inj (Option.some.inj (Except.ok.inj h))).1]
      exact hreported.2.1
    · cases h
  · cases h

theorem LanguageStep.report?_eq_some (h : step.report? = some (language, confidence)) :
    rewriteLanguage step.settings.rt step.turn.rewriteResult step.settings.supported =
      .ok (some (language, confidence)) := by
  unfold LanguageStep.report? at h
  cases hreported : rewriteLanguage step.settings.rt step.turn.rewriteResult
      step.settings.supported with
  | error e =>
      rw [hreported] at h
      cases h
  | ok reported =>
      rw [hreported] at h
      exact congrArg Except.ok h

/-- What is supported is a code. -/
theorem code_of_supported {settings : LanguageSettings} (h : language ∈ settings.supported) :
    language ∈ supportedLanguageCodes ∧ language ≠ "unknown" :=
  (parseSupportedLanguages_spec settings.supportedLanguages).2 language h

theorem normalizeLanguageCode_of_falsy {rt : Runtime} {value : Json}
    (h : value.truthy = false) : normalizeLanguageCode rt value = "unknown" := by
  have htext : value.textOrEmpty rt = "" := by
    simp [Json.textOrEmpty, Json.orElse, h, Json.pyStr]
  have hstrip : strip "" = "" := by decide +kernel
  simp [normalizeLanguageCode, htext, hstrip]

/-- Without metadata the recent messages name no language. -/
theorem inferRecentUserLanguage_eq_none (h : step.NoLanguageMetadata) :
    inferRecentUserLanguage step.settings.rt step.turn.recentMessages = none := by
  unfold inferRecentUserLanguage
  rw [List.find?_eq_none]
  intro code hcode
  obtain ⟨message, hmem, rfl⟩ := List.mem_map.mp hcode
  have hkeys := h message (List.mem_reverse.mp (List.mem_filter.mp hmem).1)
  have hnone : (((getKey message "language").orElse (getKey message "detected_language")).orElse
      (getKey message "reply_language")).truthy = false := by
    simp [Json.orElse, hkeys "language" (by simp), hkeys "detected_language" (by simp),
      hkeys "reply_language" (by simp)]
  simp [messageLanguage, normalizeLanguageCode_of_falsy hnone]

/-- The fallback takes the remembered language, if it is supported, or else the default. -/
theorem fallbackLanguage_fst (h : step.NoLanguageMetadata) (slotMemory : JsonObject) :
    (fallbackLanguage step.settings step.turn slotMemory).1 =
      if rememberedLanguage step.settings.rt slotMemory ∈ step.settings.supported then
        rememberedLanguage step.settings.rt slotMemory
      else step.settings.tenantDefault := by
  unfold fallbackLanguage
  rw [inferRecentUserLanguage_eq_none h]
  by_cases hmem : rememberedLanguage step.settings.rt slotMemory ∈ step.settings.supported
  · simp [hmem, (code_of_supported hmem).2]
  · simp [hmem]

theorem supported_tenantDefault (settings : LanguageSettings) :
    settings.tenantDefault ∈ settings.supported :=
  ensureSupported_mem (parseSupportedLanguages_spec settings.supportedLanguages).1 _ _

theorem mem_supported_of_confident {settings : LanguageSettings} {turn : LanguageTurn}
    {reported : Option (String × ℚ)}
    (hreported : rewriteLanguage settings.rt turn.rewriteResult settings.supported = .ok reported)
    (hconfident : confidentLanguage? settings reported = some language) :
    language ∈ settings.supported := by
  cases reported with
  | none => cases hconfident
  | some report =>
      obtain ⟨reportedLanguage, confidence⟩ := report
      rw [confidentLanguage?] at hconfident
      split at hconfident
      · cases hconfident
        exact rewriteLanguage_supported hreported
      · cases hconfident

/-- A confident report is one that the turn makes. -/
theorem report?_of_confident {reported : Option (String × ℚ)}
    (hreported : rewriteLanguage step.settings.rt step.turn.rewriteResult
      step.settings.supported = .ok reported)
    (hconfident : confidentLanguage? step.settings reported = some language) :
    ∃ confidence, step.report? = some (language, confidence) ∧
      step.settings.minConfidence ≤ confidence := by
  cases reported with
  | none => cases hconfident
  | some report =>
      rw [confidentLanguage?] at hconfident
      split at hconfident
      · rename_i hsure
        obtain rfl := Option.some.inj hconfident
        refine ⟨report.2, ?_, hsure⟩
        rw [LanguageStep.report?, hreported]
        rfl
      · cases hconfident

/-- The reply of a turn that returns, by the report of the rewrite. -/
theorem LanguageStep.reply?_eq (h : step.NoLanguageMetadata) {reported : Option (String × ℚ)}
    (hreported : rewriteLanguage step.settings.rt step.turn.rewriteResult
      step.settings.supported = .ok reported) (slotMemory : JsonObject) :
    step.reply? slotMemory = some ((confidentLanguage? step.settings reported).getD
      (if rememberedLanguage step.settings.rt slotMemory ∈ step.settings.supported then
        rememberedLanguage step.settings.rt slotMemory
      else step.settings.tenantDefault)) := by
  have hkept : ∀ language ∈ step.settings.supported, ensureSupported step.settings.rt language
      step.settings.supported step.settings.fallback = language := by
    intro language hmem
    obtain ⟨hcode, hknown⟩ := code_of_supported hmem
    exact ensureSupported_of_mem hcode hknown hmem _
  have hreply : step.reply? slotMemory = some (ensureSupported step.settings.rt
      (conversationLanguage step.settings step.turn slotMemory reported).1
      step.settings.supported step.settings.fallback) := by
    simp only [LanguageStep.reply?, resolveLanguagePolicy, hreported, bind, Except.bind, pure,
      Except.pure, Except.toOption, Option.map_some]
  rw [hreply, conversationLanguage]
  cases hconfident : confidentLanguage? step.settings reported with
  | some language =>
      rw [hkept language (mem_supported_of_confident hreported hconfident)]
      rfl
  | none =>
      dsimp only [Option.getD_none]
      rw [fallbackLanguage_fst h]
      split
      · rename_i hmem
        rw [hkept _ hmem]
      · rw [hkept _ (supported_tenantDefault _)]

/-- A turn that raises replies nothing. -/
theorem LanguageStep.reply?_eq_none {e : PyError}
    (hreported : rewriteLanguage step.settings.rt step.turn.rewriteResult
      step.settings.supported = .error e) (slotMemory : JsonObject) :
    step.reply? slotMemory = none := by
  unfold LanguageStep.reply? resolveLanguagePolicy
  rw [hreported]
  rfl

/-! ## The memory -/

/-- A report is remembered, however sure it is; without one the memory of the customer's language
stays. -/
theorem lastUserLanguage_execute (hpersist : step.settings.persistToSlotMemory = true)
    (slotMemory : JsonObject) :
    getKey (step.execute slotMemory) "last_user_language" =
      (step.report?.map fun report => Json.str report.1).getD
        (getKey slotMemory "last_user_language") := by
  unfold LanguageStep.execute LanguageStep.report? resolveLanguagePolicy
  cases rewriteLanguage step.settings.rt step.turn.rewriteResult step.settings.supported with
  | error e => rfl
  | ok reported =>
      cases reported with
      | none =>
          change getKey (persistLanguages _ _ none _) _ = _
          rw [persistLanguages, if_pos hpersist, getKey_set, if_neg (by decide)]
          rfl
      | some report =>
          change getKey (persistLanguages _ _ (some report) _) _ = _
          rw [persistLanguages, if_pos hpersist, getKey_set, if_neg (by decide), getKey_set,
            if_pos rfl]
          rfl

theorem runLanguageTurns_concat (slotMemory : JsonObject) (steps : List LanguageStep)
    (step : LanguageStep) :
    runLanguageTurns slotMemory (steps ++ [step]) =
      step.execute (runLanguageTurns slotMemory steps) := by
  simp [runLanguageTurns]

theorem lastReport?_concat (steps : List LanguageStep) (step : LanguageStep) :
    lastReport? (steps ++ [step]) = step.report?.or (lastReport? steps) := by
  unfold lastReport?
  rw [List.filterMap_append]
  cases hreport : step.report? with
  | none => simp [hreport]
  | some report => simp [hreport]

/-- After a run the memory holds the last reported language. -/
theorem lastUserLanguage_runLanguageTurns {steps : List LanguageStep}
    (hpersist : ∀ step ∈ steps, step.settings.persistToSlotMemory = true)
    (hlast : lastReport? steps = some (language, confidence)) :
    getKey (runLanguageTurns slotMemory steps) "last_user_language" = .str language := by
  induction steps using List.reverseRecOn with
  | nil => cases hlast
  | append_singleton steps step ih =>
      rw [runLanguageTurns_concat, lastUserLanguage_execute (hpersist step (by simp))]
      rw [lastReport?_concat] at hlast
      cases hreport : step.report? with
      | some report =>
          rw [hreport] at hlast
          cases hlast
          rfl
      | none =>
          rw [hreport] at hlast
          exact ih (fun other hmem => hpersist other (by simp [hmem])) hlast

/-- What was reported is a code. -/
theorem code_of_lastReport? {steps : List LanguageStep}
    (hlast : lastReport? steps = some (language, confidence)) :
    language ∈ supportedLanguageCodes ∧ language ≠ "unknown" := by
  obtain ⟨step, -, hreport⟩ := List.mem_filterMap.mp (List.mem_of_getLast? hlast)
  exact code_of_supported (rewriteLanguage_supported (LanguageStep.report?_eq_some hreport))

/-- What was reported last is what the next turn remembers. -/
theorem rememberedLanguage_runLanguageTurns {steps : List LanguageStep}
    (hpersist : ∀ step ∈ steps, step.settings.persistToSlotMemory = true)
    (hlast : lastReport? steps = some (language, confidence)) (rt : Runtime) :
    rememberedLanguage rt (runLanguageTurns slotMemory steps) = language := by
  obtain ⟨hcode, -⟩ := code_of_lastReport? hlast
  have hsome : ∀ code ∈ supportedLanguageCodes, code ≠ "" := by decide
  rw [rememberedLanguage, lastUserLanguage_runLanguageTurns hpersist hlast, Json.orElse,
    Json.truthy_str, if_pos (decide_eq_true (hsome language hcode))]
  exact normalizeLanguageCode_of_mem hcode

/-! ## The theorem -/

theorem exists_lastReport? {steps : List LanguageStep}
    (h : ∃ guess ∈ steps, ∃ confidence, guess.report? = some (language, confidence)) :
    ∃ last confidence, lastReport? steps = some (last, confidence) := by
  obtain ⟨guess, hmem, confidence, hreport⟩ := h
  have hsome : steps.filterMap LanguageStep.report? ≠ [] :=
    List.ne_nil_of_mem (List.mem_filterMap.mpr ⟨guess, hmem, hreport⟩)
  exact ⟨_, _, List.getLast?_eq_some_getLast hsome⟩

/-- Guesses are never used exactly when every turn that would take one up finds a surer report
after it, does not support it, or has it as a default. -/
theorem guesses_never_used_iff (slotMemory : JsonObject) (steps : List LanguageStep)
    (hpersist : ∀ step ∈ steps, step.settings.persistToSlotMemory = true)
    (hrecent : ∀ step ∈ steps, step.NoLanguageMetadata) :
    GuessesNeverUsed slotMemory steps ↔ GuessesOverwritten steps := by
  constructor
  · intro hnever before step after hsteps hfalls language confidence hlast honly hmem
    obtain ⟨reported, hreported, hunsure⟩ := hfalls
    have hbefore : ∀ other ∈ before, other.settings.persistToSlotMemory = true :=
      fun other hother => hpersist other (by simp [hsteps, hother])
    have hremembered := @rememberedLanguage_runLanguageTurns slotMemory language confidence before
      hbefore hlast step.settings.rt
    have hreply := LanguageStep.reply?_eq (hrecent step (by simp [hsteps])) hreported
      (runLanguageTurns slotMemory before)
    rw [hunsure, hremembered, if_pos hmem] at hreply
    obtain ⟨guess, hguess, hreport⟩ := List.mem_filterMap.mp (List.mem_of_getLast? hlast)
    exact hnever before step after hsteps language ⟨guess, hguess, confidence, hreport⟩ honly hreply
  · intro hoverwritten before step after hsteps language hguess honly hreply
    obtain ⟨last, confidence, hlast⟩ := exists_lastReport? hguess
    have hbefore : ∀ other ∈ before, other.settings.persistToSlotMemory = true :=
      fun other hother => hpersist other (by simp [hsteps, hother])
    cases hreported : rewriteLanguage step.settings.rt step.turn.rewriteResult
        step.settings.supported with
    | error e =>
        rw [LanguageStep.reply?_eq_none hreported] at hreply
        cases hreply
    | ok reported =>
        rw [LanguageStep.reply?_eq (hrecent step (by simp [hsteps])) hreported,
          @rememberedLanguage_runLanguageTurns slotMemory last confidence before hbefore hlast]
          at hreply
        cases hconfident : confidentLanguage? step.settings reported with
        | some sure =>
            -- a sure report of the language contradicts that it was only guessed
            rw [hconfident, Option.getD_some] at hreply
            obtain rfl := Option.some.inj hreply
            obtain ⟨certain, hreport, hsure⟩ := report?_of_confident hreported hconfident
            exact absurd (honly step (by simp [hsteps]) certain hreport) (not_lt.mpr hsure)
        | none =>
            rw [hconfident, Option.getD_none] at hreply
            by_cases hmem : last ∈ step.settings.supported
            · rw [if_pos hmem] at hreply
              obtain rfl := Option.some.inj hreply
              exact hoverwritten before step after hsteps ⟨reported, hreported, hconfident⟩ last
                confidence hlast honly hmem
            · rw [if_neg hmem] at hreply
              exact .inl (Option.some.inj hreply).symm

/-- A tenant that replies in Spanish and supports Tagalog. -/
def spanishTenant : LanguageSettings where
  rt := .plain
  tenantDefaultLanguage := "es"
  supportedLanguages := .items ["es", "tl"]
  minConfidence := 7 / 10
  fallbackLanguage := "es"
  persistToSlotMemory := true

/-- A turn whose rewrite reports Tagalog with some confidence. -/
def tagalogTurn (confidence : ℚ) (repr : String) : LanguageStep :=
  ⟨spanishTenant, some "salamat",
    Dict.ofList [("detected_language", .str "tl"), ("source", .str "llm_rewrite"),
      ("language_confidence", .float confidence repr)], []⟩

/-- A turn whose rewrite reports nothing. -/
def silentTurn : LanguageStep := ⟨spanishTenant, some "ok", ∅, []⟩

/-- One uncertain guess switches the conversation to Tagalog. -/
theorem guessed_language_used :
    (∀ step ∈ [tagalogTurn (3 / 10) "0.3", silentTurn],
        step.settings.persistToSlotMemory = true ∧ step.NoLanguageMetadata) ∧
      ¬GuessesNeverUsed ∅ [tagalogTurn (3 / 10) "0.3", silentTurn] := by
  have hreport : (tagalogTurn (3 / 10) "0.3").report? = some ("tl", 3 / 10) := by decide +kernel
  have hsilent : silentTurn.report? = none := by decide +kernel
  have hreply : silentTurn.reply? (runLanguageTurns ∅ [tagalogTurn (3 / 10) "0.3"]) =
      some "tl" := by decide +kernel
  have hdefaults : "tl" ≠ spanishTenant.tenantDefault ∧ "tl" ≠ spanishTenant.fallback := by
    decide +kernel
  refine ⟨by simp [LanguageStep.NoLanguageMetadata, tagalogTurn, silentTurn, spanishTenant],
    fun hnever => ?_⟩
  refine (hnever [_] silentTurn [] rfl "tl" ⟨_, List.mem_singleton_self _, _, hreport⟩ ?_
    hreply).elim hdefaults.1 hdefaults.2
  intro step hstep confidence hguess
  rcases List.mem_cons.mp hstep with rfl | hstep
  · rw [hreport] at hguess
    rw [← (Prod.mk.inj (Option.some.inj hguess)).2]
    change (3 / 10 : ℚ) < 7 / 10
    norm_num
  · rw [List.mem_singleton.mp hstep, hsilent] at hguess
    cases hguess

/-- A conversation of a sure report and a turn without one. -/
theorem guesses_never_used_sure :
    (∀ step ∈ [tagalogTurn (9 / 10) "0.9", silentTurn],
        step.settings.persistToSlotMemory = true) ∧
      (∀ step ∈ [tagalogTurn (9 / 10) "0.9", silentTurn], step.NoLanguageMetadata) ∧
      (GuessesNeverUsed ∅ [tagalogTurn (9 / 10) "0.9", silentTurn] ↔
        GuessesOverwritten [tagalogTurn (9 / 10) "0.9", silentTurn]) := by
  have hpersist : ∀ step ∈ [tagalogTurn (9 / 10) "0.9", silentTurn],
      step.settings.persistToSlotMemory = true := by
    simp [tagalogTurn, silentTurn, spanishTenant]
  have hrecent : ∀ step ∈ [tagalogTurn (9 / 10) "0.9", silentTurn], step.NoLanguageMetadata := by
    simp [LanguageStep.NoLanguageMetadata, tagalogTurn, silentTurn]
  exact ⟨hpersist, hrecent, guesses_never_used_iff ∅ _ hpersist hrecent⟩

end AiCustomerService
