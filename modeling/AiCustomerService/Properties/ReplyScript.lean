import AiCustomerService.Services.FinalReply

/-!
# Replies in the wrong script

`language_guard` refuses a text of a model in the wrong script, and puts a prepared text in its
place that nobody checks.  In Chinese that text has been moved to the script of the customer; in
any other language it stays as the workflow wrote it.  The text of a stream is not refused.
-/

namespace AiCustomerService

open Support

/-! ## Stripped texts -/

theorem isCjk_of_isPySpace {c : Char} (h : isPySpace c = true) : isCjk c = false := by
  simp only [isPySpace, decide_eq_true_eq] at h
  simp only [isCjk, Bool.or_eq_false_iff, Bool.and_eq_false_iff, decide_eq_false_iff_not]
  omega

theorem mem_of_mem_strip {text : String} {c : Char} (h : c ∈ (strip text).toList) :
    c ∈ text.toList := by
  rw [strip, String.toList_ofList, List.mem_reverse] at h
  exact (List.dropWhile_suffix isPySpace).subset
    (List.mem_reverse.mp ((List.dropWhile_suffix isPySpace).subset h))

theorem mem_dropWhile {accepts : Char → Bool} {text : List Char} {c : Char} (h : c ∈ text)
    (hc : accepts c = false) : c ∈ text.dropWhile accepts := by
  rw [← List.takeWhile_append_dropWhile (p := accepts) (l := text)] at h
  rcases List.mem_append.mp h with htaken | hdropped
  · rw [List.mem_takeWhile_imp htaken] at hc
    cases hc
  · exact hdropped

theorem mem_strip {text : String} {c : Char} (h : c ∈ text.toList) (hc : isPySpace c = false) :
    c ∈ (strip text).toList := by
  rw [strip, String.toList_ofList, List.mem_reverse]
  exact mem_dropWhile (List.mem_reverse.mpr (mem_dropWhile h hc)) hc

/-! ## Languages and their characters -/

@[simp]
theorem normalizeLanguageCode_idempotent (rt : Runtime) (value : Json) :
    normalizeLanguageCode rt (.str (normalizeLanguageCode rt value)) =
      normalizeLanguageCode rt value :=
  normalizeLanguageCode_of_mem (normalizeLanguageCode_mem rt value)

theorem isForeignTo_hans : isForeignTo "zh-Hans" = traditionalMarkers.contains := rfl

theorem isForeignTo_hant : isForeignTo "zh-Hant" = simplifiedMarkers.contains := rfl

/-- The characters that a language excludes are those of one of four kinds. -/
theorem isForeignTo_kind (language : String) :
    (language = "zh-Hans" ∧ isForeignTo language = traditionalMarkers.contains) ∨
      (language = "zh-Hant" ∧ isForeignTo language = simplifiedMarkers.contains) ∨
      (language = "unknown" ∧ isForeignTo language = fun _ => false) ∨
      (language ∉ ["zh-Hans", "zh-Hant", "unknown"] ∧ isForeignTo language = isCjk) := by
  by_cases hhans : language = "zh-Hans"
  · subst hhans
    exact .inl ⟨rfl, isForeignTo_hans⟩
  · by_cases hhant : language = "zh-Hant"
    · subst hhant
      exact .inr (.inl ⟨rfl, isForeignTo_hant⟩)
    · by_cases hunknown : language = "unknown"
      · subst hunknown
        exact .inr (.inr (.inl ⟨rfl, rfl⟩))
      · refine .inr (.inr (.inr ⟨by simp [hhans, hhant, hunknown], ?_⟩))
        funext c
        simp [isForeignTo]

/-! ## Tables -/

/-- A table that moves every character of a kind to one that is not of it. -/
structure Removes (table : List (Char × Char)) (markers : List Char) : Prop where
  keys : (markers.all fun c => (table.lookup c).isSome) = true
  values : (table.all fun entry => !markers.contains entry.2) = true

theorem Removes.free {table : List (Char × Char)} {markers : List Char}
    (h : Removes table markers) (text : String) {c : Char}
    (hc : c ∈ (translateText table text).toList) : markers.contains c = false := by
  rw [translateText, String.toList_ofList] at hc
  obtain ⟨d, -, rfl⟩ := List.mem_map.mp hc
  cases hfound : table.lookup d with
  | none =>
      rw [Option.getD_none, ← Bool.not_eq_true]
      intro hmarker
      have hkey := List.all_eq_true.mp h.keys d (List.contains_iff_mem.mp hmarker)
      rw [hfound] at hkey
      cases hkey
  | some e =>
      obtain ⟨before, after, hlist, -⟩ := List.lookup_eq_some_iff.mp hfound
      have hentry : (d, e) ∈ table := by rw [hlist]; simp
      simpa using List.all_eq_true.mp h.values _ hentry

/-- The kinds of characters that the languages exclude. -/
def scriptKinds : List (Char → Bool) :=
  [traditionalMarkers.contains, simplifiedMarkers.contains, fun _ => false, isCjk]

theorem isForeignTo_mem_scriptKinds (language : String) :
    isForeignTo language ∈ scriptKinds := by
  obtain ⟨-, hkind⟩ | ⟨-, hkind⟩ | ⟨-, hkind⟩ | ⟨-, hkind⟩ := isForeignTo_kind language
  · simp [scriptKinds, hkind]
  · simp [scriptKinds, hkind]
  · simp [scriptKinds, hkind]
  · simp [scriptKinds, hkind]

/-- What the tables say of the characters that they bring into a text: a label that brings one of a
kind has one and brings a Chinese one, a phrase is Latin and brings none of any kind. -/
structure TablesFit : Prop where
  traditional : Removes traditionalToSimplified traditionalMarkers
  simplified : Removes simplifiedToTraditional simplifiedMarkers
  traditionalVisible : (traditionalToSimplified.all fun entry => !isPySpace entry.2) = true
  simplifiedVisible : (simplifiedToTraditional.all fun entry => !isPySpace entry.2) = true
  labels : (internalLabels.all fun label =>
    (scriptKinds.all fun kind => label.1.toList.any kind || !label.2.toList.any kind) &&
      label.2.toList.any isCjk) = true
  phrases : (internalPhrases.all fun phrase =>
    (scriptKinds.all fun kind => !phrase.2.toList.any kind) &&
      phrase.1.toList.all fun c => decide (c.toNat < 128)) = true

theorem tablesFit : TablesFit where
  traditional := ⟨by decide +kernel, by decide +kernel⟩
  simplified := ⟨by decide +kernel, by decide +kernel⟩
  traditionalVisible := by decide +kernel
  simplifiedVisible := by decide +kernel
  labels := by decide +kernel
  phrases := by decide +kernel

/-! ## Moving a text to a script -/

theorem adaptChineseScript_hans (rt : Runtime) (text : String) :
    adaptChineseScript rt text (.str "zh-Hans") = translateText traditionalToSimplified text := by
  rw [adaptChineseScript, normalizeLanguageCode_of_mem (by decide)]
  rfl

theorem adaptChineseScript_hant (rt : Runtime) (text : String) :
    adaptChineseScript rt text (.str "zh-Hant") = translateText simplifiedToTraditional text := by
  rw [adaptChineseScript, normalizeLanguageCode_of_mem (by decide)]
  rfl

/-- A Chinese text has been moved to the script of its language. -/
theorem adaptChineseScript_free {rt : Runtime} {language : String}
    (h : language ∈ ["zh-Hans", "zh-Hant"]) (text : String) {c : Char}
    (hc : c ∈ (adaptChineseScript rt text (.str language)).toList) :
    isForeignTo language c = false := by
  rcases List.mem_cons.mp h with rfl | h
  · rw [adaptChineseScript_hans] at hc
    rw [isForeignTo_hans]
    exact tablesFit.traditional.free text hc
  · obtain rfl := List.mem_singleton.mp h
    rw [adaptChineseScript_hant] at hc
    rw [isForeignTo_hant]
    exact tablesFit.simplified.free text hc

theorem adaptChineseScript_other {rt : Runtime} {language : String}
    (h : language ∈ supportedLanguageCodes) (hhans : language ≠ "zh-Hans")
    (hhant : language ≠ "zh-Hant") (text : String) :
    adaptChineseScript rt text (.str language) = text := by
  simp [adaptChineseScript, normalizeLanguageCode_of_mem h]

/-! ## Labels -/

/-- Without case, a Latin letter or a space is no Chinese character. -/
def PatternTables.KeepsLatin (tables : PatternTables) : Prop :=
  ∀ letter c, letter.toNat < 128 → tables.sameLetter letter c = true → isCjk c = false

theorem neverIn_or_free {kind : Char → Bool} (h : kind ∈ scriptKinds) {tables : PatternTables}
    {label : Regex Char × List Char} (hlabel : label ∈ labelSubstitutions tables) :
    label.1.NeverIn (kind · = false) ∨ ∀ c ∈ label.2, kind c = false := by
  rcases List.mem_append.mp hlabel with hlabel | hphrase
  · obtain ⟨entry, hentry, rfl⟩ := List.mem_map.mp hlabel
    have hkinds := (Bool.and_eq_true_iff.mp (List.all_eq_true.mp tablesFit.labels entry hentry)).1
    rcases Bool.or_eq_true_iff.mp (List.all_eq_true.mp hkinds kind h) with hold | hnew
    · obtain ⟨c, hc, hkind⟩ := List.any_eq_true.mp hold
      exact .inl (Regex.neverIn_exact hc (by simp [hkind]))
    · exact .inr (by simpa using hnew)
  · obtain ⟨entry, hentry, rfl⟩ := List.mem_map.mp hphrase
    have hkinds :=
      (Bool.and_eq_true_iff.mp (List.all_eq_true.mp tablesFit.phrases entry hentry)).1
    exact .inr (by simpa using List.all_eq_true.mp hkinds kind h)

/-- No label brings a character of the kind into a text that has none. -/
theorem sanitizeInternalLabels_free {kind : Char → Bool} (h : kind ∈ scriptKinds)
    (tables : PatternTables) {text : String} (htext : ∀ c ∈ text.toList, kind c = false) :
    ∀ c ∈ (sanitizeInternalLabels tables text).toList, kind c = false := by
  rw [sanitizeInternalLabels, String.toList_ofList]
  refine List.foldlRecOn (motive := fun text => ∀ c ∈ text, kind c = false)
    (labelSubstitutions tables) _ htext fun text hfree label hlabel c hc => ?_
  rcases neverIn_or_free h hlabel with hnever | hnew
  · rw [Regex.substitute, Regex.substituteFrom_of_never hnever hfree] at hc
    exact hfree c hc
  · exact (Regex.mem_substitute hc).elim (hfree c) (hnew c)

theorem avoids_phrase {tables : PatternTables} (h : tables.KeepsLatin) {text : String}
    (htext : (text.toList.all fun c => decide (c.toNat < 128)) = true) :
    (tables.wholeWords (tables.phrase text)).Avoids (isCjk · = true) := by
  have hspaces : PatternTables.spaces.Avoids (isCjk · = true) :=
    ⟨fun c hc => by simp [isCjk_of_isPySpace hc], fun c hc => by simp [isCjk_of_isPySpace hc]⟩
  have hphrase : (tables.phrase text).Avoids (isCjk · = true) := by
    unfold PatternTables.phrase
    revert htext
    generalize text.toList = chars
    intro hchars
    induction chars with
    | nil => exact trivial
    | cons letter rest ih =>
        rw [List.all_cons, Bool.and_eq_true_iff] at hchars
        refine ⟨?_, ih hchars.2⟩
        dsimp only
        split
        · exact hspaces
        · exact fun c hc => by simp [h letter c (of_decide_eq_true hchars.1) hc]
  exact ⟨trivial, hphrase, trivial, trivial⟩

/-- A Chinese character of a text leaves one behind. -/
theorem exists_cjk_sanitizeInternalLabels {tables : PatternTables} (h : tables.KeepsLatin)
    {text : String} (htext : ∃ c ∈ text.toList, isCjk c = true) :
    ∃ c ∈ (sanitizeInternalLabels tables text).toList, isCjk c = true := by
  rw [sanitizeInternalLabels, String.toList_ofList]
  refine List.foldlRecOn (motive := fun text => ∃ c ∈ text, isCjk c = true)
    (labelSubstitutions tables) _ htext fun text hcjk label hlabel => ?_
  rcases List.mem_append.mp hlabel with hlabel | hphrase
  · obtain ⟨entry, hentry, rfl⟩ := List.mem_map.mp hlabel
    have hnew := (Bool.and_eq_true_iff.mp (List.all_eq_true.mp tablesFit.labels entry hentry)).2
    exact Regex.exists_mem_substitute (List.any_eq_true.mp hnew) hcjk
  · obtain ⟨entry, hentry, rfl⟩ := List.mem_map.mp hphrase
    have hold :=
      (Bool.and_eq_true_iff.mp (List.all_eq_true.mp tablesFit.phrases entry hentry)).2
    obtain ⟨c, hc, hkind⟩ := hcjk
    exact ⟨c, Regex.mem_substitute_of_avoids (avoids_phrase h hold) hc hkind, hkind⟩

theorem isCjk_sanitizeInternalLabels {tables : PatternTables} (h : tables.KeepsLatin)
    (text : String) :
    (sanitizeInternalLabels tables text).toList.any isCjk = text.toList.any isCjk := by
  rw [Bool.eq_iff_iff, List.any_eq_true, List.any_eq_true]
  refine ⟨fun hcjk => ?_, exists_cjk_sanitizeInternalLabels h⟩
  by_contra hnone
  push Not at hnone
  obtain ⟨c, hc, hkind⟩ := hcjk
  have hfree := sanitizeInternalLabels_free
    (show isCjk ∈ scriptKinds by simp [scriptKinds]) tables
    (fun d hd => Bool.eq_false_iff.mpr (hnone d hd)) c hc
  rw [hfree] at hkind
  cases hkind

namespace FinalReplySettings

variable {settings : FinalReplySettings} {s : NodeState}

/-! ## Prepared texts -/

theorem targetReplyLanguage_of_known
    (h : normalizeLanguageCode settings.rt (s.get "reply_language") ≠ "unknown") :
    settings.targetReplyLanguage s =
      normalizeLanguageCode settings.rt (s.get "reply_language") := by
  rw [targetReplyLanguage, if_pos h]

theorem checkedReplyLanguage_of_known
    (h : normalizeLanguageCode settings.rt (s.get "reply_language") ≠ "unknown") :
    settings.checkedReplyLanguage s =
      normalizeLanguageCode settings.rt (s.get "reply_language") := by
  rw [checkedReplyLanguage, if_pos h]

/-- A prepared text that is put into the right script: the customer writes in Chinese, or the text
has no Chinese character. -/
def TextFits (settings : FinalReplySettings) (s : NodeState) (text : String) : Prop :=
  normalizeLanguageCode settings.rt (s.get "reply_language") ∈ ["zh-Hans", "zh-Hant"] ∨
    text.toList.any isCjk = false

theorem any_strip_isCjk (text : String) :
    (strip text).toList.any isCjk = text.toList.any isCjk := by
  rw [Bool.eq_iff_iff, List.any_eq_true, List.any_eq_true]
  constructor
  · rintro ⟨c, hc, hkind⟩
    exact ⟨c, mem_of_mem_strip hc, hkind⟩
  · rintro ⟨c, hc, hkind⟩
    have hspace : isPySpace c = false := by
      by_contra hspace
      rw [isCjk_of_isPySpace (Bool.eq_true_of_not_eq_false hspace)] at hkind
      cases hkind
    exact ⟨c, mem_strip hc hspace, hkind⟩

theorem isForeignTo_other {language : String} (hmem : language ∉ ["zh-Hans", "zh-Hant"])
    (hknown : language ≠ "unknown") : isForeignTo language = isCjk := by
  obtain ⟨rfl, -⟩ | ⟨rfl, -⟩ | ⟨rfl, -⟩ | ⟨-, hkind⟩ := isForeignTo_kind language
  · exact absurd (by decide) hmem
  · exact absurd (by decide) hmem
  · exact absurd rfl hknown
  · exact hkind

/-- What `compose` and the streaming make of a prepared text: `label` takes no foreign character
in, and no Chinese one out. -/
theorem adapted_fits_iff
    (hknown : normalizeLanguageCode settings.rt (s.get "reply_language") ≠ "unknown")
    {label : String → String}
    (hfree : ∀ text language, text.toList.any (isForeignTo language) = false →
      (label text).toList.any (isForeignTo language) = false)
    (hcjk : ∀ text, (label text).toList.any isCjk = text.toList.any isCjk) (text : String) :
    (strip (label (adaptChineseScript settings.rt text
        (.str (settings.targetReplyLanguage s))))).toList.any
      (isForeignTo (normalizeLanguageCode settings.rt (s.get "reply_language"))) = false ↔
    settings.TextFits s text := by
  rw [targetReplyLanguage_of_known hknown, TextFits]
  have hcode := normalizeLanguageCode_mem settings.rt (s.get "reply_language")
  generalize normalizeLanguageCode settings.rt (s.get "reply_language") = language at *
  by_cases hmem : language ∈ ["zh-Hans", "zh-Hant"]
  · have hadapted : (adaptChineseScript settings.rt text (.str language)).toList.any
        (isForeignTo language) = false :=
      List.any_eq_false.mpr fun c hc => by simp [adaptChineseScript_free hmem text hc]
    have hlabel := List.any_eq_false.mp (hfree _ _ hadapted)
    exact iff_of_true (List.any_eq_false.mpr fun c hc => hlabel c (mem_of_mem_strip hc))
      (.inl hmem)
  · have hsame := @adaptChineseScript_other settings.rt language hcode (fun h => hmem (by simp [h]))
      (fun h => hmem (by simp [h])) text
    rw [isForeignTo_other hmem hknown, any_strip_isCjk, hcjk, hsame, or_iff_right hmem]

/-! ## Composed replies -/

/-- An answer of a provider whose text is published: it is there, and no guard refuses it. -/
def Acceptable (settings : FinalReplySettings) (s : NodeState) (answer : Json) : Prop :=
  ∃ output violations, answer.mappingOrEmpty = .ok output ∧
    normalizeText settings.rt (getKey output "text") ≠ "" ∧
    settings.validateFinalReplyOutput s output = .ok violations ∧
    violations.any languageGuards.contains = false

/-- A provider answers, and its text is published. -/
def TakesModelText (settings : FinalReplySettings) (service : FinalReplyService) (s : NodeState) :
    Prop :=
  service.enabled = true ∧ ∃ provider answer, service.provider = some provider ∧
    settings.providerOutput service provider s = .ok answer ∧ settings.Acceptable s answer

theorem checkedReply_cases {service : FinalReplyService} {answer : Json} {reply : ComposedReply}
    (h : settings.checkedReply service s answer = .ok reply) :
    (¬settings.Acceptable s answer ∧ ∃ reason violations error metadata,
      reply = settings.fallbackReply service s reason violations error metadata) ∨
    (settings.Acceptable s answer ∧ ∃ output violations,
      settings.validateFinalReplyOutput s output = .ok violations ∧
      violations.any languageGuards.contains = false ∧
      normalizeText settings.rt (getKey output "text") ≠ "" ∧
      reply.finalText = .str (normalizeText settings.rt (getKey output "text"))) := by
  obtain ⟨output, houtput, h⟩ := bind_eq_ok.mp h
  obtain ⟨confidence, -, h⟩ := bind_eq_ok.mp h
  dsimp only at h
  split at h
  · rename_i hempty
    refine .inl ⟨?_, "empty_model_text", [], none, [], (Except.ok.inj h).symm⟩
    rintro ⟨other, violations, hother, htext, -⟩
    obtain rfl := Except.ok.inj (houtput.symm.trans hother)
    exact htext hempty
  · rename_i htext
    obtain ⟨violations, hviolations, h⟩ := bind_eq_ok.mp h
    split at h
    · rename_i hguard
      refine .inl ⟨?_, "language_guard", violations, none, _, (Except.ok.inj h).symm⟩
      rintro ⟨other, others, hother, -, hothers, hfree⟩
      obtain rfl := Except.ok.inj (houtput.symm.trans hother)
      obtain rfl := Except.ok.inj (hviolations.symm.trans hothers)
      rw [hguard] at hfree
      cases hfree
    · rename_i hguard
      have hfree := Bool.eq_false_iff.mpr hguard
      obtain ⟨result, -, h⟩ := bind_eq_ok.mp h
      cases h
      exact .inr ⟨⟨output, violations, houtput, htext, hviolations, hfree⟩, output, violations,
        hviolations, hfree, htext, rfl⟩

/-- The exits of `compose`. -/
theorem compose_cases {service : FinalReplyService} {reply : ComposedReply}
    (h : settings.compose service s = .ok reply) :
    (settings.fallbackText s = "" ∧ reply.finalText = .null) ∨
    (¬settings.TakesModelText service s ∧ ∃ reason violations error metadata,
      reply = settings.fallbackReply service s reason violations error metadata) ∨
    (settings.TakesModelText service s ∧ ∃ output violations,
      settings.validateFinalReplyOutput s output = .ok violations ∧
      violations.any languageGuards.contains = false ∧
      normalizeText settings.rt (getKey output "text") ≠ "" ∧
      reply.finalText = .str (normalizeText settings.rt (getKey output "text"))) := by
  unfold compose at h
  split at h
  · rename_i hempty
    cases h
    exact .inl ⟨hempty, rfl⟩
  · split at h
    · rename_i hdisabled
      refine .inr (.inl ⟨?_, "disabled", [], none, [], (Except.ok.inj h).symm⟩)
      rintro ⟨henabled, -⟩
      simp [henabled] at hdisabled
    · rename_i henabled
      split at h
      · rename_i hnone
        refine .inr (.inl ⟨?_, "missing_provider", [], none, [], (Except.ok.inj h).symm⟩)
        rintro ⟨-, provider, answer, hsome, -⟩
        rw [hnone] at hsome
        cases hsome
      · rename_i provider hprovider
        split at h
        · rename_i failure hfailed
          refine .inr (.inl ⟨?_, failure.reason, [], some failure.error, failure.metadata,
            (Except.ok.inj h).symm⟩)
          rintro ⟨-, other, answer, hsome, hanswer, -⟩
          obtain rfl := Option.some.inj (hprovider.symm.trans hsome)
          rw [hfailed] at hanswer
          cases hanswer
        · rename_i answer hanswer
          rcases checkedReply_cases h with ⟨hrefused, hreply⟩ | ⟨htaken, hreply⟩
          · refine .inr (.inl ⟨?_, hreply⟩)
            rintro ⟨-, other, others, hsome, hothers, hacceptable⟩
            obtain rfl := Option.some.inj (hprovider.symm.trans hsome)
            obtain rfl := Except.ok.inj (hanswer.symm.trans hothers)
            exact hrefused hacceptable
          · exact .inr (.inr ⟨⟨by simpa using henabled, provider, answer, hprovider, hanswer,
              htaken⟩, hreply⟩)

/-- A text that no guard refuses is in the right script. -/
theorem script_of_unguarded
    (hknown : normalizeLanguageCode settings.rt (s.get "reply_language") ≠ "unknown")
    {output : JsonObject} {violations : List String}
    (h : settings.validateFinalReplyOutput s output = .ok violations)
    (htext : normalizeText settings.rt (getKey output "text") ≠ "")
    (hfree : violations.any languageGuards.contains = false) :
    chineseScriptMismatch settings.rt (.str (normalizeText settings.rt (getKey output "text")))
      (s.get "reply_language") = false := by
  unfold validateFinalReplyOutput at h
  dsimp only at h
  rw [if_neg htext] at h
  obtain ⟨others, -, h⟩ := bind_eq_ok.mp h
  by_contra hmismatch
  have hscript : chineseScriptMismatch settings.rt
      (.str (normalizeText settings.rt (getKey output "text")))
      (.str (settings.checkedReplyLanguage s)) = true := by
    rw [chineseScriptMismatch, checkedReplyLanguage_of_known hknown,
      normalizeLanguageCode_idempotent, ← chineseScriptMismatch]
    exact Bool.eq_true_of_not_eq_false hmismatch
  rw [if_pos hscript] at h
  have hviolation : "language_script_mismatch" ∈ violations := by
    rw [← Except.ok.inj h, mem_sortedTexts]
    simp
  have hguard := List.any_eq_false.mp hfree _ hviolation
  exact hguard (by decide)

/-! ## The scripts of the replies -/

theorem any_sanitize_isForeignTo (tables : PatternTables) (text language : String)
    (h : text.toList.any (isForeignTo language) = false) :
    (sanitizeInternalLabels tables text).toList.any (isForeignTo language) = false := by
  have hfree := sanitizeInternalLabels_free (isForeignTo_mem_scriptKinds language) tables
    (fun c hc => Bool.eq_false_iff.mpr (List.any_eq_false.mp h c hc))
  exact List.any_eq_false.mpr fun c hc => by simp [hfree c hc]

theorem chineseScriptMismatch_str (rt : Runtime) (text : String) (language : Json) :
    chineseScriptMismatch rt (.str text) language =
      text.toList.any (isForeignTo (normalizeLanguageCode rt language)) := by
  rw [chineseScriptMismatch, Json.textOrEmpty_str]

theorem chineseScriptMismatch_null (rt : Runtime) (language : Json) :
    chineseScriptMismatch rt .null language = false := rfl

theorem fallbackText_fits_iff (hletters : settings.tables.KeepsLatin)
    (hknown : normalizeLanguageCode settings.rt (s.get "reply_language") ≠ "unknown") :
    chineseScriptMismatch settings.rt (.str (settings.fallbackText s)) (s.get "reply_language") =
        false ↔
      settings.TextFits s (settings.fallbackTextRaw s) := by
  rw [chineseScriptMismatch_str, fallbackText]
  exact adapted_fits_iff hknown (any_sanitize_isForeignTo settings.tables)
    (isCjk_sanitizeInternalLabels hletters) (settings.fallbackTextRaw s)

theorem streamFallback_fits_iff
    (hknown : normalizeLanguageCode settings.rt (s.get "reply_language") ≠ "unknown") :
    chineseScriptMismatch settings.rt (.str (settings.streamFallback s))
        (s.get "reply_language") = false ↔
      settings.TextFits s (settings.streamFallbackRaw s) := by
  have hfits := @adapted_fits_iff settings s hknown (fun text => text) (fun _ _ h => h)
    (fun _ => rfl) (settings.streamFallbackRaw s)
  rw [chineseScriptMismatch_str, streamFallback]
  exact hfits

theorem composed_script_iff (hletters : settings.tables.KeepsLatin)
    (hknown : normalizeLanguageCode settings.rt (s.get "reply_language") ≠ "unknown")
    {service : FinalReplyService} {reply : ComposedReply}
    (h : settings.compose service s = .ok reply) :
    chineseScriptMismatch settings.rt reply.finalText (s.get "reply_language") = false ↔
      settings.TakesModelText service s ∨ service.fallbackEnabled = false ∨
        settings.TextFits s (settings.fallbackTextRaw s) := by
  rcases compose_cases h with ⟨hempty, hfinal⟩ | ⟨hrefused, reason, violations, error, metadata,
    rfl⟩ | ⟨htaken, output, violations, hviolations, hfree, htext, hfinal⟩
  · rw [hfinal, chineseScriptMismatch_null]
    refine iff_of_true rfl (.inr (.inr ((fallbackText_fits_iff hletters hknown).mp ?_)))
    rw [hempty]
    rfl
  · rw [or_iff_right hrefused, fallbackReply]
    dsimp only
    cases henabled : service.fallbackEnabled with
    | false =>
        rw [if_neg Bool.false_ne_true, chineseScriptMismatch_null]
        simp
    | true =>
        rw [if_pos rfl, fallbackText_fits_iff hletters hknown]
        simp
  · rw [hfinal]
    exact iff_of_true (script_of_unguarded hknown hviolations htext hfree) (.inl htaken)

/-! ## Streamed replies -/

theorem strip_eq_empty_iff {text : String} :
    strip text = "" ↔ ∀ c ∈ text.toList, isPySpace c = true := by
  constructor
  · intro hempty c hc
    by_contra hspace
    have hmem := mem_strip hc (Bool.eq_false_iff.mpr hspace)
    rw [hempty] at hmem
    cases hmem
  · intro hspaces
    have hdropped : text.toList.dropWhile isPySpace = [] := List.dropWhile_eq_nil_iff.mpr hspaces
    rw [strip, hdropped]
    rfl

theorem visible_translateText {table : List (Char × Char)}
    (h : (table.all fun entry => !isPySpace entry.2) = true) {text : String}
    (hempty : strip (translateText table text) = "") : strip text = "" := by
  rw [strip_eq_empty_iff] at hempty ⊢
  intro c hc
  by_contra hspace
  have hmem : (table.lookup c).getD c ∈ (translateText table text).toList := by
    rw [translateText, String.toList_ofList]
    exact List.mem_map_of_mem hc
  have hmoved := hempty _ hmem
  cases hfound : table.lookup c with
  | none =>
      rw [hfound, Option.getD_none] at hmoved
      exact hspace hmoved
  | some d =>
      rw [hfound, Option.getD_some] at hmoved
      obtain ⟨before, after, hlist, -⟩ := List.lookup_eq_some_iff.mp hfound
      have hentry : (c, d) ∈ table := by rw [hlist]; simp
      simpa [hmoved] using List.all_eq_true.mp h _ hentry

theorem visible_adaptChineseScript {rt : Runtime} {text : String} {language : Json}
    (hempty : strip (adaptChineseScript rt text language) = "") : strip text = "" := by
  unfold adaptChineseScript at hempty
  split at hempty
  · exact visible_translateText tablesFit.traditionalVisible hempty
  · exact visible_translateText tablesFit.simplifiedVisible hempty
  · exact hempty

theorem streamFallback_eq_empty_iff :
    settings.streamFallback s = "" ↔ settings.streamFallbackRaw s = "" := by
  constructor
  · intro hempty
    have hraw := visible_adaptChineseScript hempty
    rwa [streamFallbackRaw, normalizeText, strip_strip] at hraw
  · intro hraw
    rw [streamFallback, hraw, adaptChineseScript]
    split <;> rfl

/-- What the model has streamed is put into the right script, or the prepared text when it is
empty. -/
def StreamFits (settings : FinalReplySettings) (s : NodeState) (texts : List String) : Prop :=
  if settings.normalizeStreamedText (String.join texts) = "" then
    settings.TextFits s (settings.streamFallbackRaw s)
  else ∀ c ∈ (settings.normalizeStreamedText (String.join texts)).toList,
    isForeignTo (normalizeLanguageCode settings.rt (s.get "reply_language")) c = false

theorem streamed_script_iff
    (hknown : normalizeLanguageCode settings.rt (s.get "reply_language") ≠ "unknown")
    {chunks : Except PyError (List String)} {reply : ComposedReply}
    (h : settings.streamFinalReply chunks s = .ok reply) :
    chineseScriptMismatch settings.rt reply.finalText (s.get "reply_language") = false ↔
      settings.streamFallbackRaw s = "" ∨
        ∃ texts, chunks = .ok texts ∧ settings.StreamFits s texts := by
  unfold streamFinalReply at h
  dsimp only at h
  split at h
  · rename_i hempty
    cases h
    exact iff_of_true rfl (.inl (streamFallback_eq_empty_iff.mp hempty))
  · rename_i hprepared
    obtain ⟨texts, hchunks, h⟩ := bind_eq_ok.mp h
    have hfits : (∃ streamed, chunks = .ok streamed ∧ settings.StreamFits s streamed) ↔
        settings.StreamFits s texts := by
      rw [hchunks]
      simp
    rw [or_iff_right (mt streamFallback_eq_empty_iff.mpr hprepared), hfits, StreamFits]
    split at h
    · rename_i hnone
      cases h
      rw [if_pos hnone, streamFallback_fits_iff hknown]
    · rename_i htext
      obtain ⟨violations, -, h⟩ := bind_eq_ok.mp h
      obtain ⟨result, -, h⟩ := bind_eq_ok.mp h
      cases h
      rw [if_neg htext, chineseScriptMismatch_str, List.any_eq_false]
      simp

/-- `compose` brings a text in the wrong script exactly when a prepared text with Chinese
characters stands in for the model's and the language is another one; a stream also brings what
the model writes. -/
theorem reply_script_iff (settings : FinalReplySettings) (hletters : settings.tables.KeepsLatin)
    (s : NodeState)
    (hknown : normalizeLanguageCode settings.rt (s.get "reply_language") ≠ "unknown") :
    (∀ service reply, settings.compose service s = .ok reply →
      (chineseScriptMismatch settings.rt reply.finalText (s.get "reply_language") = false ↔
        settings.TakesModelText service s ∨ service.fallbackEnabled = false ∨
          settings.TextFits s (settings.fallbackTextRaw s))) ∧
    ∀ chunks reply, settings.streamFinalReply chunks s = .ok reply →
      (chineseScriptMismatch settings.rt reply.finalText (s.get "reply_language") = false ↔
        settings.streamFallbackRaw s = "" ∨
          ∃ texts, chunks = .ok texts ∧ settings.StreamFits s texts) :=
  ⟨fun _ _ h => composed_script_iff hletters hknown h, fun _ _ h => streamed_script_iff hknown h⟩

/-! ## A Spanish conversation -/

/-- The settings of a tenant without any check but those of the language. -/
def plain : FinalReplySettings where
  rt := .plain
  tables := .plain
  defaultLanguage := "es"
  loads := fun _ => .error (.valueError "no JSON")
  structuredFallback := fun _ => .null
  otherViolations := fun _ _ => .ok []

/-- A provider that is too slow. -/
def slowService : FinalReplyService where
  provider := some fun _ _ => .raised ⟨"TimeoutError", "", true⟩
  failoverProvider := none
  enabled := true
  minConfidence := 7 / 10
  fallbackEnabled := true

/-- A Chinese text has been prepared for a customer who writes in the language. -/
def preparedIn (language : String) : NodeState where
  values := .ofList [("reply_language", .str language),
    ("response_text", .str "请稍候。")]
  commands := []
  telegramMoneyCaseCandidates := []
  matchedTelegramMoneyCase := none

theorem toNat_toLower (c : Char) : c.toLower.toNat = c.toNat ∨ c.toLower.toNat ≤ 122 := by
  unfold Char.toLower
  split
  · rename_i hupper
    have hle : c.val.toNat ≤ 90 := hupper.2
    right
    change (c.val + ('a'.val - 'A'.val)).toNat ≤ 122
    rw [UInt32.toNat_add]
    change (c.val.toNat + 32) % 2 ^ 32 ≤ 122
    omega
  · exact .inl rfl

theorem keepsLatin_plain : PatternTables.plain.KeepsLatin := by
  intro letter c hletter hsame
  have hlower : letter.toLower = c.toLower := of_decide_eq_true hsame
  have hc : c.toNat < 0x3400 := by
    rcases toNat_toLower c with hkept | hsmall
    · rcases toNat_toLower letter with hkept' | hsmall
      · rw [hlower] at hkept'
        omega
      · rw [hlower] at hsmall
        omega
    · unfold Char.toLower at hsmall
      split at hsmall
      · rename_i hupper
        have hle : c.toNat ≤ 90 := hupper.2
        omega
      · omega
  simp only [isCjk, Bool.or_eq_false_iff, Bool.and_eq_false_iff, decide_eq_false_iff_not]
  omega

/-- In traditional Chinese the prepared text is put into the script of the customer. -/
theorem traditional_reply_in_script :
    ∃ reply, plain.compose slowService (preparedIn "zh-Hant") = .ok reply ∧
      chineseScriptMismatch plain.rt reply.finalText ((preparedIn "zh-Hant").get "reply_language") =
        false := by
  have hcomposed : (plain.compose slowService (preparedIn "zh-Hant")).toOption.any
      (fun _ => true) = true := by
    decide +kernel
  obtain ⟨reply, hreply, -⟩ := toOption_any_eq_true.mp hcomposed
  have hscript := (reply_script_iff plain keepsLatin_plain (preparedIn "zh-Hant")
    (by decide +kernel)).1 slowService reply hreply
  exact ⟨reply, hreply, hscript.mpr (.inr (.inr (.inl (by decide +kernel))))⟩

/-- A Spanish customer gets the Chinese text when the provider is too slow, and what the model
streams in Chinese. -/
theorem spanish_reply_is_chinese :
    normalizeLanguageCode plain.rt ((preparedIn "es").get "reply_language") ≠ "unknown" ∧
    (∃ reply, plain.compose slowService (preparedIn "es") = .ok reply ∧
      chineseScriptMismatch plain.rt reply.finalText ((preparedIn "es").get "reply_language") =
        true) ∧
    ∃ reply, plain.streamFinalReply (.ok ["请稍候。"]) (preparedIn "es") = .ok reply ∧
      chineseScriptMismatch plain.rt reply.finalText ((preparedIn "es").get "reply_language") =
        true := by
  refine ⟨by decide +kernel, ?_, ?_⟩
  · exact toOption_any_eq_true.mp (by decide +kernel)
  · exact toOption_any_eq_true.mp (by decide +kernel)

end FinalReplySettings

end AiCustomerService
