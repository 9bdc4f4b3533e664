import AiCustomerService.Services.FinalReplyChecks

/-!
# The numbers of an accepted reply

The validation looks for the critical values of the facts that a model declares, anywhere in the
facts of the state.  It does not look at the values of the text itself.
-/

namespace AiCustomerService

open Support

variable {settings : FinalReplySettings} {tables : SlotTables} {s : NodeState} {output : JsonObject}

/-! ## Statement -/

/-- The critical values of the text of an output. -/
def textValues (settings : FinalReplySettings) (tables : SlotTables) (output : JsonObject) :
    List String :=
  tables.criticalValues (normalizeText settings.rt (getKey output "text"))

/-- The value is one of the critical values of a fact. -/
def IsCompleteIn (settings : FinalReplySettings) (tables : SlotTables) (pool : List String)
    (value : String) : Prop :=
  ∃ fact ∈ pool, settings.rt.lower value ∈ tables.criticalValues fact

instance (settings : FinalReplySettings) (tables : SlotTables) (pool : List String)
    (value : String) : Decidable (IsCompleteIn settings tables pool value) :=
  inferInstanceAs
    (Decidable (∃ fact ∈ pool, settings.rt.lower value ∈ tables.criticalValues fact))

/-- The value stands somewhere in the facts, if only as a part of another one. -/
def OccursIn (settings : FinalReplySettings) (pool : List String) (value : String) : Prop :=
  (settings.rt.lower value).toList <:+: (settings.rt.lower ("\n".intercalate pool)).toList

/-- The value is one of the critical values of a fact that the output declares. -/
def Declares (settings : FinalReplySettings) (tables : SlotTables) (output : JsonObject)
    (value : String) : Prop :=
  ∃ facts, (getKey output "used_facts").orElse (.arr []) = .arr facts ∧
    ∃ raw ∈ facts, value ∈ tables.criticalValues (normalizeText settings.rt raw)

/-- Every critical value of the text is a complete value of the facts of the state. -/
def StatesOnlyFacts (settings : FinalReplySettings) (tables : SlotTables) (s : NodeState)
    (output : JsonObject) : Prop :=
  ∃ pool, settings.allowedFactPool s = .ok pool ∧
    ∀ value ∈ textValues settings tables output, IsCompleteIn settings tables pool value

/-- The values of the text are declared where the facts do not have them as complete values, and
none of them is only a part of a value of the facts. -/
def DeclaresItsValues (settings : FinalReplySettings) (tables : SlotTables) (s : NodeState)
    (output : JsonObject) : Prop :=
  ∃ pool, settings.allowedFactPool s = .ok pool ∧
    ∀ value ∈ textValues settings tables output,
      (¬IsCompleteIn settings tables pool value → Declares settings tables output value) ∧
        (OccursIn settings pool value → IsCompleteIn settings tables pool value)

/-! ## What an accepted output has passed -/

theorem eq_nil_of_sortedTexts {values : List String}
    (h : (pure (sortedTexts values) : Except PyError (List String)) = .ok []) : values = [] := by
  refine List.eq_nil_iff_forall_not_mem.mpr fun value hmem => ?_
  have hsorted := mem_sortedTexts.mpr hmem
  rw [Except.ok.inj h] at hsorted
  cases hsorted

/-- The declared facts of an accepted output pass their check. -/
theorem validateUsedFacts_of_accepted
    (h : (settings.withChecks tables).validateFinalReplyOutput s output = .ok []) :
    settings.validateUsedFacts tables s output = .ok [] := by
  unfold FinalReplySettings.validateFinalReplyOutput at h
  dsimp only at h
  split at h
  · cases h
  · obtain ⟨others, hothers, h⟩ := bind_eq_ok.mp h
    have hall := eq_nil_of_sortedTexts h
    obtain ⟨-, rfl⟩ := List.append_eq_nil_iff.mp hall
    have hchecks : settings.finalReplyChecks tables s output = .ok [] := hothers
    unfold FinalReplySettings.finalReplyChecks at hchecks
    dsimp only at hchecks
    obtain ⟨plan, -, hchecks⟩ := bind_eq_ok.mp hchecks
    obtain ⟨exact', -, hchecks⟩ := bind_eq_ok.mp hchecks
    obtain ⟨legacy, -, hchecks⟩ := bind_eq_ok.mp hchecks
    obtain ⟨semantic, -, hchecks⟩ := bind_eq_ok.mp hchecks
    obtain ⟨forbidden, -, hchecks⟩ := bind_eq_ok.mp hchecks
    obtain ⟨backend, -, hchecks⟩ := bind_eq_ok.mp hchecks
    obtain ⟨sync, -, hchecks⟩ := bind_eq_ok.mp hchecks
    obtain ⟨ofKind, -, hchecks⟩ := bind_eq_ok.mp hchecks
    obtain ⟨keyFacts, -, hchecks⟩ := bind_eq_ok.mp hchecks
    obtain ⟨used, hused, hchecks⟩ := bind_eq_ok.mp hchecks
    obtain ⟨-, hnil⟩ := List.append_eq_nil_iff.mp (Except.ok.inj hchecks)
    rw [hused, hnil]

/-- A fact that passes its check has no critical values but those of the pool. -/
theorem occursIn_of_usedFact {plan : JsonObject} {pool : List String} {allowsLowRisk : Bool}
    {raw : Json} {value : String}
    (h : settings.usedFactViolations tables s plan pool allowsLowRisk raw = .ok [])
    (hvalue : value ∈ tables.criticalValues (normalizeText settings.rt raw)) :
    OccursIn settings pool value := by
  unfold FinalReplySettings.usedFactViolations at h
  dsimp only at h
  split at h
  · rename_i hempty
    rw [hempty] at hvalue
    have hnone : tables.criticalValues "" = [] := rfl
    rw [hnone] at hvalue
    cases hvalue
  · obtain ⟨sync, -, h⟩ := bind_eq_ok.mp h
    obtain ⟨backend, -, h⟩ := bind_eq_ok.mp h
    obtain ⟨-, hvalues⟩ := List.append_eq_nil_iff.mp (Except.ok.inj h)
    rw [FinalReplySettings.unverifiedValues, List.map_eq_nil_iff, List.filter_eq_nil_iff] at hvalues
    simpa [OccursIn] using hvalues value hvalue

/-- The values that an accepted output declares stand somewhere in the facts of the state. -/
theorem occursIn_of_declares
    (h : (settings.withChecks tables).validateFinalReplyOutput s output = .ok []) :
    ∃ pool, settings.allowedFactPool s = .ok pool ∧
      ∀ value, Declares settings tables output value → OccursIn settings pool value := by
  have hused := validateUsedFacts_of_accepted h
  unfold FinalReplySettings.validateUsedFacts at hused
  split at hused
  · rename_i facts hfacts
    obtain ⟨pool, hpool, hused⟩ := bind_eq_ok.mp hused
    obtain ⟨allowsLowRisk, -, hused⟩ := bind_eq_ok.mp hused
    obtain ⟨plan, -, hused⟩ := bind_eq_ok.mp hused
    obtain ⟨found, hfound, hused⟩ := bind_eq_ok.mp hused
    refine ⟨pool, hpool, ?_⟩
    rintro value ⟨declared, hdeclared, raw, hraw, hvalue⟩
    obtain rfl := Json.arr.inj (hfacts.symm.trans hdeclared)
    obtain ⟨violations, hmem, hviolations⟩ := mapM_ok_of_mem hfound hraw
    have hnil := List.flatten_eq_nil_iff.mp (Except.ok.inj hused) violations hmem
    rw [hnil] at hviolations
    exact occursIn_of_usedFact hviolations hvalue
  · cases Except.ok.inj hused

/-! ## The theorem -/

/-- Settings with plain texts. -/
def englishSettings : FinalReplySettings where
  rt := .plain
  tables := .plain
  defaultLanguage := "en"
  loads := fun _ => .error (.valueError "no JSON")
  structuredFallback := fun _ => .null
  otherViolations := fun _ _ => .ok []

/-- A backend result with a remaining turnover of 100. -/
def turnoverState : NodeState where
  values := .ofList [("reply_language", .str "en"),
    ("reply_plan", .obj (.ofList [("kind", .str "backend_query_result"),
      ("fallback_text", .str "Your remaining turnover is 100."),
      ("must_say_exact", .arr [.str "100"]),
      ("allowed_facts", .arr [.str "remaining_turnover=100"])]))]
  commands := []
  telegramMoneyCaseCandidates := []
  matchedTelegramMoneyCase := none

/-- What a model answers, with no facts that it declares. -/
def modelOutput (text : String) : JsonObject :=
  .ofList [("text", .str text), ("language", .str "en"), ("used_facts", .arr [])]

/-- An output in the right language and script is accepted if it passes the other checks. -/
theorem accepted_of_checks (htext : normalizeText settings.rt (getKey output "text") ≠ "")
    (hlanguage : normalizeLanguageCode settings.rt (getKey output "language") =
      settings.checkedReplyLanguage s)
    (hscript : chineseScriptMismatch settings.rt
      (.str (normalizeText settings.rt (getKey output "text")))
      (.str (settings.checkedReplyLanguage s)) = false)
    (hchecks : (settings.finalReplyChecks tables s output).toOption.any List.isEmpty = true) :
    (settings.withChecks tables).validateFinalReplyOutput s output = .ok [] := by
  obtain ⟨violations, hviolations, hempty⟩ := toOption_any_eq_true.mp hchecks
  obtain rfl := List.isEmpty_iff.mp hempty
  unfold FinalReplySettings.validateFinalReplyOutput
  have hothers : (settings.withChecks tables).otherViolations s output = .ok [] := hviolations
  have hrt : (settings.withChecks tables).rt = settings.rt := rfl
  have hchecked : (settings.withChecks tables).checkedReplyLanguage s =
    settings.checkedReplyLanguage s := rfl
  rw [hothers, hrt, hchecked, if_neg htext]
  simp only [hlanguage, hscript]
  simp [sortedTexts, bind, Except.bind, pure, Except.pure]

end AiCustomerService
