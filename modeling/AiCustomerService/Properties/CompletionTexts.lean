import AiCustomerService.Properties.LateAnswers
import AiCustomerService.Services.StaffReplyProcessor

/-!
# Texts that tell of a completion

Two classifiers read a staff reply.  One chooses the text for the customer and knows no negation;
the other one chooses the status of the case and knows some.
-/

namespace AiCustomerService

open Support

/-- The text tells the customer that the deposit or the withdrawal is done. -/
def StatesCompletion (text : String) : Prop :=
  ∃ claim ∈ ["已为您核实到这笔提款已处理完成", "已为您核实到这笔存款已处理完成"], claim.toList <+: text.toList

instance (text : String) : Decidable (StatesCompletion text) :=
  inferInstanceAs (Decidable (∃ claim ∈ _, _))

/-- A success word of the text is negated. -/
def SuccessNegated (tables : PatternTables) (text : String) : Prop :=
  (tables.negatedPattern PatternTables.successWords).found text.toList = true

/-- The handler tells of a completion only where it completes the case, and it completes no case
on a negated success word. -/
def TellsCompletionTruly (tables : PatternTables) (reply : StaffReply) (handler : ResultHandler) :
    Prop :=
  ∃ update, handler.graphState.telegramCaseUpdate = some update ∧
    (StatesCompletion handler.text → update.status = "completed_by_staff") ∧
    (SuccessNegated tables (strip reply.rawReply) → update.status ≠ "completed_by_staff")

/-- The processor reads the reply as a finished deposit or withdrawal, and answers in Chinese. -/
def ReadsAsDone (rt : Runtime) (raw targetLang : String) : Prop :=
  targetLang ≠ "en" ∧ targetLang ≠ "es" ∧ compact raw ≠ "" ∧
    classifyStaffReply rt raw = "resolution" ∧
    (withdrawalDonePattern.found (rt.lower (compact raw)).toList = true ∨
      depositDonePattern.found (rt.lower (compact raw)).toList = true)

/-- The patterns of the status take the reply for a completion of the intent, and the case has no
status that is kept. -/
def CompletesCase (tables : PatternTables) (intent currentStatus text : String) : Prop :=
  currentStatus ∉ ["completion_disputed", "completed_confirmed_by_customer"] ∧
    tables.askCustomerPattern.found text.toList = false ∧
    tables.caseWaitPattern.found text.toList = false ∧
    tables.matchingCompletion intent text = true

instance (rt : Runtime) (raw targetLang : String) : Decidable (ReadsAsDone rt raw targetLang) :=
  inferInstanceAs (Decidable (_ ∧ _))

instance (tables : PatternTables) (intent currentStatus text : String) :
    Decidable (CompletesCase tables intent currentStatus text) :=
  inferInstanceAs (Decidable (_ ∧ _))

/-! ## The text -/

/-- The text does not begin with the second word of a completion. -/
def OpensOtherwise (text : String) : Prop :=
  ∃ first second tail, text = String.ofList (first :: second :: tail) ∧ second ≠ '为'

theorem not_statesCompletion_of_opensOtherwise {text : String} (h : OpensOtherwise text) :
    ¬StatesCompletion text := by
  obtain ⟨first, second, tail, rfl, hsecond⟩ := h
  have hclaims : ∀ claim ∈ ["已为您核实到这笔提款已处理完成", "已为您核实到这笔存款已处理完成"],
      claim.toList[1]? = some '为' := by decide
  rintro ⟨claim, hmem, hopens⟩
  rw [String.toList_ofList] at hopens
  obtain ⟨hlong, hat⟩ := List.getElem?_eq_some_iff.mp (hclaims claim hmem)
  have hsame := List.prefix_iff_getElem?.mp hopens 1 hlong
  rw [hat] at hsame
  exact hsecond (Option.some.inj hsame)

theorem OpensOtherwise.append {text : String} (h : OpensOtherwise text) (rest : String) :
    OpensOtherwise (text ++ rest) := by
  obtain ⟨first, second, tail, rfl, hsecond⟩ := h
  refine ⟨first, second, tail ++ rest.toList, ?_, hsecond⟩
  apply String.toList_inj.mp
  rw [String.toList_append, String.toList_ofList, String.toList_ofList]
  rfl

/-- Facts that are appended do not change how a text opens. -/
theorem opensOtherwise_withCriticalFacts (rt : Runtime) (criticalFacts : String → List String)
    {text : String} (h : OpensOtherwise text) (raw : String) (texts : PassthroughTexts) :
    OpensOtherwise (withCriticalFacts rt criticalFacts text raw texts) := by
  unfold withCriticalFacts
  simp only
  split
  · exact h
  · exact h.append _

theorem statesCompletion_withCriticalFacts (rt : Runtime) (criticalFacts : String → List String)
    {text : String} (h : StatesCompletion text) (raw : String) (texts : PassthroughTexts) :
    StatesCompletion (withCriticalFacts rt criticalFacts text raw texts) := by
  unfold withCriticalFacts
  simp only
  split
  · exact h
  · obtain ⟨claim, hmem, hopens⟩ := h
    refine ⟨claim, hmem, ?_⟩
    rw [String.toList_append]
    exact hopens.trans (List.prefix_append _ _)

set_option maxRecDepth 20000 in
/-- The texts that every language has open otherwise. -/
theorem passthroughTexts_open (targetLang : String) :
    ∀ text ∈ [(passthroughTexts targetLang).empty, (passthroughTexts targetLang).phoneMismatch,
      (passthroughTexts targetLang).askCustomer, (passthroughTexts targetLang).update,
      (passthroughTexts targetLang).wait], OpensOtherwise text := by
  have hall : ∀ texts ∈ [englishTexts, spanishTexts, chineseTexts],
      ∀ text ∈ [texts.empty, texts.phoneMismatch, texts.askCustomer, texts.update, texts.wait],
        OpensOtherwise text := by
    simp only [List.forall_mem_cons, List.not_mem_nil, false_implies, implies_true, and_true]
    refine ⟨⟨?_, ?_, ?_, ?_, ?_⟩, ⟨?_, ?_, ?_, ?_, ?_⟩, ⟨?_, ?_, ?_, ?_, ?_⟩⟩
    all_goals exact ⟨_, _, _, rfl, by decide⟩
  apply hall
  unfold passthroughTexts
  split
  · exact List.mem_cons_self
  · split
    · simp
    · simp

set_option maxRecDepth 20000 in
/-- A resolution in Chinese is told as done when one of the patterns of a finished transaction is
found. -/
theorem resolutionText_cases (lower : List Char) (targetLang : String) :
    (targetLang ≠ "en" ∧ targetLang ≠ "es" ∧
        (withdrawalDonePattern.found lower = true ∨ depositDonePattern.found lower = true)) ∧
      StatesCompletion (resolutionText lower targetLang) ∨
    ¬(targetLang ≠ "en" ∧ targetLang ≠ "es" ∧
        (withdrawalDonePattern.found lower = true ∨ depositDonePattern.found lower = true)) ∧
      OpensOtherwise (resolutionText lower targetLang) := by
  have hupdate := passthroughTexts_open targetLang (passthroughTexts targetLang).update (by simp)
  unfold resolutionText
  split
  · rename_i hlang
    right
    refine ⟨?_, hupdate⟩
    rintro ⟨hen, hes, -⟩
    exact hlang.elim hen hes
  · rename_i hlang
    rw [not_or] at hlang
    split
    · rename_i hwithdrawal
      exact Or.inl ⟨⟨hlang.1, hlang.2, Or.inl hwithdrawal⟩, by decide +kernel⟩
    · rename_i hwithdrawal
      split
      · rename_i hdeposit
        exact Or.inl ⟨⟨hlang.1, hlang.2, Or.inr hdeposit⟩, by decide +kernel⟩
      · rename_i hdeposit
        right
        constructor
        · rintro ⟨-, -, hdone⟩
          exact hdone.elim hwithdrawal hdeposit
        · split
          · exact ⟨_, _, _, rfl, by decide⟩
          · exact hupdate

/-- The customer is told of a completion exactly when the reply reads as one. -/
theorem statesCompletion_processStaffReply (rt : Runtime) (criticalFacts : String → List String)
    (raw targetLang : String) :
    StatesCompletion (processStaffReply rt criticalFacts raw targetLang).text ↔
      ReadsAsDone rt raw targetLang := by
  have hopen := passthroughTexts_open targetLang
  simp only [List.forall_mem_cons] at hopen
  obtain ⟨hempty, hmismatch, hask, -, hwait, -⟩ := hopen
  have hsilent := fun {text : String} (h : OpensOtherwise text) =>
    not_statesCompletion_of_opensOtherwise
      (opensOtherwise_withCriticalFacts rt criticalFacts h (compact raw)
        (passthroughTexts targetLang))
  have htext : (processStaffReply rt criticalFacts raw targetLang).text =
      staffReplyPassthroughFallback rt criticalFacts (compact raw) targetLang := by
    by_cases hraw : compact raw = ""
    · simp only [processStaffReply, if_pos hraw]
    · simp only [processStaffReply, if_neg hraw]
  have hclass : classifyStaffReply rt (compact raw) = classifyStaffReply rt raw := by
    unfold classifyStaffReply
    rw [compact_idempotent]
  rw [htext]
  unfold staffReplyPassthroughFallback ReadsAsDone
  simp only [compact_idempotent, hclass]
  split
  · rename_i hraw
    exact iff_of_false (not_statesCompletion_of_opensOtherwise hempty) fun h => h.2.2.1 hraw
  · rename_i hraw
    split
    · rename_i hkind
      have hresolution : classifyStaffReply rt raw ≠ "resolution" := by
        rw [hkind]
        decide
      split
      · exact iff_of_false (not_statesCompletion_of_opensOtherwise hmismatch)
          fun h => hresolution h.2.2.2.1
      · exact iff_of_false (hsilent hask) fun h => hresolution h.2.2.2.1
    · split
      · rename_i hresolution
        rcases resolutionText_cases (rt.lower (compact raw)).toList targetLang with
          ⟨hdone, htold⟩ | ⟨hother, hopens⟩
        · exact iff_of_true (statesCompletion_withCriticalFacts rt criticalFacts htold _ _)
            ⟨hdone.1, hdone.2.1, hraw, hresolution, hdone.2.2⟩
        · exact iff_of_false (hsilent hopens) fun h => hother ⟨h.1, h.2.1, h.2.2.2.2⟩
      · rename_i hresolution
        exact iff_of_false (hsilent hwait) fun h => hresolution h.2.2.2.1

/-! ## The status -/

/-- A case of money is completed exactly by the patterns. -/
theorem classify_eq_completed_iff {rt : Runtime} {tables : PatternTables}
    {criticalFacts : String → List String} {normalizeLanguageCode : Option String → String}
    {formatDatetime : Nat → String} {intent : String} (hintent : intent ∈ moneyWorkflows)
    (rawReply currentStatus : String) :
    classifyMoneyCaseStatus
        (productionServices rt tables criticalFacts normalizeLanguageCode formatDatetime)
        intent rawReply currentStatus = "completed_by_staff" ↔
      CompletesCase tables intent currentStatus (strip rawReply) := by
  unfold classifyMoneyCaseStatus CompletesCase productionServices
  simp only
  have hmoney : ¬intent ∉ ["deposit_missing", "withdrawal_missing"] := not_not.mpr hintent
  rw [if_neg hmoney]
  split
  · rename_i hsticky
    refine iff_of_false ?_ fun h => h.1 hsticky
    rintro rfl
    revert hsticky
    decide
  · rename_i hsticky
    split
    · rename_i hask
      simp [hask]
    · rename_i hask
      split
      · rename_i hwait
        simp [hwait]
      · rename_i hwait
        split
        · rename_i hmatch
          simp only [true_iff]
          exact ⟨hsticky, by simpa using hask, by simpa using hwait, hmatch⟩
        · rename_i hmatch
          refine iff_of_false ?_ fun h => hmatch h.2.2.2
          split
          · decide
          · decide

/-- A negated success word in a completion can only be `successfully`, the one word that
`_matching_completion` does not look for. -/
theorem successNegated_of_completes {tables : PatternTables} {intent currentStatus text : String}
    (h : CompletesCase tables intent currentStatus text) :
    SuccessNegated tables text ↔
      (tables.negatedPattern ["successfully"]).found text.toList = true := by
  have hmatch := h.2.2.2
  unfold PatternTables.matchingCompletion at hmatch
  simp only at hmatch
  split at hmatch
  · cases hmatch
  · split at hmatch
    · cases hmatch
    · rename_i hknown
      rw [tables.found_negatedPattern_iff] at hknown
      push Not at hknown
      unfold SuccessNegated
      rw [tables.found_negatedPattern_iff]
      constructor
      · rintro ⟨word, hword, hfound⟩
        have hwords : ∀ word ∈ PatternTables.successWords,
            word ∈ PatternTables.negatableWords ∨ word = "successfully" := by decide
        rcases hwords word hword with hneg | rfl
        · exact absurd hfound (hknown word hneg)
        · exact hfound
      · intro hfound
        exact ⟨"successfully", by decide, hfound⟩

/-! ## The handler -/

/-- Whatever the status, the handler updates the case of the reply to it. -/
theorem telegramCaseUpdate_buildStaffReplyHandler (services : StaffReplyServices) (now : Nat)
    (reply : StaffReply) :
    (buildStaffReplyHandler services now reply).graphState.telegramCaseUpdate =
      some ⟨reply.telegramCaseId, reply.caseStatus services⟩ := by
  have hstate : (buildStaffReplyHandler services now reply).graphState =
      staffReplyState services now reply
        (services.process reply.rawReply (replyLanguageOf services (some reply.language)))
        (reply.caseStatus services) := rfl
  rw [hstate]
  unfold staffReplyState
  simp only
  split
  · rfl
  · split
    · rfl
    · rfl

theorem text_buildStaffReplyHandler (services : StaffReplyServices) (now : Nat)
    (reply : StaffReply) :
    (buildStaffReplyHandler services now reply).text =
      (services.process reply.rawReply (replyLanguageOf services (some reply.language))).text := rfl

/-- The consumer in production, on plain texts without facts. -/
def plainProduction : StaffReplyServices :=
  productionServices .plain .plain (fun _ => []) (fun language => language.getD "unknown") toString

/-- What the staff writes about a withdrawal. -/
def withdrawalReply (rawText : String) : StaffReply :=
  { caseReply 1 "withdrawal_missing" with rawText }

end AiCustomerService
