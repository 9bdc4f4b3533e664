import AiCustomerService.Db.CaseCandidates

/-!
# The case that a text names

A customer who gives the order id of one case writes about that case.  The follow-up is matched
with another one exactly when the named case has been set aside by its status and one of the
remaining cases is singled out without being named.
-/

namespace AiCustomerService

open Support

variable {rt : Runtime} {tables : PatternTables} {services : StaffReplyServices}

/-- The case with its normalized status, as a follow-up hands it on. -/
def MoneyCase.withStatus (rt : Runtime) (services : StaffReplyServices) (case : MoneyCase) :
    MoneyCase :=
  { case with status := some (normalizeLegacyCaseStatus rt services case) }

/-- The cases that the text may be about. -/
def casesLeftOpen (rt : Runtime) (tables : PatternTables) (services : StaffReplyServices)
    (text : String) (candidates : List MoneyCase) : List MoneyCase :=
  eligibleCases rt services (tables.isMoneyCaseFollowupText text)
    (tables.isConfirmationText text) candidates

/-- The text reads as a follow-up or as a confirmation. -/
def ConcernsCase (tables : PatternTables) (text : String) : Prop :=
  tables.isMoneyCaseFollowupText text = true ∨ tables.isConfirmationText text = true

/-- Without looking at the text, one of the open cases is singled out: it is the only one under
the inherited card, or the only one at all. -/
def FallsBackOnOne (rt : Runtime) (tables : PatternTables) (services : StaffReplyServices)
    (text : String) (inheritedRoot : Json) (candidates : List MoneyCase) : Prop :=
  let eligible := casesLeftOpen rt tables services text candidates
  (eligible.filter (hasInheritedRoot rt inheritedRoot)).length = 1 ∨ eligible.length = 1

/-- The follow-up is matched with no other case. -/
def MatchesOnly (rt : Runtime) (services : StaffReplyServices) (named : MoneyCase)
    (resolution : FollowupResolution) : Prop :=
  ∀ case kind, resolution = .matched case kind → case = named.withStatus rt services

@[simp]
theorem isNamedIn_withStatus (text : String) (case : MoneyCase) :
    isNamedIn rt tables text (case.withStatus rt services) = isNamedIn rt tables text case := rfl

/-- A candidate stays or is set aside by its normalized status alone. -/
theorem exists_casesLeftOpen_eq (text : String) : ∃ staysOpen : MoneyCase → Bool,
    ∀ candidates, casesLeftOpen rt tables services text candidates =
      (candidates.map (MoneyCase.withStatus rt services)).filter staysOpen :=
  ⟨_, fun _ => rfl⟩

/-- The open cases that the text names are what is left of the named candidates. -/
theorem filter_isNamedIn_casesLeftOpen (text : String) (candidates : List MoneyCase) :
    (casesLeftOpen rt tables services text candidates).filter (isNamedIn rt tables text) =
      casesLeftOpen rt tables services text (candidates.filter (isNamedIn rt tables text)) := by
  obtain ⟨staysOpen, hopen⟩ := @exists_casesLeftOpen_eq rt tables services text
  have hnamed : isNamedIn rt tables text ∘ MoneyCase.withStatus rt services =
      isNamedIn rt tables text := by
    funext case
    rw [Function.comp_apply, isNamedIn_withStatus]
  rw [hopen, hopen, List.filter_comm, List.filter_map, hnamed]

/-- A single case stays as it is, or is set aside. -/
theorem casesLeftOpen_singleton (text : String) (named : MoneyCase) :
    casesLeftOpen rt tables services text [named] = [named.withStatus rt services] ∨
      casesLeftOpen rt tables services text [named] = [] := by
  obtain ⟨staysOpen, hopen⟩ := @exists_casesLeftOpen_eq rt tables services text
  rw [hopen, List.map_singleton, List.filter_singleton]
  cases staysOpen (named.withStatus rt services) with
  | true => exact .inl rfl
  | false => exact .inr rfl

theorem isSome_onlyOne? {cases : List MoneyCase} :
    (onlyOne? cases).isSome = true ↔ cases.length = 1 := by
  constructor
  · intro h
    obtain ⟨case, hcase⟩ := Option.isSome_iff_exists.mp h
    exact length_of_onlyOne? hcase
  · intro h
    obtain ⟨case, rfl⟩ := List.length_eq_one_iff.mp h
    rfl

/-- The text neither reads as a follow-up nor as a confirmation. -/
theorem resolveMoneyCaseFollowup_of_other {candidates : List MoneyCase} {text : String}
    {inheritedRoot : Json} (h : ¬ConcernsCase tables text) :
    resolveMoneyCaseFollowup rt tables services candidates text inheritedRoot = .none := by
  rw [resolveMoneyCaseFollowup_eq_none_iff]
  left
  simpa [ConcernsCase] using h

/-- The text names exactly one of the open cases. -/
theorem resolveMoneyCaseFollowup_of_named {candidates : List MoneyCase} {text : String}
    {inheritedRoot : Json} {case : MoneyCase} (hconcerns : ConcernsCase tables text)
    (hnamed : (casesLeftOpen rt tables services text candidates).filter
      (isNamedIn rt tables text) = [case]) :
    resolveMoneyCaseFollowup rt tables services candidates text inheritedRoot =
      matchedCase case (tables.isConfirmationText text) := by
  unfold casesLeftOpen at hnamed
  have hopen : eligibleCases rt services (tables.isMoneyCaseFollowupText text)
      (tables.isConfirmationText text) candidates ≠ [] := by
    intro hnone
    rw [hnone] at hnamed
    cases hnamed
  have hkind : (!tables.isMoneyCaseFollowupText text && !tables.isConfirmationText text) =
      false := by
    rcases hconcerns with h | h
    · simp [h]
    · simp [h]
  simp [resolveMoneyCaseFollowup, hnamed, hkind, List.isEmpty_iff, hopen, onlyOne?]

/-- The text names none of the open cases. -/
theorem resolveMoneyCaseFollowup_of_unnamed {candidates : List MoneyCase} {text : String}
    {inheritedRoot : Json} (hconcerns : ConcernsCase tables text)
    (hunnamed : (casesLeftOpen rt tables services text candidates).filter
      (isNamedIn rt tables text) = []) :
    resolveMoneyCaseFollowup rt tables services candidates text inheritedRoot =
      let eligible := casesLeftOpen rt tables services text candidates
      if eligible.isEmpty then .none
      else
        match (onlyOne? (eligible.filter (hasInheritedRoot rt inheritedRoot))).or
            (onlyOne? eligible) with
        | some case => matchedCase case (tables.isConfirmationText text)
        | none => .ambiguous := by
  unfold casesLeftOpen at hunnamed
  have hkind : (!tables.isMoneyCaseFollowupText text && !tables.isConfirmationText text) =
      false := by
    rcases hconcerns with h | h
    · simp [h]
    · simp [h]
  unfold resolveMoneyCaseFollowup casesLeftOpen
  simp only [hkind, hunnamed, Bool.false_eq_true, if_false, List.isEmpty_nil, Bool.not_true]
  split
  · rfl
  · change _ = _
    rw [show onlyOne? ([] : List MoneyCase) = none from rfl]
    cases onlyOne? ((eligibleCases rt services (tables.isMoneyCaseFollowupText text)
        (tables.isConfirmationText text) candidates).filter (hasInheritedRoot rt inheritedRoot)) with
    | some case => rfl
    | none => rfl

/-- What the two fallbacks choose is one of the cases. -/
theorem mem_of_fallback {eligible : List MoneyCase} {inheritedRoot : Json} {case : MoneyCase}
    (h : (onlyOne? (eligible.filter (hasInheritedRoot rt inheritedRoot))).or
      (onlyOne? eligible) = some case) : case ∈ eligible := by
  rcases Option.or_eq_some_iff.mp h with hroot | ⟨-, honly⟩
  · exact (List.mem_filter.mp (mem_of_onlyOne? hroot)).1
  · exact mem_of_onlyOne? honly

/-- The fallbacks choose a case exactly when there is one to fall back on. -/
theorem fallback_isSome_iff {text : String} {inheritedRoot : Json} {candidates : List MoneyCase} :
    ((onlyOne? ((casesLeftOpen rt tables services text candidates).filter
        (hasInheritedRoot rt inheritedRoot))).or
      (onlyOne? (casesLeftOpen rt tables services text candidates))).isSome = true ↔
      FallsBackOnOne rt tables services text inheritedRoot candidates := by
  rw [Option.isSome_or, Bool.or_eq_true, isSome_onlyOne?, isSome_onlyOne?]
  rfl

/-- When the text names exactly one candidate, the follow-up is matched with no other one exactly
when that case is open, or the text concerns no case, or nothing remains to fall back on. -/
theorem named_case_matched_only_iff (candidates : List MoneyCase) (text : String)
    (inheritedRoot : Json) (named : MoneyCase)
    (hnamed : candidates.filter (isNamedIn rt tables text) = [named]) :
    MatchesOnly rt services named
        (resolveMoneyCaseFollowup rt tables services candidates text inheritedRoot) ↔
      casesLeftOpen rt tables services text [named] ≠ [] ∨ ¬ConcernsCase tables text ∨
        ¬FallsBackOnOne rt tables services text inheritedRoot candidates := by
  by_cases hconcerns : ConcernsCase tables text
  · have hleft := @filter_isNamedIn_casesLeftOpen rt tables services text candidates
    rw [hnamed] at hleft
    rcases @casesLeftOpen_singleton rt tables services text named with hopen | haside
    · -- the named case is open, and the text decides
      rw [hopen] at hleft
      rw [resolveMoneyCaseFollowup_of_named hconcerns hleft]
      have hsome : casesLeftOpen rt tables services text [named] ≠ [] := by
        rw [hopen]
        exact List.cons_ne_nil _ _
      refine iff_of_true (fun case kind h => ?_) (.inl hsome)
      cases h
      rfl
    · rw [haside] at hleft
      rw [resolveMoneyCaseFollowup_of_unnamed hconcerns hleft]
      simp only [haside, ne_eq, not_true_eq_false, false_or, hconcerns]
      have hunnamed := List.filter_eq_nil_iff.mp hleft
      have hthis : isNamedIn rt tables text named = true :=
        (List.mem_filter.mp (hnamed ▸ List.mem_singleton_self named)).2
      rw [← fallback_isSome_iff, Option.isSome_iff_exists]
      constructor
      · rintro hmatches ⟨case, hcase⟩
        -- the case that is fallen back on is not named, so it is another one
        have hmem := mem_of_fallback hcase
        have hsome : (casesLeftOpen rt tables services text candidates).isEmpty = false :=
          List.isEmpty_eq_false_iff_exists_mem.mpr ⟨case, hmem⟩
        have hother := hmatches case
        simp only [hsome, hcase, matchedCase, Bool.false_eq_true, if_false] at hother
        have hsame := hother _ rfl
        apply hunnamed case hmem
        rw [hsame, isNamedIn_withStatus]
        exact hthis
      · intro hnone case kind hmatched
        split at hmatched
        · cases hmatched
        · split at hmatched
          · rename_i fallback hfallback
            exact absurd ⟨fallback, hfallback⟩ hnone
          · cases hmatched
  · rw [resolveMoneyCaseFollowup_of_other hconcerns]
    refine iff_of_true (fun case kind h => ?_) (.inr (.inl hconcerns))
    cases h

/-- The id of the case that a follow-up is matched with. -/
def FollowupResolution.caseId? : FollowupResolution → Option Nat
  | .matched case _ => some case.id
  | _ => Option.none

theorem MatchesOnly.caseId? {named : MoneyCase} {resolution : FollowupResolution} {id : Nat}
    (h : MatchesOnly rt services named resolution) (hid : resolution.caseId? = some id) :
    id = named.id := by
  cases resolution with
  | none => cases hid
  | ambiguous => cases hid
  | matched case kind =>
      cases hid
      rw [h case kind rfl]
      rfl

/-- A withdrawal case with an order id in the memory of its conversation. -/
def withdrawalCase (id : Nat) (status orderId : String) : MoneyCase where
  id := id
  intent := "withdrawal_missing"
  status := some status
  rootMessageId := some (100 * id)
  slotMemory := Dict.ofList [("order_id", .str orderId)]
  columns := ∅

/-- Two cases of a chat; in the first one the staff wait for the customer. -/
def twoCases : List MoneyCase :=
  [withdrawalCase 1 "waiting_customer" "W-1", withdrawalCase 2 "under_review" "W-2"]

/-- Services that classify no reply of the staff. -/
def silentServices : StaffReplyServices where
  normalizeLanguageCode := fun _ => "en"
  process := fun _ text => ⟨"update", text, "rules"⟩
  asksCustomer := fun _ => false
  asksToWait := fun _ => false
  matchesCompletion := fun _ _ => false
  isTerminalOther := fun _ => false
  formatDatetime := toString

/-- A text that names the first case reminds the staff about the second one. -/
theorem named_case_reminds_another :
    twoCases.filter (isNamedIn .plain .plain "Where is W-1?") =
        [withdrawalCase 1 "waiting_customer" "W-1"] ∧
      ¬MatchesOnly .plain silentServices (withdrawalCase 1 "waiting_customer" "W-1")
        (resolveMoneyCaseFollowup .plain .plain silentServices twoCases "Where is W-1?" .null) := by
  have hfirst : isNamedIn .plain .plain "Where is W-1?"
      (withdrawalCase 1 "waiting_customer" "W-1") = true := by decide +kernel
  have hsecond : isNamedIn .plain .plain "Where is W-1?"
      (withdrawalCase 2 "under_review" "W-2") = false := by decide +kernel
  have hmatched : (resolveMoneyCaseFollowup .plain .plain silentServices twoCases
      "Where is W-1?" .null).caseId? = some 2 := by decide +kernel
  constructor
  · simp [twoCases, hfirst, hsecond]
  · intro honly
    exact absurd (honly.caseId? hmatched) (by decide)

/-- The same cases, after the staff have taken up the first one again. -/
def reopenedCases : List MoneyCase :=
  [withdrawalCase 1 "under_review" "W-1", withdrawalCase 2 "under_review" "W-2"]

theorem named_case_matched_only_reopened :
    reopenedCases.filter (isNamedIn .plain .plain "Where is W-1?") =
        [withdrawalCase 1 "under_review" "W-1"] ∧
      (MatchesOnly .plain silentServices (withdrawalCase 1 "under_review" "W-1")
          (resolveMoneyCaseFollowup .plain .plain silentServices reopenedCases
            "Where is W-1?" .null) ↔
        casesLeftOpen .plain .plain silentServices "Where is W-1?"
            [withdrawalCase 1 "under_review" "W-1"] ≠ [] ∨
          ¬ConcernsCase .plain "Where is W-1?" ∨
          ¬FallsBackOnOne .plain .plain silentServices "Where is W-1?" .null reopenedCases) := by
  have hfirst : isNamedIn .plain .plain "Where is W-1?"
      (withdrawalCase 1 "under_review" "W-1") = true := by decide +kernel
  have hsecond : isNamedIn .plain .plain "Where is W-1?"
      (withdrawalCase 2 "under_review" "W-2") = false := by decide +kernel
  have honly : reopenedCases.filter (isNamedIn .plain .plain "Where is W-1?") =
      [withdrawalCase 1 "under_review" "W-1"] := by
    simp [reopenedCases, hfirst, hsecond]
  exact ⟨honly, named_case_matched_only_iff _ _ _ _ honly⟩

end AiCustomerService
