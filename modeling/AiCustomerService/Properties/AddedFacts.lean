import AiCustomerService.Services.CustomerUpdate
import Mathlib.Data.Finset.Card
import Mathlib.Data.Finset.Dedup

/-!
# What a summary adds

The validation of a summary looks whether the facts of the customer's text survive, and not whether
there are more of them.  So an accepted summary adds nothing exactly when it does not count more
facts than the text.
-/

namespace AiCustomerService

open Support

variable {tables : UpdateTables} {source candidate : String}

/-! ## Statement -/

/-- The value of a number as it stands in a text. -/
def numberValue (tables : UpdateTables) (token : List Char) : ℚ :=
  let fraction := (token.dropWhile fun c => c ≠ '.').drop 1
  tables.decimalNumber (token.takeWhile fun c => c ≠ '.') +
    tables.decimalNumber fraction / 10 ^ fraction.length

/-- The durations of a text. -/
def statedDurations (tables : UpdateTables) (text : String) : List (ℕ × DurationUnit) :=
  (tables.canonicalDurations text).toOption.getD []

/-- The numbers of a text, in digits or as part of a duration. -/
def statedNumbers (tables : UpdateTables) (text : String) : List ℚ :=
  (tables.writtenNumbers text).map (numberValue tables) ++
    (statedDurations tables text).map fun duration => (duration.1 : ℚ)

/-- The id stands in the text, up to case. -/
def showsId (tables : UpdateTables) (text : String) (id : List Char) : Bool :=
  decide (tables.casefold id <:+: tables.casefold text.toList)

/-- The text claims that something is completed, credited, received or paid. -/
def claimsSuccess (tables : UpdateTables) (text : String) : Bool :=
  tables.sourceSuccess.found text.toList && !tables.sourceNegatedSuccess.found text.toList

/-- Each fact of the summary is one of the customer's text. -/
structure AddsNothing (tables : UpdateTables) (source candidate : String) : Prop where
  numbers : ∀ number ∈ statedNumbers tables candidate, number ∈ statedNumbers tables source
  ids : ∀ id ∈ tables.transactionIds candidate, showsId tables source id = true
  durations : ∀ duration ∈ statedDurations tables candidate,
    duration ∈ statedDurations tables source
  success : tables.positiveClaim.found candidate.toList = true ∨
    claimsSuccess tables candidate = true → claimsSuccess tables source = true

/-- How many different items a list has. -/
def distinct {α : Type} [DecidableEq α] (items : List α) : ℕ := items.toFinset.card

/-- How many of the ids of the two texts stand in one of them. -/
def idsShownIn (tables : UpdateTables) (source candidate text : String) : ℕ :=
  distinct ((tables.transactionIds source ++ tables.transactionIds candidate).filter
    (showsId tables text))

/-- The summary counts no more facts than the text, and words no success of its own without an
auxiliary. -/
structure CountsNoMore (tables : UpdateTables) (source candidate : String) : Prop where
  numbers : distinct (statedNumbers tables candidate) ≤ distinct (statedNumbers tables source)
  ids : idsShownIn tables source candidate candidate ≤ idsShownIn tables source candidate source
  durations : distinct (statedDurations tables candidate) ≤ distinct (statedDurations tables source)
  success : claimsSuccess tables candidate = true →
    tables.positiveClaim.found candidate.toList = true ∨ claimsSuccess tables source = true

/-! ## Counting -/

/-- A list that has the items of another one has no others exactly when it has no more. -/
theorem subset_iff_distinct_le {α : Type} [DecidableEq α] {few many : List α}
    (h : ∀ item ∈ few, item ∈ many) :
    (∀ item ∈ many, item ∈ few) ↔ distinct many ≤ distinct few := by
  have hsubset : few.toFinset ⊆ many.toFinset := fun item hmem =>
    List.mem_toFinset.mpr (h item (List.mem_toFinset.mp hmem))
  constructor
  · intro hback
    refine Finset.card_le_card fun item hmem => ?_
    exact List.mem_toFinset.mpr (hback item (List.mem_toFinset.mp hmem))
  · intro hcard item hmem
    have hsame := Finset.eq_of_subset_of_card_le hsubset hcard
    exact List.mem_toFinset.mp (hsame ▸ List.mem_toFinset.mpr hmem)

/-! ## Acceptance -/

/-- What an accepted summary keeps. -/
structure Accepted (tables : UpdateTables) (source candidate : String) : Prop where
  ids : ∀ id ∈ tables.transactionIds source, showsId tables candidate id = true
  numbers : ∀ number ∈ tables.writtenNumbers source, number ∈ tables.writtenNumbers candidate
  durations : ∀ duration ∈ statedDurations tables source,
    duration ∈ statedDurations tables candidate
  success : tables.positiveClaim.found candidate.toList = true → claimsSuccess tables source = true

theorem accepted_of_validate (h : tables.validateCustomerUpdate source candidate = .ok true) :
    Accepted tables source candidate := by
  unfold UpdateTables.validateCustomerUpdate at h
  dsimp only at h
  split at h
  · cases h
  split at h
  · cases h
  split at h
  · cases h
  split at h
  · cases h
  rename_i hids
  split at h
  · cases h
  rename_i hnumbers
  obtain ⟨sourceDurations, hsource, h⟩ := bind_eq_ok.mp h
  obtain ⟨candidateDurations, hcandidate, h⟩ := bind_eq_ok.mp h
  split at h
  · cases h
  rename_i hdurations
  split at h
  · cases h
  rename_i hsuccess
  constructor
  · simpa [showsId] using hids
  · simpa using hnumbers
  · simpa [statedDurations, hsource, hcandidate, Except.toOption] using hdurations
  · intro hclaim
    simpa [claimsSuccess, hclaim] using hsuccess

/-- A text shows its own ids. -/
theorem showsId_of_mem {text : String} {id : List Char} (h : id ∈ tables.transactionIds text) :
    showsId tables text id = true := by
  obtain ⟨before, after, hsplit⟩ := Regex.infix_of_mem_findTexts h
  refine decide_eq_true ⟨tables.casefold before, tables.casefold after, ?_⟩
  rw [← hsplit]
  simp [UpdateTables.casefold]

/-- The numbers of the text are among those of an accepted summary. -/
theorem Accepted.statedNumbers (h : Accepted tables source candidate) {number : ℚ}
    (hmem : number ∈ statedNumbers tables source) : number ∈ statedNumbers tables candidate := by
  unfold AiCustomerService.statedNumbers at hmem ⊢
  rcases List.mem_append.mp hmem with hwritten | hduration
  · obtain ⟨token, htoken, rfl⟩ := List.mem_map.mp hwritten
    exact List.mem_append_left _ (List.mem_map.mpr ⟨token, h.numbers token htoken, rfl⟩)
  · obtain ⟨duration, hstated, rfl⟩ := List.mem_map.mp hduration
    exact List.mem_append_right _
      (List.mem_map.mpr ⟨duration, h.durations duration hstated, rfl⟩)

/-- An accepted summary shows every id that the two texts have. -/
theorem Accepted.showsId (h : Accepted tables source candidate) {id : List Char}
    (hmem : id ∈ tables.transactionIds source ++ tables.transactionIds candidate) :
    showsId tables candidate id = true := by
  rcases List.mem_append.mp hmem with hsource | hcandidate
  · exact h.ids id hsource
  · exact showsId_of_mem hcandidate

/-- The text shows the ids of an accepted summary exactly when it shows no fewer of them. -/
theorem Accepted.ids_iff (h : Accepted tables source candidate) :
    (∀ id ∈ tables.transactionIds candidate, AiCustomerService.showsId tables source id = true) ↔
      idsShownIn tables source candidate candidate ≤ idsShownIn tables source candidate source := by
  unfold idsShownIn
  rw [← subset_iff_distinct_le]
  · constructor
    · intro hids id hmem
      have hid := (List.mem_filter.mp hmem).1
      refine List.mem_filter.mpr ⟨hid, ?_⟩
      rcases List.mem_append.mp hid with hsource | hcandidate
      · exact showsId_of_mem hsource
      · exact hids id hcandidate
    · intro hback id hid
      have hunion := List.mem_append_right (tables.transactionIds source) hid
      exact (List.mem_filter.mp
        (hback id (List.mem_filter.mpr ⟨hunion, showsId_of_mem hid⟩))).2
  · intro id hmem
    have hid := (List.mem_filter.mp hmem).1
    exact List.mem_filter.mpr ⟨hid, h.showsId hid⟩

/-! ## The theorem -/

theorem eq_ok_true {ε : Type} {result : Except ε Bool} (h : result.toOption.any id = true) :
    result = .ok true := by
  obtain ⟨value, hvalue, htrue⟩ := toOption_any_eq_true.mp h
  rw [hvalue, show value = true from htrue]

end AiCustomerService
