import AiCustomerService.Services.PendingReplyLookup

/-!
# Identities of different accounts

A name of an account that consists mostly of digits is read as a phone number, and then
its letters do not count.
-/

namespace AiCustomerService

open Support

section Matching

variable {tables : TextTables} {isLetter : Char → Bool}

/-- The identity without case, white space and a leading `@`. -/
def foldedIdentity (tables : TextTables) (identity : String) : List Char :=
  ((tables.lower (strip identity)).toList.filter fun c => !isPySpace c).dropWhile (· = '@')

/-- No character of the identity is a letter. -/
def Letterless (isLetter : Char → Bool) (identity : String) : Prop :=
  ∀ c ∈ identity.toList, isLetter c = false

/-- The digits are equal, or one number ends with the other one's eight digits or more. -/
def SameDigits (digits wanted : List Char) : Prop :=
  digits = wanted ∨ (8 ≤ digits.length ∧ digits <:+ wanted) ∨
    (8 ≤ wanted.length ∧ wanted <:+ digits)

/-- The two identities stand for one account. -/
def SameAccount (tables : TextTables) (isLetter : Char → Bool) (a b : String) : Prop :=
  foldedIdentity tables a = foldedIdentity tables b ∨
    (Letterless isLetter a ∧ Letterless isLetter b ∧
      SameDigits (digitsOf tables (strip a)) (digitsOf tables (strip b)))

/-- The identity is read as a phone number. -/
def ReadAsPhone (tables : TextTables) (identity : String) : Prop :=
  normalizeIdentity tables identity = some ⟨.phone, digitsOf tables (strip identity)⟩

/-- Two identities that are read as one phone number have no letters, unless they are the
same up to case, white space and a leading `@`. -/
def NumbersLetterless (tables : TextTables) (isLetter : Char → Bool) (a b : String) : Prop :=
  ReadAsPhone tables a → ReadAsPhone tables b →
    SameDigits (digitsOf tables (strip a)) (digitsOf tables (strip b)) →
    foldedIdentity tables a ≠ foldedIdentity tables b →
    Letterless isLetter a ∧ Letterless isLetter b

theorem sameNumberEnd_iff (digits wanted : List Char) :
    sameNumberEnd digits wanted = true ↔
      (8 ≤ digits.length ∧ digits <:+ wanted) ∨ (8 ≤ wanted.length ∧ wanted <:+ digits) := by
  simp only [sameNumberEnd, Bool.and_eq_true, Bool.or_eq_true, decide_eq_true_eq]
  constructor
  · rintro ⟨hlength, hend | hend⟩
    · right
      exact ⟨by omega, hend⟩
    · left
      exact ⟨by omega, hend⟩
  · rintro (⟨hlength, hend⟩ | ⟨hlength, hend⟩)
    · have hle := hend.length_le
      exact ⟨by omega, Or.inr hend⟩
    · have hle := hend.length_le
      exact ⟨by omega, Or.inl hend⟩

/-- The three readings of an identity. -/
inductive Reading (tables : TextTables) (identity : String) : Identity → Prop
  | email : Reading tables identity ⟨.email, (tables.lower (strip identity)).toList⟩
  | phone : Reading tables identity ⟨.phone, digitsOf tables (strip identity)⟩
  | text : Reading tables identity ⟨.text, compactOf (tables.lower (strip identity))⟩

theorem reading_of_normalize {identity : String} {normalized : Identity}
    (h : normalizeIdentity tables identity = some normalized) :
    Reading tables identity normalized := by
  unfold normalizeIdentity at h
  dsimp only at h
  split at h
  · cases h
  · split at h
    · cases h
      exact .email
    · split at h
      · cases h
        exact .phone
      · split at h
        · cases h
        · cases h
          exact .text

/-- Dropping the leading `@` first makes no difference. -/
theorem foldedIdentity_eq_compact (identity : String) :
    foldedIdentity tables identity =
      (compactOf (tables.lower (strip identity))).dropWhile (· = '@') := by
  unfold foldedIdentity compactOf
  induction (tables.lower (strip identity)).toList with
  | nil => rfl
  | cons c rest ih =>
      by_cases hat : c = '@'
      · subst hat
        have hspace : (!isPySpace '@') = true := by decide
        rw [List.filter_cons_of_pos (by exact hspace), List.dropWhile_cons_of_pos (by simp),
          List.dropWhile_cons_of_pos (by simp)]
        exact ih
      · rw [List.dropWhile_cons_of_neg (a := c) (by simp [hat])]

/-- An identity matches exactly when it is read alike, as a number with the same end
included. -/
theorem identityMatches_iff {a : String} {wanted : Identity} :
    identityMatches tables a wanted = true ↔
      ∃ normalized, normalizeIdentity tables a = some normalized ∧
        (normalized = wanted ∨ (normalized.kind = .phone ∧ wanted.kind = .phone ∧
          sameNumberEnd normalized.value wanted.value = true)) := by
  unfold identityMatches
  cases normalizeIdentity tables a with
  | none => simp
  | some normalized =>
      by_cases heq : normalized = wanted
      · simp [heq]
      · by_cases hphone : normalized.kind = .phone ∧ wanted.kind = .phone
        · simp [heq, hphone]
        · simp only [heq, hphone, if_false]
          constructor
          · intro h
            cases h
          · rintro ⟨_, h, h' | ⟨hkind, hwanted, -⟩⟩
            · cases h
              exact absurd h' heq
            · cases h
              exact absurd ⟨hkind, hwanted⟩ hphone

/-- A match that is not one of two phone numbers is one of two equal identities. -/
theorem folded_of_reading {a b : String} {identity : Identity} (ha : Reading tables a identity)
    (hb : Reading tables b identity) (hkind : identity.kind ≠ .phone) :
    foldedIdentity tables a = foldedIdentity tables b := by
  cases ha with
  | email =>
      generalize hvalue : (tables.lower (strip a)).toList = value at hb
      cases hb
      unfold foldedIdentity
      rw [hvalue]
  | phone => exact absurd rfl hkind
  | text =>
      generalize hvalue : compactOf (tables.lower (strip a)) = value at hb
      cases hb
      rw [foldedIdentity_eq_compact, foldedIdentity_eq_compact, hvalue]

theorem sameDigits_of_matching {a b : String} {wanted : Identity}
    (hwanted : normalizeIdentity tables b = some wanted)
    (hmatch : identityMatches tables a wanted = true)
    (hfold : foldedIdentity tables a ≠ foldedIdentity tables b) :
    ReadAsPhone tables a ∧ ReadAsPhone tables b ∧
      SameDigits (digitsOf tables (strip a)) (digitsOf tables (strip b)) := by
  obtain ⟨normalized, hnormalized, hsame⟩ := identityMatches_iff.mp hmatch
  have hreadA := reading_of_normalize hnormalized
  have hreadB := reading_of_normalize hwanted
  have hphones : normalized.kind = .phone ∧ wanted.kind = .phone := by
    rcases hsame with rfl | ⟨hkind, hkind', -⟩
    · by_cases hkind : normalized.kind = .phone
      · exact ⟨hkind, hkind⟩
      · exact absurd (folded_of_reading hreadA hreadB hkind) hfold
    · exact ⟨hkind, hkind'⟩
  obtain rfl : normalized = ⟨.phone, digitsOf tables (strip a)⟩ := by
    cases hreadA with
    | email => cases hphones.1
    | phone => rfl
    | text => cases hphones.1
  obtain rfl : wanted = ⟨.phone, digitsOf tables (strip b)⟩ := by
    cases hreadB with
    | email => cases hphones.2
    | phone => rfl
    | text => cases hphones.2
  refine ⟨hnormalized, hwanted, ?_⟩
  rcases hsame with heq | ⟨-, -, hend⟩
  · exact Or.inl (Identity.mk.inj heq).2
  · right
    dsimp only at hend
    exact (sameNumberEnd_iff _ _).mp hend

/-- Two phone numbers match when their digits do. -/
theorem matching_of_sameDigits {a b : String} (ha : ReadAsPhone tables a)
    (h : SameDigits (digitsOf tables (strip a)) (digitsOf tables (strip b))) :
    identityMatches tables a ⟨.phone, digitsOf tables (strip b)⟩ = true := by
  apply identityMatches_iff.mpr
  refine ⟨_, ha, ?_⟩
  rcases h with heq | hend
  · left
    rw [heq]
  · right
    refine ⟨rfl, rfl, ?_⟩
    dsimp only
    exact (sameNumberEnd_iff _ _).mpr hend

/-- A match is one of two names of one account. -/
def MatchesSameAccount (tables : TextTables) (isLetter : Char → Bool) (a b : String) : Prop :=
  ∀ wanted, normalizeIdentity tables b = some wanted → identityMatches tables a wanted = true →
    SameAccount tables isLetter a b

theorem matchesSameAccount_iff (a b : String) :
    MatchesSameAccount tables isLetter a b ↔ NumbersLetterless tables isLetter a b := by
  constructor
  · intro hsame ha hb hdigits hfold
    rcases hsame _ hb (matching_of_sameDigits ha hdigits) with heq | ⟨hna, hnb, -⟩
    · exact absurd heq hfold
    · exact ⟨hna, hnb⟩
  · intro hletterless wanted hwanted hmatch
    by_cases hfold : foldedIdentity tables a = foldedIdentity tables b
    · exact Or.inl hfold
    · obtain ⟨ha, hb, hdigits⟩ := sameDigits_of_matching hwanted hmatch hfold
      obtain ⟨hna, hnb⟩ := hletterless ha hb hdigits hfold
      exact Or.inr ⟨hna, hnb, hdigits⟩

/-- A case is only reported to a customer who typed one of its accounts. -/
def ReportsOwnCase (tables : TextTables) (isLetter : Char → Bool) (identities : Set String)
    (typed : String) : Prop :=
  ∀ rows current result row,
    (∀ row ∈ rows, ∀ candidates, identityCandidates tables.toRuntime row = .ok candidates →
      ∀ candidate ∈ candidates, candidate ∈ identities) →
    lookupPendingReply tables rows typed current = .ok result →
    result.matchedCase = some row →
    row ∈ rows ∧ ∃ candidates, identityCandidates tables.toRuntime row = .ok candidates ∧
      ∃ candidate ∈ candidates, SameAccount tables isLetter candidate typed

/-- Whatever identities are stored: they match, and their cases are reported, only as the
same account exactly if two identities that are read as one phone number have no letters. -/
theorem identities_separated_iff (tables : TextTables) (isLetter : Char → Bool)
    (identities : Set String) (typed : String) :
    ((∀ a ∈ identities, MatchesSameAccount tables isLetter a typed) ∧
        ReportsOwnCase tables isLetter identities typed) ↔
      ∀ a ∈ identities, NumbersLetterless tables isLetter a typed := by
  constructor
  · rintro ⟨hmatches, -⟩ a ha
    exact (matchesSameAccount_iff a typed).mp (hmatches a ha)
  · intro hletterless
    have hmatches : ∀ a ∈ identities, MatchesSameAccount tables isLetter a typed :=
      fun a ha => (matchesSameAccount_iff a typed).mpr (hletterless a ha)
    refine ⟨hmatches, ?_⟩
    intro rows current result row hstored hlookup hrow
    obtain ⟨hmem, wanted, candidates, hwanted, hcandidates, candidate, hcandidate, hmatch⟩ :=
      lookupPendingReply_ok hlookup hrow
    have hsame := hmatches candidate (hstored row hmem candidates hcandidates candidate hcandidate)
      wanted hwanted hmatch
    exact ⟨hmem, candidates, hcandidates, candidate, hcandidate, hsame⟩

end Matching

/-- The case of an account `maria123456` that has been answered. -/
def mariaCase : CandidateCase where
  telegramCaseId := 7
  conversationId := "livechat:C1:T1"
  chatId := "C1"
  updatedAt := "2026-06-01T00:00:00"
  conversationStatus := some "AI_ACTIVE"
  commandPayloadJson := .obj (.ofList [
    ("slot_memory", .obj (.ofList [("account_or_phone", .str "maria123456")]))])
  conversationSlotMemory := .null
  latestStaffOutboundPayloadJson := .obj (.ofList [("text", .str "paid")])

/-- The customer who types `pedro123456` is told the staff reply of `maria123456`. -/
theorem pedro_gets_reply_of_maria :
    (identityCandidates .plain mariaCase).toOption = some ["maria123456"] ∧
      (lookupPendingReply .plain [mariaCase] "pedro123456" "livechat:C2:T2").toOption.map
        (fun result => (result.status, result.matchedCase.map CandidateCase.telegramCaseId)) =
          some ("found", some 7) ∧
      ¬SameAccount .plain Char.isAlpha "maria123456" "pedro123456" := by
  refine ⟨by decide +kernel, by decide +kernel, ?_⟩
  rintro (hfold | ⟨hletters, -⟩)
  · exact absurd hfold (by decide +kernel)
  · exact absurd (hletters 'm' (by decide +kernel)) (by decide)

end AiCustomerService
