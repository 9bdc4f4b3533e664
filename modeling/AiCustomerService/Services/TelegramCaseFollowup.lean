import AiCustomerService.Support.Regex
import AiCustomerService.Workers.TelegramReplyConsumer

/-!
# Follow-ups of money cases

`app/services/telegram_case_followup.py`: a customer's text is read as a follow-up or as a
confirmation, and is matched with one of the open cases of the chat.
-/

namespace AiCustomerService

open Support

/-- What `re` takes from the tables of Unicode: letters equal up to case, and `\w`. -/
structure PatternTables where
  sameLetter : Char → Char → Bool
  isWord : Char → Bool

/-- Tables for evaluating examples on plain texts. -/
def PatternTables.plain : PatternTables where
  sameLetter := fun c d => c.toLower = d.toLower
  isWord := fun c => c.isAlphanum || c = '_' || 128 ≤ c.toNat

namespace PatternTables

variable (tables : PatternTables)

/-- `\s+`. -/
def spaces : Regex Char := .cat (.one isPySpace) (.many isPySpace)

/-- A text as it stands, under `re.IGNORECASE`. -/
def literal (text : String) : Regex Char :=
  .seq (text.toList.map fun c => .one (tables.sameLetter c))

/-- Words separated by `\s+`, under `re.IGNORECASE`. -/
def phrase (text : String) : Regex Char :=
  .seq (text.toList.map fun c => if c = ' ' then spaces else .one (tables.sameLetter c))

/-- `[...]`, under `re.IGNORECASE`. -/
def letterOf (letters : String) : Regex Char :=
  .one fun c => letters.toList.any fun letter => tables.sameLetter letter c

/-- `\b...\b`. -/
def wholeWords (pattern : Regex Char) : Regex Char :=
  .seq [.boundary tables.isWord, pattern, .boundary tables.isWord]

/-- `.`. -/
def anyChar : Char → Bool := fun c => c ≠ '\n'

/-- `_FOLLOWUP_PATTERN`. -/
def followupPattern : Regex Char :=
  .oneOf [
    tables.wholeWords (.oneOf [
      .seq [tables.phrase "still ",
        .oneOf [tables.phrase "not", tables.phrase "haven't", tables.phrase "hasn't"]],
      .seq [tables.phrase "not ", .oneOf [tables.phrase "received", tables.phrase "credited"]],
      tables.phrase "where is",
      tables.phrase "how much longer",
      tables.phrase "no ha llegado",
      .seq [tables.phrase "a", tables.letterOf "uú", tables.phrase "n no"],
      .seq [tables.phrase "todav", tables.letterOf "ií", tables.phrase "a no"]]),
    .oneOf (["怎么还没", "怎麼還沒", "还没收到", "還沒收到", "仍未收到", "没有到账", "沒有到賬",
      "未到账", "未到賬", "ยังไม่ได้"].map tables.literal ++ [tables.phrase "belum masuk"])]

/-- `_CUSTOMER_CONFIRMED_PATTERN`. -/
def customerConfirmedPattern : Regex Char :=
  .oneOf [
    tables.wholeWords (.oneOf [
      tables.phrase "has arrived",
      tables.phrase "have received",
      tables.phrase "received it",
      tables.phrase "credited now",
      tables.phrase "got it"]),
    .oneOf (["已经收到", "已經收到", "收到了", "已经到账", "已經到賬", "到账了", "到賬了"].map
      tables.literal)]

/-- `source_negated_success` of `validate_customer_update`. -/
def sourceNegatedSuccess : Regex Char :=
  .seq [
    tables.wholeWords (.oneOf [
      tables.phrase "not", tables.phrase "never", tables.phrase "still not",
      tables.phrase "hasn't", tables.phrase "haven't", tables.phrase "wasn't",
      tables.phrase "isn't"]),
    .upTo 24 anyChar,
    tables.wholeWords (.oneOf [
      tables.phrase "completed", tables.phrase "credited", tables.phrase "received",
      tables.phrase "paid"])]

/-- `_contains_exact_identifier`. -/
def containsExactIdentifier (text value : String) : Bool :=
  (Regex.seq [.notBehind tables.isWord, tables.literal value, .notAhead tables.isWord]).found
    text.toList

/-- `is_money_case_followup_text`. -/
def isMoneyCaseFollowupText (text : String) : Bool := tables.followupPattern.found text.toList

/-- The text confirms receipt and is no follow-up. -/
def isConfirmationText (text : String) : Bool :=
  tables.customerConfirmedPattern.found text.toList && !tables.isMoneyCaseFollowupText text

end PatternTables

/-- A row of `list_money_case_candidates`.  The columns that only `_transaction_values` reads
are kept together. -/
structure MoneyCase where
  id : Nat
  intent : String
  status : Option String
  rootMessageId : Option Int
  slotMemory : JsonObject
  columns : JsonObject

/-- `normalize_legacy_case_status`. -/
def normalizeLegacyCaseStatus (rt : Runtime) (services : StaffReplyServices) (case : MoneyCase) :
    String :=
  let status := strip (textOr case.status "")
  if status ≠ "" ∧ status ≠ "created" then status
  else if (getKey case.slotMemory "last_telegram_staff_reply_type").textOrEmpty rt = "long_wait" then
    "under_review"
  else if (getKey case.slotMemory "telegram_case_resolved_at").truthy then
    let resolution := (getKey case.slotMemory "telegram_case_resolution_text").textOrEmpty rt
    if classifyMoneyCaseStatus services case.intent resolution "" = "completed_by_staff" then
      "completed_by_staff"
    else "under_review"
  else "awaiting_review"

/-- `_TRANSACTION_KEYS`. -/
def transactionKeys : List String :=
  ["order_id", "order_no", "transaction_id", "transaction_ref", "reference", "withdrawal_id",
    "deposit_id"]

/-- `_transaction_values`. -/
def transactionValues (rt : Runtime) (case : MoneyCase) : List String :=
  [case.columns, case.slotMemory].flatMap fun source =>
    transactionKeys.filterMap fun key =>
      let value := strip ((getKey source key).textOrEmpty rt)
      if value = "" then none else some value

inductive FollowUpKind where
  | customerConfirmedResolved
  | completionDispute
  | pendingFollowUp
  deriving DecidableEq

/-- What `resolve_money_case_followup` returns. -/
inductive FollowupResolution where
  | none
  | ambiguous
  | matched (case : MoneyCase) (kind : FollowUpKind)

/-- `follow_up_kind`, when there is one. -/
def FollowupResolution.followUpKind : FollowupResolution → Option FollowUpKind
  | .matched _ kind => some kind
  | _ => Option.none

/-- `_matched`. -/
def matchedCase (case : MoneyCase) (customerConfirmed : Bool) : FollowupResolution :=
  .matched case <|
    if customerConfirmed then .customerConfirmedResolved
    else if case.status = some "completed_by_staff" then .completionDispute
    else .pendingFollowUp

/-- The cases that a text may be about, with their normalized status. -/
def eligibleCases (rt : Runtime) (services : StaffReplyServices) (isFollowup isConfirmation : Bool)
    (candidates : List MoneyCase) : List MoneyCase :=
  (candidates.map fun case =>
      { case with status := some (normalizeLegacyCaseStatus rt services case) }).filter fun case =>
    if case.status = some "completed_confirmed_by_customer" ∨ case.status = some "terminal_other" then
      false
    else if !isConfirmation ∧ case.status = some "waiting_customer" then false
    else if case.status = some "completed_by_staff" ∧ !(isFollowup || isConfirmation) then false
    else true

/-- One of the identifiers of the case stands in the text. -/
def isNamedIn (rt : Runtime) (tables : PatternTables) (text : String) (case : MoneyCase) : Bool :=
  (transactionValues rt case).any fun value => tables.containsExactIdentifier text value

/-- The case card is the message that the conversation inherited. -/
def hasInheritedRoot (rt : Runtime) (inheritedRoot : Json) (case : MoneyCase) : Bool :=
  !inheritedRoot.isNull && (Json.ofInt? case.rootMessageId).pyStr rt = inheritedRoot.pyStr rt

/-- `cases[0]` if `len(cases) == 1`. -/
def onlyOne? : List MoneyCase → Option MoneyCase
  | [case] => some case
  | _ => none

/-- `resolve_money_case_followup`. -/
def resolveMoneyCaseFollowup (rt : Runtime) (tables : PatternTables) (services : StaffReplyServices)
    (candidates : List MoneyCase) (text : String) (inheritedRoot : Json) : FollowupResolution :=
  let isFollowup := tables.isMoneyCaseFollowupText text
  let isConfirmation := tables.isConfirmationText text
  if !isFollowup && !isConfirmation then .none
  else
    let eligible := eligibleCases rt services isFollowup isConfirmation candidates
    if eligible.isEmpty then .none
    else
      let transactionMatches := eligible.filter (isNamedIn rt tables text)
      match onlyOne? transactionMatches with
      | some case => matchedCase case isConfirmation
      | none =>
          if !transactionMatches.isEmpty then .ambiguous
          else
            match onlyOne? (eligible.filter (hasInheritedRoot rt inheritedRoot)) with
            | some case => matchedCase case isConfirmation
            | none =>
                match onlyOne? eligible with
                | some case => matchedCase case isConfirmation
                | none => .ambiguous

/-! ## When a case is matched -/

/-- One case is singled out: it is the only one named in the text, or none is named and it is
the only one under the inherited card or the only one at all. -/
def SinglesOut (rt : Runtime) (tables : PatternTables) (text : String) (inheritedRoot : Json)
    (cases : List MoneyCase) : Prop :=
  (cases.filter (isNamedIn rt tables text)).length = 1 ∨
    cases.filter (isNamedIn rt tables text) = [] ∧
      ((cases.filter (hasInheritedRoot rt inheritedRoot)).length = 1 ∨ cases.length = 1)

variable {rt : Runtime} {tables : PatternTables} {services : StaffReplyServices}

@[simp]
theorem followUpKind_matchedCase (case : MoneyCase) (customerConfirmed : Bool) :
    (matchedCase case customerConfirmed).followUpKind = some .customerConfirmedResolved ↔
      customerConfirmed = true := by
  cases customerConfirmed with
  | true => simp [matchedCase, FollowupResolution.followUpKind]
  | false =>
      by_cases hstaff : case.status = some "completed_by_staff"
      · simp [matchedCase, FollowupResolution.followUpKind, hstaff]
      · simp [matchedCase, FollowupResolution.followUpKind, hstaff]

theorem length_of_onlyOne? {cases : List MoneyCase} {case : MoneyCase}
    (h : onlyOne? cases = some case) : cases.length = 1 := by
  match cases, h with
  | [_], _ => rfl

theorem mem_of_onlyOne? {cases : List MoneyCase} {case : MoneyCase}
    (h : onlyOne? cases = some case) : case ∈ cases := by
  obtain ⟨only, rfl⟩ := List.length_eq_one_iff.mp (length_of_onlyOne? h)
  cases h
  exact List.mem_singleton_self _

theorem length_of_onlyOne?_none {cases : List MoneyCase} (h : onlyOne? cases = none) :
    cases.length ≠ 1 := by
  intro hlength
  obtain ⟨case, rfl⟩ := List.length_eq_one_iff.mp hlength
  cases h

/-- The text is taken for a confirmation of one of the cases exactly when it reads as one and a
case is singled out among those that are not closed. -/
theorem followUpKind_eq_confirmed_iff (candidates : List MoneyCase) (text : String)
    (inheritedRoot : Json) :
    (resolveMoneyCaseFollowup rt tables services candidates text inheritedRoot).followUpKind =
        some .customerConfirmedResolved ↔
      tables.isConfirmationText text = true ∧
        SinglesOut rt tables text inheritedRoot
          (eligibleCases rt services (tables.isMoneyCaseFollowupText text)
            (tables.isConfirmationText text) candidates) := by
  simp only [resolveMoneyCaseFollowup, SinglesOut]
  generalize tables.isConfirmationText text = isConfirmation
  generalize tables.isMoneyCaseFollowupText text = isFollowup
  generalize eligibleCases rt services isFollowup isConfirmation candidates = eligible
  split
  · rename_i hother
    have hconfirm : isConfirmation = false := by
      cases isConfirmation with
      | true => simp at hother
      | false => rfl
    simp [FollowupResolution.followUpKind, hconfirm]
  · split
    · rename_i hempty
      rw [List.isEmpty_iff.mp hempty]
      simp [FollowupResolution.followUpKind]
    · split
      · rename_i case hnamed
        rw [followUpKind_matchedCase]
        simp [length_of_onlyOne? hnamed]
      · rename_i hnamed
        have hnotOne := length_of_onlyOne?_none hnamed
        split
        · rename_i hseveral
          have hsome : eligible.filter (isNamedIn rt tables text) ≠ [] := by
            simpa [List.isEmpty_iff] using hseveral
          simp [FollowupResolution.followUpKind, hnotOne, hsome]
        · rename_i hnoneNamed
          have hnothing : eligible.filter (isNamedIn rt tables text) = [] := by
            simpa [List.isEmpty_iff] using hnoneNamed
          rw [hnothing]
          split
          · rename_i case hroot
            rw [followUpKind_matchedCase]
            simp [length_of_onlyOne? hroot]
          · rename_i hroot
            split
            · rename_i case hone
              rw [followUpKind_matchedCase]
              simp [length_of_onlyOne? hone]
            · rename_i hone
              simp [FollowupResolution.followUpKind, length_of_onlyOne?_none hroot,
                length_of_onlyOne?_none hone]

/-- The text concerns no case exactly when it is of neither kind or no case is open. -/
theorem resolveMoneyCaseFollowup_eq_none_iff (candidates : List MoneyCase) (text : String)
    (inheritedRoot : Json) :
    resolveMoneyCaseFollowup rt tables services candidates text inheritedRoot = .none ↔
      (tables.isMoneyCaseFollowupText text || tables.isConfirmationText text) = false ∨
        eligibleCases rt services (tables.isMoneyCaseFollowupText text)
          (tables.isConfirmationText text) candidates = [] := by
  simp only [resolveMoneyCaseFollowup]
  generalize tables.isConfirmationText text = isConfirmation
  generalize tables.isMoneyCaseFollowupText text = isFollowup
  generalize eligibleCases rt services isFollowup isConfirmation candidates = eligible
  split
  · rename_i hother
    have hneither : (isFollowup || isConfirmation) = false := by
      simpa [← Bool.not_or] using hother
    simp [hneither]
  · rename_i hone
    have hkind : (isFollowup || isConfirmation) ≠ false := by
      simpa [← Bool.not_or] using hone
    split
    · rename_i hempty
      simp [List.isEmpty_iff.mp hempty]
    · rename_i hopen
      have hsome : eligible ≠ [] := fun h => hopen (List.isEmpty_iff.mpr h)
      constructor
      · intro hnone
        split at hnone
        · cases hnone
        · split at hnone
          · cases hnone
          · split at hnone
            · cases hnone
            · split at hnone <;> cases hnone
      · rintro (h | h)
        · exact absurd h hkind
        · exact absurd h hsome

end AiCustomerService
