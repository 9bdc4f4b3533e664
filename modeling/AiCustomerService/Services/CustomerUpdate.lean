import AiCustomerService.Channels.Errors
import AiCustomerService.Support.Matches
import AiCustomerService.Workflows.SlotExtractors

/-!
# The update of a case for the staff

`summarize_customer_update` and `validate_customer_update` of
`app/services/telegram_case_followup.py`: the translation of a customer's text is shown to the staff
if it keeps the numbers, ids and durations of the text and claims no success that the text does not
claim.
-/

namespace AiCustomerService

open Support

/-- The tables behind `str.casefold` and `int` of decimal digits. -/
structure UpdateTables extends SlotTables where
  foldChar : Char → List Char
  digitValue : Char → ℕ

/-- Tables for evaluating examples on plain texts. -/
def UpdateTables.plain : UpdateTables :=
  { SlotTables.plain with
    foldChar := fun c => [c.toLower]
    digitValue := fun c => c.toNat - '0'.toNat }

/-- The units of `_canonical_durations`. -/
inductive DurationUnit where
  | day
  | hour
  deriving DecidableEq

namespace UpdateTables

variable (tables : UpdateTables)

/-- `text.casefold()`. -/
def casefold (text : List Char) : List Char := text.flatMap tables.foldChar

/-- `int(digits)`. -/
def decimalNumber (digits : List Char) : ℕ :=
  digits.foldl (fun number digit => 10 * number + tables.digitValue digit) 0

/-- `\d+`. -/
def digits : Regex Char := .seq [tables.decimal, .many tables.isDecimal]

/-! ## Durations -/

/-- `word_numbers`. -/
def wordNumbers : List (String × ℕ) :=
  [("one", 1), ("two", 2), ("three", 3), ("four", 4), ("five", 5), ("uno", 1), ("una", 1),
    ("dos", 2), ("tres", 3)]

/-- `chinese_numbers`. -/
def chineseNumbers : List (String × ℕ) :=
  [("一", 1), ("两", 2), ("兩", 2), ("二", 2), ("三", 3), ("四", 4), ("五", 5)]

/-- The parts of `\b(\d+|one|...)\s*(days?|hours?|d[ií]as?|horas?)\b`, the groups at 1 and 3. -/
def durationParts : List (Regex Char) :=
  let plural := Regex.optional (tables.literal "s")
  [.boundary tables.isWord,
    .oneOf (tables.digits :: wordNumbers.map fun entry => tables.literal entry.1),
    SlotTables.blanks,
    .oneOf [.cat (tables.literal "day") plural, .cat (tables.literal "hour") plural,
      .seq [tables.literal "d", tables.letterOf "ií", tables.literal "a", plural],
      .cat (tables.literal "hora") plural],
    .boundary tables.isWord]

/-- The parts of `(\d+|[一两兩二三四五])\s*(天|日|小时|小時)`, with an empty part before the groups. -/
def chineseDurationParts : List (Regex Char) :=
  [.nothing,
    .oneOf [tables.digits, .one (SlotTables.oneOfChars "一两兩二三四五")],
    SlotTables.blanks,
    .oneOf (["天", "日", "小时", "小時"].map fun unit => Regex.exact unit.toList)]

/-- The number of a duration: its digits, or the word that the table has. -/
def durationNumber (words : List (String × ℕ)) (raw key : List Char) : Except PyError ℕ :=
  if raw.all tables.isDigit then .ok (tables.decimalNumber raw)
  else
    match words.lookup (String.ofList key) with
    | some number => .ok number
    | none => .error (.keyError (String.ofList key))

/-- One duration of the first pattern. -/
def wordDuration (groups : List (List Char)) : Except PyError (ℕ × DurationUnit) := do
  let raw := groups.getD 1 []
  let unit := tables.casefold (groups.getD 3 [])
  let number ← tables.durationNumber wordNumbers raw (tables.casefold raw)
  let isDay := ["day", "dí", "di"].any fun start => start.toList.isPrefixOf unit
  .ok (number, if isDay then .day else .hour)

/-- One duration of the second pattern. -/
def chineseDuration (groups : List (List Char)) : Except PyError (ℕ × DurationUnit) := do
  let raw := groups.getD 1 []
  let number ← tables.durationNumber chineseNumbers raw raw
  let isDay := ["天", "日"].any fun unit => unit.toList = groups.getD 3 []
  .ok (number, if isDay then .day else .hour)

/-- `_canonical_durations`. -/
def canonicalDurations (text : String) : Except PyError (List (ℕ × DurationUnit)) := do
  let spelled ← (Regex.findAll tables.durationParts text.toList).mapM tables.wordDuration
  let chinese ← (Regex.findAll tables.chineseDurationParts text.toList).mapM tables.chineseDuration
  .ok (spelled ++ chinese)

/-! ## The other facts -/

/-- `\b[A-Za-z]{1,12}[-_]?\d{3,}\b`. -/
def transactionIdPattern : Regex Char :=
  .seq [.boundary tables.isWord, .between 1 12 Char.isAlpha,
    .optional (.one fun c => c = '-' || c = '_'), tables.decimal, tables.decimal, tables.decimal,
    .many tables.isDecimal, .boundary tables.isWord]

/-- The ids of a text, as they stand in it. -/
def transactionIds (text : String) : List (List Char) :=
  tables.transactionIdPattern.findTexts text.toList

/-- `(?<![A-Za-z])\d+(?:\.\d+)?`. -/
def numberPattern : Regex Char :=
  .seq [.notBehind Char.isAlpha, tables.digits,
    .optional (.seq [.one fun c => c = '.', tables.digits])]

/-- The numbers of a text, as they stand in it. -/
def writtenNumbers (text : String) : List (List Char) :=
  tables.numberPattern.findTexts text.toList

/-- `positive_claim`. -/
def positiveClaim : Regex Char :=
  .oneOf [
    .seq [.boundary tables.isWord, tables.literals ["has", "was", "is"], PatternTables.spaces,
      .optional (.cat (tables.literal "been") PatternTables.spaces),
      tables.literals ["completed", "credited", "received", "paid"], .boundary tables.isWord],
    tables.wholeWords (tables.literal "successfully")]

/-- `source_success`. -/
def sourceSuccess : Regex Char :=
  .oneOf [
    tables.wholeWords (tables.literals
      ["completed", "credited", "received", "paid", "successful", "successfully"]),
    tables.literals ["已完成", "已成功", "已到账", "已到賬"]]

/-- `unsupported_claims`. -/
def unsupportedClaims : Regex Char :=
  tables.wholeWords (.oneOf [
    tables.phrase "under review", tables.literal "approved", tables.literal "rejected",
    tables.literal "because", tables.phrase "due to", tables.phrase "caused by",
    tables.phrase "will arrive", .cat (tables.phrase "within ") tables.digits,
    tables.literal "eta"])

/-- The words that `validate_customer_update` takes for English, case and all. -/
def englishMarkers : Regex Char :=
  let plain := fun texts : List String => texts.map fun text => Regex.exact text.toList
  tables.wholeWords (.oneOf (
    plain ["the", "customer"] ++
    [.cat (Regex.exact "report".toList) (.optional (Regex.exact "s".toList))] ++
    plain ["deposit", "withdrawal", "order", "transaction", "amount", "has", "have", "is", "still",
      "not", "received", "credited", "day", "days", "hour", "hours"]))

/-! ## Validation -/

/-- `validate_customer_update`. -/
def validateCustomerUpdate (source candidate : String) : Except PyError Bool := do
  let shown := candidate.toList
  let folded := tables.casefold shown
  if shown.isEmpty || 300 < shown.length then .ok false
  else if shown.any (fun c => 127 < c.toNat) || !shown.any Char.isAlpha then .ok false
  else if (tables.englishMarkers.findTexts folded).length < 2 then .ok false
  else if (tables.transactionIds source).any fun id =>
      !decide (tables.casefold id <:+: folded) then .ok false
  else if (tables.writtenNumbers source).any fun number =>
      !(tables.writtenNumbers candidate).contains number then .ok false
  else do
    let sourceDurations ← tables.canonicalDurations source
    let candidateDurations ← tables.canonicalDurations candidate
    if sourceDurations.any fun duration => !candidateDurations.contains duration then .ok false
    else if tables.positiveClaim.found shown && (!tables.sourceSuccess.found source.toList ||
        tables.sourceNegatedSuccess.found source.toList) then .ok false
    else if tables.unsupportedClaims.found shown &&
        !tables.unsupportedClaims.found source.toList then .ok false
    else .ok true

end UpdateTables

/-- `CUSTOMER_UPDATE_FALLBACK`. -/
def customerUpdateFallback : List (String × String) :=
  [("deposit_missing", "The customer reports that the deposit has still not been credited."),
    ("withdrawal_missing", "The customer reports that the withdrawal has still not been received.")]

/-- `summarize_customer_update`; the translator is missing, raises or gives a value. -/
def summarizeCustomerUpdate (rt : Runtime) (tables : UpdateTables) (source intent : String)
    (translator : Option (String → String → Except PyError Json)) : Except PyError String :=
  match customerUpdateFallback.lookup intent with
  | none => .error (.keyError intent)
  | some fallback =>
      match translator with
      | none => .ok fallback
      | some translate =>
          match translate source intent with
          | .error _ => .ok fallback
          | .ok value => do
              let candidate := strip (value.textOrEmpty rt)
              let isValid ← tables.validateCustomerUpdate source candidate
              .ok (if isValid then candidate else fallback)

/-- The staff are shown the fallback of the intent, or a summary that was accepted. -/
theorem summarizeCustomerUpdate_shown {rt : Runtime} {tables : UpdateTables}
    {source intent shown : String} {translator : Option (String → String → Except PyError Json)}
    (h : summarizeCustomerUpdate rt tables source intent translator = .ok shown) :
    (intent, shown) ∈ customerUpdateFallback ∨
      tables.validateCustomerUpdate source shown = .ok true := by
  unfold summarizeCustomerUpdate at h
  split at h
  · cases h
  · rename_i fallback hlookup
    obtain ⟨before, after, hfallback, -⟩ := List.lookup_eq_some_iff.mp hlookup
    have hmem : (intent, fallback) ∈ customerUpdateFallback := by
      rw [hfallback]
      exact List.mem_append_right _ List.mem_cons_self
    split at h
    · exact Or.inl (Except.ok.inj h ▸ hmem)
    · split at h
      · exact Or.inl (Except.ok.inj h ▸ hmem)
      · obtain ⟨isValid, hvalid, h⟩ := bind_eq_ok.mp h
        cases isValid with
        | true => exact Or.inr (Except.ok.inj h ▸ hvalid)
        | false => exact Or.inl (Except.ok.inj h ▸ hmem)

end AiCustomerService
