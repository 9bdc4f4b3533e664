import AiCustomerService.Services.TelegramCaseFollowup

/-!
# The status that a staff reply gives a case

The patterns of `app/services/telegram_case_status.py`.
-/

namespace AiCustomerService

open Support

namespace PatternTables

variable (tables : PatternTables)

/-- `(?:...)?`. -/
def optional (r : Regex Char) : Regex Char := .alt r .nothing

/-- One of some texts, under `re.IGNORECASE`. -/
def oneOfTexts (texts : List String) : Regex Char := .oneOf (texts.map tables.literal)

/-- `_ASK_CUSTOMER_PATTERN`. -/
def askCustomerPattern : Regex Char :=
  .oneOf [
    tables.wholeWords (.oneOf [
      .seq [tables.phrase "please ", tables.oneOfTexts ["provide", "send", "share", "confirm"]],
      .seq [tables.phrase "need ", tables.oneOfTexts ["the", "your"]],
      .seq [tables.phrase "could you ", tables.oneOfTexts ["provide", "send", "share"]]]),
    .seq [tables.oneOfTexts ["请", "請"], .many anyChar,
      tables.oneOfTexts ["提供", "发送", "發送", "确认", "確認"]]]

/-- `_WAIT_PATTERN`. -/
def caseWaitPattern : Regex Char :=
  .oneOf [
    tables.wholeWords (.oneOf [
      tables.phrase "still checking", tables.phrase "under review", tables.phrase "in review",
      tables.phrase "processing", tables.phrase "pending", tables.phrase "please wait"]),
    tables.oneOfTexts ["审核中", "審核中", "处理中", "處理中", "查询中", "查詢中", "请等待", "請等待"]]

/-- `_TERMINAL_OTHER_PATTERN`. -/
def terminalOtherPattern : Regex Char :=
  .oneOf [
    tables.wholeWords (tables.oneOfTexts ["cancelled", "canceled", "rejected", "invalid", "voided"]),
    tables.oneOfTexts ["已取消", "被拒绝", "被拒絕", "无效", "無效"]]

/-- `已(?:经|經)?到(?:账|賬)`. -/
def arrivedPattern : Regex Char :=
  .seq [tables.literal "已", optional (tables.oneOfTexts ["经", "經"]), tables.literal "到",
    tables.oneOfTexts ["账", "賬"]]

/-- The English words of `_SUCCESS_PATTERN`. -/
def successWords : List String :=
  ["completed", "complete", "successful", "successfully", "credited", "received", "paid"]

/-- `_SUCCESS_PATTERN`. -/
def caseSuccessPattern : Regex Char :=
  .oneOf [
    tables.wholeWords (tables.oneOfTexts successWords),
    .oneOf [tables.literal "已完成", tables.literal "完成成功", tables.literal "已成功",
      tables.arrivedPattern, tables.literal "入账成功", tables.literal "入賬成功"]]

/-- `_DEPOSIT_PATTERN`. -/
def depositPattern : Regex Char :=
  .oneOf [tables.wholeWords (tables.literal "deposit"), tables.oneOfTexts ["存款", "充值", "入金"]]

/-- `_WITHDRAWAL_PATTERN`. -/
def withdrawalPattern : Regex Char :=
  .oneOf [
    tables.wholeWords (.seq [tables.literal "withdraw", optional (tables.literal "al")]),
    tables.wholeWords (.seq [tables.literal "cash", .many isPySpace, tables.literal "out"]),
    tables.oneOfTexts ["提款", "取款", "提现", "提現", "出金"]]

/-- The negations that `_matching_completion` knows. -/
def negations : List String := ["not", "never", "hasn't", "haven't", "wasn't", "isn't"]

/-- A negation at most 24 characters before one of some words. -/
def negatedPattern (words : List String) : Regex Char :=
  .seq [tables.wholeWords (tables.oneOfTexts negations), .upTo 24 anyChar,
    tables.wholeWords (tables.oneOfTexts words)]

/-- The words whose negation `_matching_completion` looks for. -/
def negatableWords : List String :=
  ["completed", "complete", "successful", "credited", "received", "paid"]

/-- One of the words is negated exactly when the negation of one of them is found. -/
theorem found_negatedPattern_iff (words : List String) (text : List Char) :
    (tables.negatedPattern words).found text = true ↔
      ∃ word ∈ words, (tables.negatedPattern [word]).found text = true := by
  have hsplits : ∀ words : List String, (tables.negatedPattern words).SplitsInto words
      fun word => .seq [tables.wholeWords (tables.oneOfTexts negations), .upTo 24 anyChar,
        tables.wholeWords (tables.literal word)] := by
    intro words
    have hwords := Regex.splitsInto_oneOf words tables.literal
    have hwhole := (hwords.cat_left (.cat (.boundary tables.isWord) .nothing)).cat_right
      (.boundary tables.isWord)
    exact ((hwhole.cat_left .nothing).cat_right (.upTo 24 anyChar)).cat_right _
  simp only [(hsplits _).found_iff, List.mem_singleton, exists_eq_left]

/-- `_matching_completion`. -/
def matchingCompletion (intent text : String) : Bool :=
  let text := text.toList
  if !tables.caseSuccessPattern.found text then false
  else if (tables.negatedPattern negatableWords).found text then false
  else
    let hasDeposit := tables.depositPattern.found text
    let hasWithdrawal := tables.withdrawalPattern.found text
    if intent = "deposit_missing" then
      let depositResult := hasDeposit ||
        (Regex.oneOf [tables.wholeWords (tables.literal "credited"),
          .oneOf [tables.arrivedPattern, tables.literal "入账", tables.literal "入賬"]]).found text
      depositResult && !hasWithdrawal
    else
      let withdrawalResult := hasWithdrawal ||
        (Regex.oneOf [tables.wholeWords (tables.literal "received"),
          tables.arrivedPattern]).found text
      withdrawalResult && !hasDeposit

end PatternTables

end AiCustomerService
