import AiCustomerService.Workflows.SlotExtractors

/-!
# Texts that the router looks for

The predicates of `app/graph/nodes.py` on the normalized text of a message, in lower case.
-/

namespace AiCustomerService

open Support

/-! ## Patterns -/

namespace SlotTables

variable (tables : SlotTables)

/-- `DISPUTE_PATTERN`. -/
def disputePattern : Regex Char :=
  .oneOf [
    tables.phrase "otra vez", tables.literal "siempre", tables.phrase "cuatro veces",
    tables.phrase "lo devuelven", tables.phrase "retiro fallido", tables.phrase "sigue fallando",
    tables.phrase "mismo problema", tables.phrase "same problem", tables.phrase "still failed",
    tables.literal "again", tables.phrase "not correct",
    tables.literals ["还是失败", "還是失敗", "仍然不行", "還是不行", "又失败", "又失敗", "不对", "不對"]]

/-- The thanks of `_is_backend_conclusion_acceptance`. -/
def acceptancePattern : Regex Char :=
  .oneOf [
    tables.wholeWords (tables.literals
      ["gracias", "thanks", "thank you", "listo", "vale", "entendido"]),
    tables.literals ["谢谢", "謝謝", "明白", "解决了", "解決了"]]

/-- The pattern of `_is_authoritative_result_dispute_text`. -/
def resultDisputePattern : Regex Char :=
  let anything : Regex Char := .many PatternTables.anyChar
  let apostrophe : Regex Char := .optional (.one (oneOfChars "'’"))
  .oneOf [
    tables.literals ["仍未收到", "还是没收到", "还是沒收到", "没有到账", "沒有到賬", "未到账", "未到賬"],
    .seq [tables.literal "余额", anything, tables.literal "没"],
    .seq [tables.literal "餘額", anything, tables.literal "沒"],
    .seq [tables.literal "still", PatternTables.spaces,
      .optional (.seq [tables.literal "have", PatternTables.spaces]), tables.literal "not",
      PatternTables.spaces, tables.literals ["received", "arrived", "credited"]],
    .seq [tables.literal "haven", apostrophe, tables.phrase "t received"],
    .seq [tables.literal "didn", apostrophe, tables.phrase "t ",
      tables.literals ["arrive", "receive"]],
    .seq [tables.phrase "not ", tables.literals ["received", "credited"]],
    .seq [tables.phrase "no me ",
      .optional (.seq [.optional (tables.literal "h"), tables.phrase "a "]),
      tables.literal "llega", tables.literals ["do", "fo"]],
    .seq [tables.phrase "no me lleg", tables.letterOf "oó"],
    tables.phrase "no me llega", tables.phrase "no he recibido",
    .seq [tables.literal "todav", tables.letterOf "ií", tables.phrase "a no"],
    .seq [tables.literal "a", tables.letterOf "uú", tables.phrase "n no"],
    .seq [tables.phrase "no ", .optional (tables.phrase "se "), tables.literal "acredit",
      tables.letterOf "oó"],
    tables.phrase "no aparece"]

/-- The patterns of `_is_conversation_memory_lookup`. -/
def memoryLookupPattern : Regex Char :=
  let anything : Regex Char := .many PatternTables.anyChar
  let justNow := tables.literals ["刚刚", "剛剛", "上一句", "上句", "前一句", "刚才", "剛才"]
  let wordsSaid := tables.literals ["说", "說", "回复", "回覆", "讲", "講", "问", "問", "提到"]
  .oneOf [
    .seq [justNow, anything, wordsSaid],
    .seq [tables.literals ["我", "你"], anything, justNow, anything, wordsSaid],
    .seq [tables.literals ["刚刚", "剛剛", "刚才", "剛才", "之前"], anything,
      tables.literals ["原因", "为什么", "為什麼", "为何", "為何", "导致", "導致"], anything,
      tables.literals ["无法提款", "無法提款", "提款", "提现", "提現", "流水"]],
    tables.wholeWords (tables.literal "what did i just say"),
    tables.wholeWords (tables.literal "what was my previous message"),
    tables.wholeWords (tables.literal "what did you just say"),
    tables.wholeWords (tables.literal "what did you reply")]

/-- The greetings of `_is_casual_chat`. -/
def greetingPattern : Regex Char :=
  tables.literals ["hi", "hello", "hey", "hola", "你好", "您好", "how are you",
    "hello how are you", "hi how are you", "你好吗", "在吗", "在嗎"]

end SlotTables

/-- Every run of separators becomes one blank. -/
def squeezeRuns (separates : Char → Bool) : Bool → List Char → List Char
  | _, [] => []
  | inRun, c :: rest =>
      if separates c then
        if inRun then squeezeRuns separates true rest else ' ' :: squeezeRuns separates true rest
      else c :: squeezeRuns separates false rest

/-- `re.sub(r"[marks\s]+", " ", text).strip()`. -/
def squeeze (marks text : String) : String :=
  strip (String.ofList
    (squeezeRuns (fun c => isPySpace c || marks.toList.contains c) false text.toList))

/-! ## Tokens -/

namespace RouteText

def isDepositMissing (text : String) : Bool :=
  containsAny text ["deposit", "depósito", "deposito", "存款", "充值"] &&
    containsAny text ["no llegó", "no llego", "未到账", "没到账", "no acreditado", "nunca me pagaron"]

def isWithdrawalMissing (text : String) : Bool :=
  containsAny text ["retiro", "withdrawal", "提款", "提现"] &&
    containsAny text ["no llegó", "no llego", "未到账", "没到账", "no acreditado",
      "nunca me pagaron", "did not arrive"]

def isWithdrawalBlockedOrRollover (text : String) : Bool :=
  containsAny text ["no puedo retirar", "无法提款", "withdrawal blocked", "rollover", "流水"]

def isPendingReplyLookup (text : String) : Bool :=
  containsAny text ["caso anterior", "previous case", "上一笔案件"]

def isDepositHowto (text : String) : Bool :=
  containsAny text ["cómo recargar", "como recargar", "how to deposit", "如何充值", "充值方式"]

def isWithdrawalHowto (text : String) : Bool :=
  containsAny text ["cómo puedo retirar", "como puedo retirar", "cómo retirar", "como retirar",
    "how to withdraw", "如何提款", "咋取钱", "怎么取钱", "如何取钱"]

def isForgotPasswordHowto (text : String) : Bool :=
  containsAny text ["forgot password", "olvidé mi contraseña", "olvide mi contraseña", "忘记密码"]

def hasMenuSignal (text : String) : Bool := containsAny text ["menu", "menú"]

def hasScreenshotSignal (text : String) : Bool :=
  containsAny text ["screenshot", "captura", "截图"]

def isScreenshotUploadHowto (text : String) : Bool :=
  hasScreenshotSignal text && containsAny text ["subir", "upload", "enviar", "上传"]

def isScreenshotUploadFailed (text : String) : Bool :=
  (hasScreenshotSignal text ||
      containsAny text ["attachment", "file", "附件", "图片", "照片", "imagen", "archivo"]) &&
    containsAny text ["失败", "失敗", "传不了", "傳不了", "上传不了", "上傳不了", "发不了", "發不了",
      "无法上传", "無法上傳", "不能上传", "不能上傳", "upload failed", "can't upload",
      "cannot upload", "no puedo subir", "no me deja subir", "no puedo enviar"]

def isRolloverExplanation (text : String) : Bool :=
  containsAny text ["qué es rollover", "que es rollover", "what is rollover", "流水是什么",
    "rollover explanation"]

def isMenuHelp (text : String) : Bool :=
  hasMenuSignal text &&
    containsAny text ["no veo", "ningun", "ningún", "dónde", "donde", "where", "找不到"]

def isServiceFrustration (text : String) : Bool :=
  containsAny text ["todo el tiempo lo mismo", "siempre lo mismo", "otra vez lo mismo",
    "same thing every time"]

def isAbusiveOrEmotional (text : String) : Bool :=
  containsAny text ["basura", "mierda", "estafa", "scam", "骗子", "垃圾"]

def isUnsupportedConcreteIssue (text : String) : Bool :=
  containsAny text ["problemas técnicos", "problemas tecnicos", "technical issue", "del juego",
    "game issue", "游戏技术", "遊戲技術", "游戏问题", "遊戲問題"]

def isAccountAccessIssue (text : String) : Bool :=
  containsAny text ["no puedo entrar", "no puedo iniciar sesión", "no puedo iniciar sesion",
    "can't log in", "无法登录"]

def isAccountProfileOrWalletChange (text : String) : Bool :=
  containsAny text ["cambiar wallet", "change wallet", "cambiar perfil", "change profile",
    "cambiar correo", "cambiar telefono"]

def isWalletIdentityRisk (text : String) : Bool :=
  containsAny text ["cambiar wallet", "change wallet", "cambiar perfil", "change profile",
    "cambiar correo", "cambiar telefono", "wallet", "billetera", "bank card", "银行卡", "銀行卡",
    "钱包", "錢包", "收款账户", "收款帳戶", "身份资料", "身份資料", "实名", "實名", "kyc",
    "持有人不一致", "姓名不一致", "资料异常", "資料異常"]

def isAccountVerificationIssue (text : String) : Bool :=
  containsAny text ["验证码", "驗證碼", "verification code", "codigo de verificacion",
      "código de verificación", "sim", "email verification", "邮箱验证", "郵箱驗證", "手机验证",
      "手機驗證", "phone verification"] &&
    containsAny text ["收不到", "没收到", "未收到", "無法", "无法", "不通过", "失效", "not receive",
      "did not receive", "no llega", "no recibo", "can't verify", "cannot verify"]

def isPromoRefundUnsupported (text : String) : Bool :=
  containsAny text ["优惠码", "優惠碼", "promo code", "codigo promocional", "código promocional",
    "bonus", "bono", "free spins", "注册问题", "註冊問題", "registration issue", "refund", "退款",
    "退回", "devolver", "reembolso"]

def isAbuseOrFraudRisk (text : String) : Bool :=
  containsAny text ["诈骗", "詐騙", "骗子", "騙子", "fraud", "scam", "estafa", "资金安全", "資金安全",
    "fund safety", "account safety", "不安全", "安全风险", "安全風險", "mierda", "fuck"]

def isTutorialFailedAftercare (text : String) : Bool :=
  containsAny text ["教程", "教學", "说明", "說明", "guide", "tutorial", "instrucciones", "pasos",
      "按照你说", "照你说", "按你说"] &&
    containsAny text ["还是不行", "還是不行", "仍然不行", "还是失败", "還是失敗", "still not work",
      "still doesn't work", "still failed", "sigue sin funcionar", "no funciona"]

/-- `reset_still_failed` of `_forgot_password_followup_route`. -/
def resetStillFailed (text : String) : Bool :=
  containsAny text ["还是不行", "還是不行", "仍然不行", "仍无法登录", "仍無法登入", "重置失败",
    "重設失敗", "报错", "報錯", "can't log in", "still doesn't work", "still failed",
    "no puedo entrar", "sigue sin funcionar", "error"]

def mentionsDeposit (text : String) : Bool :=
  containsAny text ["deposit", "depósito", "deposito", "存款", "充值"]

def mentionsWithdrawal (text : String) : Bool :=
  containsAny text ["withdraw", "withdrawal", "retiro", "提款", "提现"]

/-- The words of `_is_cross_workflow_business_object`, and of the validator's
`_business_object_conflicts_with_active_workflow`. -/
def conflictsWith (activeWorkflow text : String) : Bool :=
  (activeWorkflow = "withdrawal_missing" && mentionsDeposit text && !mentionsWithdrawal text) ||
    (activeWorkflow = "deposit_missing" && mentionsWithdrawal text && !mentionsDeposit text)

/-- The tokens of `_is_current_workflow_supplement`. -/
def supplementTokens : String → List String
  | "deposit_missing" =>
      ["截图", "凭证", "已付", "已转", "支付", "付款", "充值", "存款", "到账", "没到账", "未到账",
        "deposit", "paid", "sent", "submitted", "mandé", "mande", "enviado", "payment", "receipt",
        "proof", "depósito", "deposito"]
  | "withdrawal_missing" =>
      ["截图", "凭证", "提款", "提现", "到账", "没到账", "未到账", "withdraw", "withdrawal", "retiro",
        "sent", "submitted", "mandé", "mande", "enviado", "proof"]
  | "withdrawal_blocked_or_rollover" =>
      ["流水", "rollover", "提款", "提现", "withdraw", "限制", "blocked"]
  | "pending_reply_lookup" => ["之前", "上一笔", "案件", "回复", "case", "ticket", "previous"]
  | _ => []

/-- `_is_independent_faq_during_workflow`: the intent and the query. -/
def independentFaq (text : String) : Option (String × String) :=
  if isDepositHowto text || containsAny text ["怎么存款", "如何存款", "怎么充值"] then
    some ("deposit_howto", "怎么存款")
  else if isWithdrawalHowto text ||
      containsAny text ["怎么提款", "怎么提现", "如何提现", "咋取钱", "怎么取钱", "如何取钱"] then
    some ("withdrawal_howto", "如何提款")
  else if isForgotPasswordHowto text then some ("forgot_password_howto", "忘记密码")
  else if isScreenshotUploadHowto text || containsAny text ["怎么上传截图", "如何上传截图"] then
    some ("screenshot_upload_howto", "上传截图")
  else none

/-- The candidate of `_is_new_workflow_request`. -/
def newWorkflow? (text : String) : Option String :=
  if isDepositMissing text then some "deposit_missing"
  else if isWithdrawalMissing text then some "withdrawal_missing"
  else if isWithdrawalBlockedOrRollover text then some "withdrawal_blocked_or_rollover"
  else if isPendingReplyLookup text then some "pending_reply_lookup"
  else if isAccountAccessIssue text || isAccountProfileOrWalletChange text then
    some "manual_support_workflow"
  else none

end RouteText

end AiCustomerService
