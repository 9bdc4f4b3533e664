import AiCustomerService.Services.FinalReply
import AiCustomerService.Support.Matches

/-!
# The checks of a final reply

`app/workflows/final_reply_policy.py`: what the plan of a reply demands and forbids, the labels and
promises that no reply may have, and the facts that a model declares to have used.
-/

namespace AiCustomerService

open Support

/-- `UNVERIFIED_BACKEND_FACT_PHRASES`. -/
def unverifiedBackendFactPhrases : List String :=
  ["已到账", "到账成功", "已成功", "成功到账", "已完成", "处理完成", "已拒绝", "已失败", "已退款", "退款完成",
    "credited", "successfully credited", "completed", "rejected", "refunded"]

/-- `SEMANTIC_ALIASES`. -/
def semanticAliases : List (String × List (String × List String)) :=
  [("account_or_phone", [
      ("zh-Hans", ["用户名", "注册手机号", "账号", "手机号"]),
      ("zh-Hant", ["用戶名", "註冊手機號", "帳號", "手機號"]),
      ("en", ["username", "registered phone number", "account", "phone"]),
      ("es", ["usuario", "teléfono registrado", "telefono registrado", "cuenta"]),
      ("tl", ["username", "rehistradong numero", "account"]),
      ("th", ["ชื่อผู้ใช้", "เบอร์โทรที่ลงทะเบียน", "บัญชี"]),
      ("my", ["username", "registered phone", "account"]),
      ("ms", ["nama pengguna", "nombor telefon berdaftar", "akaun"])]),
    ("phone", [
      ("zh-Hans", ["电话", "手机号", "注册手机号", "联系电话"]),
      ("zh-Hant", ["電話", "手機號", "註冊手機號", "聯絡電話"]),
      ("en", ["phone", "registered phone number", "contact number"]),
      ("es", ["teléfono", "telefono", "número registrado", "numero registrado"]),
      ("tl", ["phone", "registered number"]),
      ("th", ["เบอร์โทร", "เบอร์โทรที่ลงทะเบียน"]),
      ("my", ["phone", "registered phone"]),
      ("ms", ["telefon", "nombor telefon berdaftar"])]),
    ("deposit_screenshot", [
      ("zh-Hans", ["存款付款截图", "付款截图", "充值截图"]),
      ("zh-Hant", ["存款付款截圖", "付款截圖", "儲值截圖"]),
      ("en", ["deposit screenshot", "payment screenshot", "proof of payment", "payment proof"]),
      ("es", ["captura de depósito", "captura de deposito", "comprobante de pago"]),
      ("tl", ["screenshot ng deposito", "proof of payment"]),
      ("th", ["ภาพหน้าจอการฝากเงิน", "หลักฐานการชำระเงิน"]),
      ("my", ["deposit screenshot", "payment proof"]),
      ("ms", ["tangkapan skrin deposit", "bukti pembayaran"])]),
    ("withdrawal_screenshot", [
      ("zh-Hans", ["提款截图", "提款申请截图"]),
      ("zh-Hant", ["提款截圖", "提款申請截圖"]),
      ("en", ["withdrawal screenshot", "withdrawal request screenshot"]),
      ("es", ["captura de retiro", "solicitud de retiro"]),
      ("tl", ["screenshot ng withdrawal", "withdrawal request screenshot"]),
      ("th", ["ภาพหน้าจอการถอนเงิน", "คำขอถอนเงิน"]),
      ("my", ["withdrawal screenshot"]),
      ("ms", ["tangkapan skrin pengeluaran"])]),
    ("receipt_screenshot", [
      ("zh-Hans", ["截图", "凭证截图", "付款截图", "存款付款截图", "提款截图"]),
      ("zh-Hant", ["截圖", "憑證截圖", "付款截圖"]),
      ("en", ["screenshot", "receipt screenshot", "payment proof", "proof"]),
      ("es", ["captura", "comprobante", "prueba de pago"]),
      ("tl", ["screenshot", "proof of payment"]),
      ("th", ["ภาพหน้าจอ", "หลักฐาน"]),
      ("my", ["screenshot", "proof"]),
      ("ms", ["tangkapan skrin", "bukti"])]),
    ("backend_waiting_notice", [
      ("zh-Hans", ["请稍等", "后台", "查询", "确认"]),
      ("zh-Hant", ["請稍等", "後台", "查詢", "確認"]),
      ("en", ["please wait", "checking", "confirm", "backend"]),
      ("es", ["espera", "verificando", "confirmar"]),
      ("tl", ["maghintay", "chine-check", "kumpirma"]),
      ("th", ["รอสักครู่", "ตรวจสอบ", "ยืนยัน"]),
      ("my", ["please wait", "checking"]),
      ("ms", ["sila tunggu", "semak", "sahkan"])]),
    ("human_handoff_notice", [
      ("zh-Hans", ["转接真人客服", "真人客服"]),
      ("zh-Hant", ["轉接真人客服", "真人客服"]),
      ("en", ["human agent", "live agent", "support agent"]),
      ("es", ["agente humano", "soporte"]),
      ("tl", ["human agent", "support agent"]),
      ("th", ["เจ้าหน้าที่", "พนักงาน"]),
      ("my", ["human agent", "support"]),
      ("ms", ["ejen manusia", "sokongan"])]),
    ("pending_reply_identity", [
      ("zh-Hans", ["用户名", "注册手机号", "邮箱", "识别资料"]),
      ("zh-Hant", ["用戶名", "註冊手機號", "信箱", "識別資料"]),
      ("en", ["username", "registered phone number", "email", "identity"]),
      ("es", ["usuario", "teléfono registrado", "correo", "identificación"]),
      ("tl", ["username", "rehistradong numero", "email"]),
      ("th", ["ชื่อผู้ใช้", "เบอร์โทรที่ลงทะเบียน", "อีเมล"]),
      ("my", ["username", "registered phone", "email"]),
      ("ms", ["nama pengguna", "nombor telefon berdaftar", "emel"])])]

/-- `BACKEND_WAITING_FORBIDDEN_PROMISES`. -/
def backendWaitingForbiddenPromises : List String :=
  ["一定", "马上到账", "立即到账", "保证", "已经处理", "已处理", "will be credited", "guarantee"]

/-- `HUMAN_HANDOFF_FORBIDDEN_PROMISES`. -/
def humanHandoffForbiddenPromises : List String :=
  ["已接入", "已经接入", "真人已接入", "马上处理", "立即处理", "agent is connected", "agent has joined"]

/-- `fact_groups` of `_is_verified_staff_backend_fact`. -/
def factGroups : List (List String) :=
  [["到账", "credited", "successfully credited"], ["成功", "success", "successful"],
    ["完成", "处理完成", "completed", "done", "processed"], ["拒绝", "拒絕", "rejected"],
    ["失败", "失敗", "failed"], ["退款", "refunded"]]

/-! ## Patterns -/

namespace SlotTables

variable (tables : SlotTables)

/-- `\d+`. -/
def number : Regex Char := .seq [tables.decimal, .many tables.isDecimal]

/-- `UNVERIFIED_TIME_COMMITMENT_PATTERN`. -/
def timeCommitment : Regex Char :=
  .oneOf [.seq [tables.literal "24", blanks, tables.literals ["小时"]],
    .seq [tables.literal "24", blanks, tables.literals ["小時"]],
    tables.literals ["几分钟", "幾分鐘", "马上", "立即", "今天内", "今天內", "tomorrow"],
    .seq [tables.phrase "within ", tables.number, tables.phrase " hours"],
    tables.wholeWords (tables.literal "soon")]

/-- `INTERNAL_TELEGRAM_IDENTIFIER_PATTERN`. -/
def telegramIdentifier : Regex Char :=
  .oneOf [
    .seq [.boundary tables.isWord, tables.literals ["tg", "mock_tg"], tables.literal ":",
      tables.number, .boundary tables.isWord],
    tables.literal "telegram_message_id", tables.literal "telegram_case_id"]

/-- `ASSISTANT_IDENTITY_LEAK_PATTERN`. -/
def assistantIdentity : Regex Char := .exact "客服灵犀".toList

/-- `third[-\s]?party` before what follows it. -/
def thirdParty (rest : Regex Char) : Regex Char :=
  .seq [tables.literal "third", .optional (.one fun c => c = '-' || isPySpace c),
    tables.literal "party", PatternTables.spaces, rest]

/-- `INTERNAL_ORGANIZATION_LABEL_PATTERN`. -/
def organizationLabel : Regex Char :=
  .oneOf [tables.literals ["后台", "後台"], tables.wholeWords (tables.literal "backend"),
    tables.literals ["工作人员", "人工后台"], tables.phrase "backend staff",
    tables.phrase "staff reply", tables.thirdParty (tables.literal "platform"),
    tables.literal "第三方平台", .seq [tables.literal "第三方", blanks, tables.literal "api"],
    tables.wholeWords (tables.literal "api"), tables.literal "接口"]

/-- `INTERNAL_BACKEND_TRANSFER_PATTERN`. -/
def backendTransfer : Regex Char :=
  let toBackend := tables.phrase " to backend"
  .oneOf [
    tables.literals ["转交后台", "轉交後台", "转给后台", "轉給後台", "交给后台", "交給後台", "提交后台",
      "提交給後台", "同步给后台", "同步至后台", "补充给后台", "補充給後台"],
    .seq [tables.literal "transferre", .optional (tables.literal "d"), toBackend],
    .seq [tables.literal "submitte", .optional (tables.literal "d"), toBackend],
    .seq [tables.literal "synce", .optional (tables.literal "d"), toBackend],
    .seq [tables.literal "hand", .optional (tables.literal "ed"), tables.phrase " off to backend"],
    .seq [tables.literal "call", .optional (tables.literal "ing"), PatternTables.spaces,
      .optional (.cat (tables.literal "a") PatternTables.spaces),
      tables.thirdParty (tables.literal "api")],
    .seq [tables.literal "调用", .upTo 12 PatternTables.anyChar,
      tables.literals ["api", "接口", "第三方平台"]]]

/-- `BACKEND_SYNC_CLAIM_PATTERN`. -/
def backendSyncClaim : Regex Char :=
  tables.literals ["已同步", "同步至", "同步给后台", "已提交后台", "提交给后台", "已补充给后台",
    "補充給後台", "已補充給後台", "sent to backend", "synced to backend"]

/-- `STAFF_REPLY_CUSTOMER_FEEDBACK_PATTERN`. -/
def customerFeedback : Regex Char :=
  .oneOf [
    .seq [tables.literals ["收到", "感谢", "感謝"], .upTo 8 PatternTables.anyChar,
      tables.literals ["您", "你", "客户", "客戶"], .upTo 8 PatternTables.anyChar,
      tables.literals ["反馈", "反饋", "回复", "回覆"]],
    tables.literal "your feedback", tables.literal "customer feedback"]

/-- `_critical_values`. -/
def criticalValues (text : String) : List String :=
  let word := Regex.boundary tables.isWord
  let pattern : Regex Char := .oneOf [
    .seq [word, tables.number, .optional (.seq [.one fun c => c = '.', tables.number]), word],
    .seq [.between 1 6 Char.isAlpha, tables.decimal, tables.decimal, tables.decimal,
      tables.decimal, .many tables.isDecimal, word],
    .seq ([word] ++ List.replicate 7 tables.decimal ++ [.many tables.isDecimal, word])]
  (pattern.findTexts text.toList).map String.ofList

end SlotTables

/-! ## The plan -/

/-- What `for item in value or []` goes through. -/
def itemsOrEmpty (value : Json) : Except PyError (List Json) := do
  match ← listOrEmpty value with
  | .arr items => .ok items
  | _ => .ok []

/-- `state.get("reply_plan") or {}`. -/
def replyPlan (s : NodeState) : Except PyError JsonObject := (s.get "reply_plan").mappingOrEmpty

/-- `phrase.lower() in text`. -/
def mentions (rt : Runtime) (text phrase : String) : Bool :=
  decide ((rt.lower phrase).toList <:+: text.toList)

/-- The violation for each phrase of the plan that the text does not mention. -/
def missingPhrases (rt : Runtime) (phrases : Json) (lowered violation : String) :
    Except PyError (List String) := do
  let items ← itemsOrEmpty phrases
  pure (items.filterMap fun phrase =>
    if phrase.truthy && !mentions rt lowered (phrase.pyStr rt) then some violation else none)

/-- The violation for each phrase of the plan that the text mentions. -/
def forbiddenPhrases (rt : Runtime) (phrases : Json) (lowered violation : String) :
    Except PyError (List String) := do
  let items ← itemsOrEmpty phrases
  pure (items.filterMap fun phrase =>
    if phrase.truthy && mentions rt lowered (phrase.pyStr rt) then some violation else none)

/-- `_contains_semantic_item`. -/
def containsSemanticItem (rt : Runtime) (lowered item replyLanguage : String) : Bool :=
  match semanticAliases.lookup item with
  | none => mentions rt lowered item
  | some aliases =>
      let languages := [replyLanguage] ++
        (if replyLanguage = "en" ∨ replyLanguage = "unknown" then [] else ["en"]) ++
        ["zh-Hans", "zh-Hant"]
      languages.any fun language =>
        ((aliases.lookup language).getD []).any fun name => mentions rt lowered name

/-- The violation for each item that the text does not contain in any of its wordings. -/
def missingItems (rt : Runtime) (items : Json) (lowered replyLanguage violation : String) :
    Except PyError (List String) := do
  let items ← itemsOrEmpty items
  pure (items.filterMap fun item =>
    if containsSemanticItem rt lowered (item.pyStr rt) replyLanguage then none
    else some (violation ++ item.pyStr rt))

/-- `_is_verified_staff_backend_fact`. -/
def isVerifiedStaffBackendFact (rt : Runtime) (phrase : String) (plan : JsonObject) :
    Except PyError Bool :=
  if !(getKey plan "kind").eqText "telegram_staff_reply" then .ok false
  else do
    let facts ← itemsOrEmpty (getKey plan "allowed_facts")
    let allowed := " ".intercalate (facts.map fun fact => rt.lower (fact.textOrEmpty rt))
    let phraseLower := rt.lower phrase
    if allowed = "" then .ok false
    else if decide (phraseLower.toList <:+: allowed.toList) then .ok true
    else
      .ok (factGroups.any fun group =>
        group.any (fun token => decide (token.toList <:+: phraseLower.toList)) &&
          group.any fun token => decide (token.toList <:+: allowed.toList))

/-- The facts of a backend that a lowered text states without a staff reply that says so. -/
def forbiddenBackendFacts (rt : Runtime) (plan : JsonObject) (lowered : String) :
    Except PyError (List String) := do
  let found ← (unverifiedBackendFactPhrases.filter (mentions rt lowered)).mapM fun phrase => do
    let isVerified ← isVerifiedStaffBackendFact rt phrase plan
    pure (if isVerified then [] else ["forbidden_backend_fact"])
  pure found.flatten

/-- `_has_backend_sync_command`. -/
def hasBackendSyncCommand (s : NodeState) (plan : JsonObject) : Except PyError Bool := do
  let isSyncKind ← (getKey plan "kind").inTexts ["append_backend_case", "send_backend_case"]
  pure (isSyncKind || s.commands.any fun command =>
    decide (command.type = .telegramAppendToCase ∨ command.type = .telegramSendCaseCard))

/-- The violation of a text that claims a synchronisation without a command for it. -/
def syncViolations (tables : SlotTables) (s : NodeState) (plan : JsonObject) (text : String) :
    Except PyError (List String) :=
  if tables.backendSyncClaim.found text.toList then do
    let hasCommand ← hasBackendSyncCommand s plan
    pure (if hasCommand then [] else ["unverified_backend_sync_claim"])
  else .ok []

/-! ## Facts -/

mutual

/-- `_flatten_fact_values`. -/
def flattenFacts (rt : Runtime) (before : String) : Json → List String
  | .null => []
  | .obj ⟨entries⟩ => flattenEntries rt before entries
  | .arr items => flattenItems rt before items
  | .bool true => if before = "" then ["True"] else ["True", before ++ "=True"]
  | .bool false => if before = "" then ["False"] else ["False", before ++ "=False"]
  | .int n => if before = "" then [toString n] else [toString n, before ++ "=" ++ toString n]
  | .float _ repr => if before = "" then [repr] else [repr, before ++ "=" ++ repr]
  | .str text => if before = "" then [text] else [text, before ++ "=" ++ text]

def flattenItems (rt : Runtime) (before : String) : List Json → List String
  | [] => []
  | item :: rest => flattenFacts rt before item ++ flattenItems rt before rest

def flattenEntries (rt : Runtime) (before : String) : List (String × Json) → List String
  | [] => []
  | (key, item) :: rest =>
      flattenFacts rt (if before = "" then key else before ++ "." ++ key) item ++
        flattenEntries rt before rest

end

namespace FinalReplySettings

variable (settings : FinalReplySettings)

/-- `_allowed_fact_pool`. -/
def allowedFactPool (s : NodeState) : Except PyError (List String) := do
  let plan ← replyPlan s
  let facts ← itemsOrEmpty (getKey plan "allowed_facts")
  let values := (facts.filter Json.truthy).map (Json.pyStr settings.rt) ++
    [(getKey plan "fallback_text").textOrEmpty settings.rt,
      (s.get "response_text_fallback").textOrEmpty settings.rt] ++
    ["node_facts", "rag_result", "backend_result"].flatMap fun key =>
      flattenFacts settings.rt "" (s.get key)
  let language := settings.checkedReplyLanguage s
  let adapted := (values.filter fun value => strip value ≠ "").flatMap fun value =>
    [value, adaptChineseScript settings.rt value (.str language)]
  pure ((adapted.filter fun value => strip value ≠ "").map settings.rt.lower)

/-- `_allows_low_risk_final_reply_facts`. -/
def allowsLowRiskFacts (s : NodeState) : Except PyError Bool := do
  let plan ← replyPlan s
  let intentResult ← (s.get "intent_result").mappingOrEmpty
  let intent := (getKey intentResult "intent").textOrEmpty settings.rt
  let isLowRisk ← (getKey plan "kind").inTexts
    ["casual_chat", "clarification", "emotion_care", "acknowledgement"]
  pure (isLowRisk || ["casual_chat", "clarification_needed", "abusive_or_emotional",
    "service_frustration", "acknowledgement"].contains intent)

/-- The critical values of a fact that the facts of the state do not have. -/
def unverifiedValues (tables : SlotTables) (allowedText fact : String) : List String :=
  ((tables.criticalValues fact).filter fun value =>
    !decide ((settings.rt.lower value).toList <:+: allowedText.toList)).map
    fun _ => "unverified_used_fact"

/-- The checks of `_validate_used_facts` on one fact. -/
def usedFactViolations (tables : SlotTables) (s : NodeState) (plan : JsonObject)
    (pool : List String) (allowsLowRisk : Bool) (raw : Json) : Except PyError (List String) := do
  let allowedText := settings.rt.lower ("\n".intercalate pool)
  let fact := normalizeText settings.rt raw
  if fact = "" then pure []
  else do
    let lowered := settings.rt.lower fact
    let isAllowed := (pool.filter (· ≠ "")).any fun allowed =>
      decide (lowered.toList <:+: allowed.toList) || decide (allowed.toList <:+: lowered.toList)
    let unverified := if !allowsLowRisk && !isAllowed then ["unverified_used_fact"] else []
    let time := if tables.timeCommitment.found fact.toList &&
      !decide (lowered.toList <:+: allowedText.toList) then ["unverified_time_commitment"] else []
    let sync ← syncViolations tables s plan fact
    let backend ← forbiddenBackendFacts settings.rt plan lowered
    pure (unverified ++ time ++ sync ++ backend ++
      settings.unverifiedValues tables allowedText fact)

/-- `_validate_used_facts`. -/
def validateUsedFacts (tables : SlotTables) (s : NodeState) (output : JsonObject) :
    Except PyError (List String) :=
  match (getKey output "used_facts").orElse (.arr []) with
  | .arr facts => do
      let pool ← settings.allowedFactPool s
      let allowsLowRisk ← settings.allowsLowRiskFacts s
      let plan ← replyPlan s
      let found ← facts.mapM (settings.usedFactViolations tables s plan pool allowsLowRisk)
      pure found.flatten
  | _ => .ok ["invalid_used_facts"]

/-! ## The checks -/

/-- The violations that a pattern finds in every text. -/
def labelViolations (tables : SlotTables) (text : String) : List String :=
  [(tables.telegramIdentifier, "internal_telegram_identifier"),
    (SlotTables.assistantIdentity, "assistant_identity_leak"),
    (tables.organizationLabel, "internal_organization_label"),
    (tables.backendTransfer, "internal_backend_transfer_phrase"),
    (tables.timeCommitment, "unverified_time_commitment")].filterMap fun check =>
      if check.1.found text.toList then some check.2 else none

/-- The reply may have to wait for a backend. -/
def awaitsBackend (s : NodeState) (plan : JsonObject) : Except PyError Bool := do
  let isStage ← (s.get "workflow_stage").inTexts ["waiting_backend", "backend_querying"]
  if isStage then pure true
  else (getKey plan "kind").inTexts ["backend_waiting", "send_backend_case", "append_backend_case"]

/-- The violations of a text that the kind of the plan decides about. -/
def kindViolations (tables : SlotTables) (s : NodeState) (plan : JsonObject)
    (text lowered : String) : Except PyError (List String) := do
  let kind := getKey plan "kind"
  let feedback :=
    if kind.eqText "telegram_staff_reply" && tables.customerFeedback.found text.toList then
      ["staff_reply_framed_as_customer_feedback"]
    else []
  let slots ← missingItems settings.rt
    (if kind.eqText "ask_missing_slots" then
      (getKey plan "missing_slots").orElse (s.get "missing_slots")
    else .arr []) lowered (settings.checkedReplyLanguage s) "missing_slot_"
  let awaits ← awaitsBackend s plan
  let waiting := if awaits && backendWaitingForbiddenPromises.any (mentions settings.rt lowered) then
    ["backend_waiting_promise"] else []
  let handoff := if kind.eqText "human_handoff" &&
    humanHandoffForbiddenPromises.any (mentions settings.rt lowered) then
    ["human_handoff_promise"] else []
  pure (feedback ++ slots ++ waiting ++ handoff)

/-- The phrases that are demanded word by word if the reply is in the language of the fallback.  The
detection of that language always answers `unknown`. -/
def legacyViolations (s : NodeState) (plan : JsonObject) (lowered : String) :
    Except PyError (List String) :=
  if settings.checkedReplyLanguage s = "unknown" then
    missingPhrases settings.rt (getKey plan "must_say") lowered "missing_required_phrase"
  else .ok []

/-- The checks of `validate_final_reply_output` that do not concern the language. -/
def finalReplyChecks (tables : SlotTables) (s : NodeState) (output : JsonObject) :
    Except PyError (List String) := do
  let text := normalizeText settings.rt (getKey output "text")
  let lowered := settings.rt.lower text
  let language := settings.checkedReplyLanguage s
  let plan ← replyPlan s
  let exact ← missingPhrases settings.rt (getKey plan "must_say_exact") lowered
    "missing_exact_phrase"
  let legacy ← settings.legacyViolations s plan lowered
  let semantic ← missingItems settings.rt (getKey plan "semantic_required_items") lowered language
    "missing_semantic_"
  let forbidden ← forbiddenPhrases settings.rt (getKey plan "must_not_say") lowered
    "forbidden_phrase"
  let backend ← forbiddenBackendFacts settings.rt plan lowered
  let sync ← syncViolations tables s plan text
  let ofKind ← settings.kindViolations tables s plan text lowered
  let keyFacts ← missingPhrases settings.rt (getKey plan "staff_reply_key_facts") lowered
    "staff_reply_key_fact_missing"
  let used ← settings.validateUsedFacts tables s output
  pure (exact ++ legacy ++ semantic ++ forbidden ++ backend ++ labelViolations tables text ++
    sync ++ ofKind ++ keyFacts ++ used)

/-- The settings whose validation makes these checks. -/
def withChecks (tables : SlotTables) : FinalReplySettings :=
  { settings with otherViolations := settings.finalReplyChecks tables }

end FinalReplySettings

end AiCustomerService
