import AiCustomerService.Services.TelegramCaseStatus
import Mathlib.Data.List.DropRight

/-!
# The text for the customer

`app/services/staff_reply_processor.py` without a model: a staff reply is classified and one of
a few fixed texts is sent instead of it.
-/

namespace AiCustomerService

open Support

/-- `re.sub(r"\s+", " ", text)`, inside a run of spaces or not. -/
def collapseSpaces : Bool → List Char → List Char
  | _, [] => []
  | inside, c :: rest =>
      if isPySpace c then
        if inside then collapseSpaces true rest else ' ' :: collapseSpaces true rest
      else c :: collapseSpaces false rest

/-- `_compact`. -/
def compact (text : String) : String := strip (.ofList (collapseSpaces false text.toList))

/-- `normalize_fact_text`. -/
def normalizeFactText (rt : Runtime) (text : String) : String := rt.lower (compact text)

/-! ## Compact texts -/

/-- Its spaces are single blanks. -/
def SingleSpaced : Bool → List Char → Prop
  | _, [] => True
  | inside, c :: rest =>
      if isPySpace c then inside = false ∧ c = ' ' ∧ SingleSpaced true rest
      else SingleSpaced false rest

theorem singleSpaced_collapseSpaces (inside : Bool) (text : List Char) :
    SingleSpaced inside (collapseSpaces inside text) := by
  induction text generalizing inside with
  | nil => trivial
  | cons c rest ih =>
      unfold collapseSpaces
      split
      · split
        · rename_i hinside
          rw [hinside]
          exact ih true
        · rename_i hinside
          have hspace : isPySpace ' ' = true := by decide
          simp only [SingleSpaced, hspace, if_true]
          exact ⟨by simpa using hinside, trivial, ih true⟩
      · rename_i hspace
        simp only [SingleSpaced, hspace, Bool.false_eq_true, if_false]
        exact ih false

theorem collapseSpaces_of_singleSpaced {inside : Bool} {text : List Char}
    (h : SingleSpaced inside text) : collapseSpaces inside text = text := by
  induction text generalizing inside with
  | nil => rfl
  | cons c rest ih =>
      unfold SingleSpaced at h
      unfold collapseSpaces
      split at h
      · obtain ⟨rfl, rfl, hrest⟩ := h
        simp_all
      · simp_all

theorem SingleSpaced.dropWhile {inside : Bool} {text : List Char} (h : SingleSpaced inside text) :
    SingleSpaced false (text.dropWhile isPySpace) := by
  induction text generalizing inside with
  | nil => trivial
  | cons c rest ih =>
      unfold SingleSpaced at h
      split at h
      · rename_i hspace
        rw [List.dropWhile_cons_of_pos hspace]
        exact ih h.2.2
      · rename_i hspace
        rw [List.dropWhile_cons_of_neg hspace]
        simp only [SingleSpaced, hspace, Bool.false_eq_true, if_false]
        exact h

theorem SingleSpaced.left {inside : Bool} {text rest : List Char}
    (h : SingleSpaced inside (text ++ rest)) : SingleSpaced inside text := by
  induction text generalizing inside with
  | nil => trivial
  | cons c text ih =>
      simp only [List.cons_append, SingleSpaced] at h ⊢
      split at h
      · rename_i hc
        rw [if_pos hc]
        exact ⟨h.1, h.2.1, ih h.2.2⟩
      · rename_i hc
        rw [if_neg hc]
        exact ih h

/-- `text.strip()`, on characters. -/
theorem toList_strip (text : String) :
    (strip text).toList = (text.toList.dropWhile isPySpace).rdropWhile isPySpace := by
  rw [strip, String.toList_ofList, List.rdropWhile]

theorem compact_idempotent (text : String) : compact (compact text) = compact text := by
  have hcollapsed : collapseSpaces false (compact text).toList = (compact text).toList := by
    apply collapseSpaces_of_singleSpaced
    rw [compact, toList_strip, String.toList_ofList]
    have hspaced := (singleSpaced_collapseSpaces false text.toList).dropWhile
    obtain ⟨tail, htail⟩ := List.rdropWhile_prefix isPySpace
      ((collapseSpaces false text.toList).dropWhile isPySpace)
    rw [← htail] at hspaced
    exact hspaced.left
  rw [compact, hcollapsed, String.ofList_toList]
  exact strip_strip _

/-! ## Patterns on lower-case texts -/

/-- A text as it stands. -/
def exactly (text : String) : Regex Char := .seq (text.toList.map fun c => .one (· = c))

/-- One of some texts; a class such as `[oó]` is written out. -/
def oneOfWords (texts : List String) : Regex Char := .oneOf (texts.map exactly)

/-- One of some texts and, later on the line, one of others. -/
def laterOn (first second : List String) : Regex Char :=
  .seq [oneOfWords first, .many PatternTables.anyChar, oneOfWords second]

/-- `_REJECTED_PATTERN`. -/
def rejectedPattern : Regex Char :=
  oneOfWords ["reject", "rejected", "rechazad", "cancel", "cancelad", "returned", "devuelt",
    "failed", "fallo", "falló", "no exitos", "拒绝", "拒絕", "退回", "取消", "失败", "失敗"]

/-- `_WAIT_PATTERN`. -/
def replyWaitPattern : Regex Char :=
  oneOfWords ["wait", "checking", "review", "investig", "pending", "processing", "process",
    "on process", "in process", "under review", "for review", "稍等", "审核", "審核", "查询", "查詢",
    "处理中", "處理中"]

/-- `_ASK_INFO_PATTERN`. -/
def askInfoPattern : Regex Char :=
  laterOn
    ["send", "ask", "need", "request", "check", "verify", "correct", "envie", "envíe", "enviar",
      "mandar", "solicitar", "necesita", "pedir", "提供", "补充", "補充", "发送", "發送", "检查", "檢查",
      "确认", "確認", "核对", "核對"]
    ["receipt", "comprobante", "recibo", "screenshot", "captura", "usuario", "user", "phone",
      "telefono", "teléfono", "numero", "numero", "número", "资料", "資料", "截图", "截圖", "凭证", "憑證",
      "电话", "電話", "用户", "用戶", "手机号", "手機號"]

/-- `_RECHECK_CONTACT_PATTERN`. -/
def recheckContactPattern : Regex Char :=
  laterOn ["未查到", "查不到", "not found", "no record", "no se encontr"]
    ["电话", "電話", "手机号", "手機號", "phone", "telefono", "teléfono", "number", "numero", "número",
      "用户", "用戶", "usuario", "user"]

/-- `_PHONE_MISMATCH_PATTERN`. -/
def phoneMismatchPattern : Regex Char :=
  .seq [
    oneOfWords ["电话", "電話", "手机号", "手機號", "phone", "telefono", "teléfono", "number", "numero",
      "número"],
    .upTo 12 PatternTables.anyChar,
    oneOfWords ["不对", "不對", "错误", "錯誤", "有误", "有誤", "不一致", "不符", "不匹配", "wrong",
      "incorrect", "mismatch", "not match"]]

/-- `_RECEIPT_PATTERN`. -/
def receiptPattern : Regex Char :=
  oneOfWords ["deposit receipt", "successful receipt", "payment receipt", "transaction receipt",
    "proof of payment", "comprobante", "recibo", "凭证", "憑證", "水单", "水單"]

/-- `_SUCCESS_PATTERN`. -/
def replySuccessPattern : Regex Char :=
  oneOfWords ["processed", "approved", "credited", "completed", "done", "success", "successful",
    "aprobado", "procesado", "成功", "完成", "已处理", "已處理", "已到账", "已到帳"]

/-- The pattern of a finished withdrawal. -/
def withdrawalDonePattern : Regex Char :=
  laterOn ["withdraw", "retiro", "出款", "提款", "取款"]
    ["success", "completed", "done", "成功", "完成", "processed", "aprobado", "procesado"]

/-- The pattern of a finished deposit. -/
def depositDonePattern : Regex Char :=
  laterOn ["deposit", "recarga", "存款", "充值"]
    ["success", "completed", "done", "成功", "完成", "credited", "acredit", "aprobado"]

/-- `classify_staff_reply`. -/
def classifyStaffReply (rt : Runtime) (text : String) : String :=
  let lower := (rt.lower (compact text)).toList
  if lower = [] then "long_wait"
  else if askInfoPattern.found lower || recheckContactPattern.found lower ||
      phoneMismatchPattern.found lower || receiptPattern.found lower then "ask_customer"
  else if replySuccessPattern.found lower || rejectedPattern.found lower then "resolution"
  else if replyWaitPattern.found lower then "long_wait"
  else "resolution"

/-! ## Texts -/

/-- The texts of a language. -/
structure PassthroughTexts where
  empty : String
  phoneMismatch : String
  askCustomer : String
  update : String
  wait : String
  factsBefore : String
  factSeparator : String
  factsAfter : String

/-- The texts for `en`. -/
def englishTexts : PassthroughTexts where
  empty := "The team is still checking your case. We will update you in this chat once there is progress."
  phoneMismatch := "The team found that the phone number may not match. Please confirm and send the correct registered phone number here so we can continue checking it."
  askCustomer := "The team needs additional information from you. Please send the requested details here so we can continue checking it."
  update := "The team has sent an update. We will continue helping you based on that reply."
  wait := "The team has received your case and is checking it now. We will keep following up in this chat. Your funds are safe within our process."
  factsBefore := " Case details: "
  factSeparator := ", "
  factsAfter := "."

/-- The texts for `es`; an empty reply is answered in Chinese. -/
def spanishTexts : PassthroughTexts where
  empty := "我们仍在为您确认中，有更新会马上在这里通知您。"
  phoneMismatch := "El equipo encontró que el número de teléfono puede no coincidir. Confirme y envíe el número registrado correcto aquí para que podamos continuar revisando."
  askCustomer := "El equipo necesita información adicional. Envíe los datos solicitados aquí para que podamos continuar revisando."
  update := "El equipo envió una actualización. Continuaremos ayudándole según esa respuesta."
  wait := "El equipo recibió su caso y lo está revisando ahora. Seguiremos dando seguimiento en este chat. Sus fondos están seguros dentro de nuestro proceso."
  factsBefore := " Detalles del caso: "
  factSeparator := ", "
  factsAfter := "."

/-- The texts for any other language. -/
def chineseTexts : PassthroughTexts where
  empty := "我们仍在为您确认中，有更新会马上在这里通知您。"
  phoneMismatch := "为您核实时发现手机号可能不一致，请您再次确认并发送正确的注册手机号，我们收到后会继续协助确认。"
  askCustomer := "还需要您补充相关资料，请按要求提供，我们收到后会继续协助确认。"
  update := "已收到处理更新，我们会按照这个更新继续协助您处理。"
  wait := "我们已收到相关信息并正在为您确认，会在此对话内持续跟进。请放心，您的资金在我们的流程下是安全的。"
  factsBefore := " 案件资料："
  factSeparator := "、"
  factsAfter := "。"

/-- The texts that only Chinese has. -/
def withdrawalDoneText : String := "已为您核实到这笔提款已处理完成，请您确认账户入账情况。"

def depositDoneText : String := "已为您核实到这笔存款已处理完成，请您确认账户余额。"

def rejectedText : String := "经核实，此笔目前没有成功通过，我们会按照当前结果继续协助您确认下一步。"

/-- The texts of a target language. -/
def passthroughTexts (targetLang : String) : PassthroughTexts :=
  if targetLang = "en" then englishTexts
  else if targetLang = "es" then spanishTexts
  else chineseTexts

/-- `with_critical_facts`; `criticalFacts` are the amounts, numbers and addresses of a text. -/
def withCriticalFacts (rt : Runtime) (criticalFacts : String → List String) (text raw : String)
    (texts : PassthroughTexts) : String :=
  let normalized := normalizeFactText rt text
  let facts := (criticalFacts (normalizeFactText rt raw)).filter fun fact =>
    !decide (fact.toList <:+: normalized.toList)
  if facts.isEmpty then text
  else text ++ (texts.factsBefore ++ texts.factSeparator.intercalate facts ++ texts.factsAfter)

/-- The text of a resolution. -/
def resolutionText (lower : List Char) (targetLang : String) : String :=
  if targetLang = "en" ∨ targetLang = "es" then (passthroughTexts targetLang).update
  else if withdrawalDonePattern.found lower then withdrawalDoneText
  else if depositDonePattern.found lower then depositDoneText
  else if rejectedPattern.found lower then rejectedText
  else (passthroughTexts targetLang).update

/-- `staff_reply_passthrough_fallback`. -/
def staffReplyPassthroughFallback (rt : Runtime) (criticalFacts : String → List String)
    (text targetLang : String) : String :=
  let raw := compact text
  let texts := passthroughTexts targetLang
  if raw = "" then texts.empty
  else
    let lower := (rt.lower raw).toList
    let replyType := classifyStaffReply rt raw
    if replyType = "ask_customer" then
      if phoneMismatchPattern.found lower then texts.phoneMismatch
      else withCriticalFacts rt criticalFacts texts.askCustomer raw texts
    else if replyType = "resolution" then
      withCriticalFacts rt criticalFacts (resolutionText lower targetLang) raw texts
    else withCriticalFacts rt criticalFacts texts.wait raw texts

/-- `StaffReplyProcessor(enabled=False).process`. -/
def processStaffReply (rt : Runtime) (criticalFacts : String → List String)
    (text targetLang : String) : PolishedReply :=
  let raw := compact text
  if raw = "" then
    ⟨"long_wait", staffReplyPassthroughFallback rt criticalFacts raw targetLang, "fallback_empty"⟩
  else
    ⟨classifyStaffReply rt raw, staffReplyPassthroughFallback rt criticalFacts raw targetLang,
      "fallback"⟩

/-- The services of the consumer in production; the language table and the clock are those that
it is given. -/
def productionServices (rt : Runtime) (tables : PatternTables)
    (criticalFacts : String → List String) (normalizeLanguageCode : Option String → String)
    (formatDatetime : Nat → String) : StaffReplyServices where
  normalizeLanguageCode := normalizeLanguageCode
  process := processStaffReply rt criticalFacts
  asksCustomer text := tables.askCustomerPattern.found text.toList
  asksToWait text := tables.caseWaitPattern.found text.toList
  matchesCompletion := tables.matchingCompletion
  isTerminalOther text := tables.terminalOtherPattern.found text.toList
  formatDatetime := formatDatetime

end AiCustomerService
