import AiCustomerService.Graph.RouteTexts

/-!
# Texts of the router's replies

The replies that `app/graph/nodes.py` composes itself, in the language of the reply.
-/

namespace AiCustomerService

open Support

namespace NodeState

variable (s : NodeState)

/-- `str(state.get("reply_language") or state.get("conversation_language") or "es")`. -/
def language (rt : Runtime) : String :=
  textOr (some (((s.get "reply_language").orElse (s.get "conversation_language")).textOrEmpty rt))
    "es"

/-- `str(state.get("active_workflow") or "")`. -/
def activeWorkflow (rt : Runtime) : String := (s.get "active_workflow").textOrEmpty rt

/-- `str(state.get("workflow_stage") or "")`. -/
def workflowStage (rt : Runtime) : String := (s.get "workflow_stage").textOrEmpty rt

end NodeState

/-- The texts of one reply: English, Spanish, and the one for every other language. -/
structure ReplyTexts where
  en : String
  es : String
  zh : String

/-- The text for a language, as the code selects it. -/
def ReplyTexts.select (texts : ReplyTexts) (language : String) : String :=
  if "en".isPrefixOf language then texts.en
  else if "es".isPrefixOf language then texts.es
  else texts.zh

/-- `_money_case_ambiguity_text`. -/
def moneyCaseAmbiguityText (rt : Runtime) (language : String) : String :=
  let normalized := rt.lower language
  if "zh".isPrefixOf normalized then
    "我查到多笔仍在跟进的交易，请提供这次要查询的订单号或交易编号。"
  else if "en".isPrefixOf normalized then
    "I found multiple transactions still being followed up. Please provide the order or " ++
      "transaction ID."
  else if "tl".isPrefixOf normalized then
    "May ilang transaksyong kasalukuyang sinusubaybayan. Pakibigay ang order o transaction ID."
  else
    "Encontré varias transacciones en seguimiento. Indica el número de orden o de transacción."

/-- `_casual_reply_text`. -/
def casualReplyText : ReplyTexts where
  en := "Hello, I can help with deposits, withdrawals, rollover requirements, screenshots, " ++
    "account access, and human support requests."
  es := "Hola, puedo ayudar con depósitos, retiros, requisitos de rollover, capturas, acceso a " ++
    "la cuenta y solicitudes de atención humana."
  zh := "你好，我可以协助处理存款、提款、流水要求、截图凭证、账号访问问题，也可以帮你请求真人客服。"

/-- `_clarification_reply_text`. -/
def clarificationReplyText : ReplyTexts where
  en := "Please tell me what you need help with, or choose deposits, withdrawals, rollover, or " ++
    "human support."
  es := "Indícame con qué necesitas ayuda, o elige depósitos, retiros, rollover o atención humana."
  zh := "请补充你要咨询的问题，或说明是存款、提款、流水还是需要真人客服。"

/-- `_acknowledgement_reply_text`. -/
def acknowledgementReplyText (stage : String) : ReplyTexts :=
  if stage = "waiting_backend" ∨ stage = "backend_querying" then {
    en := "Got it. The case is still being checked, and I will update you here once there is " ++
      "progress."
    es := "Entendido. El caso sigue en revisión y te avisaré aquí cuando haya novedades."
    zh := "收到，案件仍在确认中，有更新会在这里通知你。" }
  else if stage = "waiting_customer_supplement" then {
    en := "Got it. Please send the requested details here when you have them, and I will " ++
      "continue helping you check this."
    es := "Entendido. Envíame aquí los datos solicitados cuando los tengas y seguiré ayudándote " ++
      "a revisarlo."
    zh := "收到，请你确认后把需要补充的资料发给我，我会继续协助核实。" }
  else {
    en := "Got it. You can send the requested details here whenever you are ready."
    es := "Entendido. Puedes enviar aquí los datos solicitados cuando estés listo."
    zh := "收到，你准备好后可以继续把需要补充的资料发给我。" }

/-- The part of `_contextual_followup_reply_text` after the recall of a message. -/
def nameOfferReplyText (active : String) : ReplyTexts :=
  if active = "withdrawal_missing" then {
    en := "Yes, you may provide your name, but for checking this withdrawal case we still need " ++
      "your registered phone number and a screenshot of the withdrawal request or receipt. Your " ++
      "name alone may not be enough to locate the record."
    es := "Sí, puedes proporcionar tu nombre, pero para revisar este retiro todavía necesitamos " ++
      "tu número de teléfono registrado y una captura de la solicitud de retiro o el " ++
      "comprobante. Solo el nombre puede no ser suficiente para localizar el registro."
    zh := "可以提供姓名，但为了查询这笔提款，我们仍需要你的注册手机号和提款截图或凭证。" ++
      "只有姓名可能无法准确核实记录。" }
  else {
    en := "Yes, you may provide your name, but we may still need the requested account details " ++
      "and screenshot to continue checking."
    es := "Sí, puedes proporcionar tu nombre, pero quizá aún necesitemos los datos de la cuenta " ++
      "y la captura solicitada para continuar revisando."
    zh := "可以提供姓名，但为了继续核实，我们可能仍需要你按前面要求提供账号资料和截图。" }

/-! ## Recalled messages -/

/-- `normalize_text(message.get("text_content") or message.get("text") or
message.get("content"))`. -/
def recentText (rt : Runtime) (message : JsonObject) : String :=
  normalizeText rt (((getKey message "text_content").orElse (getKey message "text")).orElse
    (getKey message "content"))

/-- `_is_withdrawal_reason_recall`. -/
def isWithdrawalReasonRecall (text : String) : Bool :=
  containsAny text ["无法提款", "無法提款", "提款", "提现", "提現", "withdraw"] &&
    containsAny text ["原因", "为什么", "為什麼", "为何", "為何", "导致", "導致", "流水", "reason",
      "why"]

/-- `_strip_customer_greeting`; the pattern takes the first of its greetings that matches. -/
def stripCustomerGreeting (text : String) : String :=
  let raw := (strip text).toList
  match ["您好", "你好"].find? fun greeting => greeting.toList.isPrefixOf raw with
  | some greeting =>
      strip (String.ofList ((raw.drop greeting.toList.length).dropWhile fun c =>
        isPySpace c || "，,。!！".toList.contains c))
  | none => String.ofList raw

/-- `_recent_withdrawal_reason_reply_text`. -/
def recentWithdrawalReasonReplyText (rt : Runtime) (s : NodeState) : Option String :=
  (s.recentMessages.reverse.find? fun message =>
    ["assistant", "backend"].contains ((getKey message "sender_role").textOrEmpty rt) &&
      containsAny (recentText rt message)
        ["剩余流水", "剩餘流水", "未完成的流水", "流水要求", "提款限制", "无法提款", "無法提款"]).map
    fun message => stripCustomerGreeting (recentText rt message)

/-- `_previous_message_text`. -/
def previousMessageText (rt : Runtime) (s : NodeState) (senderRole : String) : Option String :=
  (s.recentMessages.reverse.find? fun message =>
    decide ((getKey message "sender_role").textOrEmpty rt = senderRole) &&
      decide (recentText rt message ≠ "" ∧
        recentText rt message ≠ normalizeText rt (s.get "raw_user_input"))).map (recentText rt)

/-- `_is_conversation_memory_lookup`. -/
def isConversationMemoryLookup (rt : Runtime) (tables : SlotTables) (s : NodeState) : Bool :=
  s.lowerText rt ≠ "" && tables.memoryLookupPattern.found (s.lowerText rt).toList

/-- `_conversation_memory_reply_text`. -/
def conversationMemoryReplyText (rt : Runtime) (tables : SlotTables) (s : NodeState) :
    Option String :=
  if !isConversationMemoryLookup rt tables s then none
  else
    let text := s.lowerText rt
    let reason := if isWithdrawalReasonRecall text then recentWithdrawalReasonReplyText rt s
      else none
    if hasText reason then some ("刚才查询结果显示：" ++ textOr reason "")
    else
      let wantsAssistant :=
        containsAny text ["你刚", "你剛", "你上", "你回复", "你回覆", "what did you", "you reply"]
      match previousMessageText rt s (if wantsAssistant then "assistant" else "customer") with
      | some previous =>
          if wantsAssistant then some ("我刚才回复的是：" ++ previous)
          else some ("你上一句说的是：" ++ previous)
      | none =>
          some "我这里暂时没有可确认的上一句聊天内容。请你再说明一次需要处理的问题，我会继续协助。"

/-- `_contextual_followup_reply_text`. -/
def contextualFollowupReplyText (rt : Runtime) (tables : SlotTables) (s : NodeState) : String :=
  match conversationMemoryReplyText rt tables s with
  | some text => text
  | none =>
      (nameOfferReplyText (s.activeWorkflow rt)).select (rt.lower (s.language rt))

end AiCustomerService
