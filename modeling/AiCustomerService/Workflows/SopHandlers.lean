import AiCustomerService.Workflows.SopPlan

/-!
# Handlers of a workflow

`sop_policy.py`, `sop_handlers.py`, `sop_command_builder.py` and `waiting_backend_classifier.py`
of `app/workflows`, and `sop_node` of `app/graph/nodes.py`: what a message does to the workflow
that it belongs to.
-/

namespace AiCustomerService

open Support

/-- What `plan_sop_reply` reads of its context. -/
structure SopReplyContext where
  action : String
  missingSlots : List String
  exampleSent : Bool
  exampleWillBeSent : Bool

/-- The settings of the graph, and the texts of `plan_sop_reply` and `render_customer_reply`. -/
structure SopSettings extends RouterSettings where
  planSopReply : String → SopReplyContext → Json → String
  renderCustomerReply : String → JsonObject → Json → String

namespace SopSettings

variable (settings : SopSettings)

/-! ## Policy -/

/-- What `evaluate_sop_policy` returns. -/
structure SopPolicy where
  action : String
  missingSlots : List String
  reason : String

/-- `_is_receipt_supplement`. -/
def isReceiptSupplement (opposite : String) (attachment : JsonObject) : Bool :=
  (getKey attachment "url").truthy && isImageAttachment settings.rt attachment &&
    receiptKind settings.rt attachment ≠ opposite &&
    receiptKind settings.rt (getKey attachment "image_analysis").dictOrEmpty ≠ opposite

/-- `_has_verified_receipt_supplement`. -/
def hasReceiptSupplement (intent : String) (attachments : List JsonObject) : Bool :=
  match expectedReceiptKinds intent with
  | none => false
  | some kinds => attachments.any (settings.isReceiptSupplement kinds.2)

/-- The text names an identity, an order or a transaction. -/
def namesSupplement (text : String) : Bool :=
  (extractIdentity settings.rt settings.tables text).isSome ||
    (extractOrderId settings.tables text).isSome || hasTransactionSignal settings.tables text

/-- The branch of `evaluate_sop_policy` for a customer who waits for the backend. -/
def waitingPolicy (intent : String) (slotMemory : JsonObject) (text : String)
    (attachments : List JsonObject) : SopPolicy :=
  let explicitHuman := isExplicitHumanRequest settings.tables text
  if settings.hasReceiptSupplement intent attachments || settings.namesSupplement text then
    if (getKey slotMemory "telegram_case_id").truthy &&
        (getKey slotMemory "telegram_message_id").truthy then
      ⟨"append_to_case", [], "customer_sent_supplement"⟩
    else if explicitHuman then
      ⟨"human_handoff", [], "customer_requested_human_after_supplement"⟩
    else ⟨"waiting_followup", [], "case_not_created_yet"⟩
  else if explicitHuman then ⟨"human_handoff", [], "customer_requested_human"⟩
  else ⟨"waiting_followup", [], "customer_asked_status_or_unclear"⟩

/-- `evaluate_sop_policy`. -/
def evaluateSopPolicy (intent : String) (slotMemory : JsonObject) (status activeWorkflow : Json)
    (stage text : String) (attachments : List JsonObject) : SopPolicy :=
  if (getSopDefinition intent).isNone then ⟨"blocked", [], "unsupported_sop_intent"⟩
  else if status.eqText "HUMAN_ACTIVE" then ⟨"blocked", [], "conversation_is_human_active"⟩
  else if stage = "waiting_backend" then settings.waitingPolicy intent slotMemory text attachments
  else
    match computeMissingSlots settings.rt settings.tables intent slotMemory with
    | key :: rest => ⟨"ask_missing_slots", key :: rest, "required_slots_missing"⟩
    | [] =>
        if (getKey slotMemory "telegram_case_id").truthy ||
            (getKey slotMemory "telegram_message_id").truthy then
          ⟨"waiting_followup", [], "telegram_case_already_exists"⟩
        else if activeWorkflow.truthy && !activeWorkflow.eqText intent then
          ⟨"blocked", [], "active_workflow_mismatch"⟩
        else ⟨"send_telegram_case", [], "required_slots_complete"⟩

/-! ## Commands -/

/-- `{"type": ..., "payload": ...}`. -/
def command (type : CommandType) (payload : JsonObject) : WorkflowCommand :=
  ⟨type, payload, none, none⟩

/-- `build_sop_command`; the keys that a graph state does not have are `None`. -/
def buildSopCommand (type : CommandType) (s : NodeState) (intent : String)
    (slotMemory : JsonObject) (supplement : JsonObject) : WorkflowCommand :=
  let event := (s.get "payload_json").dictOrEmpty
  let fromEvent (key : String) : Json :=
    ((s.get key).orElse (getKey event key)).orElse (getKey slotMemory key)
  let payload : JsonObject := .ofList [("intent", .str intent), ("active_workflow", .str intent),
    ("conversation_id", s.get "conversation_id"), ("chat_id", s.get "chat_id"),
    ("thread_id", s.get "thread_id"), ("inbound_event_id", s.get "inbound_event_id"),
    ("platform", fromEvent "platform"), ("livechat_group_id", fromEvent "livechat_group_id"),
    ("slot_memory", .obj slotMemory)]
  if type = .telegramAppendToCase then
    let payload := protectedSlotKeys.foldl
      (fun payload key => payload.set key (getKey slotMemory key)) payload
    command type (payload.set "supplement" (.obj supplement))
  else command type payload

/-- The language and the texts that a backend job takes along. -/
def turnFields (s : NodeState) : List (String × Json) :=
  ["reply_language", "conversation_language", "detected_language", "raw_user_input",
    "rewritten_question"].map fun key => (key, s.get key)

/-- The `backend.query` command of both handlers. -/
def backendQueryCommand (s : NodeState) (slotMemory : JsonObject) : WorkflowCommand :=
  command .backendQuery (.ofList ([("intent", .str "withdrawal_blocked_or_rollover"),
    ("account_or_phone", getKey slotMemory "account_or_phone"),
    ("identity_kind", getKey slotMemory "identity_kind"),
    ("identity_source", getKey slotMemory "identity_source")] ++ turnFields s))

/-- `_has_external_sop_command`. -/
def hasExternalSopCommand (commands : List WorkflowCommand) : Bool :=
  commands.any fun command =>
    [CommandType.telegramSendCaseCard, .telegramAppendToCase, .backendQuery, .pendingReplyLookup,
      .humanHandoffRequested].contains command.type

/-! ## Collecting slots -/

/-- `{**state, "active_workflow": ..., "workflow_stage": ...}`. -/
def atStage (s : NodeState) (workflow stage : String) : NodeState :=
  (s.set "active_workflow" (.str workflow)).set "workflow_stage" (.str stage)

/-- The plan that `_money_missing_sop` leaves in the state. -/
def dialoguePlanJson (plan : SopDialoguePlan) : Json :=
  .obj (.ofList [("status", .str plan.status), ("source", .str plan.source),
    ("intent_relation", .str plan.intentRelation), ("slot_updates", .obj plan.slotUpdates),
    ("slot_confidence", .obj plan.slotConfidence),
    ("missing_slots", .arr (plan.missingSlots.map .str)),
    ("should_ask_confirmation", .bool plan.shouldAskConfirmation),
    ("reply_draft", .str plan.replyDraft), ("reason", .str plan.reason),
    ("dropped_slots", .arr (plan.droppedSlots.map .str)),
    ("fallback_reason", plan.fallbackReason), ("error_type", .null), ("error_message", .null)])

/-- `_should_send_deposit_missing_intro`. -/
def shouldSendDepositIntro (intent : String) (policy : SopPolicy) (slotMemory : JsonObject) :
    Bool :=
  decide (intent = "deposit_missing") && decide (policy.action = "ask_missing_slots") &&
    !(getKey slotMemory "deposit_missing_example_sent").truthy &&
    ["deposit_screenshot", "receipt_screenshot"].any policy.missingSlots.contains

/-- `DEPOSIT_MISSING_REASON_TEXT`. -/
def depositMissingReasonText : String → String
  | "zh-Hant" =>
      "存款未到帳通常可能是付款尚未成功、付款憑證資訊與平台訂單不一致、渠道處理延遲，或截圖資料不足導致暫時無法核實。"
  | "en" =>
      "A deposit may not be credited yet if the payment has not completed, the receipt details " ++
        "do not match the platform order, the payment channel is delayed, or the screenshot " ++
        "details are not enough to verify it."
  | "es" =>
      "Un depósito puede no acreditarse todavía si el pago no se completó, los datos del " ++
        "comprobante no coinciden con la orden de la plataforma, el canal de pago está " ++
        "demorando o la captura no tiene información suficiente para verificarlo."
  | "tl" =>
      "Maaaring hindi pa pumapasok ang deposit kung hindi pa kumpleto ang bayad, hindi tugma " ++
        "ang detalye ng resibo sa order sa platform, may delay sa payment channel, o kulang ang " ++
        "detalye sa screenshot para ma-verify ito."
  | "th" =>
      "เงินฝากอาจยังไม่เข้าหากการชำระเงินยังไม่สำเร็จ รายละเอียดในสลิปไม่ตรงกับคำสั่งซื้อของแพลตฟอร์ม " ++
        "ช่องทางชำระเงินล่าช้า หรือรายละเอียดในภาพไม่เพียงพอสำหรับการตรวจสอบ"
  | "my" =>
      "ငွေသွင်းမှု မရောက်သေးခြင်းသည် ငွေပေးချေမှု မပြီးဆုံးသေးခြင်း၊ ပြေစာအချက်အလက်များသည် " ++
        "ပလက်ဖောင်းအော်ဒါနှင့် မကိုက်ညီခြင်း၊ ငွေပေးချေမှုချန်နယ် နှောင့်နှေးခြင်း၊ သို့မဟုတ် " ++
        "screenshot အချက်အလက် မလုံလောက်ခြင်းကြောင့် ဖြစ်နိုင်ပါသည်။"
  | "ms" =>
      "Deposit mungkin belum dikreditkan jika bayaran belum selesai, butiran resit tidak sepadan " ++
        "dengan pesanan platform, saluran pembayaran mengalami kelewatan, atau butiran " ++
        "tangkapan skrin tidak mencukupi untuk pengesahan."
  | _ =>
      "存款未到账通常可能是付款还未成功、付款凭证信息与平台订单不一致、渠道处理延迟，或截图资料不足导致暂时无法核实。"

/-- `state.get("reply_language") or state.get("conversation_language") or
state.get("detected_language")`. -/
def replyLanguage (s : NodeState) : Json :=
  ((s.get "reply_language").orElse (s.get "conversation_language")).orElse
    (s.get "detected_language")

/-- `_deposit_missing_intro_commands`. -/
def depositIntroCommands (s : NodeState) (collectionText : String) : List WorkflowCommand :=
  let reason := depositMissingReasonText ((replyLanguage s).textOrEmpty settings.rt)
  [⟨.livechatSendImage, .ofList [("asset_key", .str "deposit_payment_success_example"),
      ("asset_ref",
        .str "data/assets/customer-service/examples/deposit-payment-success-onepay.jpg"),
      ("caption", .str ""), ("position", .str "before")], none, some 0⟩,
    ⟨.livechatSendText, .ofList [("text", .str (reason ++ "\n\n" ++ collectionText)),
      ("final_reply_target", .bool true)], none, some 1⟩]

/-- `_money_missing_sop`. -/
def moneyMissingSop (s : NodeState) (intent : String) : Except PyError NodeState := do
  let plan ← planSopDialogueFromState settings.rt settings.tables s intent
  let policy := settings.evaluateSopPolicy intent plan.slotMemory (s.get "status")
    ((s.get "active_workflow").orElse (.str intent)) "collecting_slots" (s.inputText settings.rt)
    s.attachments
  let intro := shouldSendDepositIntro intent policy plan.slotMemory
  let reply := settings.planSopReply intent ⟨policy.action, policy.missingSlots,
    (getKey plan.slotMemory "deposit_missing_example_sent").truthy, intro⟩ (replyLanguage s)
  let commands :=
    if policy.action = "send_telegram_case" then
      [buildSopCommand .telegramSendCaseCard s intent plan.slotMemory ∅]
    else if intro then settings.depositIntroCommands s reply
    else []
  let memory := if policy.action ≠ "send_telegram_case" ∧ intro = true then
      plan.slotMemory.set "deposit_missing_example_sent" (.bool true)
    else plan.slotMemory
  let next := ((((s.withSlotMemory memory).set "llm_sop_dialogue_plan"
    (dialoguePlanJson plan)).withReply reply).withCommands commands)
  if hasExternalSopCommand commands then
    pure (atStage (next.set "status" (.str "WAITING_EXTERNAL")) intent "waiting_backend")
  else pure (atStage next intent "collecting_slots")

/-- The identity in the text of the customer, and what the memory keeps of it. -/
def withUserIdentity (slotMemory : JsonObject) (rawText : String) : JsonObject :=
  match extractIdentityFromText settings.rt settings.tables rawText with
  | some identity =>
      ((slotMemory.set "account_or_phone" (.str identity.value)).set "identity_kind"
        (.str identity.kind)).set "identity_source" (.str "user_text")
  | none =>
      if (getKey slotMemory "account_or_phone").truthy &&
          explicitPhoneReference settings.tables rawText then
        slotMemory.set "identity_kind" (.str "phone")
      else slotMemory

/-- The slot memory of `_withdrawal_blocked_sop`. -/
def blockedMemory (s : NodeState) : JsonObject :=
  let memory := settings.withUserIdentity s.slotMemory (s.rawText settings.rt)
  match extractChannel settings.tables (s.inputText settings.rt) with
  | some channel => memory.set "payment_channel" (.str channel)
  | none => memory

/-- The customer changes a wallet or an account, without an identity. -/
def changesWallet (s : NodeState) : Bool :=
  isWalletOrReceivingAccountChange settings.rt settings.tables (s.inputText settings.rt) &&
    (extractIdentityFromText settings.rt settings.tables (s.rawText settings.rt)).isNone

/-- The state that waits for the answer of the backend. -/
def backendQueryState (s : NodeState) (slotMemory : JsonObject) : NodeState :=
  let next := (((s.withSlotMemory slotMemory).set "status" (.str "WAITING_EXTERNAL")).set
    "response_text" .null).set "response_text_fallback" .null
  (atStage next "withdrawal_blocked_or_rollover" "backend_querying").withCommands
    [backendQueryCommand s slotMemory]

/-- `_withdrawal_blocked_sop`. -/
def withdrawalBlockedSop (s : NodeState) : NodeState :=
  let memory := settings.blockedMemory s
  let asking (reply : String) : NodeState :=
    (atStage (s.withSlotMemory memory) "withdrawal_blocked_or_rollover"
      "collecting_slots").withReply reply
  if settings.changesWallet s then
    asking (settings.renderCustomerReply "wallet_change_needs_human_or_clarification"
      (.ofList [("payment_channel", (getKey memory "payment_channel").orElse (.str "wallet"))])
      (replyLanguage s))
  else if !(getKey memory "account_or_phone").truthy then
    asking (settings.renderCustomerReply "ask_account_or_phone" ∅ (replyLanguage s))
  else backendQueryState s memory

/-- `_pending_reply_lookup_sop`. -/
def pendingReplyLookupSop (s : NodeState) : NodeState :=
  let memory :=
    match extractIdentity settings.rt settings.tables (s.inputText settings.rt) with
    | some identity => s.slotMemory.set "pending_reply_identity" (.str identity.value)
    | none => s.slotMemory
  let next := s.withSlotMemory memory
  if !(getKey memory "pending_reply_identity").truthy then
    (atStage next "pending_reply_lookup" "collecting_slots").withReply
      "请提供可用于查询上一笔案件的识别资料，例如用户名、注册手机号或邮箱。"
  else
    ((atStage (next.set "status" (.str "WAITING_EXTERNAL")) "pending_reply_lookup"
      "lookup_pending_reply").withReply
        "已收到识别资料，我们会查询上一笔案件记录，有更新会在这里通知你。").withCommands
      [command .pendingReplyLookup (.ofList ([("pending_reply_identity",
        getKey memory "pending_reply_identity"), ("slot_memory", .obj memory)] ++ turnFields s))]

/-- `run_sop`. -/
def runSop (s : NodeState) : Except PyError NodeState :=
  match (getKey s.intentResult "intent").str? with
  | some "deposit_missing" => settings.moneyMissingSop s "deposit_missing"
  | some "withdrawal_missing" => settings.moneyMissingSop s "withdrawal_missing"
  | some "withdrawal_blocked_or_rollover" => .ok (settings.withdrawalBlockedSop s)
  | some "pending_reply_lookup" => .ok (settings.pendingReplyLookupSop s)
  | _ =>
      .ok ((s.withReply "请补充你要咨询的问题，我们会继续协助。").withCommands s.commands)

/-! ## Waiting for the backend -/

/-- What is read of the state by the predicates on a text that waits for the backend. -/
def turnState (s : NodeState) : TurnState where
  rewrittenQuestion := (s.get "rewritten_question").str?
  rawUserInput := (s.get "raw_user_input").str?
  slotMemory := s.slotMemory
  telegramMoneyCaseCandidates := s.telegramMoneyCaseCandidates
  matchedTelegramMoneyCase := s.matchedTelegramMoneyCase
  workflowRelation := (getKey s.intentResult "workflow_relation").str?
  planRelations := []
  route := (s.get "route").str?
  activeWorkflow := (s.get "active_workflow").str?
  workflowStage := (s.get "workflow_stage").str?
  occurredAt := s.get "occurred_at"
  recentMessages := s.recentMessages

/-- The settings of the predicates on a text that waits for the backend. -/
def turnSettings : TurnSettings where
  rt := settings.rt
  tables := settings.tables.toPatternTables
  services := settings.services
  planSopDialogue := fun s => ⟨s.slotMemory, none⟩

/-- `has_workflow_resolution_signal`. -/
def hasResolutionSignal (s : NodeState) (slotMemory : JsonObject) : Bool :=
  hasWorkflowResolutionSignal settings.turnSettings (turnState s) (s.inputText settings.rt)
    slotMemory

/-- `_has_customer_supplement_signal`. -/
def hasSupplementSignal (text : String) : Bool :=
  let tables := settings.tables
  strip text ≠ "" && (Regex.oneOf [tables.longNumber,
    tables.literals ["电话", "電話", "手机号", "手機號", "phone"],
    .seq [tables.literal "tel", tables.letterOf "eé", tables.literal "fono"],
    tables.literals ["name", "姓名", "名字", "账号", "帳號", "账户", "賬戶"]]).found text.toList

/-- `_is_waiting_backend_dispute`. -/
def isWaitingBackendDispute (text : String) : Bool :=
  let tables := settings.tables
  let raw := settings.rt.lower text
  let anything : Regex Char := .many PatternTables.anyChar
  strip raw ≠ "" && (Regex.oneOf [
    tables.literals ["多久", "还要等", "還要等", "为什么还没", "為什麼還沒", "一直等", "重复", "爭議",
      "争议", "不对", "不對", "how long", "still waiting"],
    .seq [tables.literal "why", anything, tables.literal "still"],
    tables.literals ["again", "same problem", "not correct"],
    .seq [tables.literal "cu", tables.letterOf "aá", tables.literal "nto", anything,
      tables.literal "demora"],
    .seq [tables.literal "todav", tables.letterOf "ií", tables.literal "a"],
    tables.literals ["sigo esperando", "otra vez", "no es correcto"]]).found raw.toList

/-- The number that `_merge_waiting_customer_supplement` finds after the label of a phone. -/
def labelledPhone (text : String) : Option String :=
  let tables := settings.tables
  (Regex.groupOf (.seq [
      .oneOf [tables.literals ["电话", "電話", "手机号", "手機號", "phone"],
        .seq [tables.literal "tel", tables.letterOf "eé", tables.literal "fono"]],
      .between 0 8 fun c => !tables.isDecimal c])
    (.between 4 18 tables.isDecimal) .nothing text.toList).map String.ofList

/-- `_merge_waiting_customer_supplement`. -/
def mergeWaitingSupplement (slotMemory : JsonObject) (text : String) : JsonObject :=
  match settings.labelledPhone text with
  | some phone => (slotMemory.set "phone" (.str phone)).set "account_or_phone" (.str phone)
  | none => slotMemory

/-- `_increment_handoff_counter`. -/
def incrementHandoffCounter (slotMemory : JsonObject) (key : String) :
    Except PyError (JsonObject × Int) := do
  let counters := (getKey slotMemory "handoff_counters").dictOrEmpty
  let count ← (getKey counters key).intOrZero settings.rt
  pure (slotMemory.set "handoff_counters" (.obj (counters.set key (.int (count + 1)))), count + 1)

/-! The states of the branches. -/

/-- A state that replies to a customer who waits for the backend. -/
def waitingReply (s : NodeState) (slotMemory : JsonObject) (reply : String) : NodeState :=
  ((s.withSlotMemory slotMemory).set "workflow_stage" (.str "waiting_backend")).withReply reply

/-- `_waiting_followup_state`. -/
def waitingFollowupState (s : NodeState) (slotMemory : JsonObject) : NodeState :=
  waitingReply s slotMemory "案件仍在建立或确认中，我们会继续跟进，请稍候。"

/-- `_build_handoff_state`. -/
def buildHandoffState (s : NodeState) (slotMemory : JsonObject) (reason : String) : NodeState :=
  (((s.withSlotMemory slotMemory).set "status" (.str "HANDOFF_REQUESTED")).withReply
    "我会为你转接真人客服继续协助。").withCommands
    [command .humanHandoffRequested (.ofList [("reason", .str reason)])]

/-- `_acknowledgement_state`. -/
def acknowledgementState (s : NodeState) (slotMemory : JsonObject) : NodeState :=
  let stage := s.workflowStage settings.rt
  let language := settings.rt.lower
    (textOr (some ((s.get "reply_language").textOrEmpty settings.rt)) "es")
  let texts := acknowledgementReplyText stage
  ((s.withSlotMemory slotMemory).set "workflow_stage"
    ((s.get "workflow_stage").orElse (.str "waiting_backend"))).withReply
      (if "en".isPrefixOf language then texts.en else texts.zh)

/-- `_contextual_followup_state`. -/
def contextualFollowupState (s : NodeState) (slotMemory : JsonObject) : NodeState :=
  let language := settings.rt.lower
    (textOr (some ((s.get "reply_language").textOrEmpty settings.rt)) "es")
  let texts := nameOfferReplyText (s.activeWorkflow settings.rt)
  ((s.withSlotMemory slotMemory).set "workflow_stage"
    ((s.get "workflow_stage").orElse (.str "collecting_slots"))).withReply
      (if "en".isPrefixOf language then texts.en else texts.zh)

/-- The texts of `_resolved_ack_text`. -/
def resolvedAckText : ReplyTexts where
  es := "Gracias por avisarnos. Me alegra saber que ya llegó. Si necesitas ayuda con algo más, " ++
    "puedes escribirme aquí."
  en := "Thanks for letting us know. I'm glad it has arrived. If you need help with anything " ++
    "else, you can message me here."
  zh := "感谢告知，款项已到账就好。如还需要其他协助，可以继续在这里告诉我。"

/-- The texts of `_resolved_case_ack_text`. -/
def resolvedCaseAckText : ReplyTexts where
  es := "Gracias por la información. La revisión anterior ya fue completada; si necesita ayuda " ++
    "con otro caso, puede escribirme aquí."
  en := "Thanks for the information. The previous review has already been completed; if you " ++
    "need help with another case, you can message me here."
  zh := "感谢补充，前一个案件已核实完成。如还需要协助其他问题，可以继续在这里告诉我。"

/-- The state of a workflow that is over. -/
def completedState (s : NodeState) (slotMemory : JsonObject) (texts : ReplyTexts) : NodeState :=
  (((s.withSlotMemory slotMemory).set "active_workflow" .null).set "workflow_stage"
    (.str "completed")).withReply (texts.select (settings.rt.lower
      (textOr (some ((s.get "reply_language").textOrEmpty settings.rt)) "es")))

/-- `result["telegram_case_update"]`. -/
def withCaseUpdate (s : NodeState) (caseId : Int) (status : String) : NodeState :=
  s.set "telegram_case_update"
    (.obj (.ofList [("telegram_case_id", .int caseId), ("status", .str status)]))

/-- `_resolved_state`. -/
def resolvedState (s : NodeState) (slotMemory : JsonObject) : Except PyError NodeState := do
  let memory := slotMemory.set "customer_confirmed_resolved" (.bool true)
  let resolved := settings.completedState s memory resolvedAckText
  if (getKey memory "telegram_internal_case_id").isNull then pure resolved
  else do
    let caseId ← (getKey memory "telegram_internal_case_id").toInt settings.rt
    pure (withCaseUpdate resolved caseId "completed_confirmed_by_customer")

/-- `_followup_acknowledgement`. -/
def followupAcknowledgement (language : String) : String :=
  let normalized := settings.rt.lower language
  if "zh".isPrefixOf normalized then "我们正在重新查询这笔交易，最新结果会在当前会话通知你。"
  else if "en".isPrefixOf normalized then
    "We are rechecking this transaction and will update you in this conversation."
  else if "tl".isPrefixOf normalized then
    "Sinusuri naming muli ang transaksyong ito at magbibigay kami ng update dito."
  else "Estamos verificando nuevamente esta transacción y te informaremos por esta conversación."

/-- The supplement of a command to a case. -/
def supplementFields (text : String) (urls : List Json) (updates : JsonObject) :
    List (String × Json) :=
  [("text", .str text), ("attachment_urls", .arr urls), ("slot_updates", .obj updates)]

/-- `_money_case_followup_state`. -/
def moneyCaseFollowupState (s : NodeState) (slotMemory : JsonObject) (case : MoneyCase)
    (urls : List Json) (updates : JsonObject) : NodeState :=
  let text := s.inputText settings.rt
  let previous := textOr case.status "under_review"
  let kind := if previous = "completed_by_staff" then "completion_dispute"
    else "pending_follow_up"
  let memory := slotMemory.set "telegram_internal_case_id" (.int case.id)
  let workflow := (Json.str case.intent).orElse (s.get "active_workflow")
  let payload : JsonObject := .ofList [("telegram_case_id", .int case.id), ("intent", workflow),
    ("follow_up_kind", .str kind), ("previous_status", .str previous),
    ("raw_user_input", .str text), ("supplement", .obj (.ofList (supplementFields text urls
      updates)))]
  let dedupKey := "telegram.case.followup:" ++
    (getKey case.columns "telegram_chat_id").pyStr settings.rt ++ ":" ++
    (match case.rootMessageId with
      | some root => toString root
      | none => "None") ++ ":" ++ (s.get "thread_id").textOrEmpty settings.rt
  let reminded := ((((s.withSlotMemory memory).set "active_workflow" workflow).set
    "workflow_stage" (.str "waiting_backend")).withReply (settings.followupAcknowledgement
      (textOr (some ((s.get "reply_language").textOrEmpty settings.rt)) "es"))).withCommands
    [⟨.telegramRemindCase, payload, some dedupKey, none⟩]
  if kind = "completion_dispute" then withCaseUpdate reminded case.id "completion_disputed"
  else reminded

/-- The urls of a list in a slot memory. -/
def forwardedList (slotMemory : JsonObject) : List Json :=
  match getKey slotMemory "forwarded_attachment_urls" with
  | .arr items => items
  | _ => []

/-- The urls that the plan adds to those of the state. -/
def newUrls (s : NodeState) (plan : SopDialoguePlan) : List Json :=
  (forwardedList plan.slotMemory).filter fun url =>
    !(forwardedList s.slotMemory).any fun known => url.pyEq known

/-- The relation of the text to the workflow. -/
def waitingRelation (s : NodeState) (plan : SopDialoguePlan) : Json :=
  (getKey s.intentResult "workflow_relation").orElse (.str plan.intentRelation)

/-- The customer was asked for something. -/
def awaitsSupplement (s : NodeState) (slotMemory : JsonObject) : Bool :=
  (s.get "workflow_stage").eqText "waiting_customer_supplement" ||
    (getKey slotMemory "last_telegram_staff_reply_type").eqText "ask_customer"

/-- `has_supplement`. -/
def hasSupplement (s : NodeState) (plan : SopDialoguePlan) : Bool :=
  !(newUrls s plan).isEmpty || plan.slotUpdates.entries.any (fun entry => entry.2.truthy) ||
    settings.hasSupplementSignal (s.inputText settings.rt) ||
    plan.status = "accepted" && (waitingRelation s plan).eqText "current_sop_supplement"

/-- `append_to_case` of `handle_waiting_backend`. -/
def appendState (s : NodeState) (slotMemory : JsonObject) (plan : SopDialoguePlan) : NodeState :=
  let workflow := s.activeWorkflow settings.rt
  let text := s.inputText settings.rt
  let policy := settings.evaluateSopPolicy workflow plan.slotMemory (s.get "status")
    (s.get "active_workflow") "waiting_backend" text s.attachments
  (waitingReply s slotMemory (settings.planSopReply workflow ⟨"append_to_case", [], false, false⟩
    (s.get "reply_language"))).withCommands
    [buildSopCommand .telegramAppendToCase s workflow slotMemory (.ofList
      (supplementFields text (newUrls s plan) plan.slotUpdates ++
        [("reason", .str policy.reason)]))]

/-- The customer asks for a human while waiting. -/
def asksForHuman (s : NodeState) (plan : SopDialoguePlan) : Bool :=
  (waitingRelation s plan).eqText "human_request" ||
    isExplicitHumanRequest settings.tables (s.inputText settings.rt)

/-- The branches of `handle_waiting_backend` for a supplement. -/
def supplementState (s : NodeState) (slotMemory : JsonObject) (plan : SopDialoguePlan) :
    NodeState :=
  if s.activeWorkflow settings.rt = "withdrawal_blocked_or_rollover" ∧
      (getKey slotMemory "account_or_phone").truthy = true then
    backendQueryState s slotMemory
  else if (getKey slotMemory "telegram_case_id").truthy &&
      (getKey slotMemory "telegram_message_id").truthy then
    settings.appendState s slotMemory plan
  else if settings.asksForHuman s plan then
    buildHandoffState s slotMemory "explicit_human_request"
  else waitingFollowupState s slotMemory

/-- The branches of `handle_waiting_backend` for a text that adds nothing. -/
def idleState (s : NodeState) (slotMemory : JsonObject) (plan : SopDialoguePlan) :
    Except PyError NodeState :=
  let workflow := s.activeWorkflow settings.rt
  let text := s.inputText settings.rt
  let policy := settings.evaluateSopPolicy workflow plan.slotMemory (s.get "status")
    (s.get "active_workflow") "waiting_backend" text s.attachments
  let waiting (memory : JsonObject) : NodeState :=
    waitingReply s memory (settings.planSopReply workflow ⟨"waiting_followup", [], false, false⟩
      (s.get "reply_language"))
  if settings.asksForHuman s plan then
    .ok (buildHandoffState s slotMemory "explicit_human_request")
  else if (getKey slotMemory "backend_recheck_pending").truthy then
    .ok (waitingFollowupState s slotMemory)
  else if policy.action = "human_handoff" then
    .ok (buildHandoffState s slotMemory "explicit_human_request")
  else if settings.isWaitingBackendDispute text then do
    let (memory, count) ← settings.incrementHandoffCounter slotMemory
      "waiting_backend_dispute_count"
    if 2 ≤ count then pure (buildHandoffState s memory "waiting_backend_repeat_dispute")
    else pure (waiting memory)
  else .ok (waiting slotMemory)

/-- `handle_waiting_backend`. -/
def handleWaitingBackend (s : NodeState) : Except PyError NodeState := do
  let text := s.inputText settings.rt
  let plan ← planSopDialogueFromState settings.rt settings.tables s (s.activeWorkflow settings.rt)
  let relation := waitingRelation s plan
  if isDelayedSupplementForResolvedCase settings.rt (turnState s) plan.slotMemory then
    pure (settings.completedState s plan.slotMemory resolvedCaseAckText)
  else if relation.eqText "current_workflow_resolution" &&
      settings.hasResolutionSignal s plan.slotMemory then
    settings.resolvedState s plan.slotMemory
  else if relation.eqText "acknowledgement" || isAcknowledgement settings.turnSettings text then
    pure (settings.acknowledgementState s plan.slotMemory)
  else if relation.eqText "contextual_followup" ||
      isNameOfferFollowup settings.turnSettings text then
    pure (settings.contextualFollowupState s plan.slotMemory)
  else
    let memory := if awaitsSupplement s plan.slotMemory then
        settings.mergeWaitingSupplement plan.slotMemory text
      else plan.slotMemory
    match s.matchedTelegramMoneyCase with
    | some case =>
        pure (settings.moneyCaseFollowupState s memory case (newUrls s plan) plan.slotUpdates)
    | none =>
        if settings.hasSupplement s plan then pure (settings.supplementState s memory plan)
        else settings.idleState s memory plan

/-! ## The node -/

/-- `plan.get("intent_relation") or nested.get("intent_relation")` of a stored plan. -/
def storedPlanRelation (plan : JsonObject) : Json :=
  (getKey plan "intent_relation").orElse
    (getKey (getKey plan "result").dictOrEmpty "intent_relation")

/-- `_current_workflow_resolution_relation`. -/
def hasResolutionRelation (s : NodeState) : Bool :=
  (getKey s.intentResult "workflow_relation").eqText "current_workflow_resolution" ||
    ["llm_sop_dialogue_plan", "llm_sop_slot_result"].any fun key =>
      (storedPlanRelation (s.get key).dictOrEmpty).eqText "current_workflow_resolution"

/-- `sop_node` hands the message to `handle_waiting_backend`. -/
def isWaiting (s : NodeState) : Bool :=
  (s.get "active_workflow").truthy && hasResolutionRelation s &&
      settings.hasResolutionSignal s s.slotMemory ||
    waitingStages.any (s.get "workflow_stage").eqText

/-- `sop_node`. -/
def sopNode (s : NodeState) : Except PyError NodeState :=
  if settings.isWaiting s then settings.handleWaitingBackend s else settings.runSop s

end SopSettings

end AiCustomerService
