import AiCustomerService.Db.Transactions
import AiCustomerService.Python.Numbers
import AiCustomerService.Services.Outbox
import AiCustomerService.Workflows.BackendDispute

/-!
# Handlers of external results

The pure part of `workers/external_result_consumer.py`: which reply a result
row produces, which state it moves the conversation to and when repeated
backend failures are handed over.
-/

namespace AiCustomerService

open Support

/-- `BACKEND_NOT_FOUND_HANDOFF_THRESHOLD`. -/
def backendNotFoundHandoffThreshold : Int := 2

/-- `build_result_outbox`. -/
def buildResultOutbox (row : ExternalResultRow) (text : String) (handoffAck : Bool) :
    OutboundMessage :=
  let outbound := buildTextOutbox (some row.chatId) row.threadId row.conversationId
    row.inboundEventId text
  let outbound :=
    if handoffAck then
      { outbound with payloadJson := outbound.payloadJson.set "handoff_ack" (.bool true) }
    else outbound
  if row.resultType = "backend.query.result" then
    { outbound with
      dedupKey := some
        (keyOf (textOr (some row.tenantId) "default") row.conversationId
          (eventIdOrEmpty row.inboundEventId) "backend.query.result" ++ ":" ++ toString row.id)
      messageKind := some "backend_answer"
      commandType := some "backend.query.result" }
  else outbound

/-- What `build_result_handler` returns. -/
structure ResultHandler where
  text : String
  summarySenderRole : String
  summaryText : String
  graphState : GraphState
  externalCommands : List ExternalCommand

/-- `build_external_result_summary_message`. -/
def buildExternalResultSummaryMessage (row : ExternalResultRow) (handler : ResultHandler) :
    ConversationMessage where
  conversationId := row.conversationId
  tenantId := textOr (some row.tenantId) "default"
  channelType := some "livechat"
  chatId := some row.chatId
  threadId := row.threadId
  inboundEventId := none
  outboundMessageId := none
  externalCommandResultId := some row.id
  senderRole := handler.summarySenderRole
  messageType := some "external_result"
  textContent := some handler.summaryText
  source := "external_result_consumer"

/-- The graph state of a handler: it never touches `handoff_state`, the deleted
keys or a Telegram case. -/
def handlerState (status : ConversationStatus) (activeWorkflow workflowStage : Option String)
    (slotMemory : JsonObject) : GraphState :=
  ⟨some status, activeWorkflow, workflowStage, some slotMemory, none, [], none⟩

/-- A command of a result row. -/
def resultCommand (row : ExternalResultRow) (payload : JsonObject) : ExternalCommand :=
  buildExternalCommandRecord (textOr (some row.tenantId) "default") (some row.chatId)
    row.threadId row.conversationId row.inboundEventId
    ⟨.humanHandoffRequested, payload, none, none⟩

/-! ## Repeated failures -/

/-- `_stable_lookup_value_hash`. -/
def stableLookupValueHash (rt : Runtime) (value : Json) : Option String :=
  let normalized := rt.lower (strip (value.textOrEmpty rt))
  if normalized = "" then none else some (sha256Hex normalized)

/-- The counter that a lookup result advances. -/
structure LookupKind where
  name : String
  countKey : String
  hashKey : String
  handoffReason : String

/-- `kind == "failed"`. -/
def failedLookup : LookupKind :=
  ⟨"failed", "backend_query_failed_count", "backend_query_failed_last_value_hash",
    "backend_query_failed_repeated"⟩

/-- Any other kind. -/
def notFoundLookup : LookupKind :=
  ⟨"not_found", "backend_not_found_count", "backend_not_found_last_value_hash",
    "backend_player_not_found_repeated"⟩

/-- What `_backend_lookup_escalation` returns. -/
structure LookupEscalation where
  shouldHandoff : Bool
  slotMemory : JsonObject
  externalCommands : List ExternalCommand

/-- `_backend_lookup_reset`. -/
def backendLookupReset : LookupEscalation :=
  ⟨false, .ofList [
    ("backend_not_found_count", .int 0),
    ("backend_not_found_last_value_hash", .null),
    ("backend_query_failed_count", .int 0),
    ("backend_query_failed_last_value_hash", .null),
    ("backend_not_found_handoff_requested", .bool false)], []⟩

/-- `{key: slot_memory[key] for key in keys if key in slot_memory}`. -/
def restrictTo (slotMemory : JsonObject) (keys : List String) : JsonObject :=
  .ofList (keys.filterMap fun key => (slotMemory.get? key).map fun value => (key, value))

/-- The counting part of `_backend_lookup_escalation`. -/
def countLookup (rt : Runtime) (row : ExternalResultRow) (slotMemory : JsonObject)
    (kind : LookupKind) (ignoreRepeated : Bool) (value : Json) (threshold : Int) :
    Except PyError LookupEscalation := do
  let existingCount ← (getKey slotMemory kind.countKey).intOrZero rt
  let valueHash := stableLookupValueHash rt value
  let duplicateLookupValue := ignoreRepeated && valueHash.isSome &&
    (getKey slotMemory kind.hashKey).pyEq (.ofText? valueHash)
  let count := if duplicateLookupValue then existingCount else existingCount + 1
  let handoffAlreadyRequested :=
    (getKey slotMemory "backend_not_found_handoff_requested").truthy
  let shouldHandoff := decide (threshold ≤ count) && !handoffAlreadyRequested
  let updated : JsonObject :=
    .ofList [(kind.countKey, .int count), (kind.hashKey, .ofText? valueHash)]
  pure
    { shouldHandoff
      slotMemory :=
        if shouldHandoff then updated.set "backend_not_found_handoff_requested" (.bool true)
        else updated
      externalCommands :=
        if shouldHandoff then
          [resultCommand row (.ofList [
            ("reason", .str kind.handoffReason),
            ("trigger", .str kind.name),
            ("threshold", .int threshold),
            ("count", .int count)])]
        else [] }

/-- What a count that goes through returns.  Without `ignoreRepeated` every result
counts. -/
theorem countLookup_ok {rt : Runtime} {row : ExternalResultRow} {slotMemory : JsonObject}
    {kind : LookupKind} {ignoreRepeated : Bool} {value : Json} {threshold : Int}
    {escalation : LookupEscalation}
    (h : countLookup rt row slotMemory kind ignoreRepeated value threshold = .ok escalation) :
    ∃ existing count, (getKey slotMemory kind.countKey).intOrZero rt = .ok existing ∧
      (ignoreRepeated = false → count = existing + 1) ∧
      escalation.shouldHandoff = (decide (threshold ≤ count) &&
        !(getKey slotMemory "backend_not_found_handoff_requested").truthy) ∧
      (let updated := Dict.ofList [(kind.countKey, .int count),
        (kind.hashKey, .ofText? (stableLookupValueHash rt value))]
      escalation.slotMemory =
        if escalation.shouldHandoff then
          updated.set "backend_not_found_handoff_requested" (.bool true)
        else updated) ∧
      escalation.externalCommands =
        if escalation.shouldHandoff then
          [resultCommand row (.ofList [
            ("reason", .str kind.handoffReason),
            ("trigger", .str kind.name),
            ("threshold", .int threshold),
            ("count", .int count)])]
        else [] := by
  obtain ⟨existing, hexisting, hpure⟩ := bind_eq_ok.mp h
  cases hpure
  refine ⟨existing, _, hexisting, ?_, rfl, rfl, rfl⟩
  intro hrepeated
  simp [hrepeated]

/-- `_backend_lookup_escalation` with `kind="failed"`. -/
def failedEscalation (rt : Runtime) (row : ExternalResultRow) (slotMemory : JsonObject)
    (value : Json) : Except PyError LookupEscalation :=
  countLookup rt row slotMemory failedLookup false value backendNotFoundHandoffThreshold

/-- `_backend_lookup_escalation` with `kind="not_found"`: only an identity that
the customer gave counts, and the same value counts once. -/
def notFoundEscalation (rt : Runtime) (row : ExternalResultRow) (slotMemory : JsonObject)
    (value identitySource : Json) : Except PyError LookupEscalation := do
  let given ← identitySource.inTexts ["user_text", "confirmed_by_user"]
  if given then
    countLookup rt row slotMemory notFoundLookup true value backendNotFoundHandoffThreshold
  else
    pure ⟨false, restrictTo slotMemory
      ["backend_not_found_count", "backend_not_found_last_value_hash",
        "backend_not_found_handoff_requested"], []⟩

/-! ## Reply texts -/

/-- `render_customer_reply`, which formats the templates of the tenant. -/
abbrev Renderer := String → JsonObject → Json → Except PyError String

/-- `_handoff_text_for_language`. -/
def handoffTextForLanguage (rt : Runtime) (replyLanguage : Json) (kind : LookupKind) :
    String :=
  let language := rt.lower (replyLanguage.textOrEmpty rt)
  if "es".isPrefixOf language then
    if kind.name = "failed" then
      "La consulta del sistema no se pudo completar varias veces. Solicitaré que un agente humano continúe verificando su caso."
    else
      "Después de varias consultas, aún no logramos localizar los datos de la cuenta. Solicitaré que un agente humano continúe verificando su caso."
  else if "en".isPrefixOf language then
    if kind.name = "failed" then
      "The system query could not be completed multiple times. I will request a human agent to continue checking your case."
    else
      "After multiple checks, we still could not locate the account details. I will request a human agent to continue checking your case."
  else if kind.name = "failed" then
    "后台查询连续暂时无法完成，我会为您转接真人客服继续核实。"
  else "多次查询仍未定位到账户资料，我会为您转接真人客服继续核实。"

/-- `_backend_recheck_handoff_text`. -/
def backendRecheckHandoffText (rt : Runtime) (replyLanguage : Json) : String :=
  let language := rt.lower (replyLanguage.textOrEmpty rt)
  if "es".isPrefixOf language then
    "La nueva verificación confirmó el mismo resultado. Solicitaré que un agente humano continúe revisando su caso."
  else if "en".isPrefixOf language then
    "The new verification confirmed the same result. I will ask a human agent to continue reviewing your case."
  else "再次复查后后台结论仍未变化，我会为您转接真人客服继续核实。"

/-- `float(value)`. -/
def toFloat (rt : Runtime) : Json → Option ℚ
  | .str s => rt.floatOfText s
  | value => value.number?

/-- `_positive_number`. -/
def positiveNumber (rt : Runtime) (value : Json) : Bool :=
  (toFloat rt (value.orElse (.int 0))).any fun number => 0 < number

/-- `_format_number_for_reply_plan`. -/
def formatNumberForReplyPlan (rt : Runtime) (value : Json) : String :=
  match value with
  | .bool b => if b then "true" else "false"
  | value =>
      match toFloat rt value with
      | none => value.pyStr rt
      | some number =>
          if number.den = 1 then toString number.num else rt.reprFloat (roundHundredth number)

/-- `_resolve_backend_reply`. -/
def resolveBackendReply (rt : Runtime) (result : JsonObject) :
    Except PyError (String × JsonObject) :=
  let replyIntent := getKey result "reply_intent"
  if replyIntent.truthy then
    .ok (replyIntent.pyStr rt, (getKey result "reply_facts").dictOrEmpty)
  else
    let query := (getKey result "query").dictOrEmpty
    if (getKey query "player_found").isFalse then .ok ("backend_player_not_found", ∅)
    else do
      let remaining := getKey query "remaining_turnover"
      let activeCount ← (getKey query "active_requirements_count").intOrZero rt
      if 0 < activeCount ∨ positiveNumber rt remaining then
        pure ("backend_turnover_remaining",
          .ofList [("remaining_turnover", .str (formatNumberForReplyPlan rt remaining))])
      else if (getKey query "is_met").isTrue then
        pure ("backend_turnover_met", ∅)
      else pure ("backend_turnover_unknown", ∅)

/-- `_is_backend_player_not_found`. -/
def isBackendPlayerNotFound (result : JsonObject) (replyIntent : String) : Bool :=
  (decide (replyIntent = "backend_player_not_found") ||
      (getKey result "reply_intent").eqText "backend_player_not_found") &&
    (getKey (getKey result "query").dictOrEmpty "player_found").isFalse

/-! ## The handler of each result type -/

/-- `telegram.case.created`. -/
def caseCreatedHandler (rt : Runtime) (result : JsonObject) :
    Except PyError ResultHandler :=
  let caseId := getKey result "case_id"
  if !caseId.truthy then
    .error (.valueError "telegram.case.created result missing case_id")
  else
    .ok
      { text := "案件已建立，我们会继续跟进，请稍候。"
        summarySenderRole := "telegram"
        summaryText := "案件已建立，case_id=" ++ caseId.pyStr rt
        graphState := handlerState .waitingExternal
          (((getKey result "active_workflow").orElse (getKey result "intent")).columnText rt)
          (some "waiting_backend")
          (.ofList [
            ("telegram_case_id", caseId),
            ("telegram_message_id", getKey result "telegram_message_id"),
            ("telegram_target_chat_id", getKey result "target_chat_id"),
            ("telegram_message_thread_id", getKey result "message_thread_id"),
            ("telegram_case_card_text", getKey result "card_text"),
            ("telegram_case_status", .str "created")])
        externalCommands := [] }

/-- `telegram.append_to_case.result`. -/
def appendToCaseHandler (rt : Runtime) (result : JsonObject) :
    Except PyError ResultHandler := do
  let accepted ← (getKey result "status").inTexts ["appended", "edited", "success", "MOCKED"]
  if !accepted then .error (.valueError "telegram.append_to_case.result failed")
  else
    let message := getKey result "message"
    pure
      { text := (message.orElse (.str "补充资料已收到，我们会继续跟进，请稍候。")).pyStr rt
        summarySenderRole := "telegram"
        summaryText := (message.orElse (.str "案件补充资料已追加。")).pyStr rt
        graphState := handlerState .waitingExternal
          (((getKey result "active_workflow").orElse (getKey result "intent")).columnText rt)
          (some "waiting_backend")
          (.ofList [
            ("telegram_append_status", getKey result "status"),
            ("last_telegram_append_message_id", getKey result "telegram_message_id"),
            ("telegram_case_card_text", getKey result "card_text")])
        externalCommands := [] }

/-- `pending_reply.lookup.result`. -/
def pendingReplyHandler (rt : Runtime) (result : JsonObject) :
    Except PyError ResultHandler := do
  let status := getKey result "status"
  let replyText := strip ((getKey result "reply_text").textOrEmpty rt)
  let known ← status.inTexts ["found", "waiting", "human_handoff", "not_found"]
  if !known ∨ replyText = "" then
    .error (.valueError "pending_reply.lookup.result invalid")
  else
    let stillOpen ← status.inTexts ["waiting", "human_handoff"]
    pure
      { text := replyText
        summarySenderRole := "system"
        summaryText := "pending reply 查询完成：" ++ status.pyStr rt
        graphState := handlerState (if stillOpen then .waitingExternal else .aiActive)
          (if stillOpen then some "pending_reply_lookup" else none)
          (some ("pending_reply_" ++ status.pyStr rt))
          (.ofList [
            ("pending_reply_status", status),
            ("matched_conversation_id", getKey result "matched_conversation_id"),
            ("matched_chat_id", getKey result "matched_chat_id"),
            ("matched_telegram_case_id", getKey result "telegram_case_id")])
        externalCommands := [] }

/-- The language of a backend reply. -/
def backendReplyLanguage (result : JsonObject) : Json :=
  (getKey result "reply_language").orElse
    ((getKey result "conversation_language").orElse
      ((getKey result "detected_language").orElse (.str "es")))

/-- `backend.query.result` with status `failed`. -/
def backendFailedHandler (rt : Runtime) (render : Renderer) (row : ExternalResultRow)
    (slotMemory : JsonObject) : Except PyError ResultHandler := do
  let result := row.resultJson
  let replyLanguage := backendReplyLanguage result
  let errorCode := (getKey result "error_code").orElse (.str "UNKNOWN")
  let rendered ← render "backend_query_failed" (.ofList [("error_code", errorCode)]) replyLanguage
  let escalation ← failedEscalation rt row slotMemory errorCode
  let memory := (Dict.ofList [
    ("backend_query_status", .str "failed"),
    ("backend_query_error_code", errorCode)]).merge escalation.slotMemory
  pure
    { text :=
        if escalation.shouldHandoff then handoffTextForLanguage rt replyLanguage failedLookup
        else rendered
      summarySenderRole := "backend"
      summaryText :=
        if escalation.shouldHandoff then "后台查询连续失败，已请求人工复核。"
        else "后台查询失败，已生成安全兜底回复。"
      graphState :=
        if escalation.shouldHandoff then
          handlerState .handoffRequested (some "human_handoff") (some "handoff_requested") memory
        else
          handlerState .waitingExternal (some "withdrawal_blocked_or_rollover")
            (some "backend_query_failed_waiting_manual") memory
      externalCommands := escalation.externalCommands }

/-- The result that `resolve_backend_recheck` is called with. -/
def resolvedResult (result : JsonObject) (reply : String × JsonObject) : JsonObject :=
  (result.set "reply_intent" (.str reply.1)).set "reply_facts" (.obj reply.2)

/-- The answer of the service, or else a rendered text. -/
def backendSuccessText (rt : Runtime) (render : Renderer) (result : JsonObject)
    (reply : String × JsonObject) (replyLanguage : Json) : Except PyError String :=
  let answer := strip ((getKey result "answer").textOrEmpty rt)
  if answer ≠ "" then .ok answer else render reply.1 reply.2 replyLanguage

/-- A player that was not found is counted; any other success resets the counters. -/
def backendSuccessEscalation (rt : Runtime) (row : ExternalResultRow) (slotMemory : JsonObject)
    (replyIntent : String) : Except PyError LookupEscalation :=
  let result := row.resultJson
  if isBackendPlayerNotFound result replyIntent then
    notFoundEscalation rt row slotMemory
      ((getKey result "account_or_phone").orElse
        (getKey (getKey result "query").dictOrEmpty "account_or_phone"))
      (getKey result "identity_source")
  else .ok backendLookupReset

/-- `backend.query.result` with status `success`. -/
def backendSuccessHandler (rt : Runtime) (render : Renderer) (row : ExternalResultRow)
    (slotMemory : JsonObject) (recordedAt : String) : Except PyError ResultHandler := do
  let result := row.resultJson
  let replyLanguage := backendReplyLanguage result
  let reply ← resolveBackendReply rt result
  let text ← backendSuccessText rt render result reply replyLanguage
  let escalation ← backendSuccessEscalation rt row slotMemory reply.1
  let recheck ← resolveBackendRecheck rt slotMemory (resolvedResult result reply) recordedAt
  let shouldHandoff := escalation.shouldHandoff || recheck.shouldHandoff
  let memory := (recheck.slotMemory.merge
    (.ofList [("backend_query_status", .str "success")])).merge escalation.slotMemory
  pure
    { text :=
        if recheck.shouldHandoff then backendRecheckHandoffText rt replyLanguage
        else if escalation.shouldHandoff then
          handoffTextForLanguage rt replyLanguage notFoundLookup
        else text
      summarySenderRole := "backend"
      summaryText :=
        if recheck.shouldHandoff then "后台复查结论未变化，已根据排队的再次质疑请求人工复核。"
        else if escalation.shouldHandoff then "后台连续未定位到账户，已请求人工复核。"
        else "后台查询成功，已生成可回复摘要。"
      graphState :=
        if shouldHandoff then
          handlerState .handoffRequested (some "human_handoff") (some "handoff_requested") memory
        else handlerState .aiActive none (some "completed") memory
      externalCommands :=
        escalation.externalCommands ++
          if recheck.shouldHandoff then
            [resultCommand row (.ofList [
              ("reason", .str "backend_conclusion_disputed_after_recheck"),
              ("same_conclusion", .bool true),
              ("queued_dispute", .bool true)])]
          else [] }

/-- An entry of `RESULT_HANDLERS`. -/
structure MockHandler where
  resultType : String
  text : String
  activeWorkflow : Option String
  workflowStage : Option String
  status : ConversationStatus

/-- `RESULT_HANDLERS`. -/
def resultHandlers : List MockHandler := [
  ⟨"telegram.send_case_card.mock_result", "资料已收到，我们会继续确认，请稍候。",
    none, some "waiting_backend", .waitingExternal⟩,
  ⟨"telegram.append_to_case.mock_result", "补充资料已收到，我们会继续跟进，请稍候。",
    none, some "waiting_backend", .waitingExternal⟩,
  ⟨"backend.query.mock_result", "已收到查询请求，当前为 dry-run 模式，未连接真实后台。",
    none, some "backend_query_dry_run", .waitingExternal⟩,
  ⟨"pending_reply.lookup.mock_result",
    "已收到查询请求，当前为 dry-run 模式，未连接真实 pending reply 查询源。",
    none, some "pending_reply_lookup_dry_run", .waitingExternal⟩,
  ⟨"human_handoff.requested.mock_result", "已为您转接真人客服，请稍候。",
    some "human_handoff", some "handoff_requested", .handoffRequested⟩,
  ⟨"rag.placeholder.mock_result", "当前为 RAG placeholder，尚未接入真实知识库。",
    none, some "rag_placeholder_dry_run", .waitingExternal⟩]

/-- `_summary_sender_role_for_result_type`. -/
def summarySenderRoleForResultType (resultType : String) : String :=
  if "telegram.".isPrefixOf resultType then "telegram"
  else if "backend.".isPrefixOf resultType then "backend"
  else if "human_handoff.".isPrefixOf resultType then "human"
  else "system"

/-- `build_result_handler`; `slotMemory` is that of the loaded conversation. -/
def buildResultHandler (rt : Runtime) (render : Renderer) (row : ExternalResultRow)
    (slotMemory : JsonObject) (recordedAt : String) : Except PyError ResultHandler :=
  let result := row.resultJson
  if row.resultType = "telegram.case.created" then caseCreatedHandler rt result
  else if row.resultType = "telegram.append_to_case.result" then appendToCaseHandler rt result
  else if row.resultType = "pending_reply.lookup.result" then pendingReplyHandler rt result
  else if row.resultType = "backend.query.result" then
    if (getKey result "status").eqText "failed" then
      backendFailedHandler rt render row slotMemory
    else if !(getKey result "status").eqText "success" then
      .error (.valueError (strip ("backend.query.result failed: " ++
        ((getKey result "error_code").orElse (.str "UNKNOWN")).pyStr rt ++ " " ++
        (getKey result "error_message").textOrEmpty rt)))
    else backendSuccessHandler rt render row slotMemory recordedAt
  else
    match resultHandlers.find? (·.resultType = row.resultType) with
    | none => .error (.valueError ("unsupported result_type: " ++ row.resultType))
    | some handler =>
        .ok
          { text := handler.text
            summarySenderRole := summarySenderRoleForResultType row.resultType
            summaryText := handler.text
            graphState := handlerState handler.status handler.activeWorkflow
              handler.workflowStage ∅
            externalCommands := [] }

end AiCustomerService
