import AiCustomerService.Graph.State
import AiCustomerService.Services.FaqDelivery
import AiCustomerService.Support.TopK
import AiCustomerService.Workflows.SlotExtractors
import Mathlib.Data.Prod.Lex

/-!
# Answers from the knowledge base

`app/services/rag.py` and `KnowledgeDocumentRepository.search`: a question is compared with the
allowed documents, the best ones are the context of an answer, and the answer is read from that
context.
-/

namespace AiCustomerService

open Support

/-! ## Documents -/

/-- A decoded row of `knowledge_documents`. -/
structure KnowledgeDocument where
  id : Int
  tenantId : String
  kbScope : String
  title : String
  content : String
  keywords : List String
  questionAliases : List String := []
  answerBlocks : Json := .null
  metadataJson : JsonObject
  language : Option String
  priority : Int
  enabled : Bool := true

/-- `RAG_FALLBACK_ANSWER`. -/
def ragFallbackAnswer : String :=
  "我暂时没有在知识库中找到对应答案。请补充更具体的问题，或我可以为你转接真人客服。"

/-- `BACKEND_FACT_FALLBACK_ANSWER`. -/
def backendFactFallbackAnswer : String :=
  "这个问题需要查询账户或订单状态，我不能只根据知识库判断。请补充资料，或我可以为你转接真人客服。"

/-- `ALLOWED_FAQ_INTENTS`. -/
def allowedFaqIntents : List String :=
  ["deposit_howto", "withdrawal_howto", "forgot_password_howto", "screenshot_upload_howto"]

/-- `_TITLE_INTENT_MAP`. -/
def titleIntentMap : Dict String String :=
  Dict.ofList [("充值教程", "deposit_howto"), ("充值方式说明", "deposit_howto"),
    ("deposit guide", "deposit_howto"), ("提款教程", "withdrawal_howto"),
    ("提款方式说明", "withdrawal_howto"), ("withdrawal guide", "withdrawal_howto"),
    ("忘记密码说明", "forgot_password_howto"), ("forgot password", "forgot_password_howto"),
    ("上传截图说明", "screenshot_upload_howto"), ("upload screenshot", "screenshot_upload_howto")]

/-- A document of `DEFAULT_KNOWLEDGE_DOCUMENTS`. -/
def defaultDocument (id : Int) (title content : String) (keywords : List String) (priority : Int)
    (intentId : String) : KnowledgeDocument where
  id := id
  tenantId := "default"
  kbScope := "default"
  title := title
  content := content
  keywords := keywords
  metadataJson := Dict.ofList [("intent_id", .str intentId), ("is_canonical", .bool true)]
  language := some "multi"
  priority := priority

/-- `DEFAULT_KNOWLEDGE_DOCUMENTS`. -/
def defaultKnowledgeDocuments : List KnowledgeDocument :=
  [defaultDocument 1 "充值方式说明"
      "你可以在充值页面选择可用通道并按页面提示完成充值。实际到账状态需要后台或人工确认。"
      ["how to deposit", "deposit", "recargar", "cómo recargar", "como recargar", "如何充值", "充值"]
      10 "deposit_howto",
    defaultDocument 3 "提款方式说明"
      "你可以在提款页面按提示提交提款申请。若提款长时间未到账或无法提款，需要改走人工或SOP处理。"
      ["how to withdraw", "withdrawal howto", "cómo retirar", "como retirar", "cómo puedo retirar",
        "retiro", "如何提款"]
      12 "withdrawal_howto",
    defaultDocument 4 "忘记密码说明"
      ("多数情况下，用户名是注册手机号。请在登录页面点击忘记密码并按提示完成验证和重设。" ++
        "如果操作后仍无法登录，可以发送错误截图，我会为您转接人工客服进一步处理。")
      ["forgot password", "olvidé mi contraseña", "olvide mi contraseña", "忘记密码"]
      14 "forgot_password_howto",
    defaultDocument 5 "上传截图说明"
      "如需上传截图，请在聊天窗口点击上传按钮，选择清晰完整的付款或提款截图后发送。"
      ["upload screenshot", "subir captura", "enviar screenshot", "上传截图"]
      16 "screenshot_upload_howto"]

/-- `normalize_text(text).lower()`. -/
def lowerNormalized (rt : Runtime) (text : String) : String := rt.lower (strip text)

/-- `document_faq_intent`, of the title and the metadata of a document. -/
def documentFaqIntent (rt : Runtime) (title : String) (metadata : JsonObject) : Option String :=
  let intent := (getKey metadata "intent_id").orElse (getKey metadata "intent")
  if intent.truthy then some (intent.pyStr rt) else titleIntentMap.get? (lowerNormalized rt title)

/-- `_is_canonical_document`. -/
def isCanonicalDocument (rt : Runtime) (metadata : JsonObject) : Bool :=
  match getKey metadata "is_canonical" with
  | .bool value => value
  | .str value => rt.lower (strip value) = "true"
  | _ => false

/-- `is_allowed_faq_document`. -/
def isAllowedFaqDocument (rt : Runtime) (title : String) (metadata : JsonObject) : Bool :=
  (documentFaqIntent rt title metadata).any (allowedFaqIntents.contains ·) &&
    isCanonicalDocument rt metadata

/-! ## The query -/

/-- `part in text`. -/
def isPartOf (part text : String) : Bool := decide (part.toList <:+: text.toList)

/-- `text.split()`. -/
def splitBlanks (text : String) : List String :=
  ((text.toList.splitOnP isPySpace).filter fun word => !word.isEmpty).map String.ofList

/-- `token.strip(" ?!,.，。¿¡")`. -/
def stripMarks (token : String) : String :=
  let isMark (c : Char) : Bool := " ?!,.，。¿¡".toList.contains c
  String.ofList ((token.toList.dropWhile isMark).rdropWhile isMark)

/-- `"\u4e00" <= char <= "\u9fff"`. -/
def isHanChar (c : Char) : Bool := 0x4E00 ≤ c.toNat ∧ c.toNat ≤ 0x9FFF

/-- `_zh_substrings`. -/
def zhSubstrings (text : String) : List String :=
  let compact := text.toList.filter fun c => c != ' '
  if compact.length < 2 then [String.ofList compact]
  else
    ((List.range (compact.length - 1)).map fun index =>
      String.ofList ((compact.drop index).take 2)) ++ [String.ofList compact]

/-- `_query_tokens`. -/
def queryTokens (rt : Runtime) (query : String) : List String :=
  let normalized := lowerNormalized rt query
  if normalized = "" then []
  else
    let tokens := (splitBlanks normalized).map stripMarks
    let tokens :=
      if normalized.toList.any isHanChar then tokens ++ zhSubstrings normalized else tokens
    (tokens ++ [normalized]).eraseDups.filter fun token => token ≠ ""

/-- `_is_backend_fact_question`. -/
def isBackendFactQuestion (rt : Runtime) (query : String) : Bool :=
  let lowered := lowerNormalized rt query
  ["did not arrive", "no llegó", "no llego", "not arrived", "withdrawal status", "deposit status",
    "order status", "balance", "流水", "余额", "未到账", "没到账", "提款状态", "订单"].any
    fun marker => isPartOf marker lowered

/-! ## Ranking -/

/-- One `score += points` of `rank_knowledge_document`, with what is appended beside it. -/
structure Hit where
  points : Nat
  field : String
  term : String
  reason : Option String := none

/-- The texts of a document that are compared. -/
structure SearchTexts where
  title : String
  content : String
  keywords : List String
  questionAliases : List String

def KnowledgeDocument.searchTexts (rt : Runtime) (document : KnowledgeDocument) : SearchTexts where
  title := lowerNormalized rt document.title
  content := lowerNormalized rt document.content
  keywords := document.keywords.map (lowerNormalized rt)
  questionAliases := document.questionAliases.map (lowerNormalized rt)

/-- The hits of the whole query. -/
def queryHits (texts : SearchTexts) (query : String) : List Hit :=
  (if isPartOf query texts.title then [⟨8, "title", query, some "exact_title_match"⟩] else []) ++
    ((texts.keywords.find? fun keyword => keyword ≠ "" && query = keyword).map fun keyword =>
      (⟨7, "keywords", keyword, some "exact_keyword_match"⟩ : Hit)).toList ++
    ((texts.questionAliases.find? fun name => name ≠ "" && query = name).map fun name =>
      (⟨7, "question_aliases", name, some "exact_alias_match"⟩ : Hit)).toList ++
    ((texts.questionAliases.find? fun name =>
        name ≠ "" && query ≠ name && (isPartOf query name || isPartOf name query)).map fun name =>
      (⟨5, "question_aliases", name, some "alias_contains_match"⟩ : Hit)).toList

/-- The hits of one token. -/
def tokenHits (texts : SearchTexts) (token : String) : List Hit :=
  (if isPartOf token texts.title then [⟨4, "title", token, none⟩] else []) ++
    (if texts.keywords.any (isPartOf token) then [⟨3, "keywords", token, none⟩] else []) ++
    (if texts.questionAliases.any (isPartOf token) then [⟨3, "question_aliases", token, none⟩]
      else []) ++
    (if isPartOf token texts.content then [⟨1, "content", token, none⟩] else [])

/-- What `rank_knowledge_document` returns. -/
structure Ranking where
  score : Nat
  matchedFields : List String
  matchedTerms : List String
  reason : String

/-- The hits of a query in a document. -/
def documentHits (rt : Runtime) (document : KnowledgeDocument) (query : String) : List Hit :=
  let texts := document.searchTexts rt
  queryHits texts (lowerNormalized rt query) ++ (queryTokens rt query).flatMap (tokenHits texts)

/-- The points of some hits. -/
def totalPoints (hits : List Hit) : Nat := (hits.map Hit.points).sum

/-- The language of the question is that of the document. -/
def speaksLanguage (rt : Runtime) (document : KnowledgeDocument) (language : Option String) :
    Bool :=
  let docLanguage := rt.lower (document.language.getD "")
  let normalizedLanguage := rt.lower (language.getD "")
  normalizedLanguage ≠ "" && docLanguage ≠ "" && isPartOf normalizedLanguage docLanguage

/-- `rank_knowledge_document`. -/
def rankKnowledgeDocument (rt : Runtime) (document : KnowledgeDocument) (query : String)
    (language : Option String) : Ranking :=
  if lowerNormalized rt query = "" ∨ queryTokens rt query = [] then ⟨0, [], [], "empty_query"⟩
  else
    let hits := documentHits rt document query
    let score := totalPoints hits
    let bonus := speaksLanguage rt document language && decide (0 < score)
    let reasons := hits.filterMap Hit.reason ++ (if bonus then ["language_match"] else [])
    { score := if bonus then score + 1 else score
      matchedFields := (hits.map Hit.field).eraseDups
      matchedTerms := (hits.map Hit.term).eraseDups
      reason := reasons.head?.getD (if 0 < score then "token_match" else "no_match") }

/-! ## Search -/

/-- A document with its ranking. -/
structure RankedDocument extends KnowledgeDocument, Ranking

/-- `(-item["score"], item["priority"], item["id"])`. -/
def RankedDocument.rankKey (item : RankedDocument) : Int ×ₗ Int ×ₗ Int :=
  toLex (-(item.score : Int), toLex (item.priority, item.id))

/-- The documents with a positive score. -/
def scoredDocuments (rt : Runtime) (documents : List KnowledgeDocument) (query : String)
    (language : Option String) : List RankedDocument :=
  documents.filterMap fun document =>
    let ranked := rankKnowledgeDocument rt document query language
    if 0 < ranked.score then some { toKnowledgeDocument := document, toRanking := ranked } else none

/-- A document may be searched by the tenant in the scope. -/
def KnowledgeDocument.isVisible (document : KnowledgeDocument) (tenantId kbScope : String) : Bool :=
  (document.tenantId = tenantId || document.tenantId = "default") && document.kbScope = kbScope

/-- `search_static_knowledge`. -/
def searchStaticKnowledge (rt : Runtime) (tenantId query kbScope : String) (limit : Nat)
    (language : Option String) : List RankedDocument :=
  let documents := defaultKnowledgeDocuments.filter fun document =>
    isAllowedFaqDocument rt document.title document.metadataJson &&
      document.isVisible tenantId kbScope
  topK RankedDocument.rankKey limit (scoredDocuments rt documents query language)

/-- `COALESCE(intent_id, intent) IN (...) AND LOWER(is_canonical) = 'true'` on `metadata_json`. -/
def admittedByQuery (rt : Runtime) (metadata : JsonObject) : Bool :=
  (match (metadata.get? "intent_id").or (metadata.get? "intent") with
    | some (.str intent) => allowedFaqIntents.contains intent
    | _ => false) &&
    match metadata.get? "is_canonical" with
    | some (.bool value) => value
    | some (.str value) => rt.lower value = "true"
    | _ => false

/-- The `WHERE` clause of `KnowledgeDocumentRepository.search`. -/
def KnowledgeDocument.isSelected (rt : Runtime) (document : KnowledgeDocument)
    (tenantId kbScope : String) : Bool :=
  document.tenantId = tenantId && document.kbScope = kbScope && document.enabled &&
    admittedByQuery rt document.metadataJson

/-- `KnowledgeDocumentRepository.search`. -/
def searchKnowledgeDocuments (rt : Runtime) (rows : List KnowledgeDocument)
    (tenantId query kbScope : String) (limit : Nat) : List RankedDocument :=
  let rows := (rows.filter fun row => row.isSelected rt tenantId kbScope).mergeSort fun a b =>
    a.priority < b.priority || (a.priority = b.priority && decide (a.id ≤ b.id))
  let documents := rows.filter fun document =>
    isAllowedFaqDocument rt document.title document.metadataJson
  topK RankedDocument.rankKey limit (scoredDocuments rt documents (strip query) none)

/-! ## Retrieval -/

/-- An entry of `documents` in a context. -/
structure RagDocument where
  id : Int
  title : String
  score : Nat
  priority : Int
  matchedFields : List String
  matchedTerms : List String
  content : String
  metadataJson : JsonObject
  hasAnswerBlocks : Bool
  blockTypes : List String
  assetKeys : List String

/-- The texts under a key of the blocks, each of them once. -/
def blockTexts (blocks : Json) (key : String) : List String :=
  match blocks with
  | .arr items =>
      ((items.filterMap Json.dict?).filterMap fun block =>
        (getKey block key).str?.filter fun text => text ≠ "").eraseDups
  | _ => []

/-- `_rag_document_payload`. -/
def ragDocumentPayload (document : RankedDocument) : RagDocument where
  id := document.id
  title := document.title
  score := document.score
  priority := document.priority
  matchedFields := document.matchedFields
  matchedTerms := document.matchedTerms
  content := document.content
  metadataJson := document.metadataJson
  hasAnswerBlocks := document.answerBlocks.truthy
  blockTypes := blockTexts document.answerBlocks "type"
  assetKeys := blockTexts document.answerBlocks "asset_key"

/-- What `retrieve` returns. -/
structure RagContext where
  matched : Bool
  answer : String
  answerBlocks : List JsonObject
  documents : List RagDocument
  fallbackReason : Option String
  source : String
  query : String
  faqIntent : Option String
  tenantId : String
  kbScope : String

/-- `default_text_answer_blocks`. -/
def defaultTextAnswerBlocks (content : String) : List JsonObject :=
  if strip content = "" then []
  else [Dict.ofList [("type", .str "text"), ("text", .str (strip content))]]

/-- `_answer_blocks_for_document`. -/
def answerBlocksForDocument (rt : Runtime) (document : KnowledgeDocument) :
    Except PyError (List JsonObject) :=
  if document.answerBlocks.truthy then validateAnswerBlocks rt document.answerBlocks
  else .ok (defaultTextAnswerBlocks document.content)

/-- `_answer_text`. -/
def answerText (rt : Runtime) (document : KnowledgeDocument) (blocks : List JsonObject) : String :=
  if document.content ≠ "" then document.content
  else
    ((blocks.find? fun block =>
      (getKey block "type").eqText "text" && (getKey block "text").truthy).map fun block =>
        (getKey block "text").pyStr rt).getD ""

namespace NodeState

variable (rt : Runtime) (s : NodeState)

/-- `_retrieval_query`. -/
def retrievalQuery : String :=
  let rewriteResult := (s.get "rewrite_result").dictOrEmpty
  normalizeText rt
    (((((getKey s.intentResult "retrieval_query").orElse (getKey s.intentResult "faq_query")).orElse
      (getKey rewriteResult "normalized_query")).orElse (s.get "rewritten_question")).orElse
        (s.get "raw_user_input"))

/-- `_candidate_faq_intent`. -/
def candidateFaqIntent : Option String :=
  let value := strip (((getKey s.intentResult "faq_intent").orElse
    (getKey s.intentResult "intent")).textOrEmpty rt)
  if allowedFaqIntents.contains value then some value else none

/-- `state.get(key) or "default"`. -/
def textOrDefault (key : String) : String := ((s.get key).orElse (.str "default")).pyStr rt

/-- `((state.get("rewrite_result") or {}).get("language")) or None`. -/
def questionLanguage : Option String :=
  let language := getKey (s.get "rewrite_result").dictOrEmpty "language"
  if language.truthy then some (language.pyStr rt) else none

/-- The question is about an account, and the guard is on. -/
def asksBackendFact : Bool :=
  ((s.values.get? "rag_backend_fact_guard_enabled").getD (.bool true)).truthy &&
    isBackendFactQuestion rt (s.retrievalQuery rt)

end NodeState

/-- `_filter_candidate_faq_documents` after `filter_allowed_faq_documents`, and the first ones. -/
def selectDocuments (rt : Runtime) (documents : List RankedDocument) (candidate : Option String)
    (maxDocs : Nat) : List RankedDocument :=
  let allowed := documents.filter fun document =>
    isAllowedFaqDocument rt document.title document.metadataJson
  (allowed.filter fun document => candidate.all fun intent =>
    documentFaqIntent rt document.title document.metadataJson = some intent).take maxDocs

/-- `RagService`; the rows are those of its repository, where it has one. -/
structure RagService where
  knowledgeRepository : Option (List KnowledgeDocument) := none
  maxDocs : Nat := 3
  minScore : Nat := 2

namespace RagService

/-- How many documents are searched. -/
def searchLimit (service : RagService) (candidate : Option String) : Nat :=
  if candidate.isSome then max (service.maxDocs * 3) 10 else service.maxDocs

/-- The source of the documents. -/
def source (service : RagService) : String :=
  if service.knowledgeRepository.isSome then "knowledge_documents" else "static_knowledge"

/-- The documents that `retrieve` considers. -/
def documents (service : RagService) (rt : Runtime) (s : NodeState) : List RankedDocument :=
  let candidate := s.candidateFaqIntent rt
  let tenantId := s.textOrDefault rt "tenant_id"
  let kbScope := s.textOrDefault rt "kb_scope"
  let found :=
    match service.knowledgeRepository with
    | some rows =>
        searchKnowledgeDocuments rt rows tenantId (s.retrievalQuery rt) kbScope
          (service.searchLimit candidate)
    | none =>
        searchStaticKnowledge rt tenantId (s.retrievalQuery rt) kbScope
          (service.searchLimit candidate) (s.questionLanguage rt)
  selectDocuments rt found candidate service.maxDocs

/-- `_fallback_context`. -/
def fallbackContext (rt : Runtime) (s : NodeState) (answer fallbackReason source : String) :
    RagContext where
  matched := false
  answer := answer
  answerBlocks := defaultTextAnswerBlocks answer
  documents := []
  fallbackReason := some fallbackReason
  source := source
  query := s.retrievalQuery rt
  faqIntent := none
  tenantId := s.textOrDefault rt "tenant_id"
  kbScope := s.textOrDefault rt "kb_scope"

/-- `RagService.retrieve`. -/
def retrieve (service : RagService) (rt : Runtime) (s : NodeState) : Except PyError RagContext :=
  if s.asksBackendFact rt then
    .ok (fallbackContext rt s backendFactFallbackAnswer "backend_fact" "guardrail")
  else if s.retrievalQuery rt = "" then
    .ok (fallbackContext rt s ragFallbackAnswer "empty_query" service.source)
  else
    match service.documents rt s with
    | [] => .ok (fallbackContext rt s ragFallbackAnswer "no_match" service.source)
    | best :: others =>
        if best.score < service.minScore then
          .ok (fallbackContext rt s ragFallbackAnswer "low_score" service.source)
        else do
          let answerBlocks ← answerBlocksForDocument rt best.toKnowledgeDocument
          pure
            { matched := true
              answer := textOr (some (answerText rt best.toKnowledgeDocument answerBlocks))
                ragFallbackAnswer
              answerBlocks
              documents := (best :: others).map ragDocumentPayload
              fallbackReason := none
              source := service.source
              query := s.retrievalQuery rt
              faqIntent := s.candidateFaqIntent rt
              tenantId := s.textOrDefault rt "tenant_id"
              kbScope := s.textOrDefault rt "kb_scope" }

end RagService

/-! ## Answers -/

/-- `_rag_document_summary`. -/
structure RagSummary where
  id : Int
  title : String
  score : Nat
  priority : Int
  matchedFields : List String
  matchedTerms : List String

def ragDocumentSummary (document : RagDocument) : RagSummary :=
  ⟨document.id, document.title, document.score, document.priority, document.matchedFields,
    document.matchedTerms⟩

/-- What `answer_from_rag_context` returns. -/
structure RagAnswer where
  matched : Bool
  answer : String
  documents : List RagSummary
  fallbackReason : Option String

/-- `_fallback_answer`. -/
def fallbackAnswer (reason answer : String) : RagAnswer := ⟨false, answer, [], some reason⟩

/-- `_build_answer_from_context`, of the documents and the fallback reason of a context. -/
def buildAnswerFromContext (rt : Runtime) (documents : List RagDocument)
    (fallbackReason : Option String) : RagAnswer :=
  if fallbackReason = some "backend_fact" then
    fallbackAnswer "backend_fact" backendFactFallbackAnswer
  else if fallbackReason = some "empty_query" then fallbackAnswer "empty_query" ragFallbackAnswer
  else
    match documents.filter fun document =>
        isAllowedFaqDocument rt document.title document.metadataJson with
    | [] => fallbackAnswer (textOr fallbackReason "no_match") ragFallbackAnswer
    | first :: others =>
        ⟨true, textOr (some first.content) ragFallbackAnswer,
          (first :: others).map ragDocumentSummary, none⟩

/-- `answer_from_static_knowledge`. -/
def answerFromStaticKnowledge (rt : Runtime) (s : NodeState) : RagAnswer :=
  if s.asksBackendFact rt then fallbackAnswer "backend_fact" backendFactFallbackAnswer
  else if s.retrievalQuery rt = "" then fallbackAnswer "empty_query" ragFallbackAnswer
  else
    let candidate := s.candidateFaqIntent rt
    let found := searchStaticKnowledge rt (s.textOrDefault rt "tenant_id") (s.retrievalQuery rt)
      (s.textOrDefault rt "kb_scope") (if candidate.isSome then 10 else 3) (s.questionLanguage rt)
    match selectDocuments rt found candidate 3 with
    | [] => fallbackAnswer "no_match" ragFallbackAnswer
    | documents => buildAnswerFromContext rt (documents.map ragDocumentPayload) none

/-- `answer_from_rag_context` with a context. -/
def answerFromRagContext (rt : Runtime) (context : RagContext) : RagAnswer :=
  buildAnswerFromContext rt context.documents context.fallbackReason

end AiCustomerService
