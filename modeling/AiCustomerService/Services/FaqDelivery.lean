import AiCustomerService.Python.Digest
import AiCustomerService.Services.ChineseScript
import AiCustomerService.Support.Regex

/-!
# The delivery of a FAQ answer

`knowledge_blocks.py`, `faq_delivery.py`, `faq_renderer.py` and `faq_outbound_plan.py`: the blocks
of an answer lose the sentences that send the customer back to a menu, are validated and rendered,
and become one outbound row each.
-/

namespace AiCustomerService

open Support

/-- The runtime with the upper case of the language. -/
structure FaqRuntime extends Runtime where
  upper : String → String

/-! ## Validation -/

/-- The checks of `validate_answer_blocks` on one block. -/
def validateAnswerBlock (rt : Runtime) (item : Json) : Except PyError JsonObject :=
  match item with
  | .obj block => do
      let blockType := getKey block "type"
      if blockType.truthy = false then .error (.valueError "answer block requires type")
      else
        let isKnown ← blockType.inTexts ["text", "image", "buttons"]
        if isKnown = false then
          .error (.valueError ("unknown answer block type: " ++ blockType.pyStr rt))
        else if blockType.eqText "text" ∧ strip ((getKey block "text").textOrEmpty rt) = "" then
          .error (.valueError "text block requires non-empty text")
        else if blockType.eqText "image" ∧
            strip ((getKey block "asset_key").textOrEmpty rt) = "" then
          .error (.valueError "image block requires asset_key")
        else if blockType.eqText "buttons" ∧
            strip ((getKey block "menu_key").textOrEmpty rt) = "" then
          .error (.valueError "buttons block requires menu_key")
        else .ok block
  | _ => .error (.valueError "answer block must be a dict")

/-- `validate_answer_blocks`. -/
def validateAnswerBlocks (rt : Runtime) (value : Json) : Except PyError (List JsonObject) :=
  match value with
  | .arr items => items.mapM (validateAnswerBlock rt)
  | _ => .error (.valueError "answer_blocks must be a list")

/-! ## Menu directives -/

/-- `LIVECHAT_BUTTON_SOURCE`. -/
def livechatButtonSource : String := "livechat_button"

/-- The parts of a state that say where the question comes from. -/
structure FaqState where
  intentResult : JsonObject
  routeSource : Json

/-- `faq_trigger_source`. -/
def faqTriggerSource (state : FaqState) : Json :=
  ((getKey state.intentResult "faq_trigger_source").orElse
    (getKey state.intentResult "trigger_source")).orElse state.routeSource

/-- `is_livechat_button_faq`. -/
def isLivechatButtonFaq (state : FaqState) : Bool :=
  (faqTriggerSource state).eqText livechatButtonSource

/-- A sentence that sends the customer to a menu entry: the text before the quoted entry, the
entry, and what may end the entry. -/
def menuDirective (before entry : String) (ending : Regex Char) : Regex Char :=
  Regex.seq [Regex.exact before.toList, .one fun c => c = '「' || c = '"',
    Regex.exact entry.toList, ending, .one fun c => c = '」' || c = '"',
    Regex.optional (.one fun c => c = '。')]

/-- `[帳账]`. -/
def accountEnding : Regex Char := .one fun c => c = '帳' || c = '账'

/-- `_MENU_DIRECTIVE_PATTERNS`. -/
def menuDirectivePatterns : List (Regex Char) :=
  [menuDirective "請回到選單並選擇" "存款未到" accountEnding,
    menuDirective "请回到选单并选择" "存款未到" (Regex.optional accountEnding),
    menuDirective "請回到選單並選擇" "提款未到" accountEnding,
    menuDirective "请回到选单并选择" "提款未到" (Regex.optional accountEnding),
    menuDirective "如果沒有出現金額欄位或頁面不讓你繼續，請選擇" "無法提款" .nothing,
    menuDirective "如果没有出现金额栏位或页面不让你继续，请选择" "无法提款" .nothing]

/-- `[ \t]+\n`. -/
def trailingBlanks : Regex Char :=
  Regex.seq [.one fun c => c = ' ' || c = '\t', .many fun c => c = ' ' || c = '\t',
    .one fun c => c = '\n']

/-- `\n{3,}`. -/
def emptyLines : Regex Char :=
  Regex.seq [.one fun c => c = '\n', .one fun c => c = '\n', .one fun c => c = '\n',
    .many fun c => c = '\n']

/-- `strip_menu_directives`. -/
def stripMenuDirectives (rt : Runtime) (text : Json) : String :=
  let cleaned := menuDirectivePatterns.foldl (fun cleaned pattern => pattern.remove cleaned)
    (text.textOrEmpty rt).toList
  let cleaned := trailingBlanks.substitute ['\n'] cleaned
  let cleaned := emptyLines.substitute ['\n', '\n'] cleaned
  strip (String.ofList cleaned)

/-! ## Preparation -/

/-- A FAQ context; `none` stands for an entry that is missing or `None`, except that an answer
that is there is a value. -/
structure FaqContext where
  answer : Option Json
  answerBlocks : Option (List JsonObject)
  documents : Option (List JsonObject)

/-- `_prepare_block`. -/
def prepareBlock (rt : Runtime) (block : JsonObject) : JsonObject :=
  if (getKey block "type").eqText "text" then
    block.set "text" (.str (stripMenuDirectives rt (getKey block "text")))
  else block

/-- `_prepare_document`. -/
def prepareDocument (rt : Runtime) (document : JsonObject) : JsonObject :=
  if document.contains "content" then
    document.set "content" (.str (stripMenuDirectives rt (getKey document "content")))
  else document

/-- `prepare_faq_context_for_delivery`. -/
def prepareFaqContextForDelivery (rt : Runtime) (ragContext : FaqContext) (state : FaqState) :
    FaqContext :=
  if isLivechatButtonFaq state then ragContext
  else
    { answer := ragContext.answer.map fun answer => .str (stripMenuDirectives rt answer)
      answerBlocks := ragContext.answerBlocks.map (List.map (prepareBlock rt))
      documents := ragContext.documents.map (List.map (prepareDocument rt)) }

/-! ## Rendering -/

/-- A block of the preview. -/
inductive PreviewBlock where
  | text (text : String)
  | image (assetKey : String) (assetRef : Option String) (caption position : String)
  | buttons (menuKey : String)

/-- `_clean_optional_text`. -/
def cleanOptionalText (rt : Runtime) (value : Json) : String := strip (value.textOrEmpty rt)

/-- `None` for an empty text. -/
def textOrNone (text : String) : Option String := if text = "" then none else some text

/-- The asset map with its keys in the form in which a platform is looked up. -/
def normalizedAssetMap (rt : FaqRuntime) (assetMap : JsonObject) : JsonObject :=
  Dict.ofList ((assetMap.entries.filter fun entry => strip entry.1 ≠ "").map fun entry =>
    (rt.upper (strip entry.1), entry.2))

/-- The asset of the platform, or else the default one. -/
def assetRefIn (rt : FaqRuntime) (assetMap : JsonObject) (platform : Json) : Option String :=
  let normalized := normalizedAssetMap rt assetMap
  let platformKey := rt.upper (cleanOptionalText rt.toRuntime platform)
  let assetRef :=
    if platformKey = "" then "" else cleanOptionalText rt.toRuntime (getKey normalized platformKey)
  if assetRef = "" then textOrNone (cleanOptionalText rt.toRuntime (getKey normalized "DEFAULT"))
  else some assetRef

/-- `_select_platform_asset_ref`. -/
def selectPlatformAssetRef (rt : FaqRuntime) (block : JsonObject) (platform : Json) :
    Except PyError (Option String) :=
  match (getKey block "platform_asset_map").orElse (.obj ∅) with
  | .obj assetMap => .ok (assetRefIn rt assetMap platform)
  | _ => .error (.valueError "image block platform_asset_map must be a dict")

/-- The preview of one block that is valid. -/
def renderBlock (rt : FaqRuntime) (platform language : Json) (block : JsonObject) :
    Except PyError PreviewBlock :=
  let blockType := getKey block "type"
  let clean := fun key => cleanOptionalText rt.toRuntime (getKey block key)
  if blockType.eqText "text" then
    .ok (.text (adaptChineseScript rt.toRuntime (clean "text") language))
  else if blockType.eqText "image" then do
    let assetRef ← selectPlatformAssetRef rt block platform
    let position := if clean "position" = "" then "after" else clean "position"
    .ok (.image (clean "asset_key") assetRef
      (adaptChineseScript rt.toRuntime (clean "caption") language) position)
  else if blockType.eqText "buttons" then .ok (.buttons (clean "menu_key"))
  else .error (.valueError ("unknown answer block type: " ++ blockType.pyStr rt.toRuntime))

/-- `render_answer_blocks_preview`. -/
def renderAnswerBlocksPreview (rt : FaqRuntime) (answerBlocks : List JsonObject)
    (platform language : Json) : Except PyError (List PreviewBlock) := do
  let blocks ← validateAnswerBlocks rt.toRuntime (.arr (answerBlocks.map .obj))
  blocks.mapM (renderBlock rt platform language)

/-! ## The plan -/

/-- The arguments of `build_faq_outbound_plan` besides the blocks. -/
structure FaqDelivery where
  tenantId : String
  conversationId : String
  inboundEventId : Json
  platform : Json
  language : Json

/-- One message of the plan. -/
structure FaqMessage where
  blockIndex : Nat
  messageKind : String
  commandType : String
  dedupKey : String
  payload : JsonObject
  warnings : List String

/-- `message_kind`. -/
def PreviewBlock.kind : PreviewBlock → String
  | .text _ => "text"
  | .image .. => "image"
  | .buttons _ => "buttons"

/-- `command_type`. -/
def PreviewBlock.commandType : PreviewBlock → String
  | .text _ => "livechat.send_text"
  | .image .. => "livechat.send_image"
  | .buttons _ => "livechat.send_buttons"

/-- `_text_identity`. -/
def textIdentity (text : String) : String := ((sha256Hex text).take 16).toString

/-- `stable_identity`. -/
def PreviewBlock.stableIdentity : PreviewBlock → String
  | .text content => textIdentity content
  | .image assetKey .. => assetKey
  | .buttons menuKey => menuKey

/-- `payload`. -/
def PreviewBlock.payload (language : Json) : PreviewBlock → JsonObject
  | .text content => .ofList [("text", .str content)]
  | .image assetKey assetRef caption position =>
      .ofList [("asset_key", .str assetKey), ("asset_ref", .ofText? assetRef),
        ("caption", .str caption), ("position", .str position)]
  | .buttons menuKey => .ofList [("menu_key", .str menuKey), ("language", language)]

/-- `warnings`. -/
def PreviewBlock.warnings : PreviewBlock → List String
  | .image _ none _ _ => ["missing_asset_ref"]
  | _ => []

/-- `_dedup_key`. -/
def faqDedupKey (rt : Runtime) (delivery : FaqDelivery) (blockIndex : Nat)
    (messageKind stableIdentity : String) : String :=
  delivery.tenantId ++ ":" ++ delivery.conversationId ++ ":" ++ delivery.inboundEventId.pyStr rt ++
    ":faq_block:" ++ (toString blockIndex ++ ":" ++ (messageKind ++ ":" ++ stableIdentity))

/-- `_message_plan`. -/
def messagePlan (rt : Runtime) (delivery : FaqDelivery) (block : PreviewBlock)
    (blockIndex : Nat) : FaqMessage where
  blockIndex := blockIndex
  messageKind := block.kind
  commandType := block.commandType
  dedupKey := faqDedupKey rt delivery blockIndex block.kind block.stableIdentity
  payload := block.payload delivery.language
  warnings := block.warnings

/-- `build_faq_outbound_plan`, with the messages of the plan. -/
def buildFaqOutboundPlan (rt : FaqRuntime) (delivery : FaqDelivery)
    (answerBlocks : List JsonObject) : Except PyError (List FaqMessage) := do
  let previewBlocks ← renderAnswerBlocksPreview rt answerBlocks delivery.platform delivery.language
  .ok (previewBlocks.mapIdx fun index block => messagePlan rt.toRuntime delivery block index)

/-- `build_faq_outbound_plan_from_rag_context`. -/
def buildFaqOutboundPlanFromRagContext (rt : FaqRuntime) (delivery : FaqDelivery)
    (ragContext : FaqContext) : Except PyError (List FaqMessage) :=
  buildFaqOutboundPlan rt delivery (ragContext.answerBlocks.getD [])

/-! ## The rows -/

/-- Where the rows of a plan go. -/
structure FaqAddress where
  chatId : String
  threadId : Option String
  channelType : String
  status : String

/-- One row of the outbound queue. -/
structure FaqRow where
  tenantId : String
  channelType : String
  chatId : String
  threadId : Option String
  conversationId : String
  inboundEventId : Json
  actionType : String
  commandType : String
  messageType : String
  messageKind : String
  blockIndex : Nat
  dedupKey : String
  payloadJson : JsonObject
  status : String

/-- `faq_plan_to_outbound_rows`. -/
def faqPlanToOutboundRows (delivery : FaqDelivery) (address : FaqAddress)
    (messages : List FaqMessage) : List FaqRow :=
  messages.map fun message =>
    { tenantId := delivery.tenantId
      channelType := address.channelType
      chatId := address.chatId
      threadId := address.threadId
      conversationId := delivery.conversationId
      inboundEventId := delivery.inboundEventId
      actionType := message.commandType
      commandType := message.commandType
      messageType := message.messageKind
      messageKind := message.messageKind
      blockIndex := message.blockIndex
      dedupKey := message.dedupKey
      payloadJson := message.payload
      status := address.status }

/-- The rows that a context is delivered in, as the gateway puts the three steps together. -/
def deliverFaq (rt : FaqRuntime) (delivery : FaqDelivery) (address : FaqAddress)
    (ragContext : FaqContext) (state : FaqState) : Except PyError (List FaqRow) := do
  let messages ← buildFaqOutboundPlanFromRagContext rt delivery
    (prepareFaqContextForDelivery rt.toRuntime ragContext state)
  .ok (faqPlanToOutboundRows delivery address messages)

end AiCustomerService
