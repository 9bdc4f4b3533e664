import AiCustomerService.Channels.Errors
import Mathlib.Data.List.Sort

/-!
# The threads of a daily report

`reporting/daily_chat_report/aggregation.py`: the messages of a day are grouped by thread, and
each thread gets the names, the group and the category that its metadata, its commands and its
states give.
-/

namespace AiCustomerService

open Support

/-- The tables of the language for digits and for `datetime.timestamp`. -/
structure ReportRuntime extends Runtime where
  isDigit : String → Bool
  timestamp : Nat → ℚ

/-- A runtime for evaluating examples on plain texts. -/
def ReportRuntime.plain : ReportRuntime where
  toRuntime := .plain
  isDigit text := text ≠ "" && text.toList.all Char.isDigit
  timestamp time := time

/-! ## Rows -/

/-- The chat and the thread of a row. -/
abbrev ThreadKey := String × Option String

/-- `_optional_str`. -/
def optionalText (text : Option String) : Option String := (text.map strip).filter (· ≠ "")

/-- A message as a repository delivers it; times count from `datetime.min`. -/
structure MessageRow where
  id : Json
  conversationId : Option String
  chatId : Option String
  threadId : Option String
  senderRole : Option String
  messageType : Option String
  textContent : Option String
  attachmentRefs : Json
  source : Option String
  occurredAt : Option Nat
  createdAt : Option Nat
  authorId : Option String
  speakerName : Option String
  originalThreadId : Option String

/-- The metadata of an event, with its decoded payload. -/
structure MetadataRow where
  chatId : Option String
  threadId : Option String
  payload : JsonObject
  livechatGroupId : Json
  platform : Json

/-- An external command. -/
structure CommandRow where
  chatId : Option String
  threadId : Option String
  commandType : Option String

/-- The state of a conversation. -/
structure StateRow where
  chatId : Option String
  threadId : Option String
  status : Option String
  activeWorkflow : Option String

/-- The key under which a row is grouped; rows without a chat are skipped. -/
def threadKey? (chatId threadId : Option String) : Option ThreadKey :=
  if hasText chatId then some (textOr chatId "", optionalText threadId) else none

def MessageRow.key? (row : MessageRow) : Option ThreadKey := threadKey? row.chatId row.threadId

def MetadataRow.key? (row : MetadataRow) : Option ThreadKey := threadKey? row.chatId row.threadId

def CommandRow.key? (row : CommandRow) : Option ThreadKey := threadKey? row.chatId row.threadId

def StateRow.key? (row : StateRow) : Option ThreadKey := threadKey? row.chatId row.threadId

/-! ## Messages -/

structure ReportMessage where
  id : Json
  chatId : String
  threadId : Option String
  senderRole : String
  messageType : String
  textContent : Option String
  attachmentRefs : Json
  source : String
  occurredAt : Option Nat
  createdAt : Option Nat
  authorId : Option String
  speakerName : Option String

/-- `sort_at`. -/
def ReportMessage.sortAt (message : ReportMessage) : Option Nat :=
  message.occurredAt.or message.createdAt

/-- `INTERNAL_MESSAGE_ROLES`. -/
def internalMessageRoles : List String := ["backend", "telegram", "system"]

/-- `_normalize_sender_role`. -/
def normalizeSenderRole (rt : ReportRuntime) (value : Option String) : String :=
  let role := rt.lower (strip (textOr value ""))
  if role ∈ ["agent", "human_agent", "livechat_agent"] then "agent"
  else if role ∈ ["assistant", "self_agent", "bot"] then "assistant"
  else if role ∈ internalMessageRoles then role
  else "customer"

/-- `_message_from_row`. -/
def messageFromRow (rt : ReportRuntime) (row : MessageRow) : ReportMessage where
  id := row.id.orElse (.int 0)
  chatId := textOr row.chatId ""
  threadId := optionalText row.threadId
  senderRole := normalizeSenderRole rt row.senderRole
  messageType := textOr row.messageType "text"
  textContent := row.textContent
  attachmentRefs := row.attachmentRefs.orElse (.arr [])
  source := textOr row.source ""
  occurredAt := row.occurredAt
  createdAt := row.createdAt
  authorId := optionalText row.authorId
  speakerName := optionalText row.speakerName

/-- `_is_reportable_message`. -/
def ReportMessage.isReportable (message : ReportMessage) : Bool :=
  message.senderRole ∉ internalMessageRoles &&
    (hasText (message.textContent.map strip) || message.attachmentRefs.truthy)

/-- The reportable messages with the keys of their threads. -/
def keyedMessages (rt : ReportRuntime) (rows : List MessageRow) :
    List (ThreadKey × ReportMessage) :=
  rows.filterMap fun row =>
    row.key?.bind fun key =>
      let message := messageFromRow rt row
      if message.isReportable then some (key, message) else none

/-- The messages of a thread, in the order of their rows. -/
def messagesOf (rt : ReportRuntime) (rows : List MessageRow) (key : ThreadKey) :
    List ReportMessage :=
  ((keyedMessages rt rows).filter fun keyed => keyed.1 = key).map Prod.snd

/-- The keys of `messages_by_thread`, in the order in which they were set. -/
def threadKeys (rt : ReportRuntime) (rows : List MessageRow) : List ThreadKey :=
  ((keyedMessages rt rows).map Prod.fst).eraseDups

/-- The order of the messages of a thread. -/
def sentBefore (rt : ReportRuntime) (a b : ReportMessage) : Bool :=
  let time := fun message : ReportMessage => message.sortAt.getD 0
  time a < time b || time a = time b && !decide (b.id.pyStr rt.toRuntime < a.id.pyStr rt.toRuntime)

/-! ## Metadata -/

/-- The payload of a row with the columns that overlay it. -/
def MetadataRow.merged (row : MetadataRow) : JsonObject :=
  let withGroup :=
    if row.livechatGroupId.isNull then row.payload
    else row.payload.set "livechat_group_id" row.livechatGroupId
  if row.platform.isNull then withGroup else withGroup.set "platform" row.platform

/-- `_metadata_by_thread(...).get(key)`: the last row of a key wins. -/
def metadataByThread (rows : List MetadataRow) (key : ThreadKey) : Option JsonObject :=
  (rows.filter fun row => row.key? = some key).getLast?.map MetadataRow.merged

/-- The record of a thread: its own one, or that of its chat if its own one is empty. -/
def threadMetadata (rows : List MetadataRow) (key : ThreadKey) : JsonObject :=
  let own := (metadataByThread rows key).getD ∅
  if own.isEmpty then (metadataByThread rows (key.1, none)).getD ∅ else own

/-- `metadata.get("chat_users") or []`, over which a loop goes. -/
def chatUsers (metadata : JsonObject) : Except PyError (List Json) :=
  match (getKey metadata "chat_users").orElse (.arr []) with
  | .arr users => .ok users
  | _ => .error (.typeError "chat_users is not a list")

/-- The first of the name, the email and the id that is not blank. -/
def userLabel (rt : ReportRuntime) (user : JsonObject) : Option String :=
  (["name", "email", "id"].map fun key =>
    strip ((getKey user key).textOrEmpty rt.toRuntime)).find? (· ≠ "")

/-- The loop of the three functions that look for a user. -/
def firstUserLabel (rt : ReportRuntime) (wanted : JsonObject → Bool) :
    List Json → Except PyError (Option String)
  | [] => .ok none
  | .obj user :: rest =>
      match (if wanted user then userLabel rt user else none) with
      | some label => .ok (some label)
      | none => firstUserLabel rt wanted rest
  | _ :: _ => .error (.attributeError "object has no attribute 'get'")

/-- `str(user.get("type") or "").lower() == "agent"`. -/
def isAgentUser (rt : ReportRuntime) (user : JsonObject) : Bool :=
  rt.lower ((getKey user "type").textOrEmpty rt.toRuntime) = "agent"

/-- `_extract_customer_name`. -/
def extractCustomerName (rt : ReportRuntime) (metadata : JsonObject) :
    Except PyError (Option String) := do
  let users ← chatUsers metadata
  let label ← firstUserLabel rt (fun user => !isAgentUser rt user) users
  match label with
  | some name => pure (some name)
  | none => do
      let summary ← (getKey metadata "last_thread_summary").mappingOrEmpty
      pure ((["user_name", "customer_name"].map fun key =>
        strip ((getKey summary key).textOrEmpty rt.toRuntime)).find? (· ≠ ""))

/-- `_speaker_name_from_author_id`. -/
def speakerNameFromAuthorId (rt : ReportRuntime) (authorId : Option String)
    (metadata : JsonObject) : Except PyError (Option String) :=
  match authorId with
  | none => .ok none
  | some authorId => do
      let users ← chatUsers metadata
      firstUserLabel rt
        (fun user => (getKey user "id").textOrEmpty rt.toRuntime = authorId) users

/-- `_first_agent_name`. -/
def firstAgentName (rt : ReportRuntime) (metadata : JsonObject) :
    Except PyError (Option String) := do
  let users ← chatUsers metadata
  firstUserLabel rt (isAgentUser rt) users

/-- `_fallback_speaker_name`. -/
def fallbackSpeakerName (rt : ReportRuntime) (senderRole : String) (metadata : JsonObject)
    (customerName : String) : Except PyError String := do
  if senderRole = "agent" then
    let name ← firstAgentName rt metadata
    pure (name.getD "Lingxi 客服")
  else if senderRole = "assistant" then
    let name ← firstAgentName rt metadata
    pure (name.getD "Ai Jtest")
  else if senderRole = "system" then pure "系統"
  else pure (textOr (some customerName) "客戶")

/-- `_with_speaker_name`. -/
def withSpeakerName (rt : ReportRuntime) (metadata : JsonObject) (customerName botName : String)
    (message : ReportMessage) : Except PyError ReportMessage := do
  if message.senderRole = "assistant" then pure { message with speakerName := some botName }
  else if message.speakerName.isSome then pure message
  else
    let known ← speakerNameFromAuthorId rt message.authorId metadata
    match known with
    | some name => pure { message with speakerName := some name }
    | none =>
        let name ← fallbackSpeakerName rt message.senderRole metadata customerName
        pure { message with speakerName := some name }

/-- The values that may name a group. -/
def groupCandidates (metadata : JsonObject) : List Json :=
  [getKey metadata "livechat_group_id", getKey metadata "group_id"] ++
    match getKey metadata "group_ids" with
    | .arr items => items
    | _ => []

/-- The groups that a record names. -/
def namedGroups (rt : ReportRuntime) (metadata : JsonObject) : Except PyError (List Int) :=
  ((groupCandidates metadata).filter fun candidate =>
    rt.isDigit (strip (candidate.pyStr rt.toRuntime))).mapM (Json.toInt rt.toRuntime)

/-- `_extract_group_id`. -/
def extractGroupId (rt : ReportRuntime) (metadata : JsonObject) (allowedGroupIds : List Int) :
    Except PyError (Option Int) := do
  let parsed ← namedGroups rt metadata
  pure ((parsed.find? (allowedGroupIds.contains ·)).or parsed.head?)

/-- `_optional_str(metadata.get("platform"))`. -/
def platformOf (rt : ReportRuntime) (metadata : JsonObject) : Option String :=
  let platform := getKey metadata "platform"
  optionalText (if platform.isNull then none else some (platform.pyStr rt.toRuntime))

/-! ## Categories -/

inductive ReportCategory where
  | botCompleted
  | robotHandoff
  | customerManualHandoff
  | lingxiAgentParticipated
  deriving DecidableEq

/-- The values of the categories. -/
def ReportCategory.value : ReportCategory → String
  | .botCompleted => "機器人獨立完成"
  | .robotHandoff => "機器人判定轉真人"
  | .customerManualHandoff => "客戶手動轉真人"
  | .lingxiAgentParticipated => "LingXi客服參與"

/-- `CATEGORY_ORDER`. -/
def categoryOrder : List ReportCategory := [.botCompleted, .robotHandoff, .customerManualHandoff]

/-- `ROBOT_HANDOFF_COMMAND_TYPES`. -/
def robotHandoffCommandTypes : List String :=
  ["livechat.handoff_to_human", "human_handoff", "livechat.transfer_to_human"]

/-- `ROBOT_HANDOFF_STATUSES`. -/
def robotHandoffStatuses : List String := ["HANDOFF_REQUESTED", "HUMAN_ACTIVE"]

/-- `MANUAL_HANDOFF_PATTERNS`. -/
def manualHandoffPatterns : List String :=
  ["人工客服", "人工服務", "人工服务", "human support", "human agent", "real person",
    "agente humano", "atención humana"]

/-- `ROBOT_HANDOFF_TEXT_PATTERNS`. -/
def robotHandoffTextPatterns : List String :=
  ["transferring you to a live agent", "transfer you to a live agent", "transfer you to an agent",
    "transferring to human support", "estoy transfiriendo", "transferir", "轉接真人", "轉真人",
    "转接真人", "转真人"]

/-- The command asks for a human. -/
def CommandRow.isHandoff (rt : ReportRuntime) (row : CommandRow) : Bool :=
  let commandType := strip (textOr row.commandType "")
  commandType ∈ robotHandoffCommandTypes || textContains (rt.lower commandType) "handoff"

/-- The state is one of a conversation that has been handed over. -/
def StateRow.isHandoff (row : StateRow) : Bool :=
  strip (textOr row.status "") ∈ robotHandoffStatuses ||
    strip (textOr row.activeWorkflow "") = "human_handoff"

/-- `_has_robot_handoff_signal`. -/
def hasRobotHandoffSignal (rt : ReportRuntime) (commands : List CommandRow)
    (states : List StateRow) : Bool :=
  commands.any (CommandRow.isHandoff rt) || states.any StateRow.isHandoff

/-- The text holds one of the patterns. -/
def ReportMessage.mentions (rt : ReportRuntime) (patterns : List String)
    (message : ReportMessage) : Bool :=
  containsAny (rt.lower (strip (textOr message.textContent ""))) (patterns.map rt.lower)

/-- `_has_customer_manual_handoff_signal`. -/
def hasCustomerManualHandoffSignal (rt : ReportRuntime) (messages : List ReportMessage) : Bool :=
  messages.any fun message =>
    message.senderRole = "customer" && message.mentions rt manualHandoffPatterns

/-- `_has_robot_handoff_message`. -/
def hasRobotHandoffMessage (rt : ReportRuntime) (messages : List ReportMessage) : Bool :=
  messages.any fun message =>
    message.senderRole ≠ "customer" && message.mentions rt robotHandoffTextPatterns

/-- `_has_human_agent_message`. -/
def hasHumanAgentMessage (messages : List ReportMessage) : Bool :=
  messages.any fun message => message.senderRole = "agent"

/-- `classify_thread`. -/
def classifyThread (rt : ReportRuntime) (messages : List ReportMessage)
    (commands : List CommandRow) (states : List StateRow) (botName : String) :
    ReportCategory × String :=
  if hasRobotHandoffSignal rt commands states || hasRobotHandoffMessage rt messages then
    (.robotHandoff, botName ++ " 判定問題需要真人客服，或系統紀錄顯示由 " ++ botName ++ " 轉接。")
  else if hasCustomerManualHandoffSignal rt messages then
    (.customerManualHandoff, "客戶主動選擇人工服務，且未發現機器人判定轉接訊號。")
  else if hasHumanAgentMessage messages then
    (.customerManualHandoff, "真人客服已參與對話，且未發現機器人判定轉接訊號。")
  else
    (.botCompleted,
      "未由真人接管；包含自助教學、收件送後台、等待客戶補資料、等待後台結果、僅開啟選單或無有效問題。")

/-! ## Threads -/

structure ReportThread where
  chatId : String
  threadId : Option String
  customerName : String
  groupId : Option Int
  platform : Option String
  startAt : Option Nat
  endAt : Option Nat
  category : ReportCategory
  categoryReason : String
  messages : List ReportMessage

def ReportThread.key (thread : ReportThread) : ThreadKey := (thread.chatId, thread.threadId)

/-- The arguments of `aggregate_threads` besides the rows. -/
structure ReportOptions where
  rt : ReportRuntime
  allowedGroupIds : List Int
  excludedGroupIds : List Int
  requireAgentParticipation : Bool
  requireAssistantParticipation : Bool
  forceCategory : Option ReportCategory
  forceCategoryReason : Option String
  botName : String

/-- The rows that a report is made of. -/
structure ReportRows where
  messages : List MessageRow
  metadata : List MetadataRow
  commands : List CommandRow
  states : List StateRow

/-- `{str(name).strip() for name in metadata.get("lingxi_agent_names") or [] ...}` is not empty. -/
def namesAgents (rt : ReportRuntime) (metadata : JsonObject) : Except PyError Bool :=
  match (getKey metadata "lingxi_agent_names").orElse (.arr []) with
  | .arr names => .ok (names.any fun name => strip (name.pyStr rt.toRuntime) ≠ "")
  | .obj fields => .ok (fields.entries.any fun field => strip field.1 ≠ "")
  | .str text => .ok (text.toList.any fun c => strip (String.singleton c) ≠ "")
  | _ => .error (.typeError "object is not iterable")

/-- `_has_agent_participation`. -/
def hasAgentParticipation (rt : ReportRuntime) (metadata : JsonObject)
    (messages : List ReportMessage) : Except PyError Bool := do
  if (getKey metadata "lingxi_agent_participated").truthy then pure true
  else
    let named ← namesAgents rt metadata
    pure (named || hasHumanAgentMessage messages)

/-- `_has_assistant_participation`. -/
def hasAssistantParticipation (messages : List ReportMessage) : Bool :=
  messages.any fun message => message.senderRole = "assistant"

/-- The group of a thread is reported. -/
def ReportOptions.admits (options : ReportOptions) (groupId : Option Int) : Bool :=
  !groupId.any (options.excludedGroupIds.contains ·) &&
    (options.allowedGroupIds.isEmpty || groupId.any (options.allowedGroupIds.contains ·))

/-- The participation that the options ask for. -/
def ReportOptions.hasParticipants (options : ReportOptions) (metadata : JsonObject)
    (messages : List ReportMessage) : Except PyError Bool := do
  let agent ←
    if options.requireAgentParticipation then hasAgentParticipation options.rt metadata messages
    else pure true
  pure (agent && (!options.requireAssistantParticipation || hasAssistantParticipation messages))

/-- The category of a thread. -/
def ReportOptions.categoryOf (options : ReportOptions) (rows : ReportRows) (key : ThreadKey)
    (messages : List ReportMessage) : ReportCategory × String :=
  match options.forceCategory with
  | some category => (category, textOr options.forceCategoryReason category.value)
  | none =>
      classifyThread options.rt messages (rows.commands.filter fun row => row.key? = some key)
        (rows.states.filter fun row => row.key? = some key) options.botName

/-- What the record of a thread gives for its messages: the customer, the messages with their
speakers, and the group. -/
def threadParts (options : ReportOptions) (metadata : JsonObject) (messages : List ReportMessage) :
    Except PyError (String × List ReportMessage × Option Int) := do
  let name ← extractCustomerName options.rt metadata
  let customerName := name.getD "Cliente"
  let messages ← messages.mapM (withSpeakerName options.rt metadata customerName options.botName)
  let groupId ← extractGroupId options.rt metadata options.allowedGroupIds
  pure (customerName, messages, groupId)

/-- The messages of a thread in the order of time. -/
def sortedMessages (rt : ReportRuntime) (rows : ReportRows) (key : ThreadKey) :
    List ReportMessage :=
  (messagesOf rt rows.messages key).insertionSort fun a b => sentBefore rt a b = true

/-- The thread that is made of the parts. -/
def threadOf (options : ReportOptions) (rows : ReportRows) (key : ThreadKey)
    (parts : String × List ReportMessage × Option Int) : ReportThread :=
  let category := options.categoryOf rows key parts.2.1
  { chatId := key.1
    threadId := key.2
    customerName := parts.1
    groupId := parts.2.2
    platform := platformOf options.rt (threadMetadata rows.metadata key)
    startAt := parts.2.1.head?.bind ReportMessage.sortAt
    endAt := parts.2.1.getLast?.bind ReportMessage.sortAt
    category := category.1
    categoryReason := category.2
    messages := parts.2.1 }

/-- The loop body of `aggregate_threads`. -/
def reportThread (options : ReportOptions) (rows : ReportRows) (key : ThreadKey) :
    Except PyError (Option ReportThread) := do
  let messages := sortedMessages options.rt rows key
  let metadata := threadMetadata rows.metadata key
  let participates ← options.hasParticipants metadata messages
  if !participates then pure none
  else
    let parts ← threadParts options metadata messages
    pure (if options.admits parts.2.2 then some (threadOf options rows key parts) else none)

/-- The sort key of a thread, in the order of its parts: the category, the start (the latest
first), the chat and the thread. -/
def reportedBefore (rt : ReportRuntime) (a b : ReportThread) : Bool :=
  let rank := fun thread : ReportThread => categoryOrder.idxOf thread.category % categoryOrder.length
  let start := fun thread : ReportThread => -(thread.startAt.map rt.timestamp).getD 0
  let texts := fun thread : ReportThread => (thread.chatId, thread.threadId.getD "")
  decide (rank a < rank b) || decide (rank a = rank b) &&
    (decide (start a < start b) || decide (start a = start b) &&
      (decide ((texts a).1 < (texts b).1) || decide ((texts a).1 = (texts b).1) &&
        !decide ((texts b).2 < (texts a).2)))

/-- `aggregate_threads`. -/
def aggregateThreads (options : ReportOptions) (rows : ReportRows) :
    Except PyError (List ReportThread) := do
  let threads ← (threadKeys options.rt rows.messages).mapM (reportThread options rows)
  pure ((threads.filterMap id).insertionSort fun a b => reportedBefore options.rt a b = true)

/-! ## Reports without requirements -/

/-- The options without a required participation and without a forced category. -/
def plainOptions (rt : ReportRuntime) (allowedGroupIds excludedGroupIds : List Int)
    (botName : String) : ReportOptions where
  rt := rt
  allowedGroupIds := allowedGroupIds
  excludedGroupIds := excludedGroupIds
  requireAgentParticipation := false
  requireAssistantParticipation := false
  forceCategory := none
  forceCategoryReason := none
  botName := botName

section Plain

variable {rt : ReportRuntime} {allowed excluded : List Int} {botName : String} {rows : ReportRows}
  {key : ThreadKey}

/-- A thread is reported when its group is admitted. -/
theorem reportThread_plain :
    reportThread (plainOptions rt allowed excluded botName) rows key =
      (threadParts (plainOptions rt allowed excluded botName) (threadMetadata rows.metadata key)
        (sortedMessages rt rows key)).map fun parts =>
          if (plainOptions rt allowed excluded botName).admits parts.2.2 then
            some (threadOf (plainOptions rt allowed excluded botName) rows key parts)
          else none := by
  change ((threadParts (plainOptions rt allowed excluded botName)
    (threadMetadata rows.metadata key) (sortedMessages rt rows key)) >>= fun parts => _) = _
  cases threadParts (plainOptions rt allowed excluded botName) (threadMetadata rows.metadata key)
    (sortedMessages rt rows key) with
  | error e => rfl
  | ok parts => rfl

end Plain

end AiCustomerService
