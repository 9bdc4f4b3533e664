import AiCustomerService.Channels.Livechat

/-!
# Webhook ingress

`webhook_normalizer.py`: a webhook body becomes the events that are offered to
`inbound_events`.  The chat of a body that names neither a group nor the type of the author
is looked up, and a lookup that fails is recorded and otherwise passed over.
-/

namespace AiCustomerService

open Support

/-- The exceptions of the webhook: the two of the module and those of the language. -/
inductive WebhookError
  | auth (message : String)
  | payload (message : String)
  | python (error : PyError)

/-- `exc` of a failed `client.get_chat`, as the type and the message that are recorded. -/
structure LookupFailure where
  type : String
  message : String

/-- What a webhook may ask: the resolver of recent groups, and `client.get_chat` with the
number of earlier calls for this webhook. -/
structure LookupClient where
  given : Option JsonObject
  resolver : Option (String → Except PyError (Option JsonObject))
  getChat : Option (Nat → String → Except LookupFailure JsonObject)

/-- No client and no resolver. -/
def LookupClient.absent : LookupClient := ⟨none, none, none⟩

/-- `chat_lookup` and `chat_lookup_error`. -/
structure ChatLookup where
  chat : Option JsonObject
  error : Option JsonObject

/-- Nothing was looked up. -/
def ChatLookup.unused : ChatLookup := ⟨none, none⟩

def LookupFailure.record (failure : LookupFailure) : JsonObject :=
  .ofList [("type", .str failure.type), ("message", .str failure.message)]

/-! ## The parts of a payload -/

/-- `body.get("payload") or {}` of a validated body. -/
def payloadOf (body : JsonObject) : JsonObject := (getKey body "payload").dictOrEmpty

/-- `str(body.get("action") or "")`. -/
def actionOf (rt : Runtime) (body : JsonObject) : String := (getKey body "action").textOrEmpty rt

/-- `_extract_chat`. -/
def extractChat (payload : JsonObject) : Option JsonObject := (getKey payload "chat").dict?

/-- `_extract_event`. -/
def extractEvent (payload : JsonObject) : JsonObject :=
  match (getKey payload "event").dict? with
  | some event => event
  | none => (getKey payload "postback").dictOrEmpty

/-- `_extract_postback`. -/
def extractPostback (payload event : JsonObject) : JsonObject :=
  match (getKey payload "postback").dict? with
  | some postback => postback
  | none => (getKey event "postback").dictOrEmpty

/-- `threads[0]` of a value that is not false, when it is a dictionary. -/
def firstThread (threads : Json) : Except PyError JsonObject :=
  match threads with
  | .arr (.obj thread :: _) => .ok thread
  | .arr _ => .ok ∅
  | .str _ => .ok ∅
  | .obj _ => .error (.keyError "0")
  | _ => .error (.typeError "object is not subscriptable")

/-- `_primary_thread`. -/
def primaryThread (chat : JsonObject) : Except PyError JsonObject :=
  match (getKey chat "thread").dict?.or (getKey chat "active_thread").dict? with
  | some thread => .ok thread
  | none =>
      if (getKey chat "threads").truthy then firstThread (getKey chat "threads") else .ok ∅

/-- `_threads`.  The dictionaries of a decoded body are distinct objects, so the filter by
identity keeps them all. -/
def threadsOf (chat : JsonObject) : Except PyError (List JsonObject) := do
  let listed ← (getKey chat "threads").itemsOrEmpty
  return ((getKey chat "thread").dict?.toList ++ (getKey chat "active_thread").dict?.toList) ++
    listed.filterMap Json.dict?

/-- `_extract_thread`. -/
def extractThread (payload : JsonObject) (chat : JsonObject) :
    Except PyError (Option JsonObject) :=
  match (getKey payload "thread").dict? with
  | some thread => .ok (some thread)
  | none =>
      if chat.isEmpty then .ok none
      else do
        let thread ← primaryThread chat
        return some thread

/-- `_chat_id`. -/
def chatIdOf (rt : Runtime) (chat payload : JsonObject) : Option String :=
  firstText rt [getKey payload "chat_id", getKey chat "id", getKey chat "chat_id"]

/-- `_extract_chat_id`. -/
def extractChatId (rt : Runtime) (payload : JsonObject) : Option String :=
  chatIdOf rt ((extractChat payload).getD ∅) payload

/-- `_thread_id`. -/
def threadIdOf (rt : Runtime) (thread payload : JsonObject) : Option String :=
  firstText rt [getKey payload "thread_id", getKey thread "id", getKey thread "thread_id"]

/-! ## Groups -/

/-- The groups of the dictionaries of a list. -/
def groupIdsOfAll (rt : LivechatRuntime) (dicts : List JsonObject) : Except PyError (List Int) := do
  let groups ← dicts.mapM (chatGroupIds rt)
  return groups.flatten

/-- `_extract_group_ids_from_payload`. -/
def extractGroupIdsFromPayload (rt : LivechatRuntime) (payload : JsonObject) :
    Except PyError (List Int) := do
  let own ← chatGroupIds rt payload
  let ofChat ←
    match extractChat payload with
    | some chat => do
        let groups ← chatGroupIds rt chat
        let threads ← threadsOf chat
        let ofThreads ← groupIdsOfAll rt threads
        pure (groups ++ ofThreads)
    | none => pure []
  let ofThread ← groupIdsOfAll rt (getKey payload "thread").dict?.toList
  return own ++ ofChat ++ ofThread

/-- `_collect_group_ids`. -/
def collectGroupIds (rt : LivechatRuntime) (payload chat : JsonObject)
    (lookup : Option JsonObject) : Except PyError (List Int) := do
  let ofPayload ← extractGroupIdsFromPayload rt payload
  let ofChat ← chatGroupIds rt chat
  let ofLookup ← groupIdsOfAll rt (orDict lookup none).toList
  return ofPayload ++ ofChat ++ ofLookup

/-- The group that `_platform_context` chooses, with its platform. -/
def platformContext (allowed groupIds : List Int) : Option (Int × String) :=
  firstPlatform
    (sortedSet (if allowed.isEmpty then groupIds else groupIds.filter (· ∈ allowed)))

/-- The keys that `_platform_context` adds to the payload. -/
def platformFields (context : Option (Int × String)) : JsonObject :=
  .ofList [
    ("platform", .ofText? (context.map Prod.snd)),
    ("livechat_group_id", (context.map fun c => Json.int c.1).getD .null),
    ("allowed_platform", .bool context.isSome)]

/-- `_group_ignore_reason`. -/
def groupIgnoreReason (settings : LivechatSettings) (body : JsonObject) (groupIds : List Int)
    (lookup : ChatLookup) : String :=
  if (getKey body "action").eqText "incoming_event" && !settings.allowedGroupIds.isEmpty &&
      groupIds.isEmpty && lookup.error.isSome then "group_lookup_failed"
  else "group_not_allowed"

/-! ## Authors -/

/-- `source.get("users") or source.get("chat_users")`. -/
def usersOf (source : JsonObject) : Json :=
  (getKey source "users").orElse (getKey source "chat_users")

/-- The type of the author in the first source that lists a user with the id. -/
def typeFromUsers (rt : Runtime) (authorId : String) :
    List JsonObject → Except PyError (Option String)
  | [] => .ok none
  | source :: rest => do
      let users ← (usersOf source).itemsOrEmpty
      match (← findUserType rt authorId users) with
      | some type => pure type
      | none => typeFromUsers rt authorId rest

/-- The type that the payload itself gives. -/
def directAuthorType (rt : Runtime) (payload : JsonObject) : Option String :=
  firstText rt [getKey payload "author_type", getKey (extractEvent payload) "author_type"]

/-- `_author_type`. -/
def authorType (rt : Runtime) (chat payload : JsonObject) (authorId : Option String)
    (lookup : Option JsonObject) : Except PyError (Option String) :=
  match authorId with
  | none => .ok none
  | some author =>
      match directAuthorType rt payload with
      | some type => .ok (some type)
      | none => typeFromUsers rt author [payload, chat, lookup.getD ∅]

/-- `author_id and str(author_id) in self_author_ids`. -/
def isSelfAuthor (settings : LivechatSettings) (authorId : Option String) : Bool :=
  match authorId with
  | some author => decide (author ∈ settings.selfAuthorIds)
  | none => false

/-- `str(event.get("visibility") or "all").lower() != "internal"`. -/
def isPublic (rt : Runtime) (event : JsonObject) : Bool :=
  rt.lower (((getKey event "visibility").orElse (.str "all")).pyStr rt) ≠ "internal"

/-! ## Building an event -/

/-- The arguments of `_build_event` that depend on the action. -/
structure EventArgs where
  payload : JsonObject
  standardEventType : String
  eventType : Json
  ignored : Bool
  ignoreReason : Option String
  chat : Option JsonObject
  thread : Option JsonObject
  event : Option JsonObject

/-- `chat or _extract_chat(payload) or chat_lookup or {}`. -/
def EventArgs.chatOf (args : EventArgs) (lookup : ChatLookup) : JsonObject :=
  (orDict (orDict args.chat (extractChat args.payload)) lookup.chat).getD ∅

/-- `event or _extract_event(payload)`. -/
def EventArgs.eventOf (args : EventArgs) : JsonObject :=
  (orDict args.event (some (extractEvent args.payload))).getD ∅

/-- `author_id`. -/
def EventArgs.authorId (rt : Runtime) (args : EventArgs) : Option String :=
  firstText rt [getKey args.eventOf "author_id", getKey args.payload "author_id"]

/-- `thread or _extract_thread(payload, chat) or {}`. -/
def EventArgs.threadOf (args : EventArgs) (lookup : ChatLookup) : Except PyError JsonObject :=
  match orDict args.thread none with
  | some thread => .ok thread
  | none => do
      let thread ← extractThread args.payload (args.chatOf lookup)
      return thread.getD ∅

/-- `event_id`. -/
def EventArgs.eventId (rt : Runtime) (args : EventArgs) (body : JsonObject) : Option String :=
  firstText rt [getKey args.eventOf "id", getKey args.payload "event_id", getKey body "webhook_id"]

/-- `thread_id`. -/
def EventArgs.threadId (rt : Runtime) (args : EventArgs) (thread : JsonObject) : Option String :=
  firstText rt
    [getKey args.payload "thread_id", getKey thread "id", getKey args.eventOf "thread_id"]

/-- The text of the creation time that counts. -/
def EventArgs.createdAt (rt : Runtime) (args : EventArgs) (thread chat : JsonObject) :
    Option String :=
  firstText rt
    [getKey args.eventOf "created_at", getKey args.payload "created_at",
      getKey thread "created_at", getKey chat "created_at"]

/-- `is_ignored` and `reason` before the group is looked at. -/
def authorVerdict (settings : LivechatSettings) (args : EventArgs) (authorId type : Option String) :
    Bool × Option String :=
  if isSelfAuthor settings authorId then
    (true, some (textOr args.ignoreReason "self_message"))
  else if type = some "agent" then (true, some (textOr args.ignoreReason "agent_message"))
  else (args.ignored, args.ignoreReason)

/-- The event is ignored. -/
def isIgnored (settings : LivechatSettings) (args : EventArgs) (authorId type : Option String)
    (context : Option (Int × String)) : Bool :=
  (authorVerdict settings args authorId type).1 || !context.isSome

/-- `human_agent_public_reply`. -/
def isHumanAgentReply (rt : Runtime) (settings : LivechatSettings) (args : EventArgs)
    (authorId type : Option String) : Bool :=
  decide (type = some "agent") && !isSelfAuthor settings authorId && isPublic rt args.eventOf

/-- `_payload_json`. -/
def payloadJson (args : EventArgs) (body : JsonObject) (lookup : ChatLookup)
    (context : Option (Int × String)) (humanAgentReply : Bool) (authorId eventId : Option String) :
    JsonObject :=
  let base := (args.payload.set "webhook_body" (.obj body)).merge (platformFields context)
  let marked :=
    if humanAgentReply then
      base.merge (.ofList [
        ("human_agent_public_reply", .bool true),
        ("human_agent_id", .ofText? authorId),
        ("human_agent_event_id", .ofText? eventId)])
    else base
  let looked :=
    match lookup.chat with
    | some chat => marked.set "chat_lookup" (.obj chat)
    | none => marked
  match lookup.error with
  | some error => looked.set "chat_lookup_error" (.obj error)
  | none => looked

/-- `_dedup_key`. -/
def webhookKey (action : String) (chatId threadId eventId : Option String) (body : JsonObject) :
    String :=
  eventKey ("livechat_webhook:" ++ action) chatId threadId eventId (.obj body)

/-- `_build_event`. -/
def buildEvent (rt : LivechatRuntime) (settings : LivechatSettings) (body : JsonObject)
    (args : EventArgs) (lookup : ChatLookup) : Except PyError NormalizedEvent := do
  let chat := args.chatOf lookup
  let thread ← args.threadOf lookup
  let authorId := args.authorId rt.toRuntime
  let type ← authorType rt.toRuntime chat args.payload authorId lookup.chat
  let groupIds ← collectGroupIds rt args.payload chat lookup.chat
  let context := platformContext settings.allowedGroupIds groupIds
  let ignored := isIgnored settings args authorId type context
  let reason :=
    if context.isSome then (authorVerdict settings args authorId type).2
    else some (groupIgnoreReason settings body groupIds lookup)
  let chatId := chatIdOf rt.toRuntime chat args.payload
  let threadId := args.threadId rt.toRuntime thread
  let eventId := args.eventId rt.toRuntime body
  let organizationId ← (getKey body "organization_id").optionalText
  let eventType ← args.eventType.optionalText
  let occurredAt ←
    parseRfc3339ToMysql rt (.ofText? (args.createdAt rt.toRuntime thread chat))
  return {
    source := "livechat_webhook"
    rawAction := actionOf rt.toRuntime body
    organizationId := organizationId
    chatId := chatId
    threadId := threadId
    eventId := eventId
    eventType := eventType
    standardEventType := args.standardEventType
    authorId := authorId
    senderRole := senderRole settings authorId
    occurredAt := occurredAt
    dedupKey := webhookKey (actionOf rt.toRuntime body) chatId threadId eventId body
    payloadJson :=
      payloadJson args body lookup context
        (isHumanAgentReply rt.toRuntime settings args authorId type) authorId eventId
    ignored := ignored
    ignoreReason := if ignored then reason else none }

/-- What the event that `_build_event` returns owes to its arguments. -/
structure BuiltFrom (rt : LivechatRuntime) (settings : LivechatSettings) (body : JsonObject)
    (args : EventArgs) (lookup : ChatLookup) (event : NormalizedEvent) : Prop where
  source : event.source = "livechat_webhook"
  rawAction : event.rawAction = actionOf rt.toRuntime body
  chatId : event.chatId = chatIdOf rt.toRuntime (args.chatOf lookup) args.payload
  threadId : ∃ thread, args.threadOf lookup = .ok thread ∧
    event.threadId = args.threadId rt.toRuntime thread ∧
    parseRfc3339ToMysql rt
      (.ofText? (args.createdAt rt.toRuntime thread (args.chatOf lookup))) = .ok event.occurredAt
  eventId : event.eventId = args.eventId rt.toRuntime body
  eventType : args.eventType.optionalText = .ok event.eventType
  standardEventType : event.standardEventType = args.standardEventType
  authorId : event.authorId = args.authorId rt.toRuntime
  dedupKey : event.dedupKey =
    webhookKey (actionOf rt.toRuntime body) event.chatId event.threadId event.eventId body
  verdict : ∃ type groupIds,
    authorType rt.toRuntime (args.chatOf lookup) args.payload event.authorId lookup.chat =
        .ok type ∧
      collectGroupIds rt args.payload (args.chatOf lookup) lookup.chat = .ok groupIds ∧
      event.ignored =
        isIgnored settings args event.authorId type
          (platformContext settings.allowedGroupIds groupIds) ∧
      event.payloadJson =
        payloadJson args body lookup (platformContext settings.allowedGroupIds groupIds)
          (isHumanAgentReply rt.toRuntime settings args event.authorId type) event.authorId
          event.eventId

theorem buildEvent_builtFrom {rt : LivechatRuntime} {settings : LivechatSettings}
    {body : JsonObject} {args : EventArgs} {lookup : ChatLookup} {event : NormalizedEvent}
    (h : buildEvent rt settings body args lookup = .ok event) :
    BuiltFrom rt settings body args lookup event := by
  unfold buildEvent at h
  obtain ⟨thread, hthread, h⟩ := bind_eq_ok.mp h
  obtain ⟨type, htype, h⟩ := bind_eq_ok.mp h
  obtain ⟨groupIds, hgroups, h⟩ := bind_eq_ok.mp h
  obtain ⟨organizationId, -, h⟩ := bind_eq_ok.mp h
  obtain ⟨eventType, heventType, h⟩ := bind_eq_ok.mp h
  obtain ⟨occurredAt, htime, h⟩ := bind_eq_ok.mp h
  have hevent := Except.ok.inj h
  subst hevent
  exact
    { source := rfl
      rawAction := rfl
      chatId := rfl
      threadId := ⟨thread, hthread, rfl, htime⟩
      eventId := rfl
      eventType := heventType
      standardEventType := rfl
      authorId := rfl
      dedupKey := rfl
      verdict := ⟨type, groupIds, htype, hgroups, rfl, rfl⟩ }

end AiCustomerService
