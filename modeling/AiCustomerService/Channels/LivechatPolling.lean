import AiCustomerService.Channels.LivechatNormalizer

/-!
# Polling ingress

`polling_receiver.py` and `normalizer.py`: the events of a chat, or of its summary in the
list of chats, become payloads, and a payload becomes an event unless its author is the bot
or an agent.
-/

namespace AiCustomerService

open Support

/-- `value.get(...)` is called on the value. -/
def asDict : Json → Except PyError JsonObject
  | .obj fields => .ok fields
  | _ => .error (.attributeError "object has no attribute 'get'")

/-! ## Extraction -/

/-- The threads of a chat, as polling collects them. -/
def pollingThreads (chat : JsonObject) : Except PyError (List JsonObject) := do
  let listed ← (getKey chat "threads").itemsOrEmpty
  (([getKey chat "thread", getKey chat "active_thread"].filter Json.truthy) ++ listed).mapM asDict

/-- `users_by_id.get(author_id)` names an agent. -/
def isAgentIn (users : List (String × JsonObject)) (authorId : String) : Bool :=
  match users.lookup authorId with
  | some user => !user.isEmpty && (getKey user "type").eqText "agent"
  | none => false

/-- `_thread_has_non_self_agent_message_or_file`. -/
def hasHumanAgentEvent (rt : Runtime) (users : List (String × JsonObject))
    (selfAuthorIds : List String) : List JsonObject → Except PyError Bool
  | [] => .ok false
  | event :: rest => do
      let kept ← isMessageOrFile (getKey event "type")
      let authorId := (getKey event "author_id").textOrEmpty rt
      if kept && isAgentIn users authorId && decide (authorId ∉ selfAuthorIds) then return true
      else hasHumanAgentEvent rt users selfAuthorIds rest

/-- `_thread_has_rich_message`. -/
def hasRichMessage (events : List JsonObject) : Bool :=
  events.any fun event => (getKey event "type").eqText "rich_message"

/-- `summarize_thread`. -/
def summarizeThread (thread : JsonObject) (events : List JsonObject) : JsonObject :=
  (thread.erase "events").set "event_count" (.int events.length)

/-- A payload of polling. -/
def pollingPayload (groupIds : List Int) (chatUsers : Json) (pollingSource : String)
    (summary : JsonObject) (chatId threadId : Json) (event : JsonObject) : JsonObject :=
  .ofList [
    ("ingress_source", .str "polling"),
    ("group_ids", .arr (groupIds.map .int)),
    ("chat_users", chatUsers),
    ("polling_source", .str pollingSource),
    ("last_thread_summary", .obj summary),
    ("chat_id", chatId),
    ("thread_id", threadId),
    ("event", .obj event)]

/-- The first event of a thread that no human agent has answered. -/
def introEvent (rt : Runtime) (chat thread : JsonObject) (threadId : Json) : JsonObject :=
  .ofList [
    ("id", .str ("intro:" ++ (getKey chat "id").pyStr rt ++ ":" ++ threadId.pyStr rt)),
    ("type", .str "thread_started"),
    ("author_id", .null),
    ("created_at", (getKey thread "created_at").orElse (getKey chat "created_at"))]

/-- The message and file events that the loop keeps. -/
def keptEvents (rt : Runtime) (users : List (String × JsonObject)) (includeAgentMessages : Bool) :
    List JsonObject → Except PyError (List JsonObject)
  | [] => .ok []
  | event :: rest => do
      let skipped := isAgentIn users ((getKey event "author_id").pyStr rt) && !includeAgentMessages
      let kept ← if skipped then pure false else isMessageOrFile (getKey event "type")
      let others ← keptEvents rt users includeAgentMessages rest
      return if kept then event :: others else others

/-- `thread.get("id") or thread.get("thread_id")`. -/
def pollingThreadId (thread : JsonObject) : Json :=
  (getKey thread "id").orElse (getKey thread "thread_id")

/-- The events of a thread; the loop calls `event.get`. -/
def pollingThreadEvents (thread : JsonObject) : Except PyError (List JsonObject) := do
  let items ← (getKey thread "events").itemsOrEmpty
  items.mapM asDict

/-- The payloads of one thread. -/
def threadPayloads (rt : Runtime) (chat : JsonObject) (groupIds : List Int) (chatUsers : Json)
    (users : List (String × JsonObject)) (includeAgentMessages : Bool)
    (selfAuthorIds : List String) (thread : JsonObject) : Except PyError (List JsonObject) := do
  let events ← pollingThreadEvents thread
  let answered ← hasHumanAgentEvent rt users selfAuthorIds events
  let kept ← keptEvents rt users includeAgentMessages events
  let payload :=
    pollingPayload groupIds chatUsers "get_chat" (summarizeThread thread events)
      (getKey chat "id") (pollingThreadId thread)
  let intro :=
    if (pollingThreadId thread).truthy && !answered && !hasRichMessage events then
      [payload (introEvent rt chat thread (pollingThreadId thread))]
    else []
  return intro ++ kept.map payload

/-- `extract_polling_events_from_chat_detail`. -/
def extractPollingEventsFromChatDetail (rt : LivechatRuntime) (chat : JsonObject)
    (includeAgentMessages : Bool) (selfAuthorIds : List String) :
    Except PyError (List JsonObject) := do
  let groupIds ← chatGroupIds rt chat
  let listed ← (getKey chat "users").itemsOrEmpty
  let users ← usersWithId rt.toRuntime listed
  let threads ← pollingThreads chat
  let payloads ← threads.mapM
    (threadPayloads rt.toRuntime chat (sortedSet groupIds) ((getKey chat "users").orElse (.arr []))
      users includeAgentMessages selfAuthorIds)
  return payloads.flatten

/-- `extract_thread_started_events_from_chat_summary`. -/
def extractThreadStartedEventsFromChatSummary (rt : LivechatRuntime) (summary : JsonObject)
    (selfAuthorIds : List String) : Except PyError (List JsonObject) :=
  let threads := [getKey summary "thread", getKey summary "active_thread"].filter Json.truthy
  if threads.isEmpty then .ok []
  else
    extractPollingEventsFromChatDetail rt
      (.ofList [
        ("id", getKey summary "id"),
        ("access", (getKey summary "access").orElse (.obj ∅)),
        ("group_ids", (getKey summary "group_ids").orElse (.arr [])),
        ("routing_status", (getKey summary "routing_status").orElse (.obj ∅)),
        ("group_id", getKey summary "group_id"),
        ("users", (getKey summary "users").orElse (.arr [])),
        ("threads", .arr threads)])
      false selfAuthorIds

/-- The payload of an entry of `last_event_per_type`. -/
def entryPayloads (rt : Runtime) (summary : JsonObject) (groupIds : List Int) (chatUsers : Json)
    (users : List (String × JsonObject)) (includeAgentMessages : Bool) (entry : JsonObject) :
    Except PyError (List JsonObject) := do
  let event ← (getKey entry "event").mappingOrEmpty
  let kept ← keptEvents rt users includeAgentMessages [event]
  return kept.map
    (pollingPayload groupIds chatUsers "list_chats_summary_fallback" (entry.erase "event")
      (getKey summary "id") ((getKey entry "thread_id").orElse (getKey event "thread_id")))

/-- `extract_polling_events_from_chat_summary`. -/
def extractPollingEventsFromChatSummary (rt : LivechatRuntime) (summary : JsonObject)
    (includeAgentMessages : Bool) : Except PyError (List JsonObject) := do
  let groupIds ← chatGroupIds rt summary
  let listed ← (getKey summary "users").itemsOrEmpty
  let users ← usersWithId rt.toRuntime listed
  let lastEvents ← (getKey summary "last_event_per_type").mappingOrEmpty
  let payloads ← (lastEvents.entries.filterMap fun entry => entry.2.dict?).mapM
    (entryPayloads rt.toRuntime summary (sortedSet groupIds)
      ((getKey summary "users").orElse (.arr [])) users includeAgentMessages)
  return payloads.flatten

/-! ## Normalisation -/

/-- `standard_event_from_type`. -/
def standardEventFromType (type : Json) : String :=
  if type.eqText "message" then "MESSAGE_CREATED"
  else if type.eqText "file" then "FILE_RECEIVED"
  else if type.eqText "chat_started" then "CHAT_STARTED"
  else if type.eqText "thread_started" then "THREAD_STARTED"
  else "UNSUPPORTED"

/-- `_platform_from_group_ids`. -/
def platformFromGroupIds (rt : LivechatRuntime) (groupIds : Json) :
    Except PyError (Option (Int × String)) := do
  let items ← groupIds.itemsOrEmpty
  let values ← digitValues rt items
  return firstPlatform (sortedSet values)

/-- `normalized_payload`. -/
def normalizedPollingPayload (payload : JsonObject) (context : Option (Int × String)) :
    JsonObject :=
  let key (name : String) (fallback : Json) := (name, (getKey payload name).orElse fallback)
  payload.merge (.ofList [
    key "ingress_source" (.str "polling"),
    key "group_ids" (.arr []),
    key "platform" (.ofText? (context.map Prod.snd)),
    key "livechat_group_id" ((context.map fun c => Json.int c.1).getD .null),
    ("allowed_platform",
      .bool (((payload.get? "allowed_platform").getD (.bool context.isSome)).truthy)),
    key "chat_users" (.arr []),
    key "polling_source" (.str "unknown"),
    key "last_thread_summary" (.obj ∅)])

/-- `make_dedup_key`. -/
def pollingKey (chatId threadId eventId : Option String) (payload : JsonObject) : String :=
  eventKey "livechat_polling" chatId threadId eventId (.obj payload)

/-- `normalize_polling_event`. -/
def normalizePollingEvent (rt : LivechatRuntime) (settings : LivechatSettings)
    (payload : JsonObject) : Except PyError NormalizedEvent := do
  let context ← platformFromGroupIds rt (getKey payload "group_ids")
  let normalized := normalizedPollingPayload payload context
  let event ← (getKey payload "event").mappingOrEmpty
  let occurredAt ← parseRfc3339ToMysql rt (getKey event "created_at")
  let organizationId ← (getKey payload "organization_id").optionalText
  let chatId ← (getKey payload "chat_id").optionalText
  let threadId ← (getKey payload "thread_id").optionalText
  let eventId ← (getKey event "id").optionalText
  let eventType ← (getKey event "type").optionalText
  let authorId ← (getKey event "author_id").optionalText
  let ignored := decide (senderRole settings authorId = "self_agent")
  return {
    source := "polling_fallback"
    rawAction := "polling.event"
    organizationId := organizationId
    chatId := chatId
    threadId := threadId
    eventId := eventId
    eventType := eventType
    standardEventType := standardEventFromType (getKey event "type")
    authorId := authorId
    senderRole := senderRole settings authorId
    occurredAt := occurredAt
    dedupKey := pollingKey chatId threadId eventId normalized
    payloadJson := normalized
    ignored := ignored
    ignoreReason := if ignored then some "self_message" else none }

/-- What the event that `normalize_polling_event` returns owes to the payload, its group and the
event in it. -/
structure PolledFrom (rt : LivechatRuntime) (settings : LivechatSettings) (payload : JsonObject)
    (context : Option (Int × String)) (inner : JsonObject) (event : NormalizedEvent) : Prop where
  source : event.source = "polling_fallback"
  rawAction : event.rawAction = "polling.event"
  chatId : (getKey payload "chat_id").optionalText = .ok event.chatId
  threadId : (getKey payload "thread_id").optionalText = .ok event.threadId
  eventId : (getKey inner "id").optionalText = .ok event.eventId
  eventType : (getKey inner "type").optionalText = .ok event.eventType
  standardEventType : event.standardEventType = standardEventFromType (getKey inner "type")
  authorId : (getKey inner "author_id").optionalText = .ok event.authorId
  occurredAt : parseRfc3339ToMysql rt (getKey inner "created_at") = .ok event.occurredAt
  payloadJson : event.payloadJson = normalizedPollingPayload payload context
  dedupKey : event.dedupKey =
    pollingKey event.chatId event.threadId event.eventId event.payloadJson
  ignored : event.ignored = decide (senderRole settings event.authorId = "self_agent")

theorem normalizePollingEvent_polledFrom {rt : LivechatRuntime} {settings : LivechatSettings}
    {payload : JsonObject} {event : NormalizedEvent}
    (h : normalizePollingEvent rt settings payload = .ok event) :
    ∃ context inner, platformFromGroupIds rt (getKey payload "group_ids") = .ok context ∧
      (getKey payload "event").mappingOrEmpty = .ok inner ∧
      PolledFrom rt settings payload context inner event := by
  unfold normalizePollingEvent at h
  obtain ⟨context, hcontext, h⟩ := bind_eq_ok.mp h
  obtain ⟨inner, hinner, h⟩ := bind_eq_ok.mp h
  obtain ⟨occurredAt, htime, h⟩ := bind_eq_ok.mp h
  obtain ⟨organizationId, -, h⟩ := bind_eq_ok.mp h
  obtain ⟨chatId, hchatId, h⟩ := bind_eq_ok.mp h
  obtain ⟨threadId, hthreadId, h⟩ := bind_eq_ok.mp h
  obtain ⟨eventId, heventId, h⟩ := bind_eq_ok.mp h
  obtain ⟨eventType, heventType, h⟩ := bind_eq_ok.mp h
  obtain ⟨authorId, hauthorId, h⟩ := bind_eq_ok.mp h
  have hevent := Except.ok.inj h
  subst hevent
  exact ⟨context, inner, hcontext, hinner,
    { source := rfl
      rawAction := rfl
      chatId := hchatId
      threadId := hthreadId
      eventId := heventId
      eventType := heventType
      standardEventType := rfl
      authorId := hauthorId
      occurredAt := htime
      payloadJson := rfl
      dedupKey := rfl
      ignored := rfl }⟩

/-- `author_type_from_payload`. -/
def authorTypeFromPayload (rt : Runtime) (payload : JsonObject) (authorId : Json) :
    Except PyError (Option String) :=
  if authorId.truthy then do
    let users ← (getKey payload "chat_users").itemsOrEmpty
    let type ← findUserType rt (authorId.pyStr rt) users
    return type.join
  else .ok none

/-- `IngressNormalizeResult`, of an event that is dropped with a reason or kept. -/
inductive IngressResult
  | dropped (reason : String)
  | event (event : NormalizedEvent)

/-- `normalize_ingress_event` of a polled payload. -/
def normalizeIngressEvent (rt : LivechatRuntime) (settings : LivechatSettings)
    (payload : JsonObject) : Except PyError IngressResult := do
  let event ← (getKey payload "event").mappingOrEmpty
  let authorId := getKey event "author_id"
  if authorId.truthy && decide (authorId.pyStr rt.toRuntime ∈ settings.selfAuthorIds) then
    return .dropped "self_message"
  let type ← authorTypeFromPayload rt.toRuntime payload authorId
  if type = some "agent" then return .dropped "agent_message"
  let normalized ← normalizePollingEvent rt settings payload
  return .event normalized

/-- A payload that becomes an event was written neither by the bot nor by an agent. -/
theorem normalizeIngressEvent_eq_event {rt : LivechatRuntime} {settings : LivechatSettings}
    {payload : JsonObject} {event : NormalizedEvent}
    (h : normalizeIngressEvent rt settings payload = .ok (.event event)) :
    ∃ inner type, (getKey payload "event").mappingOrEmpty = .ok inner ∧
      ((getKey inner "author_id").truthy &&
        decide ((getKey inner "author_id").pyStr rt.toRuntime ∈ settings.selfAuthorIds)) = false ∧
      authorTypeFromPayload rt.toRuntime payload (getKey inner "author_id") = .ok type ∧
      type ≠ some "agent" ∧ normalizePollingEvent rt settings payload = .ok event := by
  obtain ⟨inner, hinner, h⟩ := bind_eq_ok.mp h
  simp only at h
  split at h
  · cases h
  · rename_i hself
    obtain ⟨type, htype, h⟩ := bind_eq_ok.mp h
    split at h
    · cases h
    · rename_i hagent
      obtain ⟨normalized, hnormalized, h⟩ := bind_eq_ok.mp h
      cases h
      exact ⟨inner, type, hinner, Bool.eq_false_iff.mpr hself, htype, hagent, hnormalized⟩

end AiCustomerService
