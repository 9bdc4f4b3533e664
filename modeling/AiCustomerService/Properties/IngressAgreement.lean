import AiCustomerService.Channels.LivechatChats
import AiCustomerService.Properties.AgentMessages

/-!
# The webhook and the polling receiver on one chat

Both ingresses visit the threads of a chat in the same order and leave out what the bot and the
agents wrote.  They choose the group differently, neither removes a thread that is listed twice,
and only the webhook records that a human agent has written.
-/

namespace AiCustomerService

open Support

/-! ## Runs -/

variable {rt : LivechatRuntime} {settings : LivechatSettings} {chat : LivechatChat rt}

/-- The payload of a webhook that carries the chat. -/
def chatPayload (chat : LivechatChat rt) : JsonObject := .ofList [("chat", .obj chat.fields)]

/-- An `incoming_chat` that was accepted. -/
structure WebhookRun (settings : LivechatSettings) (chat : LivechatChat rt) where
  client : LookupClient
  body : JsonObject
  events : List NormalizedEvent
  unaided : client.given = none
  action : getKey body "action" = .str "incoming_chat"
  carries : getKey body "payload" = .obj (chatPayload chat)
  normalized : normalizeWebhookPayload rt settings client (.obj body) = .ok events

/-- The event of a result that is kept. -/
def IngressResult.event? : IngressResult → Option NormalizedEvent
  | .dropped _ => none
  | .event kept => some kept

/-- The polling ingress of a chat: the gate, the extraction and the normalisation. -/
def pollChat (rt : LivechatRuntime) (settings : LivechatSettings) (includeAgentMessages : Bool)
    (chat : JsonObject) : Except PyError (List NormalizedEvent) := do
  let groupIds ← chatGroupIds rt chat
  if matchesAllowedGroups groupIds settings.allowedGroupIds then
    let payloads ← extractPollingEventsFromChatDetail rt chat includeAgentMessages
      settings.selfAuthorIds
    let results ← payloads.mapM (normalizeIngressEvent rt settings)
    return results.filterMap IngressResult.event?
  else return []

/-- A pass over the chat that raised nothing. -/
structure PollingRun (settings : LivechatSettings) (chat : LivechatChat rt) where
  includeAgentMessages : Bool
  events : List NormalizedEvent
  polled : pollChat rt settings includeAgentMessages chat.fields = .ok events

/-! ## What the ingresses are compared by -/

/-- What an event says about a message or a file. -/
structure AcceptedText where
  chatId : Option String
  threadId : Option String
  eventId : Option String
  standardEventType : String
  occurredAt : Option String
  platform : Json
  livechatGroupId : Json

/-- The message or file of an event that is not ignored. -/
def NormalizedEvent.acceptedText? (event : NormalizedEvent) : Option AcceptedText :=
  if isText event.eventType ∧ event.ignored = false then
    some {
      chatId := event.chatId
      threadId := event.threadId
      eventId := event.eventId
      standardEventType := event.standardEventType
      occurredAt := event.occurredAt
      platform := getKey event.payloadJson "platform"
      livechatGroupId := getKey event.payloadJson "livechat_group_id" }
  else none

/-- The messages and files for which there is an event that is not ignored. -/
def acceptedTexts (events : List NormalizedEvent) : List AcceptedText :=
  events.filterMap NormalizedEvent.acceptedText?

/-- Among the events one marks the conversation as taken over, for the message. -/
def MarksHumanActive (events : List NormalizedEvent) (item : ChatThread rt × ChatText) : Prop :=
  ∃ event ∈ events, event.threadId = some item.1.id ∧ event.eventId = some item.2.id ∧
    (getKey event.payloadJson "human_agent_public_reply").truthy = true

/-- The message was written by an agent of the chat who is not the bot, and is public. -/
def IsPublicAgentText (settings : LivechatSettings) (chat : LivechatChat rt) (event : ChatText) :
    Prop :=
  chat.typeOf event.author = some "agent" ∧ event.author ∉ settings.selfAuthorIds ∧
    isPublic rt.toRuntime event.fields = true

/-- The two ingresses accept the same messages and files, each once and with the same fields, and
both mark what a human agent has said in public. -/
structure IngressesAgree (webhook : WebhookRun settings chat) (polling : PollingRun settings chat) :
    Prop where
  same : acceptedTexts webhook.events = acceptedTexts polling.events
  once : ((acceptedTexts polling.events).map fun text => (text.threadId, text.eventId)).Nodup
  human : ∀ item ∈ chat.items, IsPublicAgentText settings chat item.2 →
    MarksHumanActive webhook.events item ∧ MarksHumanActive polling.events item

/-! ## What a message becomes -/

/-- Neither the bot nor an agent wrote the message. -/
def IsCustomerText (settings : LivechatSettings) (chat : LivechatChat rt) (event : ChatText) :
    Prop :=
  event.author ∉ settings.selfAuthorIds ∧ chat.typeOf event.author ≠ some "agent"

instance (settings : LivechatSettings) (chat : LivechatChat rt) (event : ChatText) :
    Decidable (IsCustomerText settings chat event) :=
  inferInstanceAs (Decidable (_ ∧ _))

/-- The messages and files of customers. -/
def customerItems (settings : LivechatSettings) (chat : LivechatChat rt) :
    List (ChatThread rt × ChatText) :=
  chat.items.filter fun item => IsCustomerText settings chat item.2

/-- The groups that the webhook collects: those of the chat and of its threads. -/
def LivechatChat.allGroupIds (chat : LivechatChat rt) : List Int :=
  chat.groupIds ++ chat.threads.flatMap ChatThread.groupIds

/-- The group of the webhook, with its platform. -/
def webhookGroup (settings : LivechatSettings) (chat : LivechatChat rt) : Option (Int × String) :=
  platformContext settings.allowedGroupIds chat.allGroupIds

/-- The group of the polling receiver, with its platform. -/
def pollingGroup (chat : LivechatChat rt) : Option (Int × String) :=
  firstPlatform (sortedSet chat.groupIds)

/-- The gate of the polling receiver. -/
def passesGate (settings : LivechatSettings) (chat : LivechatChat rt) : Bool :=
  matchesAllowedGroups chat.groupIds settings.allowedGroupIds

/-- The message with the group of an ingress. -/
def acceptedIn (chat : LivechatChat rt) (group : Option (Int × String))
    (item : ChatThread rt × ChatText) : AcceptedText where
  chatId := some chat.id
  threadId := some item.1.id
  eventId := some item.2.id
  standardEventType := standardEventType (.str item.2.type)
  occurredAt := (parseRfc3339ToMysql rt (.str item.2.createdAt)).toOption.join
  platform := .ofText? (group.map Prod.snd)
  livechatGroupId := (group.map fun g => Json.int g.1).getD .null

/-! ## The webhook -/

section Webhook

theorem firstText_null (rt : Runtime) (values : List Json) :
    firstText rt (.null :: values) = firstText rt values := rfl

theorem firstText_plain (rt : Runtime) {text : String} (h : IsPlain text) (values : List Json) :
    firstText rt (.str text :: values) = some text := by
  simp [firstText, Json.isNull, Json.pyStr, h.strip_eq, h.ne_empty]

theorem getKey_chatPayload (chat : LivechatChat rt) (event : Json) {key : String}
    (hchat : key ≠ "chat") (hevent : key ≠ "event") :
    getKey ((chatPayload chat).set "event" event) key = .null := by
  have hmissing : (chatPayload chat).get? key = none := by
    apply Dict.get?_ofList_of_notMem
    simpa using hchat
  simp [getKey, hevent, hmissing]

theorem getKey_chatPayload_chat (chat : LivechatChat rt) (event : Json) :
    getKey ((chatPayload chat).set "event" event) "chat" = .obj chat.fields := by
  simp [getKey, chatPayload, Dict.ofList]

theorem getKey_chatPayload_event (chat : LivechatChat rt) (event : Json) :
    getKey ((chatPayload chat).set "event" event) "event" = event := by
  simp [getKey]

/-- The arguments of `_build_event` for a message of the chat. -/
def itemArgs (chat : LivechatChat rt) (item : ChatThread rt × ChatText) : EventArgs :=
  chatEventArgs (chatPayload chat) chat.fields (item.1.fields, item.2.fields)

theorem itemArgs_chatOf (chat : LivechatChat rt) (item : ChatThread rt × ChatText) :
    (itemArgs chat item).chatOf .unused = chat.fields := by
  simp [itemArgs, chatEventArgs, EventArgs.chatOf, orDict, chat.isEmpty_fields]

theorem itemArgs_eventOf (chat : LivechatChat rt) (item : ChatThread rt × ChatText) :
    (itemArgs chat item).eventOf = item.2.fields := by
  simp [itemArgs, chatEventArgs, EventArgs.eventOf, orDict, item.2.isEmpty_fields]

theorem itemArgs_threadOf (chat : LivechatChat rt) (item : ChatThread rt × ChatText) :
    (itemArgs chat item).threadOf .unused = .ok item.1.fields := by
  simp [itemArgs, chatEventArgs, EventArgs.threadOf, orDict, item.1.isEmpty_fields]

theorem itemArgs_authorId (rt' : Runtime) (chat : LivechatChat rt)
    (item : ChatThread rt × ChatText) :
    (itemArgs chat item).authorId rt' = some item.2.author := by
  rw [EventArgs.authorId, itemArgs_eventOf, item.2.hasAuthor, firstText_plain rt' item.2.plainAuthor]

theorem itemArgs_authorType (chat : LivechatChat rt) (item : ChatThread rt × ChatText) :
    authorType rt.toRuntime chat.fields (itemArgs chat item).payload (some item.2.author) none =
      .ok (chat.typeOf item.2.author) := by
  have hpayload : (itemArgs chat item).payload =
      (chatPayload chat).set "event" (.obj item.2.fields) := rfl
  have hevent : extractEvent ((chatPayload chat).set "event" (.obj item.2.fields)) =
      item.2.fields := by
    rw [extractEvent, getKey_chatPayload_event]
    rfl
  have hdirect : directAuthorType rt.toRuntime
      ((chatPayload chat).set "event" (.obj item.2.fields)) = none := by
    rw [directAuthorType, hevent, item.2.untyped,
      getKey_chatPayload chat _ (by decide) (by decide)]
    rfl
  have hown : usersOf ((chatPayload chat).set "event" (.obj item.2.fields)) = .null := by
    rw [usersOf, getKey_chatPayload chat _ (by decide) (by decide),
      getKey_chatPayload chat _ (by decide) (by decide)]
    rfl
  have hlisted : (usersOf chat.fields).itemsOrEmpty =
      .ok (chat.users.map fun user => .obj user.fields) := by
    rw [usersOf, chat.hasUsers, chat.noChatUsers]
    cases chat.users with
    | nil => rfl
    | cons user rest => rfl
  rw [hpayload, authorType]
  simp only [hdirect, typeFromUsers, hown, hlisted, Option.getD]
  have hnothing : Json.null.itemsOrEmpty = .ok [] := rfl
  have hlookup : (usersOf ∅).itemsOrEmpty = .ok [] := rfl
  rw [hnothing, hlookup]
  simp only [bind, Except.bind, findUserType, findUserType_users, LivechatChat.typeOf]
  cases chat.users.find? fun user => user.id = item.2.author with
  | none => rfl
  | some user => rfl

theorem groupIdsOfAll_threads (threads : List (ChatThread rt)) :
    groupIdsOfAll rt (threads.map ChatThread.fields) =
      .ok (threads.flatMap ChatThread.groupIds) := by
  rw [groupIdsOfAll, mapM_map_ok threads ChatThread.hasGroups]
  rfl

theorem chatGroupIds_chatPayload (chat : LivechatChat rt) (event : Json) :
    chatGroupIds rt ((chatPayload chat).set "event" event) = .ok [] := by
  rw [chatGroupIds, groupValues,
    @getKey_chatPayload rt chat event "access" (by decide) (by decide),
    @getKey_chatPayload rt chat event "group_ids" (by decide) (by decide),
    @getKey_chatPayload rt chat event "routing_status" (by decide) (by decide),
    @getKey_chatPayload rt chat event "group_id" (by decide) (by decide)]
  rfl

/-- The webhook chooses among the groups of the chat and of its threads. -/
theorem itemArgs_groups (chat : LivechatChat rt) (item : ChatThread rt × ChatText) :
    ∃ groupIds, collectGroupIds rt (itemArgs chat item).payload chat.fields none = .ok groupIds ∧
      platformContext settings.allowedGroupIds groupIds = webhookGroup settings chat := by
  have hpayload : (itemArgs chat item).payload =
      (chatPayload chat).set "event" (.obj item.2.fields) := rfl
  have hchat : extractChat ((chatPayload chat).set "event" (.obj item.2.fields)) =
      some chat.fields := by
    rw [extractChat, getKey_chatPayload_chat]
    rfl
  have hthread : (getKey ((chatPayload chat).set "event" (.obj item.2.fields)) "thread").dict?.toList =
      [] := by
    rw [getKey_chatPayload chat _ (by decide) (by decide)]
    rfl
  have hnone : groupIdsOfAll rt [] = .ok [] := rfl
  have hgroups : extractGroupIdsFromPayload rt (itemArgs chat item).payload =
      .ok ([] ++ chat.allGroupIds ++ []) := by
    rw [hpayload, extractGroupIdsFromPayload, chatGroupIds_chatPayload, hchat, hthread, hnone]
    simp only [chat.hasGroups, threadsOf_fields, groupIdsOfAll_threads, bind, Except.bind, pure,
      Except.pure]
    rfl
  refine ⟨chat.allGroupIds ++ chat.groupIds, ?_, ?_⟩
  · have hlookup : groupIdsOfAll rt (orDict none none).toList = .ok [] := rfl
    rw [collectGroupIds, hgroups, chat.hasGroups, hlookup]
    simp [bind, Except.bind, pure, Except.pure]
  · rw [webhookGroup, platformContext, platformContext]
    congr 1
    apply sortedSet_congr
    intro n
    have hmem : n ∈ chat.groupIds → n ∈ chat.allGroupIds := List.mem_append_left _
    split
    · rw [List.mem_append]
      exact ⟨fun h => h.elim id hmem, Or.inl⟩
    · rw [List.mem_filter, List.mem_filter, List.mem_append]
      exact ⟨fun h => ⟨h.1.elim id hmem, h.2⟩, fun h => ⟨Or.inl h.1, h.2⟩⟩

theorem isIgnored_itemArgs (chat : LivechatChat rt) (item : ChatThread rt × ChatText)
    (context : Option (Int × String)) :
    isIgnored settings (itemArgs chat item) (some item.2.author) (chat.typeOf item.2.author)
        context =
      !(decide (IsCustomerText settings chat item.2) && context.isSome) := by
  by_cases hself : item.2.author ∈ settings.selfAuthorIds
  · simp [isIgnored, authorVerdict, isSelfAuthor, IsCustomerText, hself]
  · by_cases hagent : chat.typeOf item.2.author = some "agent"
    · simp [isIgnored, authorVerdict, isSelfAuthor, IsCustomerText, hself, hagent]
    · simp [isIgnored, authorVerdict, isSelfAuthor, IsCustomerText, hself, hagent, itemArgs,
        chatEventArgs]

/-- The group and the platform of the payload that is stored. -/
theorem getKey_payloadJson (args : EventArgs) (body : JsonObject)
    (context : Option (Int × String)) (humanAgentReply : Bool) (authorId eventId : Option String) :
    getKey (payloadJson args body .unused context humanAgentReply authorId eventId) "platform" =
        .ofText? (context.map Prod.snd) ∧
      getKey (payloadJson args body .unused context humanAgentReply authorId eventId)
          "livechat_group_id" = (context.map fun c => Json.int c.1).getD .null := by
  have hfields : (platformFields context).get? "platform" =
        some (.ofText? (context.map Prod.snd)) ∧
      (platformFields context).get? "livechat_group_id" =
        some ((context.map fun c => Json.int c.1).getD .null) := by
    simp [platformFields, Dict.ofList]
  cases humanAgentReply with
  | false => simp [payloadJson, ChatLookup.unused, getKey, hfields.1, hfields.2]
  | true =>
      simp [payloadJson, ChatLookup.unused, getKey, hfields.1, hfields.2, Dict.ofList]

/-- What the webhook accepts of a message. -/
theorem acceptedText_of_itemArgs {body : JsonObject} {event : NormalizedEvent}
    {item : ChatThread rt × ChatText}
    (h : buildEvent rt settings body (itemArgs chat item) .unused = .ok event) :
    event.acceptedText? =
      if IsCustomerText settings chat item.2 ∧ (webhookGroup settings chat).isSome then
        some (acceptedIn chat (webhookGroup settings chat) item)
      else none := by
  have hbuilt := buildEvent_builtFrom h
  have hauthor : event.authorId = some item.2.author := by
    rw [hbuilt.authorId, itemArgs_authorId]
  have hchatId : event.chatId = some chat.id := by
    rw [hbuilt.chatId, itemArgs_chatOf, chatIdOf]
    have hpayload : getKey (itemArgs chat item).payload "chat_id" = .null :=
      getKey_chatPayload chat _ (by decide) (by decide)
    rw [hpayload, firstText_null, chat.hasId, firstText_plain _ chat.plainId]
  have heventId : event.eventId = some item.2.id := by
    rw [hbuilt.eventId, EventArgs.eventId, itemArgs_eventOf, item.2.hasId,
      firstText_plain _ item.2.plainId]
  obtain ⟨thread, hthread, hthreadId, htime⟩ := hbuilt.threadId
  rw [itemArgs_threadOf] at hthread
  have hthread := Except.ok.inj hthread
  subst hthread
  have hthreadId : event.threadId = some item.1.id := by
    rw [hthreadId, EventArgs.threadId]
    have hpayload : getKey (itemArgs chat item).payload "thread_id" = .null :=
      getKey_chatPayload chat _ (by decide) (by decide)
    rw [hpayload, firstText_null, item.1.hasId, firstText_plain _ item.1.plainId]
  have hcreated : (itemArgs chat item).createdAt rt.toRuntime item.1.fields
      ((itemArgs chat item).chatOf .unused) = some item.2.createdAt := by
    rw [EventArgs.createdAt, itemArgs_eventOf, item.2.hasCreatedAt,
      firstText_plain _ item.2.plainCreatedAt]
  have htype : event.eventType = some item.2.type :=
    Json.eq_some_of_optionalText item.2.hasType hbuilt.eventType
  have hstandard : event.standardEventType = standardEventType (.str item.2.type) := by
    rw [hbuilt.standardEventType, ← item.2.hasType]
    rfl
  obtain ⟨type, groupIds, hauthorType, hgroups, hignored, hpayload⟩ := hbuilt.verdict
  rw [itemArgs_chatOf, hauthor] at hauthorType
  have htypeOf := (itemArgs_authorType chat item).symm.trans hauthorType
  have htypeOf := Except.ok.inj htypeOf
  subst htypeOf
  obtain ⟨collected, hcollected, hcontext⟩ := @itemArgs_groups rt settings chat item
  rw [itemArgs_chatOf] at hgroups
  have hsame := Except.ok.inj (hcollected.symm.trans hgroups)
  subst hsame
  rw [hcontext, hauthor] at hignored hpayload
  rw [isIgnored_itemArgs] at hignored
  obtain ⟨hplatform, hgroup⟩ := getKey_payloadJson (itemArgs chat item) body
    (webhookGroup settings chat) (isHumanAgentReply rt.toRuntime settings (itemArgs chat item)
      (some item.2.author) (chat.typeOf item.2.author)) (some item.2.author) event.eventId
  rw [← hpayload] at hplatform hgroup
  have htext : isText event.eventType := by
    rw [htype]
    exact item.2.isText.imp (congrArg some) (congrArg some)
  rw [NormalizedEvent.acceptedText?, hignored, hplatform, hgroup, hchatId, hthreadId, heventId,
    hstandard]
  by_cases haccepted : IsCustomerText settings chat item.2 ∧ (webhookGroup settings chat).isSome
  · have htime : (parseRfc3339ToMysql rt (.str item.2.createdAt)).toOption.join =
        event.occurredAt := by
      rw [hcreated] at htime
      rw [Json.ofText?] at htime
      rw [htime]
      rfl
    simp [haccepted, htext, acceptedIn, htime]
  · rw [if_neg haccepted, if_neg]
    intro h
    apply haccepted
    simpa using h.2

/-- What `_build_event` accepts. -/
def acceptedFrom (rt : LivechatRuntime) (settings : LivechatSettings) (body : JsonObject)
    (args : EventArgs) : Option AcceptedText :=
  (buildEvent rt settings body args .unused).toOption.bind NormalizedEvent.acceptedText?

theorem acceptedFrom_introArgs (body payload chat thread event : JsonObject) :
    acceptedFrom rt settings body (introArgs payload chat thread event) = none := by
  unfold acceptedFrom
  cases hbuild : buildEvent rt settings body (introArgs payload chat thread event) .unused with
  | error e => rfl
  | ok built =>
      have htype := (buildEvent_builtFrom hbuild).eventType
      have hstarted : built.eventType = some "chat_started" := (Except.ok.inj htype).symm
      simp [Except.toOption, NormalizedEvent.acceptedText?, isText, hstarted]

/-- What the webhook accepts of the chat. -/
theorem acceptedTexts_webhook (webhook : WebhookRun settings chat) :
    acceptedTexts webhook.events = chat.items.filterMap fun item =>
      if IsCustomerText settings chat item.2 ∧ (webhookGroup settings chat).isSome then
        some (acceptedIn chat (webhookGroup settings chat) item)
      else none := by
  obtain ⟨lookup, hlookup, hevents⟩ := normalizeWebhookPayload_eq_ok webhook.normalized
  have haction : (getKey webhook.body "action").eqText "incoming_event" = false := by
    rw [webhook.action]
    decide
  have hunused : lookup = .unused := by
    rw [lookUp_of_other_action haction hlookup, webhook.unaided]
    rfl
  subst hunused
  obtain ⟨args, hargs, hbuilt⟩ := bind_eq_ok.mp hevents
  have hincoming : actionOf rt.toRuntime webhook.body = "incoming_chat" := by
    rw [actionOf, webhook.action]
    rfl
  have hpayload : payloadOf webhook.body = chatPayload chat := by
    rw [payloadOf, webhook.carries]
    rfl
  have hchat : incomingChat (chatPayload chat) = chat.fields := by
    simp [incomingChat, extractChat, chatPayload, getKey, Dict.ofList]
  rw [eventArgs] at hargs
  simp only [hincoming, hpayload, if_true] at hargs
  unfold incomingChatArgs at hargs
  obtain ⟨thread, -, hargs⟩ := bind_eq_ok.mp hargs
  obtain ⟨intro_, -, hargs⟩ := bind_eq_ok.mp hargs
  rw [hchat, threadsOf_fields] at hargs
  obtain ⟨_, hthreads, hargs⟩ := bind_eq_ok.mp hargs
  cases hthreads
  rw [chatEvents_fields] at hargs
  obtain ⟨_, hitems, hargs⟩ := bind_eq_ok.mp hargs
  cases hitems
  cases hargs
  have haccepted : acceptedTexts webhook.events = _ :=
    filterMap_of_mapM_ok hbuilt (k := acceptedFrom rt settings webhook.body) (by
      intro args _ event hevent
      rw [acceptedFrom, hevent]
      rfl)
  have hintro : (if intro_ = true then
        [introArgs (chatPayload chat) chat.fields thread
          (chatStartedEvent rt.toRuntime chat.fields thread (chatPayload chat))]
      else []).filterMap (acceptedFrom rt settings webhook.body) = [] := by
    split
    · rw [List.filterMap_cons, acceptedFrom_introArgs]
      rfl
    · rfl
  rw [haccepted, List.filterMap_append, hintro, List.nil_append, List.map_map, List.filterMap_map]
  apply List.filterMap_congr
  intro item hitem
  obtain ⟨event, -, hevent⟩ := mapM_ok_of_mem hbuilt
    (List.mem_append_right _ (List.mem_map_of_mem (List.mem_map_of_mem hitem)))
  have hbuiltItem : buildEvent rt settings webhook.body (itemArgs chat item) .unused = .ok event :=
    hevent
  have hfrom : acceptedFrom rt settings webhook.body (itemArgs chat item) =
      event.acceptedText? := by
    rw [acceptedFrom, hbuiltItem]
    rfl
  exact hfrom.trans (acceptedText_of_itemArgs hbuiltItem)

end Webhook

/-! ## Polling -/

section Polling

/-- The payload of a message of the chat. -/
def itemPayload (chat : LivechatChat rt) (summary : JsonObject)
    (item : ChatThread rt × ChatText) : JsonObject :=
  pollingPayload (sortedSet chat.groupIds) ((getKey chat.fields "users").orElse (.arr []))
    "get_chat" summary (.str chat.id) (.str item.1.id) item.2.fields

/-- What is accepted of a result. -/
def IngressResult.acceptedText? (result : IngressResult) : Option AcceptedText :=
  result.event?.bind NormalizedEvent.acceptedText?

theorem authorType_itemPayload (chat : LivechatChat rt) (summary : JsonObject)
    (item : ChatThread rt × ChatText) :
    authorTypeFromPayload rt.toRuntime (itemPayload chat summary item) (.str item.2.author) =
      .ok (chat.typeOf item.2.author) := by
  have husers : getKey (itemPayload chat summary item) "chat_users" =
      (getKey chat.fields "users").orElse (.arr []) := by
    simp [itemPayload, pollingPayload, getKey, Dict.ofList]
  have hlisted : ((getKey chat.fields "users").orElse (.arr [])).itemsOrEmpty =
      .ok (chat.users.map fun user => .obj user.fields) := by
    rw [chat.hasUsers]
    cases chat.users with
    | nil => rfl
    | cons user rest => rfl
  rw [authorTypeFromPayload, if_pos (by simp [item.2.plainAuthor.ne_empty]), husers, hlisted]
  simp only [bind, Except.bind, Json.pyStr, findUserType_users, LivechatChat.typeOf]
  cases chat.users.find? fun user => user.id = item.2.author with
  | none => rfl
  | some user => rfl

/-- The groups of a payload are read back. -/
theorem platformFromGroupIds_printed {groupIds : List Int}
    (hprinted : ∀ groupId ∈ groupIds, rt.isDigit (strip (toString groupId)) = true) :
    platformFromGroupIds rt (.arr ((sortedSet groupIds).map .int)) =
      .ok (firstPlatform (sortedSet groupIds)) := by
  have hread : ∀ values : List Int,
      (∀ value ∈ values, rt.isDigit (strip (toString value)) = true) →
        digitValues rt (values.map .int) = .ok values := by
    intro values hvalues
    induction values with
    | nil => rfl
    | cons value rest ih =>
        have hrest := ih fun other hmem => hvalues other (List.mem_cons_of_mem _ hmem)
        have hvalue : rt.isDigit (strip ((Json.int value).pyStr rt.toRuntime)) = true :=
          hvalues value List.mem_cons_self
        rw [digitValues] at hrest ⊢
        rw [List.map_cons, List.filter_cons, if_pos hvalue, List.mapM_cons, hrest]
        rfl
  rw [platformFromGroupIds, itemsOrEmpty_arr]
  simp only [bind, Except.bind]
  rw [hread _ fun value hmem => hprinted value (mem_sortedSet.mp hmem)]
  simp only [pure, Except.pure, sortedSet_sortedSet]

theorem standardEventFromType_text (event : ChatText) :
    standardEventFromType (.str event.type) = standardEventType (.str event.type) := by
  rcases event.isText with htype | htype
  · simp [standardEventFromType, standardEventType, htype]
  · simp [standardEventFromType, standardEventType, htype]

theorem getKey_normalizedPollingPayload {payload : JsonObject} {key : String} {fallback : Json}
    (context : Option (Int × String)) (hmissing : getKey payload key = .null)
    (hkey : (normalizedPollingPayload payload context).get? key =
      some ((getKey payload key).orElse fallback)) :
    getKey (normalizedPollingPayload payload context) key = fallback := by
  rw [getKey, hkey, hmissing]
  rfl

/-- A message that nobody has dropped is accepted with the group of the polling receiver. -/
theorem acceptedText_of_normalized {summary : JsonObject} {item : ChatThread rt × ChatText}
    {event : NormalizedEvent}
    (h : normalizePollingEvent rt settings (itemPayload chat summary item) = .ok event)
    (hself : item.2.author ∉ settings.selfAuthorIds) :
    event.acceptedText? = some (acceptedIn chat (pollingGroup chat) item) := by
  have hgroups : getKey (itemPayload chat summary item) "group_ids" =
      .arr ((sortedSet chat.groupIds).map .int) := by
    simp [itemPayload, pollingPayload, getKey, Dict.ofList]
  have hevent : (getKey (itemPayload chat summary item) "event").mappingOrEmpty =
      .ok item.2.fields := by
    have hkey : getKey (itemPayload chat summary item) "event" = .obj item.2.fields := by
      simp [itemPayload, pollingPayload, getKey, Dict.ofList]
    rw [hkey, Json.mappingOrEmpty, Json.orElse, if_pos (truthy_obj item.2.isEmpty_fields)]
  have hchatId : getKey (itemPayload chat summary item) "chat_id" = .str chat.id := by
    simp [itemPayload, pollingPayload, getKey, Dict.ofList]
  have hthreadId : getKey (itemPayload chat summary item) "thread_id" = .str item.1.id := by
    simp [itemPayload, pollingPayload, getKey, Dict.ofList]
  obtain ⟨context, inner, hcontext, hinner, hpolled⟩ := normalizePollingEvent_polledFrom h
  rw [hgroups, platformFromGroupIds_printed chat.printedGroups] at hcontext
  rw [hevent] at hinner
  have hinner := Except.ok.inj hinner
  have hcontext : context = pollingGroup chat := (Except.ok.inj hcontext).symm
  subst hinner hcontext
  have hchatId : event.chatId = some chat.id :=
    Json.eq_some_of_optionalText hchatId hpolled.chatId
  have hthreadId : event.threadId = some item.1.id :=
    Json.eq_some_of_optionalText hthreadId hpolled.threadId
  have heventId : event.eventId = some item.2.id :=
    Json.eq_some_of_optionalText item.2.hasId hpolled.eventId
  have htype : event.eventType = some item.2.type :=
    Json.eq_some_of_optionalText item.2.hasType hpolled.eventType
  have hauthorId : event.authorId = some item.2.author :=
    Json.eq_some_of_optionalText item.2.hasAuthor hpolled.authorId
  have hstandard : event.standardEventType = standardEventType (.str item.2.type) := by
    rw [hpolled.standardEventType, item.2.hasType, standardEventFromType_text]
  have htime : (parseRfc3339ToMysql rt (.str item.2.createdAt)).toOption.join =
      event.occurredAt := by
    rw [← item.2.hasCreatedAt, hpolled.occurredAt]
    rfl
  have hrole : senderRole settings (some item.2.author) ≠ "self_agent" := by
    simp [senderRole, item.2.plainAuthor.ne_empty, hself]
  have hignored : event.ignored = false := by
    rw [hpolled.ignored, hauthorId]
    exact decide_eq_false hrole
  have htext : isText (some item.2.type) := item.2.isText.imp (congrArg some) (congrArg some)
  have hplatform : getKey event.payloadJson "platform" =
      .ofText? ((pollingGroup chat).map Prod.snd) := by
    rw [hpolled.payloadJson]
    apply getKey_normalizedPollingPayload
    · simp [itemPayload, pollingPayload, getKey, Dict.ofList]
    · simp [normalizedPollingPayload, Dict.ofList]
  have hgroup : getKey event.payloadJson "livechat_group_id" =
      ((pollingGroup chat).map fun c => Json.int c.1).getD .null := by
    rw [hpolled.payloadJson]
    apply getKey_normalizedPollingPayload
    · simp [itemPayload, pollingPayload, getKey, Dict.ofList]
    · simp [normalizedPollingPayload, Dict.ofList]
  rw [NormalizedEvent.acceptedText?, htype, hignored, if_pos ⟨htext, rfl⟩, hchatId, hthreadId,
    heventId, hstandard, hplatform, hgroup, acceptedIn, htime]

/-- A payload without the mark gives an event without it. -/
theorem getKey_humanAgent_normalized {payload : JsonObject} {event : NormalizedEvent}
    (hpayload : getKey payload "human_agent_public_reply" = .null)
    (h : normalizePollingEvent rt settings payload = .ok event) :
    getKey event.payloadJson "human_agent_public_reply" = .null := by
  obtain ⟨context, inner, -, -, hpolled⟩ := normalizePollingEvent_polledFrom h
  have hmissing : (normalizedPollingPayload payload context).get? "human_agent_public_reply" =
      payload.get? "human_agent_public_reply" := by
    simp [normalizedPollingPayload, Dict.ofList]
  rw [hpolled.payloadJson, getKey, hmissing]
  exact hpayload

/-- What polling accepts of a message. -/
theorem acceptedText_of_itemPayload {summary : JsonObject} {item : ChatThread rt × ChatText}
    {result : IngressResult}
    (h : normalizeIngressEvent rt settings (itemPayload chat summary item) = .ok result) :
    result.acceptedText? =
      if IsCustomerText settings chat item.2 then some (acceptedIn chat (pollingGroup chat) item)
      else none := by
  have hevent : (getKey (itemPayload chat summary item) "event").mappingOrEmpty =
      .ok item.2.fields := by
    have hkey : getKey (itemPayload chat summary item) "event" = .obj item.2.fields := by
      simp [itemPayload, pollingPayload, getKey, Dict.ofList]
    rw [hkey, Json.mappingOrEmpty, Json.orElse, if_pos (truthy_obj item.2.isEmpty_fields)]
  unfold normalizeIngressEvent at h
  rw [hevent] at h
  obtain ⟨_, hinner, h⟩ := bind_eq_ok.mp h
  cases hinner
  have htruthy : (Json.str item.2.author).truthy = true := by
    simp [item.2.plainAuthor.ne_empty]
  simp only [item.2.hasAuthor, htruthy, Bool.true_and] at h
  by_cases hself : item.2.author ∈ settings.selfAuthorIds
  · have hdropped : decide ((Json.str item.2.author).pyStr rt.toRuntime ∈
        settings.selfAuthorIds) = true :=
      decide_eq_true hself
    rw [if_pos hdropped] at h
    cases h
    simp [IngressResult.acceptedText?, IngressResult.event?, IsCustomerText, hself]
  · have hkept : ¬ decide ((Json.str item.2.author).pyStr rt.toRuntime ∈
        settings.selfAuthorIds) = true :=
      fun hsame => hself (of_decide_eq_true hsame)
    rw [if_neg hkept, authorType_itemPayload] at h
    obtain ⟨_, htype, h⟩ := bind_eq_ok.mp h
    cases htype
    by_cases hagent : chat.typeOf item.2.author = some "agent"
    · rw [if_pos hagent] at h
      cases h
      simp [IngressResult.acceptedText?, IngressResult.event?, IsCustomerText, hagent]
    · rw [if_neg hagent] at h
      obtain ⟨event, hnormalized, h⟩ := bind_eq_ok.mp h
      cases h
      rw [if_pos ⟨hself, hagent⟩]
      exact acceptedText_of_normalized hnormalized hself

/-- An `intro` payload stands for no message. -/
theorem acceptedText_of_introEvent {groupIds : List Int} {users chatId threadId : Json}
    {summary chatFields thread : JsonObject} {result : IngressResult}
    (h : normalizeIngressEvent rt settings
      (pollingPayload groupIds users "get_chat" summary chatId threadId
        (introEvent rt.toRuntime chatFields thread threadId)) = .ok result) :
    result.acceptedText? = none := by
  cases result with
  | dropped reason => rfl
  | event event =>
      obtain ⟨-, -, -, -, -, -, hnormalized⟩ := normalizeIngressEvent_eq_event h
      obtain ⟨context, inner, -, hinner, hpolled⟩ := normalizePollingEvent_polledFrom hnormalized
      have hkey : getKey (pollingPayload groupIds users "get_chat" summary chatId threadId
          (introEvent rt.toRuntime chatFields thread threadId)) "event" =
            .obj (introEvent rt.toRuntime chatFields thread threadId) := by
        simp [pollingPayload, getKey, Dict.ofList]
      rw [hkey] at hinner
      cases hinner
      have hstarted : event.eventType = some "thread_started" :=
        (Except.ok.inj hpolled.eventType).symm
      simp [IngressResult.acceptedText?, IngressResult.event?, NormalizedEvent.acceptedText?,
        isText, hstarted]

/-- What `normalize_ingress_event` accepts. -/
def polledFrom (rt : LivechatRuntime) (settings : LivechatSettings) (payload : JsonObject) :
    Option AcceptedText :=
  (normalizeIngressEvent rt settings payload).toOption.bind IngressResult.acceptedText?

theorem polledFrom_of_ok {payload : JsonObject} {result : IngressResult}
    (h : normalizeIngressEvent rt settings payload = .ok result) :
    polledFrom rt settings payload = result.acceptedText? := by
  rw [polledFrom, h]
  rfl

/-- What polling accepts of a thread. -/
theorem polledFrom_threadPayloads {includeAgentMessages : Bool} {thread : ChatThread rt}
    {payloads : List JsonObject}
    (h : threadPayloads rt.toRuntime chat.fields (sortedSet chat.groupIds)
      ((getKey chat.fields "users").orElse (.arr []))
      (chat.users.map fun user => (user.id, user.fields)).reverse includeAgentMessages
      settings.selfAuthorIds thread.fields = .ok payloads)
    (hnormalized : ∀ payload ∈ payloads, ∃ result,
      normalizeIngressEvent rt settings payload = .ok result) :
    payloads.filterMap (polledFrom rt settings) = thread.texts.filterMap fun event =>
      if IsCustomerText settings chat event then
        some (acceptedIn chat (pollingGroup chat) (thread, event))
      else none := by
  unfold threadPayloads at h
  rw [pollingThreadEvents_fields] at h
  obtain ⟨_, hevents, h⟩ := bind_eq_ok.mp h
  cases hevents
  obtain ⟨answered, -, h⟩ := bind_eq_ok.mp h
  rw [keptEvents_events] at h
  obtain ⟨_, hkept, h⟩ := bind_eq_ok.mp h
  cases hkept
  have hthreadId : pollingThreadId thread.fields = .str thread.id := by
    rw [pollingThreadId, thread.hasId, Json.orElse, if_pos (by simp [thread.plainId.ne_empty])]
  rw [chat.hasId, hthreadId] at h
  have hmade := Except.ok.inj h
  subst hmade
  rw [List.filterMap_append]
  have hintro : ∀ {intros : List JsonObject},
      (∀ payload ∈ intros, ∃ result, normalizeIngressEvent rt settings payload = .ok result ∧
        result.acceptedText? = none) → intros.filterMap (polledFrom rt settings) = [] := by
    intro intros hintros
    rw [List.filterMap_eq_nil_iff]
    intro payload hmem
    obtain ⟨result, hresult, hnone⟩ := hintros payload hmem
    rw [polledFrom_of_ok hresult, hnone]
  rw [hintro, List.nil_append, List.filterMap_map, List.filterMap_map]
  · have hitems : ∀ event ∈ (thread.events.filterMap ChatEvent.text?).filter (fun event =>
          includeAgentMessages || !isAgentIn
            (chat.users.map fun user => (user.id, user.fields)).reverse event.author),
        polledFrom rt settings (itemPayload chat (summarizeThread thread.fields
            (thread.events.map ChatEvent.fields)) (thread, event)) =
          if IsCustomerText settings chat event then
            some (acceptedIn chat (pollingGroup chat) (thread, event))
          else none := by
      intro event hmem
      obtain ⟨result, hresult⟩ := hnormalized _
        (List.mem_append_right _ (List.mem_map_of_mem (List.mem_map_of_mem hmem)))
      have hitem : normalizeIngressEvent rt settings (itemPayload chat
          (summarizeThread thread.fields (thread.events.map ChatEvent.fields)) (thread, event)) =
            .ok result := hresult
      exact (polledFrom_of_ok hitem).trans (acceptedText_of_itemPayload hitem)
    refine (List.filterMap_congr hitems).trans ?_
    rw [List.filterMap_filter]
    apply List.filterMap_congr
    intro event _
    split
    · rfl
    · rename_i hskipped
      rw [isAgentIn_users] at hskipped
      have hagent : chat.typeOf event.author = some "agent" := by
        simp only [Bool.or_eq_true, Bool.not_eq_true', decide_eq_false_iff_not, not_or,
          not_not] at hskipped
        exact hskipped.2
      simp [IsCustomerText, hagent]
  · intro payload hmem
    obtain ⟨result, hresult⟩ := hnormalized payload (List.mem_append_left _ hmem)
    refine ⟨result, hresult, ?_⟩
    split at hmem
    · rw [List.mem_singleton] at hmem
      subst hmem
      exact acceptedText_of_introEvent hresult
    · cases hmem

/-- What polling accepts of the chat. -/
theorem acceptedTexts_polling (polling : PollingRun settings chat) :
    acceptedTexts polling.events =
      if passesGate settings chat then chat.items.filterMap fun item =>
        if IsCustomerText settings chat item.2 then
          some (acceptedIn chat (pollingGroup chat) item)
        else none
      else [] := by
  have h := polling.polled
  unfold pollChat at h
  rw [chat.hasGroups] at h
  obtain ⟨_, hgroups, h⟩ := bind_eq_ok.mp h
  cases hgroups
  unfold passesGate
  split at h
  · rename_i hgate
    rw [if_pos hgate]
    obtain ⟨payloads, hpayloads, h⟩ := bind_eq_ok.mp h
    obtain ⟨results, hresults, h⟩ := bind_eq_ok.mp h
    have hevents := Except.ok.inj h
    rw [← hevents, acceptedTexts, List.filterMap_filterMap]
    have hread : results.filterMap (fun result => result.event?.bind
        NormalizedEvent.acceptedText?) = payloads.filterMap (polledFrom rt settings) :=
      filterMap_of_mapM_ok hresults fun payload _ result hresult =>
        (polledFrom_of_ok hresult).symm
    rw [hread]
    unfold extractPollingEventsFromChatDetail at hpayloads
    rw [chat.hasGroups, chat.hasUsers, itemsOrEmpty_arr, pollingThreads_fields] at hpayloads
    obtain ⟨_, hgroupIds, hpayloads⟩ := bind_eq_ok.mp hpayloads
    cases hgroupIds
    obtain ⟨_, hlisted, hpayloads⟩ := bind_eq_ok.mp hpayloads
    cases hlisted
    rw [usersWithId_users] at hpayloads
    obtain ⟨_, husers, hpayloads⟩ := bind_eq_ok.mp hpayloads
    cases husers
    obtain ⟨_, hthreads, hpayloads⟩ := bind_eq_ok.mp hpayloads
    cases hthreads
    obtain ⟨lists, hlists, hpayloads⟩ := bind_eq_ok.mp hpayloads
    have hflat := Except.ok.inj hpayloads
    subst hflat
    rw [List.mapM_map] at hlists
    rw [LivechatChat.items, List.filterMap_flatMap]
    apply flatMap_of_mapM_ok hlists
    intro thread _ payloads hmem hthread
    have hnormalized : ∀ payload ∈ payloads, ∃ result,
        normalizeIngressEvent rt settings payload = .ok result := by
      intro payload hpayload
      obtain ⟨result, -, hresult⟩ := mapM_ok_of_mem hresults
        (List.mem_flatten.mpr ⟨payloads, hmem, hpayload⟩)
      exact ⟨result, hresult⟩
    rw [List.filterMap_map]
    rw [← chat.hasUsers] at hthread
    exact polledFrom_threadPayloads hthread hnormalized
  · rename_i hgate
    rw [if_neg hgate, ← Except.ok.inj h]
    rfl

/-- Polling marks no conversation as taken over. -/
theorem unmarked_of_polling (polling : PollingRun settings chat) :
    ∀ event ∈ polling.events, getKey event.payloadJson "human_agent_public_reply" = .null := by
  intro event hmem
  have h := polling.polled
  unfold pollChat at h
  obtain ⟨groupIds, -, h⟩ := bind_eq_ok.mp h
  split at h
  · obtain ⟨payloads, hpayloads, h⟩ := bind_eq_ok.mp h
    obtain ⟨results, hresults, h⟩ := bind_eq_ok.mp h
    rw [← Except.ok.inj h, List.mem_filterMap] at hmem
    obtain ⟨result, hresult, hevent⟩ := hmem
    obtain ⟨payload, hpayload, hnormalized⟩ := mem_mapM_ok hresults hresult
    have hmark : getKey payload "human_agent_public_reply" = .null := by
      unfold extractPollingEventsFromChatDetail at hpayloads
      obtain ⟨_, -, hpayloads⟩ := bind_eq_ok.mp hpayloads
      obtain ⟨_, -, hpayloads⟩ := bind_eq_ok.mp hpayloads
      obtain ⟨_, -, hpayloads⟩ := bind_eq_ok.mp hpayloads
      obtain ⟨_, -, hpayloads⟩ := bind_eq_ok.mp hpayloads
      obtain ⟨lists, hlists, hpayloads⟩ := bind_eq_ok.mp hpayloads
      rw [← Except.ok.inj hpayloads, List.mem_flatten] at hpayload
      obtain ⟨list, hlist, hpayload⟩ := hpayload
      obtain ⟨thread, -, hthread⟩ := mem_mapM_ok hlists hlist
      unfold threadPayloads at hthread
      obtain ⟨_, -, hthread⟩ := bind_eq_ok.mp hthread
      obtain ⟨_, -, hthread⟩ := bind_eq_ok.mp hthread
      obtain ⟨_, -, hthread⟩ := bind_eq_ok.mp hthread
      rw [← Except.ok.inj hthread, List.mem_append] at hpayload
      rcases hpayload with hintro | hkept
      · split at hintro
        · rw [List.mem_singleton] at hintro
          rw [hintro]
          simp [pollingPayload, getKey, Dict.ofList]
        · cases hintro
      · obtain ⟨fields, -, hfields⟩ := List.mem_map.mp hkept
        rw [← hfields]
        simp [pollingPayload, getKey, Dict.ofList]
    cases result with
    | dropped reason => cases hevent
    | event kept =>
        cases hevent
        obtain ⟨-, -, -, -, -, -, hkept⟩ := normalizeIngressEvent_eq_event hnormalized
        exact getKey_humanAgent_normalized hmark hkept
  · rw [← Except.ok.inj h] at hmem
    cases hmem

end Polling

/-! ## When the ingresses agree -/

section Agreement

/-- The groups with a platform among which the webhook chooses: those of the chat and of its
threads that are allowed. -/
def webhookGroups (settings : LivechatSettings) (chat : LivechatChat rt) : Set Int :=
  {groupId | groupId ∈ platformGroups chat.allGroupIds ∧
    (settings.allowedGroupIds = [] ∨ groupId ∈ settings.allowedGroupIds)}

/-- Where the chat passes the gate, the least group with a platform of the chat is also the least
one of the webhook's; elsewhere the webhook has none. -/
def GroupsAgree (settings : LivechatSettings) (chat : LivechatChat rt) : Prop :=
  if passesGate settings chat then
    ∃ groupId, IsLeast (platformGroups chat.groupIds) groupId ∧
      IsLeast (webhookGroups settings chat) groupId
  else webhookGroups settings chat = ∅

theorem platformGroups_webhook (settings : LivechatSettings) (chat : LivechatChat rt) :
    platformGroups (if settings.allowedGroupIds.isEmpty then chat.allGroupIds
      else chat.allGroupIds.filter (· ∈ settings.allowedGroupIds)) =
        webhookGroups settings chat := by
  ext groupId
  by_cases hallowed : settings.allowedGroupIds = []
  · simp [platformGroups, webhookGroups, hallowed]
  · simp [platformGroups, webhookGroups, hallowed]
    tauto

theorem webhookGroup_eq_none_iff (settings : LivechatSettings) (chat : LivechatChat rt) :
    webhookGroup settings chat = none ↔ webhookGroups settings chat = ∅ := by
  rw [webhookGroup, platformContext, firstPlatform_sortedSet_eq_none_iff, platformGroups_webhook]

/-- Both choose the same group exactly when their least groups are the same. -/
theorem webhookGroup_eq_pollingGroup_iff (settings : LivechatSettings) (chat : LivechatChat rt) :
    (webhookGroup settings chat).isSome ∧ webhookGroup settings chat = pollingGroup chat ↔
      ∃ groupId, IsLeast (platformGroups chat.groupIds) groupId ∧
        IsLeast (webhookGroups settings chat) groupId := by
  constructor
  · rintro ⟨hsome, hsame⟩
    obtain ⟨⟨groupId, platform⟩, hgroup⟩ := Option.isSome_iff_exists.mp hsome
    have hpolling := hgroup
    rw [hsame] at hpolling
    rw [webhookGroup, platformContext, firstPlatform_sortedSet_eq_some_iff,
      platformGroups_webhook] at hgroup
    exact ⟨groupId, (firstPlatform_sortedSet_eq_some_iff.mp hpolling).2, hgroup.2⟩
  · rintro ⟨groupId, hpolling, hwebhook⟩
    obtain ⟨platform, hplatform⟩ := Option.isSome_iff_exists.mp hpolling.1.2
    have hchosen : webhookGroup settings chat = some (groupId, platform) := by
      rw [webhookGroup, platformContext, firstPlatform_sortedSet_eq_some_iff,
        platformGroups_webhook]
      exact ⟨hplatform, hwebhook⟩
    have hpolled : pollingGroup chat = some (groupId, platform) :=
      firstPlatform_sortedSet_eq_some_iff.mpr ⟨hplatform, hpolling⟩
    rw [hchosen, hpolled]
    exact ⟨rfl, rfl⟩

/-- No message of a customer is listed twice, in one thread or with its thread. -/
def ListedOnce (settings : LivechatSettings) (chat : LivechatChat rt) : Prop :=
  ((customerItems settings chat).map fun item => (item.1.id, item.2.id)).Nodup

theorem filterMap_customers {γ : Type} (accept : ChatThread rt × ChatText → γ) :
    (chat.items.filterMap fun item =>
        if IsCustomerText settings chat item.2 then some (accept item) else none) =
      (customerItems settings chat).map accept := by
  unfold customerItems
  induction chat.items with
  | nil => rfl
  | cons item rest ih =>
      by_cases hcustomer : IsCustomerText settings chat item.2
      · simp [hcustomer, ih]
      · simp [hcustomer, ih]

theorem acceptedTexts_webhook_eq (webhook : WebhookRun settings chat) :
    acceptedTexts webhook.events =
      if (webhookGroup settings chat).isSome then
        (customerItems settings chat).map (acceptedIn chat (webhookGroup settings chat))
      else [] := by
  rw [acceptedTexts_webhook]
  split
  · rename_i hgroup
    rw [← filterMap_customers]
    simp [hgroup]
  · rename_i hgroup
    simp [hgroup]

theorem acceptedTexts_polling_eq (polling : PollingRun settings chat) :
    acceptedTexts polling.events =
      if passesGate settings chat then
        (customerItems settings chat).map (acceptedIn chat (pollingGroup chat))
      else [] := by
  rw [acceptedTexts_polling, filterMap_customers]

/-- A message tells by which group it was accepted. -/
theorem acceptedIn_injective {group other : Option (Int × String)}
    {item : ChatThread rt × ChatText} (h : acceptedIn chat group item = acceptedIn chat other item) :
    group = other := by
  have hplatform := congrArg AcceptedText.platform h
  have hgroup := congrArg AcceptedText.livechatGroupId h
  cases group with
  | none =>
      cases other with
      | none => rfl
      | some other => cases hplatform
  | some group =>
      cases other with
      | none => cases hplatform
      | some other =>
          have hid : group.1 = other.1 := Json.int.inj hgroup
          have hname : group.2 = other.2 := Json.str.inj hplatform
          rw [Prod.ext hid hname]

/-- The ingresses accept the same messages exactly when there are none of a customer or the
groups agree. -/
theorem acceptedTexts_eq_iff (webhook : WebhookRun settings chat)
    (polling : PollingRun settings chat) :
    acceptedTexts webhook.events = acceptedTexts polling.events ↔
      customerItems settings chat = [] ∨ GroupsAgree settings chat := by
  rw [acceptedTexts_webhook_eq, acceptedTexts_polling_eq, GroupsAgree,
    ← webhookGroup_eq_pollingGroup_iff, ← webhookGroup_eq_none_iff]
  cases hitems : customerItems settings chat with
  | nil => simp
  | cons item rest =>
      by_cases hgate : passesGate settings chat = true
      · rw [if_pos hgate, if_pos hgate]
        by_cases hgroup : (webhookGroup settings chat).isSome = true
        · rw [if_pos hgroup]
          constructor
          · intro hsame
            right
            exact ⟨hgroup, acceptedIn_injective (List.cons.inj hsame).1⟩
          · rintro (hnone | ⟨-, hsame⟩)
            · cases hnone
            · rw [hsame]
        · simp [hgroup]
      · rw [if_neg hgate, if_neg hgate]
        cases hgroup : webhookGroup settings chat with
        | none => simp
        | some group => simp

end Agreement

/-! ## A human agent who answers -/

/-- What an agent has written. -/
def agentAnswer : ChatText where
  fields := .ofList [("id", .str "E"), ("type", .str "message"), ("author_id", .str "agent7"),
    ("created_at", .str "2026-01-01T00:00:00Z")]
  id := "E"
  type := "message"
  author := "agent7"
  createdAt := "2026-01-01T00:00:00Z"
  isText := Or.inl rfl
  hasId := rfl
  hasType := rfl
  hasAuthor := rfl
  hasCreatedAt := rfl
  untyped := rfl
  plainId := ⟨by decide, by decide +kernel⟩
  plainAuthor := ⟨by decide, by decide +kernel⟩
  plainCreatedAt := ⟨by decide, by decide +kernel⟩

def answeredThread : ChatThread .plain where
  fields := .ofList [("id", .str "T"), ("events", .arr [.obj agentAnswer.fields])]
  id := "T"
  events := [.text agentAnswer]
  groupIds := []
  hasId := rfl
  hasEvents := rfl
  hasGroups := rfl
  plainId := ⟨by decide, by decide +kernel⟩

def agentUser : ChatUser where
  fields := .ofList [("id", .str "agent7"), ("type", .str "agent")]
  id := "agent7"
  type := some "agent"
  hasId := rfl
  hasType := rfl

/-- A chat of the official group in which a human agent has written. -/
def answeredChat : LivechatChat .plain where
  fields := .ofList [("id", .str "C"), ("group_id", .int 28),
    ("users", .arr [.obj agentUser.fields]), ("thread", .obj answeredThread.fields),
    ("threads", .arr [])]
  id := "C"
  users := [agentUser]
  thread := some answeredThread
  activeThread := none
  listed := []
  groupIds := [28]
  hasId := rfl
  hasUsers := rfl
  noChatUsers := rfl
  hasThread := rfl
  hasActiveThread := rfl
  hasThreads := rfl
  hasGroups := by rfl
  printedGroups := by decide +kernel
  plainId := ⟨by decide, by decide +kernel⟩
  distinctUsers := by decide

/-- The webhook that carries the chat. -/
def answeredBody : JsonObject :=
  .ofList [("action", .str "incoming_chat"), ("secret_key", .str "secret"),
    ("payload", .obj (chatPayload answeredChat))]

end AiCustomerService
