import AiCustomerService.Channels.LivechatWebhook

/-!
# Normalising a webhook body

`normalize_webhook_payload_async`: validation, the lookups and one handler for each action.
A handler lists what it hands to `_build_event`.
-/

namespace AiCustomerService

open Support

/-! ## Validation -/

/-- `_validate_body`. -/
def validateBody (rt : Runtime) (body : Json) : Except WebhookError JsonObject :=
  match body with
  | .obj fields =>
      if strip (actionOf rt fields) = "" then .error (.payload "webhook action is required")
      else
        match getKey fields "payload" with
        | .null => .ok fields
        | .obj _ => .ok fields
        | _ => .error (.payload "webhook payload must be an object")
  | _ => .error (.payload "webhook body must be a JSON object")

/-- `_validate_secret`; `compare_digest` takes ASCII texts only. -/
def validateSecret (rt : Runtime) (settings : LivechatSettings) (body : JsonObject) :
    Except WebhookError Unit :=
  if settings.webhookSecret = "" then
    .error (.auth "livechat webhook secret is not configured")
  else if (getKey body "secret_key").isNull || (getKey body "secret_key").pyStr rt = "" then
    .error (.auth "webhook secret_key is missing")
  else if ((getKey body "secret_key").pyStr rt ++ settings.webhookSecret).toList.any
      fun c => decide (127 < c.toNat) then
    .error (.python (.typeError "comparing strings with non-ASCII characters is not supported"))
  else if (getKey body "secret_key").pyStr rt ≠ settings.webhookSecret then
    .error (.auth "webhook secret_key does not match")
  else .ok ()

/-! ## Lookups -/

/-- `_needs_chat_lookup`. -/
def needsChatLookup (rt : LivechatRuntime) (settings : LivechatSettings) (body : JsonObject) :
    Except PyError Bool :=
  if !(getKey body "action").eqText "incoming_event" || settings.allowedGroupIds.isEmpty then
    .ok false
  else do
    let groupIds ← extractGroupIdsFromPayload rt (payloadOf body)
    return groupIds.isEmpty

/-- The sources that may list the users of the chat. -/
def userSources (payload : JsonObject) (lookup : Option JsonObject) : List JsonObject :=
  payload :: ((extractChat payload).toList ++ lookup.toList)

/-- `_needs_author_lookup`. -/
def needsAuthorLookup (rt : Runtime) (body : JsonObject) (lookup : Option JsonObject) : Bool :=
  (getKey body "action").eqText "incoming_event" &&
    (firstText rt
      [getKey (extractEvent (payloadOf body)) "author_id",
        getKey (payloadOf body) "author_id"]).isSome &&
    (directAuthorType rt (payloadOf body)).isNone &&
    !(userSources (payloadOf body) lookup).any fun source => (usersOf source).truthy

/-- The chat is asked for because the body names no group. -/
def lookUpGroups (rt : LivechatRuntime) (settings : LivechatSettings) (client : LookupClient)
    (body : JsonObject) : Except PyError (ChatLookup × Nat) := do
  let needed ← needsChatLookup rt settings body
  if !needed || (client.getChat.isNone && client.resolver.isNone) then
    return (⟨client.given, none⟩, 0)
  match extractChatId rt.toRuntime (payloadOf body) with
  | none => return (⟨client.given, none⟩, 0)
  | some chatId =>
      let resolved ←
        match client.given, client.resolver with
        | none, some resolve => resolve chatId
        | given, _ => pure given
      match resolved, client.getChat with
      | none, some getChat =>
          match getChat 0 chatId with
          | .ok chat => return (⟨some chat, none⟩, 1)
          | .error failure => return (⟨none, some failure.record⟩, 1)
      | chat, _ => return (⟨chat, none⟩, 0)

/-- The chat is asked for because nothing tells the type of the author. -/
def lookUpAuthor (rt : Runtime) (client : LookupClient) (body : JsonObject)
    (lookup : ChatLookup × Nat) : ChatLookup :=
  match client.getChat, extractChatId rt (payloadOf body) with
  | some getChat, some chatId =>
      if needsAuthorLookup rt body lookup.1.chat then
        match getChat lookup.2 chatId with
        | .ok detailed => ⟨some ((lookup.1.chat.getD ∅).merge detailed), lookup.1.error⟩
        | .error failure => ⟨lookup.1.chat, some failure.record⟩
      else lookup.1
  | _, _ => lookup.1

/-- The lookups of a webhook. -/
def lookUp (rt : LivechatRuntime) (settings : LivechatSettings) (client : LookupClient)
    (body : JsonObject) : Except PyError ChatLookup := do
  let lookup ← lookUpGroups rt settings client body
  return lookUpAuthor rt.toRuntime client body lookup

/-! ## Handlers -/

/-- `_standard_event_type`. -/
def standardEventType (type : Json) : String :=
  if type.eqText "message" then "MESSAGE_CREATED"
  else if type.eqText "file" then "FILE_RECEIVED"
  else "UNSUPPORTED"

/-- `type in {"message", "file"}`. -/
def isMessageOrFile (type : Json) : Except PyError Bool := type.inTexts ["message", "file"]

/-- The dictionaries of a list whose type is message or file. -/
def messageOrFileEvents : List Json → Except PyError (List JsonObject)
  | [] => .ok []
  | .obj event :: rest => do
      let kept ← isMessageOrFile (getKey event "type")
      let others ← messageOrFileEvents rest
      return if kept then event :: others else others
  | _ :: rest => messageOrFileEvents rest

/-- The message and file events of a thread. -/
def threadEvents (thread : JsonObject) : Except PyError (List JsonObject) := do
  let events ← (getKey thread "events").itemsOrEmpty
  messageOrFileEvents events

/-- The message and file events of a chat, each with its thread. -/
def chatEvents (threads : List JsonObject) : Except PyError (List (JsonObject × JsonObject)) := do
  let events ← threads.mapM fun thread => do
    let events ← threadEvents thread
    return events.map (thread, ·)
  return events.flatten

/-- `users_by_id`, as the users with an id. -/
def usersWithId (rt : Runtime) : List Json → Except PyError (List (String × JsonObject))
  | [] => .ok []
  | .obj user :: rest => do
      let others ← usersWithId rt rest
      return if (getKey user "id").isNull then others
        else others ++ [((getKey user "id").pyStr rt, user)]
  | _ :: _ => .error (.attributeError "object has no attribute 'get'")

/-- The loop of `_should_emit_chat_started_intro`: no event by anybody but agents and the
bot, and none by a human agent. -/
def onlySelfEvents (rt : Runtime) (settings : LivechatSettings) (users : List (String × JsonObject))
    (humanAgent : Bool) : List JsonObject → Bool
  | [] => !humanAgent
  | event :: rest =>
      let authorId := (getKey event "author_id").textOrEmpty rt
      if authorId ∈ settings.selfAuthorIds then onlySelfEvents rt settings users humanAgent rest
      else
        match users.lookup authorId with
        | some user =>
            if !user.isEmpty && rt.lower ((getKey user "type").textOrEmpty rt) = "agent" then
              onlySelfEvents rt settings users true rest
            else false
        | none => false

/-- `_should_emit_chat_started_intro`. -/
def shouldEmitChatStartedIntro (rt : LivechatRuntime) (settings : LivechatSettings)
    (chat : JsonObject) : Except PyError Bool := do
  let threads ← threadsOf chat
  let events ← chatEvents threads
  if events.isEmpty then return true
  let listed ← (usersOf chat).itemsOrEmpty
  let users ← usersWithId rt.toRuntime listed
  return onlySelfEvents rt.toRuntime settings users false (events.map Prod.snd)

/-- The event of a chat that has just started. -/
def chatStartedEvent (rt : Runtime) (chat thread payload : JsonObject) : JsonObject :=
  .ofList [
    ("id", .str ("chat_started:" ++ textOrDash (chatIdOf rt chat payload) ++ ":" ++
      textOrDash (threadIdOf rt thread payload))),
    ("type", .str "chat_started"),
    ("created_at", (getKey chat "created_at").orElse (getKey thread "created_at")),
    ("author_id", .null)]

/-- What `_normalize_incoming_chat` builds for the start of the chat. -/
def introArgs (payload chat thread event : JsonObject) : EventArgs where
  payload := payload.set "event" (.obj event)
  standardEventType := "CHAT_STARTED"
  eventType := .str "chat_started"
  ignored := false
  ignoreReason := none
  chat := some chat
  thread := some thread
  event := some event

/-- What `_normalize_incoming_chat` builds for an event of a thread. -/
def chatEventArgs (payload chat : JsonObject) (item : JsonObject × JsonObject) : EventArgs where
  payload := payload.set "event" (.obj item.2)
  standardEventType := standardEventType (getKey item.2 "type")
  eventType := getKey item.2 "type"
  ignored := false
  ignoreReason := none
  chat := some chat
  thread := some item.1
  event := some item.2

/-- The chat of an incoming chat: `payload.chat`, or the payload itself. -/
def incomingChat (payload : JsonObject) : JsonObject := (extractChat payload).getD payload

/-- `_normalize_incoming_chat`, as the arguments of its calls of `_build_event`. -/
def incomingChatArgs (rt : LivechatRuntime) (settings : LivechatSettings) (payload : JsonObject) :
    Except PyError (List EventArgs) := do
  let chat := incomingChat payload
  let thread ← primaryThread chat
  let intro ← shouldEmitChatStartedIntro rt settings chat
  let threads ← threadsOf chat
  let events ← chatEvents threads
  let started :=
    if intro then
      [introArgs payload chat thread (chatStartedEvent rt.toRuntime chat thread payload)]
    else []
  return started ++ events.map (chatEventArgs payload chat)

/-- `_normalize_incoming_event`. -/
def incomingEventArgs (payload : JsonObject) : Except PyError EventArgs := do
  let event := extractEvent payload
  let supported ← isMessageOrFile (getKey event "type")
  return {
    payload := payload
    standardEventType := standardEventType (getKey event "type")
    eventType := getKey event "type"
    ignored := !supported
    ignoreReason := if supported then none else some "unsupported_event_type"
    chat := none
    thread := none
    event := some event }

/-- `button_id` of a click. -/
def buttonId (rt : Runtime) (payload event postback : JsonObject) : Option String :=
  firstText rt
    [getKey payload "button_id", getKey payload "postback_id", getKey event "button_id",
      getKey event "postback_id", getKey postback "id"]

/-- The event of a click, with what was found about the button. -/
def postbackEvent (rt : Runtime) (payload event postback : JsonObject) : JsonObject :=
  let button := .ofText? (buttonId rt payload event postback)
  event.merge (.ofList [
    ("type", (getKey event "type").orElse (.str "message")),
    ("button_id", button),
    ("postback_id", .ofText? (firstText rt
      [getKey event "postback_id", getKey payload "postback_id", button])),
    ("postback", .obj postback)])

/-- `normalized_payload` of a click. -/
def postbackPayload (rt : Runtime) (body payload : JsonObject) : JsonObject :=
  let event := extractEvent payload
  let postback := extractPostback payload event
  let button := .ofText? (buttonId rt payload event postback)
  payload.merge (.ofList [
    ("button_id", button),
    ("postback_id", .ofText? (firstText rt
      [getKey payload "postback_id", getKey event "postback_id", button])),
    ("postback", .obj postback),
    ("event", .obj (postbackEvent rt payload event postback)),
    ("webhook_body", .obj body)])

/-- `_normalize_postback`. -/
def postbackArgs (rt : Runtime) (body payload : JsonObject) : EventArgs where
  payload := postbackPayload rt body payload
  standardEventType := "MESSAGE_CREATED"
  eventType := .str "rich_message_postback"
  ignored := false
  ignoreReason := none
  chat := none
  thread := none
  event :=
    some (postbackEvent rt payload (extractEvent payload)
      (extractPostback payload (extractEvent payload)))

/-- `_normalize_chat_lifecycle`, and an action that is not supported. -/
def plainArgs (payload : JsonObject) (standard : String) (eventType : Json) (ignored : Bool) :
    EventArgs where
  payload := payload
  standardEventType := standard
  eventType := eventType
  ignored := ignored
  ignoreReason := if ignored then some "unsupported_action" else none
  chat := none
  thread := none
  event := none

/-- `_normalize`, as the arguments of the calls of `_build_event`. -/
def eventArgs (rt : LivechatRuntime) (settings : LivechatSettings) (body : JsonObject) :
    Except PyError (List EventArgs) :=
  let action := actionOf rt.toRuntime body
  let payload := payloadOf body
  if action = "incoming_chat" then incomingChatArgs rt settings payload
  else if action = "incoming_event" then do
    let args ← incomingEventArgs payload
    return [args]
  else if action = "incoming_rich_message_postback" then
    .ok [postbackArgs rt.toRuntime body payload]
  else if action = "chat_deactivated" then
    .ok [plainArgs payload "CHAT_DEACTIVATED" (getKey body "action") false]
  else if action = "chat_transferred" then
    .ok [plainArgs payload "CHAT_TRANSFERRED" (getKey body "action") false]
  else if action = "user_removed_from_chat" then
    .ok [plainArgs payload "USER_REMOVED" (getKey body "action") false]
  else .ok [plainArgs payload "UNSUPPORTED" .null true]

/-- `_normalize`. -/
def normalizeBody (rt : LivechatRuntime) (settings : LivechatSettings) (body : JsonObject)
    (lookup : ChatLookup) : Except PyError (List NormalizedEvent) := do
  let args ← eventArgs rt settings body
  args.mapM fun args => buildEvent rt settings body args lookup

/-- The language's exceptions among those of the webhook. -/
def asWebhookError {α : Type} (result : Except PyError α) : Except WebhookError α :=
  result.mapError .python

/-- `normalize_webhook_payload_async`. -/
def normalizeWebhookPayload (rt : LivechatRuntime) (settings : LivechatSettings)
    (client : LookupClient) (body : Json) : Except WebhookError (List NormalizedEvent) := do
  let fields ← validateBody rt.toRuntime body
  validateSecret rt.toRuntime settings fields
  asWebhookError (do
    let lookup ← lookUp rt settings client fields
    normalizeBody rt settings fields lookup)

/-! ## What is accepted -/

section Accepted

variable {rt : LivechatRuntime} {settings : LivechatSettings} {client : LookupClient}
  {body : JsonObject}

theorem webhook_bind_eq_ok {α β : Type} {x : Except WebhookError α}
    {f : α → Except WebhookError β} {b : β} :
    (x >>= f) = .ok b ↔ ∃ a, x = .ok a ∧ f a = .ok b := by
  cases x with
  | error e => simp [bind, Except.bind]
  | ok a => simp [bind, Except.bind]

theorem asWebhookError_eq_ok {α : Type} {result : Except PyError α} {a : α} :
    asWebhookError result = .ok a ↔ result = .ok a := by
  cases result with
  | error e => simp [asWebhookError, Except.mapError]
  | ok b => simp [asWebhookError, Except.mapError]

theorem validateBody_obj {rt : Runtime} {fields : JsonObject}
    (h : validateBody rt (.obj body) = .ok fields) : fields = body := by
  simp only [validateBody] at h
  split at h
  · cases h
  · split at h
    · exact (Except.ok.inj h).symm
    · exact (Except.ok.inj h).symm
    · cases h

/-- A webhook that was accepted went through the lookups and the handlers. -/
theorem normalizeWebhookPayload_eq_ok {events : List NormalizedEvent}
    (h : normalizeWebhookPayload rt settings client (.obj body) = .ok events) :
    ∃ lookup, lookUp rt settings client body = .ok lookup ∧
      normalizeBody rt settings body lookup = .ok events := by
  obtain ⟨fields, hfields, h⟩ := webhook_bind_eq_ok.mp h
  obtain ⟨-, -, h⟩ := webhook_bind_eq_ok.mp h
  rw [validateBody_obj hfields] at h
  exact bind_eq_ok.mp (asWebhookError_eq_ok.mp h)

/-- Nothing is looked up for another action than an incoming event. -/
theorem lookUp_of_other_action {lookup : ChatLookup}
    (haction : (getKey body "action").eqText "incoming_event" = false)
    (h : lookUp rt settings client body = .ok lookup) : lookup = ⟨client.given, none⟩ := by
  have hneeded : needsChatLookup rt settings body = .ok false := by
    simp [needsChatLookup, haction]
  have hgroups : lookUpGroups rt settings client body = .ok (⟨client.given, none⟩, 0) := by
    rw [lookUpGroups, hneeded]
    rfl
  have hauthor : needsAuthorLookup rt.toRuntime body client.given = false := by
    simp [needsAuthorLookup, haction]
  rw [lookUp, hgroups] at h
  rw [← Except.ok.inj h]
  simp only [lookUpAuthor, hauthor]
  split
  · rfl
  · rfl

end Accepted

/-- The only event of a result. -/
def onlyEvent? (result : Except WebhookError (List NormalizedEvent)) : Option NormalizedEvent :=
  match result with
  | .ok [event] => some event
  | _ => none

theorem eq_ok_of_onlyEvent? {result : Except WebhookError (List NormalizedEvent)}
    (h : (onlyEvent? result).isSome) : result = .ok [(onlyEvent? result).get h] := by
  cases result with
  | error e => cases h
  | ok events =>
      cases events with
      | nil => cases h
      | cons event rest =>
          cases rest with
          | nil => rfl
          | cons second rest => cases h

end AiCustomerService
