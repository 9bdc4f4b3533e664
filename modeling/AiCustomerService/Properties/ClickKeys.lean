import AiCustomerService.Channels.LivechatNormalizer

/-!
# Clicks on the buttons of rich messages

A click is stored once under its key.  The key holds the id of `payload.event`, or of
`payload.postback` where there is no event, before it holds `payload.event_id`; the postback
object carries the id of the button, so that two clicks on one button of two messages share
a key.
-/

namespace AiCustomerService

open Support

/-- A click that was delivered and normalised. -/
structure Click (rt : LivechatRuntime) (settings : LivechatSettings) where
  body : JsonObject
  client : LookupClient
  event : NormalizedEvent
  action : actionOf rt.toRuntime body = "incoming_rich_message_postback"
  normalized : normalizeWebhookPayload rt settings client (.obj body) = .ok [event]

variable {rt : LivechatRuntime} {settings : LivechatSettings}

/-- `payload.event_id`: the rich message that was clicked. -/
def Click.messageId (click : Click rt settings) : Option String :=
  firstText rt.toRuntime [getKey (payloadOf click.body) "event_id"]

/-- The id of `payload.event`, or of `payload.postback` where there is no event. -/
def Click.objectId (click : Click rt settings) : Option String :=
  firstText rt.toRuntime [getKey (extractEvent (payloadOf click.body)) "id"]

/-- Both clicks were made in one thread of one chat. -/
def Click.SameThread (first second : Click rt settings) : Prop :=
  ∃ chatId threadId,
    first.event.chatId = some chatId ∧ second.event.chatId = some chatId ∧
      first.event.threadId = some threadId ∧ second.event.threadId = some threadId

/-- The second delivery repeats the webhook of the first. -/
def Click.IsRetryOf (second first : Click rt settings) : Prop :=
  second.body = first.body ∧ second.client.given = first.client.given

/-- The event of a click is built from the postback arguments. -/
theorem Click.builtFrom (click : Click rt settings) :
    BuiltFrom rt settings click.body
      (postbackArgs rt.toRuntime click.body (payloadOf click.body)) ⟨click.client.given, none⟩
      click.event := by
  obtain ⟨lookup, hlookup, hevents⟩ := normalizeWebhookPayload_eq_ok click.normalized
  have haction : (getKey click.body "action").eqText "incoming_event" = false := by
    have htext := click.action
    cases hvalue : getKey click.body "action" with
    | str s =>
        rw [actionOf, hvalue] at htext
        by_cases hs : s = ""
        · rw [hs]
          decide
        · have hs' : s = "incoming_rich_message_postback" := by
            simpa [Json.textOrEmpty, Json.orElse, hs, Json.pyStr] using htext
          rw [hs']
          decide
    | null => rfl
    | bool b => rfl
    | int n => rfl
    | float value repr => rfl
    | arr items => rfl
    | obj fields => rfl
  have hlookup' := lookUp_of_other_action haction hlookup
  subst hlookup'
  have hargs : eventArgs rt settings click.body =
      .ok [postbackArgs rt.toRuntime click.body (payloadOf click.body)] := by
    simp [eventArgs, click.action]
  obtain ⟨args, hargs', hbuilt⟩ := bind_eq_ok.mp hevents
  rw [hargs] at hargs'
  rw [← Except.ok.inj hargs', List.mapM_cons, List.mapM_nil] at hbuilt
  obtain ⟨event, hevent, hbuilt⟩ := bind_eq_ok.mp hbuilt
  have hsame : event = click.event := by
    have hlist := Except.ok.inj hbuilt
    exact List.head_eq_of_cons_eq hlist
  rw [← hsame]
  exact buildEvent_builtFrom hevent

/-- The event object of a click is the one of the payload, with what was found added. -/
theorem eventOf_postbackArgs (body : JsonObject) :
    (postbackArgs rt.toRuntime body (payloadOf body)).eventOf =
      postbackEvent rt.toRuntime (payloadOf body) (extractEvent (payloadOf body))
        (extractPostback (payloadOf body) (extractEvent (payloadOf body))) := by
  have hfilled : (postbackEvent rt.toRuntime (payloadOf body) (extractEvent (payloadOf body))
      (extractPostback (payloadOf body) (extractEvent (payloadOf body)))).isEmpty = false := by
    have hkey : (postbackEvent rt.toRuntime (payloadOf body) (extractEvent (payloadOf body))
        (extractPostback (payloadOf body) (extractEvent (payloadOf body)))).get? "postback" =
          some (.obj (extractPostback (payloadOf body) (extractEvent (payloadOf body)))) := by
      simp [postbackEvent, Dict.ofList]
    exact Dict.isEmpty_eq_false_of_get? hkey
  simp [EventArgs.eventOf, postbackArgs, orDict, hfilled]

theorem eventId_postbackArgs (body : JsonObject) :
    (postbackArgs rt.toRuntime body (payloadOf body)).eventId rt.toRuntime body =
      firstText rt.toRuntime
        [getKey (extractEvent (payloadOf body)) "id", getKey (payloadOf body) "event_id",
          getKey body "webhook_id"] := by
  have hid : getKey (postbackArgs rt.toRuntime body (payloadOf body)).eventOf "id" =
      getKey (extractEvent (payloadOf body)) "id" := by
    rw [eventOf_postbackArgs]
    simp [getKey, postbackEvent, Dict.ofList]
  have hmessage : getKey (postbackArgs rt.toRuntime body (payloadOf body)).payload "event_id" =
      getKey (payloadOf body) "event_id" := by
    simp [getKey, postbackArgs, postbackPayload, Dict.ofList]
  rw [EventArgs.eventId, hid, hmessage]

/-- The event id of a click is the id of its object, or the message that was clicked. -/
theorem Click.eventId_eq {click : Click rt settings} {messageId : String}
    (hmessage : click.messageId = some messageId) :
    click.event.eventId = some (click.objectId.getD messageId) := by
  have hid := click.builtFrom.eventId
  rw [eventId_postbackArgs] at hid
  have happend := firstText_append rt.toRuntime [getKey (extractEvent (payloadOf click.body)) "id"]
    [getKey (payloadOf click.body) "event_id", getKey click.body "webhook_id"]
  have htail := firstText_append rt.toRuntime [getKey (payloadOf click.body) "event_id"]
    [getKey click.body "webhook_id"]
  rw [List.cons_append, List.nil_append] at happend htail
  rw [hid, happend, htail]
  rw [Click.messageId] at hmessage
  rw [hmessage, Click.objectId]
  cases firstText rt.toRuntime [getKey (extractEvent (payloadOf click.body)) "id"] with
  | none => rfl
  | some objectId => rfl

theorem Click.eventId_ne_empty {click : Click rt settings} {eventId : String}
    (h : click.event.eventId = some eventId) : eventId ≠ "" := by
  have hid := click.builtFrom.eventId
  rw [h] at hid
  exact firstText_ne_empty hid.symm

/-- Two clicks of one thread share a key exactly when they have one event id. -/
theorem Click.dedupKey_eq_iff {first second : Click rt settings} {m₁ m₂ : String}
    (hthread : first.SameThread second) (h₁ : first.messageId = some m₁)
    (h₂ : second.messageId = some m₂) :
    first.event.dedupKey = second.event.dedupKey ↔
      first.objectId.getD m₁ = second.objectId.getD m₂ := by
  obtain ⟨chatId, threadId, hc₁, hc₂, ht₁, ht₂⟩ := hthread
  have hchat : chatId ≠ "" := by
    have hid := first.builtFrom.chatId
    rw [hc₁] at hid
    exact firstText_ne_empty hid.symm
  have hthread : threadId ≠ "" := by
    obtain ⟨thread, -, hid, -⟩ := first.builtFrom.threadId
    rw [ht₁] at hid
    exact firstText_ne_empty hid.symm
  have he₁ := Click.eventId_eq h₁
  have he₂ := Click.eventId_eq h₂
  rw [first.builtFrom.dedupKey, second.builtFrom.dedupKey, hc₁, hc₂, ht₁, ht₂, he₁, he₂,
    first.action, second.action]
  exact eventKey_eq_iff hchat hthread (Click.eventId_ne_empty he₁) (Click.eventId_ne_empty he₂) _ _

/-- A retry has the key of the first delivery. -/
theorem Click.dedupKey_of_retry {first retry : Click rt settings} (h : retry.IsRetryOf first) :
    retry.event.dedupKey = first.event.dedupKey := by
  obtain ⟨hbody, hgiven⟩ := h
  have hfirst := first.builtFrom
  have hretry := retry.builtFrom
  rw [hbody, hgiven] at hretry
  obtain ⟨thread, hthread, hid, -⟩ := hfirst.threadId
  obtain ⟨thread', hthread', hid', -⟩ := hretry.threadId
  rw [hthread] at hthread'
  rw [← Except.ok.inj hthread'] at hid'
  rw [hretry.dedupKey, hfirst.dedupKey, hretry.chatId, hfirst.chatId, hid, hid', hretry.eventId,
    hfirst.eventId]

/-- The claim about two clicks: different messages give different keys, and a retry gives the
key again. -/
def Click.KeysTellApart (first second : Click rt settings) : Prop :=
  first.event.dedupKey ≠ second.event.dedupKey ∧
    ∀ retry : Click rt settings, retry.IsRetryOf first →
      retry.event.dedupKey = first.event.dedupKey

/-- Clicks of a thread are told apart exactly when the first id found in the event object, or
else in the payload, differs. -/
theorem clicks_told_apart_iff {first second : Click rt settings} {m₁ m₂ : String}
    (hthread : first.SameThread second) (h₁ : first.messageId = some m₁)
    (h₂ : second.messageId = some m₂) :
    first.KeysTellApart second ↔ first.objectId.getD m₁ ≠ second.objectId.getD m₂ := by
  constructor
  · intro happart
    exact fun hids => happart.1 ((Click.dedupKey_eq_iff hthread h₁ h₂).mpr hids)
  · intro hids
    refine ⟨fun hkeys => hids ((Click.dedupKey_eq_iff hthread h₁ h₂).mp hkeys), ?_⟩
    intro retry hretry
    exact Click.dedupKey_of_retry hretry

/-! ## Two clicks on one button -/

/-- The body of a click. -/
def clickBody (messageId : String) (object : String × Json) : JsonObject :=
  .ofList [
    ("action", .str "incoming_rich_message_postback"),
    ("secret_key", .str "secret"),
    ("payload", .obj (.ofList [
      ("chat_id", .str "C"), ("thread_id", .str "T"), ("event_id", .str messageId),
      ("group_id", .int 28), object]))]

/-- A click whose body is accepted. -/
def Click.ofBody (body : JsonObject)
    (haction : actionOf LivechatRuntime.plain.toRuntime body = "incoming_rich_message_postback")
    (h : (onlyEvent? (normalizeWebhookPayload .plain .plain .absent (.obj body))).isSome) :
    Click .plain .plain where
  body := body
  client := .absent
  event := (onlyEvent? (normalizeWebhookPayload .plain .plain .absent (.obj body))).get h
  action := haction
  normalized := eq_ok_of_onlyEvent? h

/-- A click on the button `menu`, delivered as `payload.postback` without an event. -/
def menuClick (messageId : String)
    (h : (onlyEvent? (normalizeWebhookPayload .plain .plain .absent
      (.obj (clickBody messageId ("postback", .obj (.ofList [("id", .str "menu")])))))).isSome) :
    Click .plain .plain :=
  Click.ofBody (clickBody messageId ("postback", .obj (.ofList [("id", .str "menu")]))) rfl h

/-- A click that is delivered with an event of its own. -/
def eventClick (messageId eventId : String)
    (h : (onlyEvent? (normalizeWebhookPayload .plain .plain .absent
      (.obj (clickBody messageId ("event", .obj (.ofList [("id", .str eventId)])))))).isSome) :
    Click .plain .plain :=
  Click.ofBody (clickBody messageId ("event", .obj (.ofList [("id", .str eventId)]))) rfl h

/-- Clicks on one button of the messages `M1` and `M2` share a key. -/
theorem menu_clicks_share_a_key :
    ∃ first second : Click .plain .plain,
      first.SameThread second ∧ first.messageId = some "M1" ∧ second.messageId = some "M2" ∧
        ¬first.KeysTellApart second := by
  refine ⟨menuClick "M1" (by decide +kernel), menuClick "M2" (by decide +kernel),
    ⟨"C", "T", ?_⟩, ?_, ?_, ?_⟩
  · decide +kernel
  · decide +kernel
  · decide +kernel
  · intro happart
    refine absurd ?_ happart.1
    decide +kernel

theorem event_clicks_are_told_apart :
    (eventClick "M1" "E1" (by decide +kernel)).KeysTellApart
      (eventClick "M2" "E2" (by decide +kernel)) := by
  apply (@clicks_told_apart_iff _ _ _ _ "M1" "M2" ⟨"C", "T", ?_⟩ ?_ ?_).mpr
  · decide +kernel
  · decide +kernel
  · decide +kernel
  · decide +kernel

end AiCustomerService
