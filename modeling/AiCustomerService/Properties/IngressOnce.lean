import AiCustomerService.Channels.InboundEvents

/-!
# One inbound event for one message

The webhook and the polling receiver store a message under keys that begin with their own
name, and the webhook puts the action into the key as well.  A message is therefore stored
once for each path that delivers it, unless the path delivered it as ignored first.
-/

namespace AiCustomerService

open Support

/-- A message or file of a chat, by its three ids. -/
structure EventRef where
  chatId : String
  threadId : String
  eventId : String
  chatId_ne : chatId ≠ ""
  threadId_ne : threadId ≠ ""
  eventId_ne : eventId ≠ ""

/-- The event carries the message or the file. -/
def NormalizedEvent.Carries (event : NormalizedEvent) (ref : EventRef) : Prop :=
  event.chatId = some ref.chatId ∧ event.threadId = some ref.threadId ∧
    event.eventId = some ref.eventId ∧
    (event.eventType = some "message" ∨ event.eventType = some "file")

instance (event : NormalizedEvent) (ref : EventRef) : Decidable (event.Carries ref) :=
  inferInstanceAs (Decidable (_ ∧ _ ∧ _ ∧ (_ ∨ _)))

/-- The event carries the message and is not ignored. -/
def NormalizedEvent.Accepts (event : NormalizedEvent) (ref : EventRef) : Prop :=
  event.Carries ref ∧ event.ignored = false

instance (event : NormalizedEvent) (ref : EventRef) : Decidable (event.Accepts ref) :=
  inferInstanceAs (Decidable (_ ∧ _))

/-- The rows with `ignored = false` for the message. -/
def IngressStore.acceptedRows (store : IngressStore) (ref : EventRef) : List NormalizedEvent :=
  store.inboundEvents.rows.filter fun row => row.Accepts ref

/-- The path by which an event came: the source and the action. -/
def NormalizedEvent.path (event : NormalizedEvent) : String × String :=
  (event.source, event.rawAction)

/-- Of the delivered events, this one is the first with its key. -/
def IsFirst (events : List NormalizedEvent) (event : NormalizedEvent) : Prop :=
  events.find? (fun other => other.dedupKey = event.dedupKey) = some event

/-- Among the events that accept the message and are the first with their key, no two came by
different paths. -/
def OnePath (events : List NormalizedEvent) (ref : EventRef) : Prop :=
  ∀ a b, IsFirst events a → a.Accepts ref → IsFirst events b → b.Accepts ref → a.path = b.path

/-! ## The rows are the first events -/

theorem inboundEvents_insertAll (store : IngressStore) (events : List NormalizedEvent) :
    (store.insertAll events).inboundEvents = (store.inboundEvents.insertAll events).1 := by
  induction events generalizing store with
  | nil => rfl
  | cons event rest ih => exact ih (store.insert event).1

theorem mem_rows_insertAll {events : List NormalizedEvent} {event : NormalizedEvent} :
    event ∈ (IngressStore.empty.insertAll events).inboundEvents.rows ↔ IsFirst events event := by
  rw [Table.mem_rows_iff_find?, inboundEvents_insertAll, Table.find?_insertAll]
  rfl

/-! ## The key of a delivered event -/

section Keys

variable {rt : LivechatRuntime} {settings : LivechatSettings}

/-- The beginning of the keys of a path. -/
def keyPath (path : String × String) : String :=
  if path.1 = "livechat_webhook" then "livechat_webhook:" ++ path.2 else "livechat_polling"

theorem keyPath_webhook_ne_polling (action : String) :
    "livechat_webhook:" ++ action ≠ "livechat_polling" := by
  intro h
  have hchars := congrArg (fun text : String => text.toList.take 10) h
  simp at hchars

/-- What a path says of an event. -/
structure KeyedByPath (event : NormalizedEvent) : Prop where
  path : event.path = ("livechat_webhook", event.rawAction) ∨
    event.path = ("polling_fallback", "polling.event")
  key : ∃ carrier, event.dedupKey =
    eventKey (keyPath event.path) event.chatId event.threadId event.eventId carrier

theorem keyedByPath_of_builtFrom {body : JsonObject} {args : EventArgs} {lookup : ChatLookup}
    {event : NormalizedEvent} (h : BuiltFrom rt settings body args lookup event) :
    KeyedByPath event := by
  have hpath : event.path = ("livechat_webhook", event.rawAction) := by
    rw [NormalizedEvent.path, h.source]
  constructor
  · exact Or.inl hpath
  · refine ⟨.obj body, ?_⟩
    rw [hpath, h.dedupKey, ← h.rawAction]
    rfl

theorem keyedByPath_of_polling {payload : JsonObject} {event : NormalizedEvent}
    (h : normalizePollingEvent rt settings payload = .ok event) : KeyedByPath event := by
  obtain ⟨context, inner, -, -, hpolled⟩ := normalizePollingEvent_polledFrom h
  have hpath : event.path = ("polling_fallback", "polling.event") := by
    rw [NormalizedEvent.path, hpolled.source, hpolled.rawAction]
  constructor
  · exact Or.inr hpath
  · refine ⟨.obj event.payloadJson, ?_⟩
    rw [hpath, hpolled.dedupKey]
    rfl

theorem keyedByPath_of_delivered {event : NormalizedEvent} (h : Delivered rt settings event) :
    KeyedByPath event := by
  cases h with
  | webhook h hmem =>
      obtain ⟨lookup, -, hevents⟩ := normalizeWebhookPayload_eq_ok h
      obtain ⟨args, -, hbuilt⟩ := bind_eq_ok.mp hevents
      obtain ⟨item, -, hitem⟩ := mem_mapM_ok hbuilt hmem
      exact keyedByPath_of_builtFrom (buildEvent_builtFrom hitem)
  | polling hpayload h =>
      obtain ⟨-, -, -, -, -, -, hnormalized⟩ := normalizeIngressEvent_eq_event h
      exact keyedByPath_of_polling hnormalized

/-- Two deliveries of one message share a key exactly when they share a path. -/
theorem dedupKey_eq_iff_path_eq {a b : NormalizedEvent} {ref : EventRef} (ha : KeyedByPath a)
    (hb : KeyedByPath b) (hcarriesa : a.Carries ref) (hcarriesb : b.Carries ref) :
    a.dedupKey = b.dedupKey ↔ a.path = b.path := by
  obtain ⟨carriera, hkeya⟩ := ha.key
  obtain ⟨carrierb, hkeyb⟩ := hb.key
  obtain ⟨hca, hta, hea, -⟩ := hcarriesa
  obtain ⟨hcb, htb, heb, -⟩ := hcarriesb
  rw [hkeya, hkeyb, hca, hta, hea, hcb, htb, heb,
    eventKey_path_eq_iff ref.chatId_ne ref.threadId_ne ref.eventId_ne]
  constructor
  · intro hpaths
    rcases ha.path with hpa | hpa
    · rcases hb.path with hpb | hpb
      · rw [hpa, hpb] at hpaths ⊢
        have haction : a.rawAction = b.rawAction :=
          (String.append_right_inj "livechat_webhook:").mp hpaths
        rw [haction]
      · rw [hpa, hpb] at hpaths
        exact absurd hpaths (keyPath_webhook_ne_polling _)
    · rcases hb.path with hpb | hpb
      · rw [hpa, hpb] at hpaths
        exact absurd hpaths.symm (keyPath_webhook_ne_polling _)
      · rw [hpa, hpb]
  · intro hpath
    rw [hpath]

/-! ## At most one accepted row -/

/-- Whatever is delivered, by whatever paths and in whatever order, at most one row accepts a
message exactly when one path only comes first with it. -/
theorem accepted_once_iff (deliveries : List (IngressDelivery rt settings)) (ref : EventRef) :
    ((IngressStore.empty.insertAll (deliveries.map Subtype.val)).acceptedRows ref).length ≤ 1 ↔
      OnePath (deliveries.map Subtype.val) ref := by
  have hkeyed : ∀ event, IsFirst (deliveries.map Subtype.val) event → KeyedByPath event := by
    intro event hfirst
    obtain ⟨delivery, -, rfl⟩ := List.mem_map.mp (List.mem_of_find?_eq_some hfirst)
    exact keyedByPath_of_delivered delivery.2
  rw [IngressStore.acceptedRows, Table.length_filter_le_one_iff]
  constructor
  · intro hkeys a b hfirsta haccepta hfirstb hacceptb
    have hkey := hkeys a (mem_rows_insertAll.mpr hfirsta) b (mem_rows_insertAll.mpr hfirstb)
      (decide_eq_true haccepta) (decide_eq_true hacceptb)
    exact (dedupKey_eq_iff_path_eq (hkeyed a hfirsta) (hkeyed b hfirstb) haccepta.1
      hacceptb.1).mp hkey
  · intro hpath a hmema b hmemb hsela hselb
    have hfirsta := mem_rows_insertAll.mp hmema
    have hfirstb := mem_rows_insertAll.mp hmemb
    have haccepta := of_decide_eq_true hsela
    have hacceptb := of_decide_eq_true hselb
    exact (dedupKey_eq_iff_path_eq (hkeyed a hfirsta) (hkeyed b hfirstb) haccepta.1
      hacceptb.1).mpr (hpath a b hfirsta haccepta hfirstb hacceptb)

end Keys

/-! ## A message that two webhooks deliver -/

/-- The deliveries of a webhook. -/
def webhookDeliveries (rt : LivechatRuntime) (settings : LivechatSettings) (body : JsonObject) :
    List (IngressDelivery rt settings) :=
  match h : normalizeWebhookPayload rt settings .absent (.obj body) with
  | .ok events => events.attach.map fun event => ⟨event.1, .webhook h event.2⟩
  | .error _ => []

/-- The first message of a customer. -/
def firstMessage : JsonObject :=
  .ofList [("id", .str "E"), ("type", .str "message"), ("author_id", .str "customer")]

/-- A webhook body of the action, with the payload. -/
def webhookBody (action : String) (payload : JsonObject) : JsonObject :=
  .ofList [("action", .str action), ("secret_key", .str "secret"), ("payload", .obj payload)]

/-- The chat that starts with the first message. -/
def startedChat : JsonObject :=
  webhookBody "incoming_chat" (.ofList [("chat", .obj (.ofList [
    ("id", .str "C"), ("group_id", .int 28),
    ("thread", .obj (.ofList [("id", .str "T"), ("events", .arr [.obj firstMessage])]))]))])

/-- The first message by itself. -/
def startedEvent : JsonObject :=
  webhookBody "incoming_event" (.ofList [
    ("chat_id", .str "C"), ("thread_id", .str "T"), ("group_id", .int 28),
    ("event", .obj firstMessage)])

/-- The message that starts a chat is stored for `incoming_chat` and for `incoming_event`. -/
theorem first_message_is_accepted_twice :
    ∃ (deliveries : List (IngressDelivery .plain .plain)) (ref : EventRef),
      ¬((IngressStore.empty.insertAll (deliveries.map Subtype.val)).acceptedRows ref).length ≤
        1 := by
  refine ⟨webhookDeliveries .plain .plain startedChat ++
    webhookDeliveries .plain .plain startedEvent,
    ⟨"C", "T", "E", by decide, by decide, by decide⟩, ?_⟩
  decide +kernel

end AiCustomerService
