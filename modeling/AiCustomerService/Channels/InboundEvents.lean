import AiCustomerService.Channels.LivechatPolling

/-!
# Storing inbound events

`InboundEventRepository.insert`, and the polling receiver that offers it the events of the
chats.  The webhook and the receiver run side by side and meet in the unique key only.
-/

namespace AiCustomerService

open Support

/-- `inbound_events`, and the tables that a takeover writes. -/
structure IngressStore where
  inboundEvents : Table String NormalizedEvent NormalizedEvent.dedupKey
  database : Database

/-- Nothing has been received. -/
def IngressStore.empty : IngressStore := ⟨∅, .empty⟩

/-- `_is_human_agent_public_reply_event`. -/
def isHumanAgentPublicReplyEvent (event : NormalizedEvent) : Bool :=
  (getKey event.payloadJson "human_agent_public_reply").truthy

/-- `InboundEventRepository.insert`, with `inserted`. -/
def IngressStore.insert (store : IngressStore) (event : NormalizedEvent) : IngressStore × Bool :=
  let inserted := store.inboundEvents.insertIdempotent event
  (⟨inserted.1,
    if inserted.2 && isHumanAgentPublicReplyEvent event then
      markHumanActiveOnConnection store.database event.toInboundEvent
    else store.database⟩, inserted.2)

/-- The inserts of a list of events, one after the other. -/
def IngressStore.insertAll (store : IngressStore) (events : List NormalizedEvent) : IngressStore :=
  events.foldl (fun store event => (store.insert event).1) store

/-! ## Where events come from -/

/-- A payload that polling extracts, from a chat or from its summary. -/
inductive Polled (rt : LivechatRuntime) (settings : LivechatSettings) : JsonObject → Prop
  | chat {chat : JsonObject} {includeAgentMessages : Bool} {payloads : List JsonObject}
      {payload : JsonObject}
      (h : extractPollingEventsFromChatDetail rt chat includeAgentMessages
        settings.selfAuthorIds = .ok payloads)
      (hmem : payload ∈ payloads) : Polled rt settings payload
  | summary {summary : JsonObject} {includeAgentMessages : Bool} {payloads : List JsonObject}
      {payload : JsonObject}
      (h : extractPollingEventsFromChatSummary rt summary includeAgentMessages = .ok payloads)
      (hmem : payload ∈ payloads) : Polled rt settings payload

/-- The events that reach the insert: those of an accepted webhook, and those of a polled
payload. -/
inductive Delivered (rt : LivechatRuntime) (settings : LivechatSettings) :
    NormalizedEvent → Prop
  | webhook {client : LookupClient} {body : JsonObject} {events : List NormalizedEvent}
      {event : NormalizedEvent}
      (h : normalizeWebhookPayload rt settings client (.obj body) = .ok events)
      (hmem : event ∈ events) : Delivered rt settings event
  | polling {payload : JsonObject} {event : NormalizedEvent} (hpayload : Polled rt settings payload)
      (h : normalizeIngressEvent rt settings payload = .ok (.event event)) :
      Delivered rt settings event

/-- An event together with how it was delivered. -/
abbrev IngressDelivery (rt : LivechatRuntime) (settings : LivechatSettings) :=
  { event : NormalizedEvent // Delivered rt settings event }

/-! ## The polling receiver -/

/-- `ReceiverState`. -/
structure ReceiverState where
  lastSeenCreatedAt : Option String
  lastSeenEventIds : List String

/-- The store and the memory of the receiver. -/
structure Ingress where
  store : IngressStore
  receiver : ReceiverState

/-- What `client.get_chat` raises for the receiver. -/
inductive ChatFailure
  | api (status : Int)
  | other (error : PyError)

/-- `last_seen_event_ids` and `last_seen_created_at` after an insert. -/
def ReceiverState.saw (receiver : ReceiverState) (event : NormalizedEvent) : ReceiverState where
  lastSeenCreatedAt :=
    if hasText event.occurredAt then event.occurredAt else receiver.lastSeenCreatedAt
  lastSeenEventIds :=
    if hasText event.eventId then textOr event.eventId "" :: receiver.lastSeenEventIds
    else receiver.lastSeenEventIds

/-- The body of the loop over the payloads; the second component is `was_inserted`. -/
def receivePayload (rt : LivechatRuntime) (settings : LivechatSettings) (state : Ingress)
    (payload : JsonObject) : Except PyError (Ingress × Bool) := do
  match (← normalizeIngressEvent rt settings payload) with
  | .dropped _ => return (state, false)
  | .event event =>
      if hasText event.eventId &&
          decide (textOr event.eventId "" ∈ state.receiver.lastSeenEventIds) then
        return (state, false)
      else
        let inserted := state.store.insert event
        return (⟨inserted.1,
          if inserted.2 then state.receiver.saw event else state.receiver⟩, inserted.2)

/-- The loop over the payloads, up to the first exception. -/
def receivePayloads (rt : LivechatRuntime) (settings : LivechatSettings) (state : Ingress)
    (anyInserted : Bool) : List JsonObject → Ingress × Except PyError Bool
  | [] => (state, .ok anyInserted)
  | payload :: rest =>
      match receivePayload rt settings state payload with
      | .error e => (state, .error e)
      | .ok (next, inserted) => receivePayloads rt settings next (anyInserted || inserted) rest

/-- The payloads of a chat that passed the gate, or of its summary where the chat may not be
read. -/
def chatPayloads (rt : LivechatRuntime) (settings : LivechatSettings)
    (getChat : Json → Except ChatFailure JsonObject) (summary : JsonObject) :
    Except PyError (List JsonObject) :=
  match summary.get? "id" with
  | none => .error (.keyError "id")
  | some chatId =>
      match getChat chatId with
      | .ok chat => do
          let groupIds ← chatGroupIds rt chat
          if matchesAllowedGroups groupIds settings.allowedGroupIds then
            extractPollingEventsFromChatDetail rt chat true settings.selfAuthorIds
          else return []
      | .error (.api status) =>
          if status = 403 then extractPollingEventsFromChatSummary rt summary true
          else .error (.valueError "LiveChat API error")
      | .error (.other e) => .error e

/-- One chat of the list. -/
def receiveSummary (rt : LivechatRuntime) (settings : LivechatSettings)
    (getChat : Json → Except ChatFailure JsonObject) (state : Ingress) (summary : JsonObject) :
    Ingress × Except PyError Unit :=
  match chatGroupIds rt summary with
  | .error e => (state, .error e)
  | .ok groupIds =>
      if matchesAllowedGroups groupIds settings.allowedGroupIds then
        match extractThreadStartedEventsFromChatSummary rt summary settings.selfAuthorIds with
        | .error e => (state, .error e)
        | .ok intros =>
            match receivePayloads rt settings state false intros with
            | (next, .error e) => (next, .error e)
            | (next, .ok true) => (next, .ok ())
            | (next, .ok false) =>
                match chatPayloads rt settings getChat summary with
                | .error e => (next, .error e)
                | .ok payloads =>
                    let received := receivePayloads rt settings next false payloads
                    (received.1, received.2.map fun _ => ())
      else (state, .ok ())

/-- `PollingIngressReceiver.receive_once` over the listed chats. -/
def receiveOnce (rt : LivechatRuntime) (settings : LivechatSettings)
    (getChat : Json → Except ChatFailure JsonObject) (state : Ingress) :
    List JsonObject → Ingress × Except PyError Unit
  | [] => (state, .ok ())
  | summary :: rest =>
      match receiveSummary rt settings getChat state summary with
      | (next, .error e) => (next, .error e)
      | (next, .ok ()) => receiveOnce rt settings getChat next rest

/-! ## A pass inserts delivered events -/

section Passes

variable {rt : LivechatRuntime} {settings : LivechatSettings}

/-- The second store is the first one after the inserts of delivered events. -/
def InsertsDelivered (rt : LivechatRuntime) (settings : LivechatSettings)
    (before after : IngressStore) : Prop :=
  ∃ events : List (IngressDelivery rt settings), after = before.insertAll (events.map Subtype.val)

theorem InsertsDelivered.refl (store : IngressStore) :
    InsertsDelivered rt settings store store :=
  ⟨[], rfl⟩

theorem InsertsDelivered.trans {first second third : IngressStore}
    (h₁ : InsertsDelivered rt settings first second)
    (h₂ : InsertsDelivered rt settings second third) :
    InsertsDelivered rt settings first third := by
  obtain ⟨events₁, rfl⟩ := h₁
  obtain ⟨events₂, rfl⟩ := h₂
  refine ⟨events₁ ++ events₂, ?_⟩
  rw [List.map_append, IngressStore.insertAll, IngressStore.insertAll, IngressStore.insertAll,
    List.foldl_append]

theorem receivePayload_inserts {state next : Ingress} {payload : JsonObject} {inserted : Bool}
    (hpayload : Polled rt settings payload)
    (h : receivePayload rt settings state payload = .ok (next, inserted)) :
    InsertsDelivered rt settings state.store next.store := by
  obtain ⟨result, hresult, h⟩ := bind_eq_ok.mp h
  cases result with
  | dropped reason =>
      cases h
      exact .refl _
  | event event =>
      simp only at h
      split at h
      · cases h
        exact .refl _
      · cases h
        exact ⟨[⟨event, .polling hpayload hresult⟩], rfl⟩

theorem receivePayloads_inserts {payloads : List JsonObject} (state : Ingress)
    (anyInserted : Bool) (hpayloads : ∀ payload ∈ payloads, Polled rt settings payload) :
    InsertsDelivered rt settings state.store
      (receivePayloads rt settings state anyInserted payloads).1.store := by
  induction payloads generalizing state anyInserted with
  | nil => exact .refl _
  | cons payload rest ih =>
      have hrest : ∀ payload ∈ rest, Polled rt settings payload := by
        intro payload hmem
        exact hpayloads payload (List.mem_cons_of_mem _ hmem)
      rw [receivePayloads]
      cases hstep : receivePayload rt settings state payload with
      | error e => exact .refl _
      | ok result =>
          have hfirst := receivePayload_inserts (hpayloads payload List.mem_cons_self) hstep
          exact hfirst.trans (ih _ _ hrest)

theorem polled_of_chatPayloads {getChat : Json → Except ChatFailure JsonObject}
    {summary : JsonObject} {payloads : List JsonObject}
    (h : chatPayloads rt settings getChat summary = .ok payloads) :
    ∀ payload ∈ payloads, Polled rt settings payload := by
  intro payload hmem
  unfold chatPayloads at h
  split at h
  · cases h
  · split at h
    · obtain ⟨groupIds, -, h⟩ := bind_eq_ok.mp h
      split at h
      · exact .chat h hmem
      · cases h
        cases hmem
    · split at h
      · exact .summary h hmem
      · cases h
    · cases h

theorem polled_of_summary {summary : JsonObject} {payloads : List JsonObject}
    (h : extractThreadStartedEventsFromChatSummary rt summary settings.selfAuthorIds =
      .ok payloads) :
    ∀ payload ∈ payloads, Polled rt settings payload := by
  intro payload hmem
  simp only [extractThreadStartedEventsFromChatSummary] at h
  split at h
  · cases h
    cases hmem
  · exact .chat h hmem

theorem receiveSummary_inserts (getChat : Json → Except ChatFailure JsonObject) (state : Ingress)
    (summary : JsonObject) :
    InsertsDelivered rt settings state.store
      (receiveSummary rt settings getChat state summary).1.store := by
  unfold receiveSummary
  split
  · exact .refl _
  · split
    · split
      · exact .refl _
      · rename_i intros hintros
        have hfirst := receivePayloads_inserts state false (polled_of_summary hintros)
        split
        · rename_i hreceived
          rw [hreceived] at hfirst
          exact hfirst
        · rename_i hreceived
          rw [hreceived] at hfirst
          exact hfirst
        · rename_i hreceived
          rw [hreceived] at hfirst
          split
          · exact hfirst
          · rename_i payloads hpayloads
            exact hfirst.trans (receivePayloads_inserts _ _ (polled_of_chatPayloads hpayloads))
    · exact .refl _

/-- A pass of the receiver changes the store by inserting events that polling delivers. -/
theorem receiveOnce_inserts (getChat : Json → Except ChatFailure JsonObject) (state : Ingress)
    (listed : List JsonObject) :
    InsertsDelivered rt settings state.store
      (receiveOnce rt settings getChat state listed).1.store := by
  induction listed generalizing state with
  | nil => exact .refl _
  | cons summary rest ih =>
      have hfirst : InsertsDelivered rt settings state.store
          (receiveSummary rt settings getChat state summary).1.store :=
        receiveSummary_inserts getChat state summary
      rw [receiveOnce]
      split
      · rename_i hsummary
        rw [hsummary] at hfirst
        exact hfirst
      · rename_i hsummary
        rw [hsummary] at hfirst
        exact hfirst.trans (ih _)

end Passes

end AiCustomerService
