import AiCustomerService.Channels.LivechatNormalizer

/-!
# Messages of human agents

A message is ignored as an agent's when the type of its author is found to be `agent`.
Where the type is not found the message counts as a customer's: the group fails closed, the
author fails open.
-/

namespace AiCustomerService

open Support

/-- A webhook that was accepted, with what was looked up for it. -/
structure ReceivedWebhook (rt : LivechatRuntime) (settings : LivechatSettings) where
  client : LookupClient
  body : JsonObject
  lookup : ChatLookup
  args : List EventArgs
  events : List NormalizedEvent
  normalized : normalizeWebhookPayload rt settings client (.obj body) = .ok events
  looked : lookUp rt settings client body = .ok lookup
  handled : eventArgs rt settings body = .ok args

variable {rt : LivechatRuntime} {settings : LivechatSettings}

/-- A message or a file. -/
def isText (eventType : Option String) : Prop :=
  eventType = some "message" ∨ eventType = some "file"

/-- The author is an agent of the account and not the bot. -/
def IsHumanAgent (settings : LivechatSettings) (agents : List String) (authorId : Option String) :
    Prop :=
  ∃ author, authorId = some author ∧ author ∈ agents ∧ author ∉ settings.selfAuthorIds

instance (eventType : Option String) : Decidable (isText eventType) :=
  inferInstanceAs (Decidable (_ ∨ _))

theorem isHumanAgent_some (settings : LivechatSettings) (agents : List String)
    (author : String) :
    IsHumanAgent settings agents (some author) ↔
      author ∈ agents ∧ author ∉ settings.selfAuthorIds := by
  simp [IsHumanAgent]

instance (settings : LivechatSettings) (agents : List String) (authorId : Option String) :
    Decidable (IsHumanAgent settings agents authorId) :=
  match authorId with
  | some author => decidable_of_iff _ (isHumanAgent_some settings agents author).symm
  | none => .isFalse fun h => nomatch h.choose_spec.1

/-- No message or file of a human agent is handed to the gateway. -/
def ReceivedWebhook.AgentTextsIgnored (received : ReceivedWebhook rt settings)
    (agents : List String) : Prop :=
  ∀ event ∈ received.events, isText event.eventType →
    IsHumanAgent settings agents event.authorId → event.ignored = true

/-- The type found for the author is `agent`: in the payload or the event, or else in the first
of the lists of users, of the payload, the chat and the looked-up chat, that has the author. -/
def TypedAsAgent (rt : LivechatRuntime) (lookup : ChatLookup) (args : EventArgs) : Prop :=
  authorType rt.toRuntime (args.chatOf lookup) args.payload (args.authorId rt.toRuntime)
    lookup.chat = .ok (some "agent")

/-- No group of the payload, the chat and the looked-up chat is an allowed platform group. -/
def OutsideGroups (rt : LivechatRuntime) (settings : LivechatSettings) (lookup : ChatLookup)
    (args : EventArgs) : Prop :=
  ∃ groupIds, collectGroupIds rt args.payload (args.chatOf lookup) lookup.chat = .ok groupIds ∧
    platformContext settings.allowedGroupIds groupIds = none

/-- Each message or file of a human agent is typed as an agent's or lies outside the groups. -/
def ReceivedWebhook.AgentsRecognized (received : ReceivedWebhook rt settings)
    (agents : List String) : Prop :=
  ∀ args ∈ received.args,
    (args.eventType.eqText "message" = true ∨ args.eventType.eqText "file" = true) →
      IsHumanAgent settings agents (args.authorId rt.toRuntime) →
        TypedAsAgent rt received.lookup args ∨ OutsideGroups rt settings received.lookup args

/-! ## From arguments to events -/

theorem isText_iff_eqText {value : Json} {eventType : Option String}
    (h : value.optionalText = .ok eventType) :
    isText eventType ↔ value.eqText "message" = true ∨ value.eqText "file" = true := by
  cases value with
  | null =>
      cases h
      simp [isText, Json.eqText, Json.str?]
  | str s =>
      cases h
      simp [isText]
  | bool b => cases h
  | int n => cases h
  | float value repr => cases h
  | arr items => cases h
  | obj fields => cases h

theorem ReceivedWebhook.built (received : ReceivedWebhook rt settings) :
    received.args.mapM (fun args => buildEvent rt settings received.body args received.lookup) =
      .ok received.events := by
  obtain ⟨lookup, hlookup, hevents⟩ := normalizeWebhookPayload_eq_ok received.normalized
  rw [received.looked] at hlookup
  obtain ⟨args, hargs, hbuilt⟩ := bind_eq_ok.mp hevents
  rw [received.handled] at hargs
  rw [← Except.ok.inj hlookup, ← Except.ok.inj hargs] at hbuilt
  exact hbuilt

theorem supported_of_text {value : Json} {supported : Bool}
    (h : isMessageOrFile value = .ok supported)
    (htext : value.eqText "message" = true ∨ value.eqText "file" = true) : supported = true := by
  cases value with
  | str s =>
      rw [← Except.ok.inj h]
      simpa using htext
  | null => simp [Json.eqText, Json.str?] at htext
  | bool b => simp [Json.eqText, Json.str?] at htext
  | int n => simp [Json.eqText, Json.str?] at htext
  | float value repr => simp [Json.eqText, Json.str?] at htext
  | arr items => simp [Json.eqText, Json.str?] at htext
  | obj fields => simp [Json.eqText, Json.str?] at htext

theorem not_ignored_of_incomingChat {payload : JsonObject} {all : List EventArgs}
    {args : EventArgs} (h : incomingChatArgs rt settings payload = .ok all) (hmem : args ∈ all) :
    args.ignored = false := by
  obtain ⟨thread, -, h⟩ := bind_eq_ok.mp h
  obtain ⟨intro, -, h⟩ := bind_eq_ok.mp h
  obtain ⟨threads, -, h⟩ := bind_eq_ok.mp h
  obtain ⟨events, -, h⟩ := bind_eq_ok.mp h
  cases h
  rcases List.mem_append.mp hmem with hstarted | hevent
  · cases intro with
    | false => cases hstarted
    | true =>
        rw [if_pos rfl, List.mem_singleton] at hstarted
        rw [hstarted]
        rfl
  · obtain ⟨item, -, rfl⟩ := List.mem_map.mp hevent
    rfl

/-- A handler passes no message or file as ignored. -/
theorem not_ignored_of_text {body : JsonObject} {all : List EventArgs} {args : EventArgs}
    (h : eventArgs rt settings body = .ok all) (hmem : args ∈ all)
    (htext : args.eventType.eqText "message" = true ∨ args.eventType.eqText "file" = true) :
    args.ignored = false := by
  simp only [eventArgs] at h
  split at h
  · exact not_ignored_of_incomingChat h hmem
  split at h
  · obtain ⟨event, hevent, h⟩ := bind_eq_ok.mp h
    obtain ⟨supported, hsupported, hevent⟩ := bind_eq_ok.mp hevent
    cases h
    cases hevent
    rw [List.mem_singleton] at hmem
    subst hmem
    have hkept := supported_of_text hsupported htext
    simp [hkept]
  split at h
  · cases h
    rw [List.mem_singleton.mp hmem]
    rfl
  split at h
  · cases h
    rw [List.mem_singleton.mp hmem]
    rfl
  split at h
  · cases h
    rw [List.mem_singleton.mp hmem]
    rfl
  split at h
  · cases h
    rw [List.mem_singleton.mp hmem]
    rfl
  · cases h
    rw [List.mem_singleton.mp hmem] at htext
    simp [plainArgs, Json.eqText, Json.str?] at htext

/-- An agent's message is ignored exactly when it is typed as one or its group is not
allowed. -/
theorem ignored_iff_of_builtFrom {body : JsonObject} {args : EventArgs} {lookup : ChatLookup}
    {event : NormalizedEvent} (h : BuiltFrom rt settings body args lookup event)
    (hargs : args.ignored = false) {agents : List String}
    (hagent : IsHumanAgent settings agents event.authorId) :
    event.ignored = true ↔
      TypedAsAgent rt lookup args ∨ OutsideGroups rt settings lookup args := by
  obtain ⟨type, groupIds, htype, hgroups, hignored, -⟩ := h.verdict
  obtain ⟨author, hauthor, -, hself⟩ := hagent
  have hnotSelf : isSelfAuthor settings event.authorId = false := by
    rw [hauthor]
    exact decide_eq_false hself
  rw [hignored, isIgnored, authorVerdict, hnotSelf, TypedAsAgent, OutsideGroups, ← h.authorId,
    htype, hgroups, hargs]
  by_cases hagent : type = some "agent"
  · simp [hagent]
  · simp [hagent]

/-- No message of a human agent reaches the gateway exactly when each is typed as an agent's or
lies outside the allowed groups. -/
theorem agent_texts_ignored_iff (received : ReceivedWebhook rt settings) (agents : List String) :
    received.AgentTextsIgnored agents ↔ received.AgentsRecognized agents := by
  constructor
  · intro hignored args hmem htext hagent
    obtain ⟨event, hevent, hbuild⟩ := mapM_ok_of_mem received.built hmem
    have hbuilt := buildEvent_builtFrom hbuild
    rw [← hbuilt.authorId] at hagent
    have hevents := hignored event hevent ((isText_iff_eqText hbuilt.eventType).mpr htext) hagent
    exact (ignored_iff_of_builtFrom hbuilt (not_ignored_of_text received.handled hmem htext)
      hagent).mp hevents
  · intro hrecognized event hevent htext hagent
    obtain ⟨args, hmem, hbuild⟩ := mem_mapM_ok received.built hevent
    have hbuilt := buildEvent_builtFrom hbuild
    have htext' := (isText_iff_eqText hbuilt.eventType).mp htext
    apply (ignored_iff_of_builtFrom hbuilt (not_ignored_of_text received.handled hmem htext')
      hagent).mpr
    rw [hbuilt.authorId] at hagent
    exact hrecognized args hmem htext' hagent

/-! ## An author whose type is not found -/

/-- An agent's message without the type of its author. -/
def untypedBody : JsonObject :=
  .ofList [
    ("action", .str "incoming_event"),
    ("secret_key", .str "secret"),
    ("payload", .obj (.ofList [
      ("chat_id", .str "C"), ("thread_id", .str "T"), ("group_id", .int 28),
      ("event", .obj (.ofList [
        ("id", .str "E"), ("type", .str "message"), ("author_id", .str "agent-7")]))]))]

/-- `get_chat` raises. -/
def failingClient : LookupClient :=
  ⟨none, none, some fun _ _ => .error ⟨"LiveChatApiError", "timeout"⟩⟩

/-- The message, received while `get_chat` raises. -/
def untypedWebhook
    (hevents : (normalizeWebhookPayload LivechatRuntime.plain .plain failingClient
      (.obj untypedBody)).toOption.isSome)
    (hlookup : (lookUp .plain .plain failingClient untypedBody).toOption.isSome)
    (hargs : (eventArgs .plain .plain untypedBody).toOption.isSome) :
    ReceivedWebhook .plain .plain where
  client := failingClient
  body := untypedBody
  lookup := (lookUp .plain .plain failingClient untypedBody).toOption.get hlookup
  args := (eventArgs .plain .plain untypedBody).toOption.get hargs
  events := (normalizeWebhookPayload LivechatRuntime.plain .plain failingClient
    (.obj untypedBody)).toOption.get hevents
  normalized := eq_ok_of_toOption hevents
  looked := eq_ok_of_toOption hlookup
  handled := eq_ok_of_toOption hargs

/-- While `get_chat` fails, the message of `agent-7` is handed to the gateway. -/
theorem untyped_agent_text_is_accepted :
    ∃ received : ReceivedWebhook .plain .plain, ¬received.AgentTextsIgnored ["agent-7"] := by
  refine ⟨untypedWebhook (by decide +kernel) (by decide +kernel) (by decide +kernel), ?_⟩
  unfold ReceivedWebhook.AgentTextsIgnored
  decide +kernel

end AiCustomerService
