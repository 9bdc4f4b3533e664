import AiCustomerService.Channels.LivechatPolling

/-!
# Chats of LiveChat

A chat as LiveChat hands it over, with its users, threads and events: the dictionary, what
stands in it, and that it is so.  Keys that are not mentioned may hold anything.
-/

namespace AiCustomerService

open Support

/-- A text that is not empty and that `str.strip` leaves alone. -/
structure IsPlain (text : String) : Prop where
  ne_empty : text ≠ ""
  strip_eq : strip text = text

/-- A user of a chat. -/
structure ChatUser where
  fields : JsonObject
  id : String
  type : Option String
  hasId : getKey fields "id" = .str id
  hasType : getKey fields "type" = .ofText? type

/-- A message or a file. -/
structure ChatText where
  fields : JsonObject
  id : String
  type : String
  author : String
  createdAt : String
  isText : type = "message" ∨ type = "file"
  hasId : getKey fields "id" = .str id
  hasType : getKey fields "type" = .str type
  hasAuthor : getKey fields "author_id" = .str author
  hasCreatedAt : getKey fields "created_at" = .str createdAt
  untyped : getKey fields "author_type" = .null
  plainId : IsPlain id
  plainAuthor : IsPlain author
  plainCreatedAt : IsPlain createdAt

/-- An event of a thread: a message, a file, or another one. -/
inductive ChatEvent where
  | text (event : ChatText)
  | other (fields : JsonObject) (h : isMessageOrFile (getKey fields "type") = .ok false)

def ChatEvent.fields : ChatEvent → JsonObject
  | text event => event.fields
  | other fields _ => fields

def ChatEvent.text? : ChatEvent → Option ChatText
  | text event => some event
  | other _ _ => none

/-- A thread of a chat; `rt` reads the digits of its groups. -/
structure ChatThread (rt : LivechatRuntime) where
  fields : JsonObject
  id : String
  events : List ChatEvent
  groupIds : List Int
  hasId : getKey fields "id" = .str id
  hasEvents : getKey fields "events" = .arr (events.map fun event => .obj event.fields)
  hasGroups : chatGroupIds rt fields = .ok groupIds
  plainId : IsPlain id

/-- The messages and files of a thread. -/
def ChatThread.texts {rt : LivechatRuntime} (thread : ChatThread rt) : List ChatText :=
  thread.events.filterMap ChatEvent.text?

/-- A thread, or none. -/
def chatThreadJson {rt : LivechatRuntime} : Option (ChatThread rt) → Json
  | some thread => .obj thread.fields
  | none => .null

/-- A chat. -/
structure LivechatChat (rt : LivechatRuntime) where
  fields : JsonObject
  id : String
  users : List ChatUser
  thread : Option (ChatThread rt)
  activeThread : Option (ChatThread rt)
  listed : List (ChatThread rt)
  groupIds : List Int
  hasId : getKey fields "id" = .str id
  hasUsers : getKey fields "users" = .arr (users.map fun user => .obj user.fields)
  noChatUsers : getKey fields "chat_users" = .null
  hasThread : getKey fields "thread" = chatThreadJson thread
  hasActiveThread : getKey fields "active_thread" = chatThreadJson activeThread
  hasThreads : getKey fields "threads" = .arr (listed.map fun thread => .obj thread.fields)
  hasGroups : chatGroupIds rt fields = .ok groupIds
  printedGroups : ∀ groupId ∈ groupIds, rt.isDigit (strip (toString groupId)) = true
  plainId : IsPlain id
  distinctUsers : (users.map ChatUser.id).Nodup

variable {rt : LivechatRuntime}

/-- The threads in the order in which both ingresses visit them. -/
def LivechatChat.threads (chat : LivechatChat rt) : List (ChatThread rt) :=
  (chat.thread.toList ++ chat.activeThread.toList) ++ chat.listed

/-- The messages and files of the chat, each with its thread. -/
def LivechatChat.items (chat : LivechatChat rt) : List (ChatThread rt × ChatText) :=
  chat.threads.flatMap fun thread => thread.texts.map (thread, ·)

/-- The type of the user with the id. -/
def LivechatChat.typeOf (chat : LivechatChat rt) (author : String) : Option String :=
  (chat.users.find? fun user => user.id = author).bind ChatUser.type

/-! ## What the dictionaries give -/

theorem isEmpty_eq_false_of_getKey {d : JsonObject} {key : String} {value : Json}
    (h : getKey d key = value) (hvalue : value ≠ .null) : d.isEmpty = false := by
  unfold getKey at h
  cases hget : d.get? key with
  | some found => exact Dict.isEmpty_eq_false_of_get? hget
  | none =>
      rw [hget] at h
      exact absurd h.symm hvalue

theorem ChatText.isEmpty_fields (event : ChatText) : event.fields.isEmpty = false :=
  isEmpty_eq_false_of_getKey event.hasId (by simp)

theorem ChatThread.isEmpty_fields (thread : ChatThread rt) : thread.fields.isEmpty = false :=
  isEmpty_eq_false_of_getKey thread.hasId (by simp)

theorem LivechatChat.isEmpty_fields (chat : LivechatChat rt) : chat.fields.isEmpty = false :=
  isEmpty_eq_false_of_getKey chat.hasId (by simp)

theorem ChatUser.isEmpty_fields (user : ChatUser) : user.fields.isEmpty = false :=
  isEmpty_eq_false_of_getKey user.hasId (by simp)

theorem truthy_obj {fields : JsonObject} (h : fields.isEmpty = false) :
    (Json.obj fields).truthy = true := by
  simp [Json.truthy, h]

/-- A list of dictionaries, or a value that counts as one. -/
theorem itemsOrEmpty_arr (items : List Json) : (Json.arr items).itemsOrEmpty = .ok items := by
  cases items with
  | nil => rfl
  | cons first rest => rfl

theorem isMessageOrFile_text (event : ChatText) :
    isMessageOrFile (getKey event.fields "type") = .ok true := by
  rw [event.hasType]
  simp only [isMessageOrFile, Json.inTexts]
  rcases event.isText with htype | htype
  · simp [htype]
  · simp [htype]

/-- The loops over the events keep the messages and files. -/
theorem messageOrFileEvents_events (events : List ChatEvent) :
    messageOrFileEvents (events.map fun event => .obj event.fields) =
      .ok ((events.filterMap ChatEvent.text?).map ChatText.fields) := by
  induction events with
  | nil => rfl
  | cons event rest ih =>
      cases event with
      | text event =>
          rw [List.map_cons, messageOrFileEvents, ih]
          simp only [ChatEvent.fields, isMessageOrFile_text]
          rfl
      | other fields h =>
          rw [List.map_cons, messageOrFileEvents, ih]
          simp only [ChatEvent.fields, h]
          rfl

theorem threadEvents_fields (thread : ChatThread rt) :
    threadEvents thread.fields = .ok (thread.texts.map ChatText.fields) := by
  rw [threadEvents, thread.hasEvents, itemsOrEmpty_arr]
  exact messageOrFileEvents_events thread.events

theorem dict?_chatThreadJson (thread : Option (ChatThread rt)) :
    (chatThreadJson thread).dict? = thread.map ChatThread.fields := by
  cases thread with
  | none => rfl
  | some thread => rfl

theorem threadsOf_fields (chat : LivechatChat rt) :
    threadsOf chat.fields = .ok (chat.threads.map ChatThread.fields) := by
  have hlisted : (chat.listed.map fun thread => Json.obj thread.fields).filterMap Json.dict? =
      chat.listed.map ChatThread.fields := by
    have hdict : (Json.dict? ∘ fun thread : ChatThread rt => Json.obj thread.fields) =
        some ∘ ChatThread.fields := rfl
    rw [List.filterMap_map, hdict, List.filterMap_eq_map]
  rw [threadsOf, chat.hasThreads, itemsOrEmpty_arr, chat.hasThread, chat.hasActiveThread,
    dict?_chatThreadJson, dict?_chatThreadJson]
  simp only [bind, Except.bind, pure, Except.pure]
  rw [hlisted, LivechatChat.threads, List.map_append, List.map_append]
  simp only [Option.toList_map]

theorem chatEvents_fields (threads : List (ChatThread rt)) :
    chatEvents (threads.map ChatThread.fields) =
      .ok ((threads.flatMap fun thread => thread.texts.map (thread, ·)).map
        fun item => (item.1.fields, item.2.fields)) := by
  have hthread : ∀ thread : ChatThread rt, (do
        let events ← threadEvents thread.fields
        return events.map (thread.fields, ·)) =
      Except.ok (thread.texts.map fun event => (thread.fields, event.fields)) := by
    intro thread
    rw [threadEvents_fields]
    simp only [bind, Except.bind, pure, Except.pure, List.map_map]
    rfl
  rw [chatEvents, mapM_map_ok threads hthread]
  simp only [bind, Except.bind, pure, Except.pure]
  rw [List.map_flatMap, List.flatMap_def]
  simp only [List.map_map]
  rfl

/-! ## Users -/

theorem usersWithId_users (rt : Runtime) (users : List ChatUser) :
    usersWithId rt (users.map fun user => .obj user.fields) =
      .ok (users.map fun user => (user.id, user.fields)).reverse := by
  induction users with
  | nil => rfl
  | cons user rest ih =>
      rw [List.map_cons, usersWithId, ih, user.hasId]
      simp [bind, Except.bind, pure, Except.pure, Json.isNull, Json.pyStr]

/-- With distinct ids the order of the entries does not matter. -/
theorem lookup_reverse_usersById {users : List ChatUser} (hdistinct : (users.map ChatUser.id).Nodup)
    (author : String) :
    (users.map fun user => (user.id, user.fields)).reverse.lookup author =
      (users.find? fun user => user.id = author).map ChatUser.fields := by
  induction users with
  | nil => rfl
  | cons user rest ih =>
      rw [List.map_cons, List.nodup_cons] at hdistinct
      rw [List.map_cons, List.reverse_cons, List.lookup_append, ih hdistinct.2]
      by_cases huser : user.id = author
      · have hnone : rest.find? (fun user => user.id = author) = none := by
          rw [List.find?_eq_none]
          intro other hmem hother
          have hid : other.id = user.id := (of_decide_eq_true hother).trans huser.symm
          exact hdistinct.1 (hid ▸ List.mem_map_of_mem hmem)
        simp [hnone, huser]
      · have hother : (author == user.id) = false := by
          simpa using fun h => huser h.symm
        simp [huser, List.lookup_cons, hother]

theorem eqText_ofText? (text : Option String) (expected : String) :
    (Json.ofText? text).eqText expected = decide (text = some expected) := by
  cases text with
  | none => rfl
  | some text => simp [Json.ofText?]

theorem isAgentIn_users (chat : LivechatChat rt) (author : String) :
    isAgentIn (chat.users.map fun user => (user.id, user.fields)).reverse author =
      decide (chat.typeOf author = some "agent") := by
  rw [isAgentIn, lookup_reverse_usersById chat.distinctUsers, LivechatChat.typeOf]
  cases chat.users.find? fun user => user.id = author with
  | none => rfl
  | some user => simp [user.isEmpty_fields, user.hasType, eqText_ofText?]

/-- The first user with the id is the only one. -/
theorem findUserType_users (rt : Runtime) (users : List ChatUser) (author : String) :
    findUserType rt author (users.map fun user => .obj user.fields) =
      .ok ((users.find? fun user => user.id = author).map ChatUser.type) := by
  induction users with
  | nil => rfl
  | cons user rest ih =>
      rw [List.map_cons, findUserType, ih, user.hasId, user.hasType]
      by_cases huser : user.id = author
      · have htype : (Json.ofText? user.type).columnText rt = user.type := by
          cases user.type with
          | none => rfl
          | some type => rfl
        simp [Json.pyStr, huser, htype]
      · simp [Json.pyStr, huser]

/-! ## Polling -/

theorem filter_truthy_threads (chat : LivechatChat rt) :
    [getKey chat.fields "thread", getKey chat.fields "active_thread"].filter Json.truthy =
      (chat.thread.toList ++ chat.activeThread.toList).map fun thread => .obj thread.fields := by
  have htruthy : ∀ thread : Option (ChatThread rt),
      [chatThreadJson thread].filter Json.truthy =
        thread.toList.map fun thread => Json.obj thread.fields := by
    intro thread
    cases thread with
    | none => rfl
    | some thread => simp [chatThreadJson, truthy_obj thread.isEmpty_fields]
  have hpair := List.filter_append (p := Json.truthy) [chatThreadJson chat.thread]
    [chatThreadJson chat.activeThread]
  rw [chat.hasThread, chat.hasActiveThread, List.map_append, ← htruthy, ← htruthy, ← hpair]
  rfl

theorem pollingThreads_fields (chat : LivechatChat rt) :
    pollingThreads chat.fields = .ok (chat.threads.map ChatThread.fields) := by
  rw [pollingThreads, chat.hasThreads, itemsOrEmpty_arr, filter_truthy_threads]
  simp only [bind, Except.bind]
  rw [← List.map_append]
  exact mapM_map_ok chat.threads fun _ => rfl

theorem pollingThreadEvents_fields (thread : ChatThread rt) :
    pollingThreadEvents thread.fields = .ok (thread.events.map ChatEvent.fields) := by
  rw [pollingThreadEvents, thread.hasEvents, itemsOrEmpty_arr]
  exact mapM_map_ok thread.events fun _ => rfl

/-- The events that the loop keeps are the messages and files whose authors it does not skip. -/
theorem keptEvents_events (rt : Runtime) (users : List (String × JsonObject))
    (includeAgentMessages : Bool) (events : List ChatEvent) :
    keptEvents rt users includeAgentMessages (events.map ChatEvent.fields) =
      .ok (((events.filterMap ChatEvent.text?).filter fun event =>
        includeAgentMessages || !isAgentIn users event.author).map ChatText.fields) := by
  induction events with
  | nil => rfl
  | cons event rest ih =>
      rw [List.map_cons, keptEvents, ih]
      cases event with
      | text event =>
          have htext : (ChatEvent.text event :: rest).filterMap ChatEvent.text? =
              event :: rest.filterMap ChatEvent.text? := rfl
          have hauthor : (getKey event.fields "author_id").pyStr rt = event.author := by
            rw [event.hasAuthor]
            rfl
          rw [htext]
          simp only [ChatEvent.fields, hauthor, isMessageOrFile_text]
          cases hskip : isAgentIn users event.author with
          | false => simp [hskip, bind, Except.bind, pure, Except.pure]
          | true =>
              cases includeAgentMessages with
              | false => simp [hskip, bind, Except.bind, pure, Except.pure]
              | true => simp [bind, Except.bind, pure, Except.pure]
      | other fields h =>
          have hother : (ChatEvent.other fields h :: rest).filterMap ChatEvent.text? =
              rest.filterMap ChatEvent.text? := rfl
          rw [hother]
          simp only [ChatEvent.fields, h]
          split
          · rfl
          · rfl

end AiCustomerService
