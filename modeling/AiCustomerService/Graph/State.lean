import AiCustomerService.Services.Outbox
import AiCustomerService.Services.TelegramCaseFollowup

/-!
# The state of the workflow graph

`app/graph/state.py`: the nodes pass a dictionary on, each one a copy of the last with some keys
replaced.  The commands and the money cases are kept beside the other keys, with their own types.
-/

namespace AiCustomerService

open Support

theorem getKey_set (d : JsonObject) (key other : String) (value : Json) :
    getKey (d.set key value) other = if other = key then value else getKey d other := by
  unfold getKey
  rw [Dict.get?_set]
  split
  · rfl
  · rfl

@[simp]
theorem getKey_empty (key : String) : getKey ∅ key = .null := rfl

/-- What a node reads and returns. -/
structure NodeState where
  values : JsonObject
  commands : List WorkflowCommand
  telegramMoneyCaseCandidates : List MoneyCase
  matchedTelegramMoneyCase : Option MoneyCase

namespace NodeState

variable (s : NodeState)

/-- `state.get(key)`. -/
def get (key : String) : Json := getKey s.values key

/-- `{**state, key: value}`. -/
def set (key : String) (value : Json) : NodeState := { s with values := s.values.set key value }

/-- `{**state, "commands": commands}`. -/
def withCommands (commands : List WorkflowCommand) : NodeState := { s with commands }

/-- `state.get("slot_memory") or {}`. -/
def slotMemory : JsonObject := (s.get "slot_memory").dictOrEmpty

/-- `{**state, "slot_memory": slot_memory}`. -/
def withSlotMemory (slotMemory : JsonObject) : NodeState := s.set "slot_memory" (.obj slotMemory)

/-- `state.get("intent_result") or {}`. -/
def intentResult : JsonObject := (s.get "intent_result").dictOrEmpty

/-- `str(state.get("rewritten_question") or state.get("raw_user_input") or "")`. -/
def inputText (rt : Runtime) : String :=
  ((s.get "rewritten_question").orElse (s.get "raw_user_input")).textOrEmpty rt

/-- `str(state.get("raw_user_input") or "")`. -/
def rawText (rt : Runtime) : String := (s.get "raw_user_input").textOrEmpty rt

/-- `normalize_text(state.get("rewritten_question") or state.get("raw_user_input")).lower()`. -/
def lowerText (rt : Runtime) : String := rt.lower (strip (s.inputText rt))

/-- `state.get("attachments") or []`. -/
def attachments : List JsonObject :=
  match s.get "attachments" with
  | .arr items => items.filterMap Json.dict?
  | _ => []

/-- `state.get("recent_messages") or []`. -/
def recentMessages : List JsonObject :=
  match s.get "recent_messages" with
  | .arr items => items.filterMap Json.dict?
  | _ => []

/-! ## What the updates leave alone -/

@[simp]
theorem get_set (key other : String) (value : Json) :
    (s.set key value).get other = if other = key then value else s.get other := by
  exact getKey_set s.values key other value

@[simp]
theorem get_withCommands (commands : List WorkflowCommand) (key : String) :
    (s.withCommands commands).get key = s.get key := rfl

@[simp]
theorem get_withSlotMemory (slotMemory : JsonObject) (key : String) :
    (s.withSlotMemory slotMemory).get key =
      if key = "slot_memory" then .obj slotMemory else s.get key := by
  unfold withSlotMemory
  rw [get_set]

@[simp]
theorem commands_set (key : String) (value : Json) : (s.set key value).commands = s.commands := rfl

@[simp]
theorem commands_withCommands (commands : List WorkflowCommand) :
    (s.withCommands commands).commands = commands := rfl

@[simp]
theorem commands_withSlotMemory (slotMemory : JsonObject) :
    (s.withSlotMemory slotMemory).commands = s.commands := rfl

@[simp]
theorem slotMemory_withSlotMemory (slotMemory : JsonObject) :
    (s.withSlotMemory slotMemory).slotMemory = slotMemory := by
  simp [NodeState.slotMemory, Json.dictOrEmpty]

@[simp]
theorem slotMemory_withCommands (commands : List WorkflowCommand) :
    (s.withCommands commands).slotMemory = s.slotMemory := rfl

@[simp]
theorem matchedTelegramMoneyCase_set (key : String) (value : Json) :
    (s.set key value).matchedTelegramMoneyCase = s.matchedTelegramMoneyCase := rfl

@[simp]
theorem matchedTelegramMoneyCase_withCommands (commands : List WorkflowCommand) :
    (s.withCommands commands).matchedTelegramMoneyCase = s.matchedTelegramMoneyCase := rfl

@[simp]
theorem matchedTelegramMoneyCase_withSlotMemory (slotMemory : JsonObject) :
    (s.withSlotMemory slotMemory).matchedTelegramMoneyCase = s.matchedTelegramMoneyCase := rfl

theorem slotMemory_set {key : String} (value : Json) (h : key ≠ "slot_memory") :
    (s.set key value).slotMemory = s.slotMemory := by
  rw [slotMemory, get_set, if_neg (Ne.symm h), slotMemory]

theorem inputText_congr (rt : Runtime) {s' : NodeState}
    (hrewritten : s'.get "rewritten_question" = s.get "rewritten_question")
    (hraw : s'.get "raw_user_input" = s.get "raw_user_input") :
    s'.inputText rt = s.inputText rt := by
  rw [inputText, hrewritten, hraw, inputText]

end NodeState

/-! ## What a step leaves alone -/

/-- The state has the values of another one under every key but some. -/
def SetsOnly (keys : List String) (s r : NodeState) : Prop :=
  ∀ key, key ∉ keys → r.get key = s.get key

namespace SetsOnly

variable {keys keys' : List String} {s t r : NodeState}

theorem refl (keys : List String) (s : NodeState) : SetsOnly keys s s := fun _ _ => rfl

theorem trans (hst : SetsOnly keys s t) (htr : SetsOnly keys t r) : SetsOnly keys s r :=
  fun key hkey => (htr key hkey).trans (hst key hkey)

theorem mono (h : SetsOnly keys s r) (hsub : ∀ key ∈ keys, key ∈ keys') : SetsOnly keys' s r :=
  fun key hkey => h key fun hmem => hkey (hsub key hmem)

theorem set (h : SetsOnly keys s t) {key : String} (value : Json) (hkey : key ∈ keys) :
    SetsOnly keys s (t.set key value) := by
  intro other hother
  have hne : other ≠ key := fun heq => hother (heq ▸ hkey)
  rw [NodeState.get_set, if_neg hne, h other hother]

theorem withSlotMemory (h : SetsOnly keys s t) (memory : JsonObject)
    (hkey : "slot_memory" ∈ keys) : SetsOnly keys s (t.withSlotMemory memory) :=
  h.set _ hkey

theorem withCommands (h : SetsOnly keys s t) (commands : List WorkflowCommand) :
    SetsOnly keys s (t.withCommands commands) := h

theorem ite {condition : Prop} [Decidable condition] (ht : SetsOnly keys s t)
    (hr : SetsOnly keys s r) : SetsOnly keys s (if condition then t else r) := by
  split
  · exact ht
  · exact hr

end SetsOnly

/-! ## The schema -/

/-- The keys of `GraphState`. -/
def graphStateKeys : List String :=
  ["tenant_id", "channel_type", "conversation_id", "chat_id", "thread_id", "event_id",
    "payload_json", "raw_user_input", "rewritten_question", "detected_language",
    "language_confidence", "language_source", "conversation_language", "reply_language",
    "supported_languages", "language_result", "rewrite_result", "llm_rewrite_result",
    "llm_router_result", "llm_sop_slot_result", "llm_sop_dialogue_plan", "sop_slot_source",
    "event_type", "attachments", "image_analysis", "image_candidate_only",
    "pending_image_confirmation", "verified_receipt_attachments", "status", "active_workflow",
    "workflow_stage", "slot_memory", "intent_result", "llm_intent_result", "route",
    "route_source", "route_locked", "rewrite_source", "rag_context", "rag_result",
    "node_reply_template", "node_facts", "recent_messages", "previous_thread_memory",
    "telegram_money_case_candidates", "matched_telegram_money_case", "telegram_case_update",
    "reply_plan", "customer_reply", "response_text_fallback", "final_response_text",
    "final_reply_result", "response_text", "commands", "errors"]

/-- The keys that the schema declares. -/
def NodeState.declared (s : NodeState) : NodeState :=
  { s with values := ⟨s.values.entries.filter fun entry => graphStateKeys.contains entry.1⟩ }

theorem NodeState.get_declared (s : NodeState) (key : String) :
    s.declared.get key = if graphStateKeys.contains key then s.get key else .null := by
  unfold NodeState.declared NodeState.get getKey Dict.get?
  rw [Dict.lookup_filter_key s.values.entries (fun k => graphStateKeys.contains k) key]
  split
  · rfl
  · rfl

end AiCustomerService
