import AiCustomerService.Backends.ExactAmounts
import AiCustomerService.Services.ReplyRenderer
import AiCustomerService.Workers.ExternalCommand
import AiCustomerService.Workers.ResultConsumer

/-!
# The plan of a backend reply

The result of a backend query on its way to the composed reply: the worker of the commands stores it
with the context of the customer, and the consumer of the results demands the remaining turnover
word by word.
-/

namespace AiCustomerService

open Support

/-! ## Stored results -/

/-- `str(reply_intent)`. -/
def CustomerReplyIntent.text : CustomerReplyIntent → String
  | .backendPlayerNotFound => "backend_player_not_found"
  | .backendTurnoverRemaining => "backend_turnover_remaining"
  | .backendTurnoverMet => "backend_turnover_met"
  | .backendTurnoverUnknown => "backend_turnover_unknown"

/-- `reply_facts`. -/
def replyFacts : Option String → JsonObject
  | some remaining => .ofList [("remaining_turnover", .str remaining)]
  | none => ∅

/-- An amount in JSON, which has neither infinities nor NaN. -/
def amountJson (rt : Runtime) : Amount → Option Json
  | .decimal value => some (.float value (rt.reprFloat value))
  | _ => none

/-- An amount or `None`. -/
def optionalAmountJson (rt : Runtime) : Option Amount → Option Json
  | some amount => amountJson rt amount
  | none => some .null

/-- A query of `build_turnover_requirement_queries`. -/
def windowJson (window : TurnoverWindow) : Json :=
  .obj (.ofList [("query_mode", .str window.queryMode), ("date_type", .str window.dateType),
    ("start_date", .str window.range.1), ("end_date", .str window.range.2)])

/-- `sanitize_turnover_query_result`; the amounts of a player that was not found are the integer
0. -/
def turnoverJson (rt : Runtime) (turnover : TurnoverResult Amount) : Option JsonObject := do
  let amount := fun value : Option Amount =>
    if turnover.playerFound then optionalAmountJson rt value else some (.int 0)
  let remaining ← amount (some turnover.remainingTurnover)
  let required ← amount turnover.requiredTurnover
  let valid ← amount turnover.validTurnover
  let counted := match turnover.recordsCount with
    | some count => [("records_count", .int count)]
    | none => []
  some (.ofList ([("player_found", .bool turnover.playerFound),
    ("customer_id", turnover.customerId), ("customer_name", turnover.customerName),
    ("active_requirements_count", .int turnover.activeRequirementsCount),
    ("remaining_turnover", remaining), ("required_turnover", required), ("valid_turnover", valid),
    ("is_met", .bool turnover.isMet),
    ("query_windows", .arr (turnover.queryWindows.map windowJson))] ++ counted))

/-- What `execute` takes over from the configuration of the backend. -/
structure BackendIdentity where
  livechatGroupId : Json
  platform : Json
  merchantCode : Json
  configSource : Json

/-- The dictionary that `execute` returns for a success. -/
def successJson (rt : Runtime) (identity : BackendIdentity) (payload : JsonObject)
    (intent : CustomerReplyIntent) (fact : Option String) (turnover : TurnoverResult Amount) :
    Option JsonObject := do
  let query ← turnoverJson rt turnover
  some (.ofList [("status", .str "success"), ("reply_intent", .str intent.text),
    ("reply_facts", .obj (replyFacts fact)), ("intent", getKey payload "intent"),
    ("account_or_phone", .str ((getKey payload "account_or_phone").pyStr rt)),
    ("livechat_group_id", identity.livechatGroupId), ("platform", identity.platform),
    ("merchant_code", identity.merchantCode), ("config_source", identity.configSource),
    ("query", .obj query)])

/-- The result of a command as it is stored. -/
def storedResult (rt : Runtime) (identity : BackendIdentity) (payload : JsonObject)
    (intent : CustomerReplyIntent) (fact : Option String) (turnover : TurnoverResult Amount) :
    Option JsonObject :=
  (successJson rt identity payload intent fact turnover).map (copyBackendContext payload)

theorem getKey_copyContext {keys : List String} {payload result : JsonObject} {key : String}
    (h : key ∉ keys) : getKey (copyContext keys payload result) key = getKey result key := by
  unfold copyContext
  induction keys generalizing result with
  | nil => rfl
  | cons first rest ih =>
      rw [List.mem_cons, not_or] at h
      rw [List.foldl_cons, ih h.2]
      split
      · rfl
      · rw [getKey, Dict.get?_set, if_neg h.1, getKey]

/-- The context of the command leaves the other keys as they are. -/
theorem getKey_copyBackendContext {payload result : JsonObject} {key : String}
    (hvisible : key ∉ userVisibleKeys) (hlocation : key ∉ ["livechat_group_id", "platform"]) :
    getKey (copyBackendContext payload result) key = getKey result key := by
  unfold copyBackendContext
  rw [getKey_copyContext hvisible, getKey_copyContext]
  exact fun hmem => hlocation (List.mem_of_mem_filter hmem)

/-- What the consumer reads of a stored result. -/
structure StoredAnswer (rt : Runtime) (intent : CustomerReplyIntent) (fact : Option String)
    (turnover : TurnoverResult Amount) (result : JsonObject) : Prop where
  status : getKey result "status" = .str "success"
  replyIntent : getKey result "reply_intent" = .str intent.text
  facts : getKey result "reply_facts" = .obj (replyFacts fact)
  answer : getKey result "answer" = .null
  query : ∃ query, turnoverJson rt turnover = some query ∧ getKey result "query" = .obj query

theorem storedAnswer_of_storedResult {rt : Runtime} {identity : BackendIdentity}
    {payload : JsonObject} {intent : CustomerReplyIntent} {fact : Option String}
    {turnover : TurnoverResult Amount} {result : JsonObject}
    (h : storedResult rt identity payload intent fact turnover = some result) :
    StoredAnswer rt intent fact turnover result := by
  obtain ⟨success, hsuccess, rfl⟩ := Option.map_eq_some_iff.mp h
  obtain ⟨query, hquery, hsuccess⟩ := Option.bind_eq_some_iff.mp hsuccess
  obtain rfl := Option.some.inj hsuccess
  constructor
  · rw [getKey_copyBackendContext (by decide) (by decide)]
    rfl
  · rw [getKey_copyBackendContext (by decide) (by decide)]
    rfl
  · rw [getKey_copyBackendContext (by decide) (by decide)]
    rfl
  · rw [getKey_copyBackendContext (by decide) (by decide)]
    rfl
  · refine ⟨query, hquery, ?_⟩
    rw [getKey_copyBackendContext (by decide) (by decide)]
    rfl

/-- The remaining turnover of a stored result. -/
theorem remaining_of_turnoverJson {rt : Runtime} {turnover : TurnoverResult Amount}
    {query : JsonObject} (h : turnoverJson rt turnover = some query) :
    if turnover.playerFound then
      amountJson rt turnover.remainingTurnover = some (getKey query "remaining_turnover")
    else getKey query "remaining_turnover" = .int 0 := by
  obtain ⟨remaining, hremaining, h⟩ := Option.bind_eq_some_iff.mp h
  obtain ⟨required, -, h⟩ := Option.bind_eq_some_iff.mp h
  obtain ⟨valid, -, h⟩ := Option.bind_eq_some_iff.mp h
  have hread : getKey query "remaining_turnover" = remaining := by
    rw [← Option.some.inj h]
    cases turnover.recordsCount with
    | none => rfl
    | some count => rfl
  rw [hread]
  dsimp only at hremaining
  split
  · rename_i hfound
    rw [if_pos hfound] at hremaining
    exact hremaining
  · rename_i hfound
    rw [if_neg hfound] at hremaining
    exact (Option.some.inj hremaining).symm

/-! ## The plan -/

/-- `build_reply_plan`, with the lists that a backend reply has. -/
structure ReplyPlan where
  kind : String
  fallbackText : String
  mustSayExact : List String
  mustNotSay : List String
  allowedFacts : List String

/-- `_backend_result_must_say_exact`. -/
def backendResultMustSayExact (rt : Runtime) (query : JsonObject) : List String :=
  let remaining := getKey query "remaining_turnover"
  if remaining.isNull then [] else [formatNumberForReplyPlan rt remaining]

/-- `_backend_result_allowed_facts`. -/
def backendResultAllowedFacts (rt : Runtime) (result : JsonObject) : List String :=
  let answer := strip ((getKey result "answer").textOrEmpty rt)
  let replyIntent := strip ((getKey result "reply_intent").textOrEmpty rt)
  let query := (getKey result "query").dictOrEmpty
  (if answer = "" then [] else [answer]) ++
    (if replyIntent = "" then [] else ["reply_intent=" ++ replyIntent]) ++
    ((getKey result "reply_facts").dictOrEmpty.entries.map fun entry =>
      entry.1 ++ "=" ++ formatNumberForReplyPlan rt entry.2) ++
    ["player_found", "active_requirements_count", "remaining_turnover", "required_turnover",
      "valid_turnover", "is_met", "records_count"].filterMap fun key =>
        (query.get? key).map fun value => key ++ "=" ++ formatNumberForReplyPlan rt value

/-- The plan of `_build_backend_final_reply_state`. -/
def backendReplyPlan (rt : Runtime) (row : ExternalResultRow) (fallbackText : String) :
    ReplyPlan where
  kind := "backend_query_result"
  fallbackText := fallbackText
  mustSayExact :=
    backendResultMustSayExact rt (getKey row.resultJson "query").dictOrEmpty
  mustNotSay := ["已到账", "已完成", "保证", "马上到账", "一定"]
  allowedFacts := backendResultAllowedFacts rt row.resultJson

/-- The plan that `_apply_backend_final_reply` attaches to the result; a handler without a text or
with a handoff gets none. -/
def attachedReplyPlan (rt : Runtime) (row : ExternalResultRow) (handler : ResultHandler) :
    Option ReplyPlan :=
  if row.resultType ≠ "backend.query.result" then none
  else if strip handler.text = "" then none
  else if hasHumanHandoffCommand handler then none
  else some (backendReplyPlan rt row (strip handler.text))

end AiCustomerService
