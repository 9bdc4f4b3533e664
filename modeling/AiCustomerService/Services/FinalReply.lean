import AiCustomerService.Graph.Nodes
import AiCustomerService.Python.Lines
import AiCustomerService.Services.ChineseScript

/-!
# The final reply

`FinalReplyService.compose` and `FinalReplyStreamingService.stream_final_reply`: the text of a
language model, or the text that the workflow has prepared.  What a model answers comes from
outside, as do the checks of `validate_final_reply_output` that do not concern the language.
-/

namespace AiCustomerService

open Support

/-! ## Settings and providers -/

/-- What both services share.  `defaultLanguage` is that of the tenant; `loads` is `json.loads`. -/
structure FinalReplySettings where
  rt : Runtime
  tables : PatternTables
  defaultLanguage : String
  loads : String → Except PyError Json
  structuredFallback : NodeState → Json
  otherViolations : NodeState → JsonObject → Except PyError (List String)

/-- An exception of a provider. -/
structure ReplyProviderError where
  typeName : String
  message : String
  isTimeout : Bool

/-- What a provider makes of a payload. -/
inductive ProviderAnswer where
  | raised (error : ReplyProviderError)
  | answered (output : Json)

/-- A provider with `compose_final_reply`; its payload is built from the state and a fallback. -/
abbrev ReplyProvider := NodeState → String → ProviderAnswer

/-- The settings of `FinalReplyService`. -/
structure FinalReplyService where
  provider : Option ReplyProvider
  failoverProvider : Option ReplyProvider
  enabled : Bool
  minConfidence : ℚ
  fallbackEnabled : Bool

/-! ## Labels that the customer must not see -/

/-- The texts that `_sanitize_customer_visible_internal_labels` replaces. -/
def internalLabels : List (String × String) :=
  [("后台回复显示", "查询结果显示"), ("后台工作人员回复显示", "查询结果显示"),
    ("后台人员回复显示", "查询结果显示"), ("後台回覆顯示", "查詢結果顯示"),
    ("後台工作人員回覆顯示", "查詢結果顯示"), ("後台人員回覆顯示", "查詢結果顯示"),
    ("后台核实时", "为您核实时"), ("後台核實時", "為您核實時"),
    ("后台已进行回复", "已收到处理更新"), ("後台已進行回覆", "已收到處理更新"),
    ("后台已回复", "已收到处理更新"), ("後台已回覆", "已收到處理更新"),
    ("后台回复", "已为您核实到"), ("後台回覆", "已為您核實到"),
    ("后台显示", "查询结果显示"), ("後台顯示", "查詢結果顯示"),
    ("后台工作人员", "处理人员"), ("後台工作人員", "處理人員"), ("后台人员", "处理人员"),
    ("後台人員", "處理人員"), ("后台", "我们"), ("後台", "我們")]

/-- The patterns that it replaces, with `\b` around them and without case. -/
def internalPhrases : List (String × String) :=
  [("backend replied", "we received an update"), ("backend shows", "the check result shows"),
    ("backend", "support team")]

/-- The substitutions of `_sanitize_customer_visible_internal_labels`, in their order. -/
def labelSubstitutions (tables : PatternTables) : List (Regex Char × List Char) :=
  internalLabels.map (fun label => (.exact label.1.toList, label.2.toList)) ++
    internalPhrases.map fun phrase =>
      (tables.wholeWords (tables.phrase phrase.1), phrase.2.toList)

/-- `_sanitize_customer_visible_internal_labels`. -/
def sanitizeInternalLabels (tables : PatternTables) (text : String) : String :=
  String.ofList ((labelSubstitutions tables).foldl
    (fun text label => label.1.substitute label.2 text) text.toList)

/-! ## Results -/

/-- `sorted(set(values))`. -/
def sortedTexts (values : List String) : List String := values.eraseDups.mergeSort fun a b => a ≤ b

theorem mem_sortedTexts {values : List String} {value : String} :
    value ∈ sortedTexts values ↔ value ∈ values := by
  rw [sortedTexts, List.mem_mergeSort, List.mem_eraseDups]

/-- `list(value or [])`. -/
def listOrEmpty (value : Json) : Except PyError Json :=
  match value.orElse (.arr []) with
  | .arr items => .ok (.arr items)
  | .str text => .ok (.arr (text.toList.map fun c => .str (String.singleton c)))
  | .obj fields => .ok (.arr (fields.entries.map fun entry => .str entry.1))
  | _ => .error (.typeError "object is not iterable")

/-- `fallback_result`, with the metadata that is added to it. -/
def fallbackResult (reason : String) (violations : List String) (error : Option ReplyProviderError)
    (metadata : List (String × Json)) : Json :=
  let result : JsonObject := .ofList [("status", .str "fallback"),
    ("fallback_reason", .str reason)]
  let result := if violations = [] then result
    else result.set "violations" (.arr ((sortedTexts violations).map .str))
  let result := match error with
    | some error => (result.set "error_type" (.str error.typeName)).set "error_message"
        (.str (String.ofList (error.message.toList.take 1000)))
    | none => result
  .obj (result.merge (.ofList metadata))

/-- `_provider_metadata`. -/
def providerMetadata (output : JsonObject) : List (String × Json) :=
  if (getKey output "provider").truthy then [("provider", getKey output "provider")] else []

namespace FinalReplySettings

variable (settings : FinalReplySettings)

/-- `accepted_result`. -/
def acceptedResult (output : JsonObject) : Except PyError JsonObject := do
  let confidence ← pyFloat settings.rt ((getKey output "confidence").orElse (.float 0 "0.0"))
  let flags ← listOrEmpty (getKey output "safety_flags")
  let facts ← listOrEmpty (getKey output "used_facts")
  pure (.ofList [("status", .str "accepted"), ("language", getKey output "language"),
    ("tone", getKey output "tone"),
    ("confidence", .float confidence (settings.rt.reprFloat confidence)),
    ("safety_flags", flags), ("used_facts", facts), ("reason", getKey output "reason")])

/-- The result of a text that is accepted, with warnings if there are violations. -/
def takenResult (output : JsonObject) (violations : List String) (warningReason : String) :
    Except PyError JsonObject := do
  let accepted ← settings.acceptedResult output
  if violations = [] then pure accepted
  else pure (((accepted.set "status" (.str "accepted_with_warnings")).set "warning_reason"
    (.str warningReason)).set "violations" (.arr ((sortedTexts violations).map .str)))

/-! ## Languages -/

/-- `_target_reply_language`. -/
def targetReplyLanguage (s : NodeState) : String :=
  let language := normalizeLanguageCode settings.rt (s.get "reply_language")
  if language ≠ "unknown" then language
  else normalizeLanguageCode settings.rt (.str settings.defaultLanguage)

/-- `_reply_language` of the validation. -/
def checkedReplyLanguage (s : NodeState) : String :=
  let language := normalizeLanguageCode settings.rt (s.get "reply_language")
  if language ≠ "unknown" then language
  else normalizeLanguageCode settings.rt
    (getKey (s.get "tenant_persona").dictOrEmpty "default_language")

/-- `validate_final_reply_output`. -/
def validateFinalReplyOutput (s : NodeState) (output : JsonObject) :
    Except PyError (List String) := do
  let text := normalizeText settings.rt (getKey output "text")
  if text = "" then pure ["empty_text"]
  else do
    let language := settings.checkedReplyLanguage s
    let mismatch := if language ≠ "unknown" ∧
        normalizeLanguageCode settings.rt (getKey output "language") ≠ language then
      ["language_mismatch"] else []
    let script := if chineseScriptMismatch settings.rt (.str text) (.str language) then
      ["language_script_mismatch"] else []
    let others ← settings.otherViolations s output
    pure (sortedTexts (mismatch ++ script ++ others))

/-! ## Composing -/

/-- `fallback_text_raw`. -/
def fallbackTextRaw (s : NodeState) : String :=
  normalizeText settings.rt (((s.get "response_text_fallback").orElse
    (s.get "response_text")).orElse (settings.structuredFallback s))

/-- `fallback_text` of `compose`. -/
def fallbackText (s : NodeState) : String :=
  strip (sanitizeInternalLabels settings.tables (adaptChineseScript settings.rt
    (settings.fallbackTextRaw s) (.str (settings.targetReplyLanguage s))))

/-- The fallback that the payload of the providers is made of. -/
def payloadFallbackText (s : NodeState) : String :=
  strip (sanitizeInternalLabels settings.tables
    (textOr (some (settings.fallbackTextRaw s)) (settings.fallbackText s)))

/-- Why no provider has answered. -/
structure ProviderFailure where
  reason : String
  error : ReplyProviderError
  metadata : List (String × Json)

/-- Both providers have raised an exception. -/
def bothFailed (primary failover : ReplyProviderError) : ProviderFailure where
  reason := if primary.isTimeout || failover.isTimeout then "timeout" else "provider_failure"
  error := primary
  metadata := [("primary_error_type", .str primary.typeName),
    ("failover_error_type", .str failover.typeName),
    ("failover_error_message", .str (String.ofList (failover.message.toList.take 1000)))]

/-- The answer of the provider, or that of the other one when it raises an exception. -/
def providerOutput (service : FinalReplyService) (provider : ReplyProvider) (s : NodeState) :
    Except ProviderFailure Json :=
  match provider s (settings.payloadFallbackText s) with
  | .answered output => .ok output
  | .raised primary =>
      match service.failoverProvider with
      | none => .error ⟨if primary.isTimeout then "timeout" else "exception", primary, []⟩
      | some failover =>
          match failover s (settings.payloadFallbackText s) with
          | .raised error => .error (bothFailed primary error)
          | .answered output =>
              match output.orElse (.obj ∅) with
              | .obj fields => .ok (.obj (fields.set "provider" (.str "failover")))
              | _ => .error (bothFailed primary
                  ⟨"TypeError", "object is not a mapping", false⟩)

/-- `_fallback_state`. -/
def fallbackReply (service : FinalReplyService) (s : NodeState) (reason : String)
    (violations : List String) (error : Option ReplyProviderError)
    (metadata : List (String × Json)) : ComposedReply where
  fallbackText := .str (settings.fallbackText s)
  finalText := if service.fallbackEnabled then .str (settings.fallbackText s) else .null
  result := fallbackResult reason violations error metadata

/-- The violations that refuse a text of a provider. -/
def languageGuards : List String :=
  ["language_mismatch", "language_script_mismatch", "assistant_identity_leak"]

/-- The part of `compose` behind the answer of a provider. -/
def checkedReply (service : FinalReplyService) (s : NodeState) (answer : Json) :
    Except PyError ComposedReply := do
  let output ← answer.mappingOrEmpty
  let confidence ← pyFloat settings.rt ((getKey output "confidence").orElse (.float 0 "0.0"))
  let text := normalizeText settings.rt (getKey output "text")
  if text = "" then pure (settings.fallbackReply service s "empty_model_text" [] none [])
  else do
    let violations ← settings.validateFinalReplyOutput s output
    if violations.any languageGuards.contains then
      pure (settings.fallbackReply service s "language_guard" violations none
        ([("language_guard_violation", .bool true),
          ("requested_language", .str (settings.targetReplyLanguage s)),
          ("output_language",
            .str (normalizeLanguageCode settings.rt (getKey output "language")))] ++
          providerMetadata output))
    else do
      let low := decide (confidence < service.minConfidence)
      let result ← settings.takenResult output
        (if low then violations ++ ["low_confidence"] else violations)
        (if low then "low_confidence" else "guardrail_audit")
      pure ⟨.str (settings.fallbackText s), .str text,
        .obj (result.merge (.ofList (providerMetadata output)))⟩

/-- `compose`. -/
def compose (service : FinalReplyService) (s : NodeState) : Except PyError ComposedReply :=
  if settings.fallbackText s = "" then
    .ok ⟨s.get "response_text_fallback", .null, fallbackResult "empty_fallback" [] none []⟩
  else if !service.enabled then .ok (settings.fallbackReply service s "disabled" [] none [])
  else
    match service.provider with
    | none => .ok (settings.fallbackReply service s "missing_provider" [] none [])
    | some provider =>
        match settings.providerOutput service provider s with
        | .error failure => .ok (settings.fallbackReply service s failure.reason []
            (some failure.error) failure.metadata)
        | .ok answer => settings.checkedReply service s answer

/-! ## Streaming -/

/-- `_fallback_text` of the streaming service, without the adaption. -/
def streamFallbackRaw (s : NodeState) : String :=
  normalizeText settings.rt ((s.get "response_text_fallback").orElse (s.get "response_text"))

/-- `_fallback_text` of the streaming service. -/
def streamFallback (s : NodeState) : String :=
  strip (adaptChineseScript settings.rt (settings.streamFallbackRaw s)
    (.str (settings.targetReplyLanguage s)))

/-- Three backquotes in front. -/
def startsFence (text : List Char) : Bool :=
  (List.replicate 3 (Char.ofNat 96)).isPrefixOf text

/-- `_strip_json_fence`. -/
def stripJsonFence (text : String) : String :=
  let stripped := strip text
  if !startsFence stripped.toList then stripped
  else
    let trimmed (line : List Char) : List Char := (strip (String.ofList line)).toList
    let lines := splitLines stripped.toList
    let lines := if (lines.head?.map trimmed).any startsFence then lines.drop 1 else lines
    let lines := if (lines.getLast?.map trimmed) = some (List.replicate 3 (Char.ofNat 96)) then
        lines.dropLast
      else lines
    strip (String.ofList (joinLines lines))

/-- `_extract_text_from_json_like`. -/
def textFromJsonLike (text : String) : Option String :=
  let candidate := stripJsonFence text
  if !"\x7b".toList.isPrefixOf (candidate.toList.dropWhile isPySpace) then none
  else
    match settings.loads candidate with
    | .ok (.obj parsed) => some (normalizeText settings.rt (getKey parsed "text"))
    | _ => none

/-- `_normalize_streamed_text`. -/
def normalizeStreamedText (text : String) : String :=
  strip (textOr (settings.textFromJsonLike (strip text)) (strip text))

/-- `stream_final_reply`; `chunks` are the texts that the model streams, or its exception. -/
def streamFinalReply (chunks : Except PyError (List String)) (s : NodeState) :
    Except PyError ComposedReply :=
  let fallback := settings.streamFallback s
  if fallback = "" then
    .ok ⟨s.get "response_text_fallback", .null, fallbackResult "empty_fallback" [] none []⟩
  else do
    let texts ← chunks
    let text := settings.normalizeStreamedText (String.join texts)
    if text = "" then
      pure ⟨.str fallback, .str fallback, fallbackResult "empty_model_text" [] none []⟩
    else do
      let output : JsonObject := .ofList [("text", .str text), ("confidence", .float (4 / 5) "0.8"),
        ("language", (s.get "reply_language").orElse (.str "unknown")), ("tone", .str "polite"),
        ("safety_flags", .arr []), ("used_facts", .arr []),
        ("reason", .str "text_only_streaming")]
      let violations ← settings.validateFinalReplyOutput s output
      let result ← settings.takenResult output violations "guardrail_audit"
      pure ⟨.str fallback, .str text, .obj result⟩

end FinalReplySettings

end AiCustomerService
