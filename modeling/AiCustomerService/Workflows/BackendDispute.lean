import AiCustomerService.Python.Digest

/-!
# Disputed backend conclusions

`workflows/backend_dispute_escalation.py`: a customer may dispute what the
backend reported, which starts a recheck; the result of the recheck either
replaces the conclusion or confirms it, and a confirmed conclusion with a
dispute waiting in line goes to a human.
-/

namespace AiCustomerService

open Support

/-- `AUTHORITATIVE_REPLY_INTENTS`. -/
def authoritativeReplyIntents : List String :=
  ["backend_turnover_remaining", "backend_turnover_met"]

/-- The keys that `resolve_backend_recheck` pops. -/
def recheckKeys : List String :=
  ["backend_recheck_pending", "backend_recheck_origin_fingerprint",
    "backend_recheck_queued_dispute", "backend_recheck_queued_event_id"]

/-- The part of a result that identifies its conclusion. -/
def canonicalConclusion (rt : Runtime) (result : JsonObject) : JsonObject :=
  .ofList [
    ("intent", .str ((getKey result "intent").textOrEmpty rt)),
    ("reply_intent", .str ((getKey result "reply_intent").textOrEmpty rt)),
    ("reply_facts", .obj (getKey result "reply_facts").dictOrEmpty)]

/-- `record["fingerprint"]`. -/
def conclusionFingerprint (rt : Runtime) (result : JsonObject) : Json :=
  .str (sha256Hex (dumpsSorted (.obj (canonicalConclusion rt result))))

/-- `backend_conclusion_record`; `recordedAt` is the text of `_recorded_at_text`. -/
def backendConclusionRecord (rt : Runtime) (result : JsonObject) (recordedAt : String) :
    JsonObject :=
  ((canonicalConclusion rt result).set "fingerprint" (conclusionFingerprint rt result)).set
    "recorded_at" (.str recordedAt)

/-- `_is_authoritative_result`. -/
def isAuthoritativeResult (rt : Runtime) (result : JsonObject) : Bool :=
  (getKey result "status").eqText "success" &&
    decide ((getKey result "reply_intent").textOrEmpty rt ∈ authoritativeReplyIntents) &&
    (getKey result "intent").truthy

/-- `conclusion.get("fingerprint") if isinstance(conclusion, dict) else None`. -/
def storedFingerprint (slotMemory : JsonObject) : Json :=
  getKey (getKey slotMemory "backend_conclusion").dictOrEmpty "fingerprint"

/-- `isinstance(previous, dict) and previous.get("fingerprint") == record["fingerprint"]`. -/
def sameFingerprint (rt : Runtime) (slotMemory result : JsonObject) : Bool :=
  (storedFingerprint slotMemory).pyEq (conclusionFingerprint rt result)

/-- `apply_backend_conclusion`. -/
def applyBackendConclusion (rt : Runtime) (slotMemory result : JsonObject)
    (recordedAt : String) : Except PyError JsonObject :=
  if !isAuthoritativeResult rt result then .ok slotMemory
  else
    let updated := slotMemory.set "backend_conclusion"
      (.obj (backendConclusionRecord rt result recordedAt))
    if sameFingerprint rt slotMemory result then do
      let count ← (getKey updated "backend_dispute_count").intOrZero rt
      pure (updated.set "backend_dispute_count" (.int count))
    else
      .ok ((updated.set "backend_dispute_count" (.int 0)).erase "backend_dispute_last_event_id")

/-- What `resolve_backend_recheck` returns. -/
structure RecheckResolution where
  slotMemory : JsonObject
  sameConclusion : Bool
  shouldHandoff : Bool

/-- `resolve_backend_recheck`. -/
def resolveBackendRecheck (rt : Runtime) (slotMemory result : JsonObject)
    (recordedAt : String) : Except PyError RecheckResolution := do
  let wasPending := (getKey slotMemory "backend_recheck_pending").truthy
  let originFingerprint := getKey slotMemory "backend_recheck_origin_fingerprint"
  let queuedDispute := (getKey slotMemory "backend_recheck_queued_dispute").truthy
  let concluded ← applyBackendConclusion rt slotMemory result recordedAt
  let sameConclusion := wasPending && originFingerprint.truthy &&
    (storedFingerprint concluded).pyEq originFingerprint
  let updated := concluded.eraseAll recheckKeys
  let shouldHandoff := sameConclusion && queuedDispute
  if shouldHandoff then do
    let count ← (getKey updated "backend_dispute_count").intOrZero rt
    pure ⟨updated.set "backend_dispute_count" (.int (max count 2)), sameConclusion, true⟩
  else
    pure ⟨updated, sameConclusion, false⟩

end AiCustomerService
