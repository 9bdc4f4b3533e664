import AiCustomerService.Backends.TacClient

/-!
# Backend queries

`services/backend_query_service.py`: the turnover requirement of a customer is queried and
turned into a reply intent; every exception becomes a failed result.
-/

namespace AiCustomerService

open Support

/-- The reply intents of a backend query. -/
inductive CustomerReplyIntent
  | backendPlayerNotFound
  | backendTurnoverRemaining
  | backendTurnoverMet
  | backendTurnoverUnknown
  deriving DecidableEq

/-- What `execute` returns; the remaining turnover is the only fact of a reply. -/
inductive BackendQueryResult (F : Type)
  | failed (errorCode errorMessage : String)
  | success (replyIntent : CustomerReplyIntent) (remainingTurnover : Option String)
      (query : TurnoverResult F)

/-- `result["status"] == "failed"`. -/
def BackendQueryResult.isFailed {F : Type} : BackendQueryResult F → Bool
  | .failed _ _ => true
  | .success _ _ _ => false

/-- What the resolver and the factory raise. -/
inductive ProviderError
  | config (code message : String)
  | unsupportedProvider (message : String)

/-- `BackendProviderFactory.create`, up to the client itself. -/
def createProvider (rt : Runtime) (config : BackendConfig) : Except ProviderError BackendConfig :=
  if rt.lower (strip config.providerType) = "tac" then .ok config
  else .error (.unsupportedProvider
    ("unsupported backend provider_type: " ++ config.providerType))

/-- `build_withdrawal_blocked_reply`. -/
def buildWithdrawalBlockedReply {F : Type} (rt : TacRuntime F) (queryResult : TurnoverResult F) :
    CustomerReplyIntent × Option String :=
  if !queryResult.playerFound then (.backendPlayerNotFound, none)
  else if 0 < queryResult.activeRequirementsCount ∨
      rt.positive queryResult.remainingTurnover = true then
    (.backendTurnoverRemaining, some (rt.formatNumber queryResult.remainingTurnover))
  else if queryResult.isMet then (.backendTurnoverMet, none)
  else (.backendTurnoverUnknown, none)

section Replies

variable {F : Type} {rt : TacRuntime F} {queryResult : TurnoverResult F}

theorem buildWithdrawalBlockedReply_notFound (h : queryResult.playerFound = false) :
    buildWithdrawalBlockedReply rt queryResult = (.backendPlayerNotFound, none) := by
  simp [buildWithdrawalBlockedReply, h]

theorem buildWithdrawalBlockedReply_active (hfound : queryResult.playerFound = true)
    (hactive : 0 < queryResult.activeRequirementsCount) :
    buildWithdrawalBlockedReply rt queryResult =
      (.backendTurnoverRemaining, some (rt.formatNumber queryResult.remainingTurnover)) := by
  unfold buildWithdrawalBlockedReply
  rw [hfound, if_pos (Or.inl hactive)]
  rfl

end Replies

/-- The result of a query that went through. -/
def successResult {F : Type} (rt : TacRuntime F) (queryResult : TurnoverResult F) :
    BackendQueryResult F :=
  let reply := buildWithdrawalBlockedReply rt queryResult
  .success reply.1 reply.2 queryResult

/-- `str(exc)`. -/
def TacError.text : TacError → String
  | .backendApi code message => strip (code ++ " " ++ message)
  | .other message => message

/-- The body of the `try` statement, after the provider has been created. -/
def queryProvider {F : Type} (rt : TacRuntime F) (safeErrorMessage : String → String)
    (config : BackendConfig) (accountOrPhone : String) : TacProg (BackendQueryResult F) :=
  (queryTurnoverRequirement rt config accountOrPhone >>= fun queryResult =>
    .ret (successResult rt queryResult)).tryCatch fun exc =>
      .ret (.failed "FAILED_BACKEND_QUERY" (safeErrorMessage exc.text))

/-- `BackendQueryService.execute`.  `resolve` is the resolver with the settings of the
tenant, and `safeErrorMessage` redacts the text of an exception. -/
def executeBackendQuery {F : Type} (rt : TacRuntime F) (safeErrorMessage : String → String)
    (resolve : JsonObject → Except ProviderError BackendConfig) (payload : JsonObject) :
    TacProg (BackendQueryResult F) :=
  if !(getKey payload "intent").eqText "withdrawal_blocked_or_rollover" then
    pure (.failed "FAILED_UNSUPPORTED_INTENT"
      ("unsupported backend.query intent: " ++ (getKey payload "intent").pyStr rt.toRuntime))
  else if !(getKey payload "account_or_phone").truthy then
    pure (.failed "FAILED_BUSINESS" "backend.query missing account_or_phone")
  else
    match resolve payload >>= createProvider rt.toRuntime with
    | .error (.config code message) => pure (.failed code message)
    | .error (.unsupportedProvider message) => pure (.failed "FAILED_UNSUPPORTED_PROVIDER" message)
    | .ok config =>
        queryProvider rt safeErrorMessage config
          ((getKey payload "account_or_phone").pyStr rt.toRuntime)

end AiCustomerService
