import AiCustomerService.Python.Json
import AiCustomerService.Support.Program
import Mathlib.Data.List.Infix

/-!
# The backend client

`backends/tac_client.py`: a client of a backend that is reached through a transport.  A
request carries a token; a response that calls the token invalid is answered by one login
and one repetition.
-/

namespace AiCustomerService

open Support

/-- The exceptions of the client: `BackendApiError`, and whatever else is raised. -/
inductive TacError
  | backendApi (code message : String)
  | other (message : String)

/-- The requests of the client.  `repeated` tells the repetition after a login from the
first attempt; the transport does not see it. -/
inductive TacOp
  | login (path merchant : String)
  | get (path : String) (params : JsonObject) (authorization merchant : String)
      (repeated : Bool)

abbrev tacOps : Interface := ⟨TacOp, fun _ => Json, TacError⟩

abbrev TacProg := Prog tacOps

/-- `transport.request`. -/
def TacOp.call (op : TacOp) : TacProg Json := Prog.perform (I := tacOps) op

/-- `BackendConfig`, with the texts that the resolver has stripped. -/
structure BackendConfig where
  providerType : String
  baseUrl : Option String
  authorization : Option String
  merchantCode : Option String
  loginOperator : Option String
  loginPassword : Option String
  totpSecret : Option String
  loginMerchant : Option String
  defaultLookbackDays : Int
  fallbackLookbackDays : Int

/-- The decimal arithmetic, the clock and the text functions of the language.  `ofText` is
`float(Decimal(text))`, which may not be a number, and `roundMoney` is the rounding of
`round_money`. -/
structure TacRuntime (F : Type) extends Runtime where
  upper : String → String
  isDigit : Char → Bool
  zero : F
  ofText : String → Option (Except String F)
  add : F → F → F
  positive : F → Bool
  nonpositive : F → Bool
  roundMoney : F → Except String F
  formatNumber : F → String
  generateTotp : String → Except TacError String
  rangeDays : Int → String × String
  monthRange : String × String
  lastWithdrawalWindow : String × String
  round_zero : ∃ rounded, roundMoney zero = .ok rounded

/-! ## Logging in -/

/-- `raise BackendApiError("FAILED_CONFIG", message)`. -/
def configError (message : String) : TacError := .backendApi "FAILED_CONFIG" message

/-- `login_merchant or merchant_code`, after the merchant of the call. -/
def loginMerchantOf (config : BackendConfig) (merchantCode : String) : String :=
  if merchantCode = "" then textOr (config.loginMerchant.or config.merchantCode) ""
  else merchantCode

/-- `result.get("token")` of a response that is an object. -/
def tokenOf (result : Json) : Json :=
  match result with
  | .obj fields => getKey fields "token"
  | _ => .null

/-- `login_password`. -/
def loginPassword {F : Type} (rt : TacRuntime F) (config : BackendConfig) (merchantCode : String) :
    TacProg String :=
  if !hasText config.loginOperator || !hasText config.loginPassword then
    .raise (configError "backend login operator/password is required")
  else if loginMerchantOf config merchantCode = "" then
    .raise (configError "backend merchant code is required")
  else if !hasText config.baseUrl then .raise (configError "backend base_url is required")
  else do
    let result ← (TacOp.login "/tac/api/login/password" (loginMerchantOf config merchantCode)).call
    if (tokenOf result).truthy then pure ((tokenOf result).pyStr rt.toRuntime)
    else .raise (.backendApi "FAILED_BACKEND_QUERY" "login response missing token")

/-- The exception of `login_otp` for a response without a token. -/
def otpError {F : Type} (rt : TacRuntime F) (result : Json) : TacError :=
  match result with
  | .obj fields =>
      .backendApi
        (((getKey fields "errorCode").orElse (.str "FAILED_BACKEND_QUERY")).pyStr rt.toRuntime)
        (((getKey fields "message").orElse (.str "otp login response missing token")).pyStr
          rt.toRuntime)
  | _ => .backendApi "FAILED_BACKEND_QUERY" "otp login response missing token"

/-- `login_otp`. -/
def loginOtp {F : Type} (rt : TacRuntime F) (config : BackendConfig) (merchantCode : String) :
    TacProg String :=
  if !hasText config.loginOperator || !hasText config.totpSecret then
    .raise (configError "backend login operator/totp secret is required")
  else if loginMerchantOf config merchantCode = "" then
    .raise (configError "backend merchant code is required")
  else
    match rt.generateTotp (textOr config.totpSecret "") with
    | .error e => .raise e
    | .ok _ =>
        if !hasText config.baseUrl then .raise (configError "backend base_url is required")
        else do
          let result ← (TacOp.login "/tac/api/login/otp" (loginMerchantOf config merchantCode)).call
          if (tokenOf result).truthy then pure ((tokenOf result).pyStr rt.toRuntime)
          else .raise (otpError rt result)

/-- `login`: the new authorization. -/
def login {F : Type} (rt : TacRuntime F) (config : BackendConfig) (merchantCode : String) :
    TacProg String :=
  if hasText config.totpSecret then loginOtp rt config merchantCode
  else loginPassword rt config merchantCode

/-! ## Requests -/

/-- `_merchant_code`. -/
def merchantCode (config : BackendConfig) : TacProg String :=
  if hasText config.merchantCode then pure (textOr config.merchantCode "")
  else .raise (configError "backend merchant code is required")

/-- `_api_get_once`. -/
def apiGetOnce (config : BackendConfig) (authorization path : String) (params : JsonObject)
    (merchant : String) (repeated : Bool) : TacProg Json :=
  if !hasText config.baseUrl then .raise (configError "backend base_url is required")
  else (TacOp.get path params authorization merchant repeated).call

/-- The response says that the token is invalid. -/
def isInvalidToken (fields : JsonObject) : Bool :=
  (getKey fields "errorCode").eqText "INVALID_TOKEN"

/-- The token of the client, after a login if there is none. -/
def ensureAuthorization {F : Type} (rt : TacRuntime F) (config : BackendConfig)
    (authorization : Option String) (merchant : String) : TacProg String :=
  if hasText authorization then pure (textOr authorization "") else login rt config merchant

/-- Log in and repeat the request. -/
def repeatRequest {F : Type} (rt : TacRuntime F) (config : BackendConfig) (path : String)
    (params : JsonObject) (merchant : String) : TacProg (Json × Option String) := do
  let authorization ← login rt config merchant
  let result ← apiGetOnce config authorization path params merchant true
  pure (result, some authorization)

/-- `api_get`: the response, and the token that the client has afterwards. -/
def apiGet {F : Type} (rt : TacRuntime F) (config : BackendConfig) (authorization : Option String)
    (path : String) (params : JsonObject) (merchant : String) : TacProg (Json × Option String) := do
  let token ← ensureAuthorization rt config authorization merchant
  let result ← apiGetOnce config token path params merchant false
  match result with
  | .obj fields =>
      if isInvalidToken fields then repeatRequest rt config path params merchant
      else pure (result, some token)
  | _ => .raise (.other "object has no attribute 'get'")

/-- `assert_backend_success`. -/
def assertBackendSuccess {F : Type} (rt : TacRuntime F) (result : Json) (context : String) :
    TacProg Unit :=
  match result with
  | .obj fields =>
      if (getKey fields "success").isFalse then
        .raise (.backendApi
          (((getKey fields "errorCode").orElse ((getKey fields "code").orElse
            (.str "UNKNOWN_BACKEND_ERROR"))).pyStr rt.toRuntime)
          (((getKey fields "message").orElse ((getKey fields "msg").orElse
            (.str context))).pyStr rt.toRuntime))
      else pure ()
  | value => if value.truthy then .raise (.other "object has no attribute 'get'") else pure ()

/-! ## Rows -/

/-- `_get`. -/
def getPath (value : Json) (keys : List String) : Json :=
  keys.foldl (fun node key => match node with
    | .obj fields => getKey fields key
    | _ => .null) value

/-- Where `extract_rows` looks for a list first. -/
def rowPaths : List (List String) :=
  [["value"], ["value", "list"], ["value", "data"], ["value", "records"], ["value", "rows"],
    ["value", "items"], ["value", "content"], ["value", "result"], ["data"], ["data", "list"],
    ["data", "data"], ["data", "records"], ["data", "rows"], ["data", "items"],
    ["data", "content"], ["records"], ["rows"], ["items"], ["content"], ["result"]]

/-- The items of a list. -/
def listItems? : Json → Option (List Json)
  | .arr items => some items
  | _ => none

/-- `isinstance(value, (dict, list))`. -/
def isContainer : Json → Bool
  | .arr _ => true
  | .obj _ => true
  | _ => false

/-- The containers among the values of an object. -/
def childNodes (fields : JsonObject) : List Json :=
  (fields.entries.map Prod.snd).filter isContainer

theorem sum_sizeOf_values (entries : List (String × Json)) :
    ((entries.map Prod.snd).map sizeOf).sum ≤ sizeOf entries := by
  induction entries with
  | nil => simp
  | cons entry rest ih =>
      obtain ⟨key, value⟩ := entry
      simp only [List.map_cons, List.sum_cons, List.cons.sizeOf_spec, Prod.mk.sizeOf_spec]
      omega

theorem sum_sizeOf_filter (nodes : List Json) :
    ((nodes.filter isContainer).map sizeOf).sum ≤ (nodes.map sizeOf).sum := by
  induction nodes with
  | nil => simp
  | cons node rest ih =>
      by_cases hnode : isContainer node = true
      · rw [List.filter_cons_of_pos hnode]
        simp only [List.map_cons, List.sum_cons]
        omega
      · rw [List.filter_cons_of_neg hnode]
        simp only [List.map_cons, List.sum_cons]
        omega

theorem sizeOf_childNodes (fields : JsonObject) :
    ((childNodes fields).map sizeOf).sum < sizeOf (Json.obj fields) := by
  have hfilter := sum_sizeOf_filter (fields.entries.map Prod.snd)
  have hvalues := sum_sizeOf_values fields.entries
  obtain ⟨entries⟩ := fields
  simp only [Json.obj.sizeOf_spec, Dict.mk.sizeOf_spec]
  unfold childNodes
  simp only at hfilter hvalues ⊢
  omega

/-- The search for a list of objects, level by level.  In a decoded response no two nodes
are the same object, so the set of visited nodes is not kept. -/
def searchRows : List Json → List JsonObject
  | [] => []
  | .arr items :: rest =>
      if items.any (fun item => item.dict?.isSome) then items.filterMap Json.dict?
      else searchRows rest
  | .obj fields :: rest => searchRows (rest ++ childNodes fields)
  | .null :: rest => searchRows rest
  | .bool _ :: rest => searchRows rest
  | .int _ :: rest => searchRows rest
  | .float _ _ :: rest => searchRows rest
  | .str _ :: rest => searchRows rest
termination_by queue => (queue.map sizeOf).sum
decreasing_by
  all_goals simp only [List.map_cons, List.sum_cons, List.map_append, List.sum_append]
  · have := Json.arr.sizeOf_spec items
    omega
  · have := sizeOf_childNodes fields
    omega
  all_goals simp

/-- `extract_rows`. -/
def extractRows (result : Json) : List JsonObject :=
  if !result.truthy then []
  else
    match rowPaths.findSome? fun keys => listItems? (getPath result keys) with
    | some items => items.filterMap Json.dict?
    | none =>
        let queue := (["value", "data", "result"].map fun key => getPath result [key]).filter
          Json.truthy
        if queue.isEmpty then [] else searchRows queue

/-! ## Players -/

/-- What `query_player_user` returns. -/
structure Player where
  customerId : Json
  customerName : Json

/-- `_matches_identity`. -/
def matchesIdentity (rt : Runtime) (row : JsonObject) (accountOrPhone : String) : Bool :=
  ["customerName", "username", "loginName", "mobile", "phone"].any fun key =>
    (getKey row key).truthy && decide ((getKey row key).pyStr rt = accountOrPhone)

/-- `exact or (rows[0] if rows else None)`, when it is true. -/
def pickRow (rt : Runtime) (rows : List JsonObject) (accountOrPhone : String) :
    Option JsonObject :=
  let exact := (rows.find? fun row => matchesIdentity rt row accountOrPhone).filter
    fun row => !row.isEmpty
  (exact.or rows.head?).filter fun row => !row.isEmpty

/-- The player of a row. -/
def playerOf (picked : JsonObject) (accountOrPhone : String) : Player where
  customerId := (getKey picked "customerId").orElse
    ((getKey picked "id").orElse (getKey picked "customerID"))
  customerName := (getKey picked "customerName").orElse ((getKey picked "username").orElse
    ((getKey picked "loginName").orElse (.str accountOrPhone)))

/-- The parameters of a player search. -/
def playerSearchParams (merchant accountOrPhone searchCode : String) : JsonObject :=
  .ofList [("merchantCode", .str merchant), ("isWildcard", .str "false"),
    ("sortType", .str "desc"), ("pageable", .str "true"), ("data", .str accountOrPhone),
    ("searchCode", .str searchCode)]

/-- The search codes of `query_player_user`, one after the other. -/
def queryPlayerUser {F : Type} (rt : TacRuntime F) (config : BackendConfig)
    (merchant accountOrPhone : String) :
    List String → Option String → TacProg (Option Player × Option String)
  | [], authorization => pure (none, authorization)
  | searchCode :: rest, authorization => do
      let response ← apiGet rt config authorization
        "/tac/api/relay/get/player-search-non-bankcard"
        (playerSearchParams merchant accountOrPhone searchCode) merchant
      assertBackendSuccess rt response.1 ("player search " ++ searchCode)
      match pickRow rt.toRuntime (extractRows response.1) accountOrPhone with
      | some picked => pure (some (playerOf picked accountOrPhone), response.2)
      | none => queryPlayerUser rt config merchant accountOrPhone rest response.2

/-! ## Turnover requirements -/

/-- A query of `build_turnover_requirement_queries`. -/
structure TurnoverWindow where
  queryMode : String
  dateType : String
  range : String × String

/-- `build_turnover_requirement_queries`. -/
def buildTurnoverRequirementQueries {F : Type} (rt : TacRuntime F)
    (defaultDays fallbackDays : Int) : List TurnoverWindow :=
  [⟨"custom_recent", "C", rt.rangeDays defaultDays⟩, ⟨"custom_month", "C", rt.monthRange⟩,
    ⟨"last_withdrawal_window", "W", rt.lastWithdrawalWindow⟩,
    ⟨"last_withdrawal_recent", "W", rt.rangeDays defaultDays⟩,
    ⟨"custom_lookback", "C", rt.rangeDays fallbackDays⟩]

/-- `first_present`. -/
def firstPresent (record : JsonObject) (keys : List String) : Json :=
  (keys.map (getKey record)).find? (fun value => !value.isNull && !value.eqText "") |>.getD .null

/-- `to_money_number`. -/
def toMoneyNumber {F : Type} (rt : TacRuntime F) (value : Json) : Except String F :=
  if value.isNull || value.eqText "" then .ok rt.zero
  else
    let text := value.pyStr rt.toRuntime
    match rt.ofText (strip (String.ofList (text.toList.filter (· ≠ ',')))) with
    | some number => number
    | none =>
        let cleaned := text.toList.filter fun c => rt.isDigit c || c = '.' || c = '-'
        match rt.ofText (if cleaned = [] then "0" else String.ofList cleaned) with
        | some number => number
        | none => .ok rt.zero

/-- `is_incomplete_turnover_status`. -/
def isIncompleteTurnoverStatus {F : Type} (rt : TacRuntime F) (value : Json) : Bool :=
  let status := rt.upper (strip (value.textOrEmpty rt.toRuntime))
  status ≠ "" &&
    (["未完成", "未达成", "未達成", "未满足", "未滿足", "INCOMPLETE", "UNFINISHED", "PENDING"].any
        (fun marker => decide (marker.toList <:+: status.toList)) ||
      ["I", "N", "NO", "OPEN"].contains status)

/-- `is_complete_turnover_status`, which nothing calls. -/
def isCompleteTurnoverStatus {F : Type} (rt : TacRuntime F) (value : Json) : Bool :=
  let status := rt.upper (strip (value.textOrEmpty rt.toRuntime))
  status ≠ "" &&
    (["完成", "已达成", "已達成", "已满足", "已滿足", "COMPLETE", "COMPLETED", "FINISHED", "CLOSED"].any
        (fun marker => decide (marker.toList <:+: status.toList)) ||
      ["C", "Y", "YES", "DONE"].contains status)

/-- The fields of a record that are summed up. -/
structure TurnoverRecord (F : Type) where
  remaining : F
  required : F
  valid : F
  isIncomplete : Bool

def statusKeys : List String :=
  ["statusName", "turnoverStatusName", "turnoverCheckingStatusName", "checkingStatusName",
    "auditStatusName", "completeStatusName", "status", "turnoverStatus", "turnoverCheckingStatus",
    "checkingStatus", "statusI18n", "state", "auditStatus", "completeStatus"]

def remainingKeys : List String :=
  ["remainingTurnover", "remainingFlow", "remainingWater", "remainingWaterAmount",
    "remainTurnover", "remainFlow", "remainWater", "remainingRollover", "remainRollover",
    "remainingAmount", "remainAmount", "leftTurnover", "leftAmount", "surplusTurnover",
    "remainValidBet", "unfinishTurnover", "unfinishedTurnover", "unCompletedTurnover",
    "uncompletedTurnover", "remainingBet", "remainBet", "requiredBettingRemaining",
    "turnoverBalance"]

def requiredKeys : List String :=
  ["turnoverRequirement", "turnoverRequirementAmount", "turnoverAmount", "requiredTurnover",
    "requireTurnover", "turnoverRequired", "bettingRequirement", "requiredBetting",
    "requirementAmount", "requiredAmount", "flowRequirement", "waterRequirement",
    "betRequirement", "targetTurnover"]

def validKeys : List String :=
  ["validTurnover", "validFlow", "validWater", "validBetting", "validGameBetting",
    "effectiveTurnover", "effectiveBetting", "completedTurnover", "completedAmount",
    "finishedTurnover", "accumulatedTurnover"]

def amountKeys : List String := ["amount", "transactionAmount", "depositAmount", "requestAmount"]

/-- `normalize_turnover_requirement_record`. -/
def normalizeTurnoverRequirementRecord {F : Type} (rt : TacRuntime F) (record : JsonObject) :
    Except String (TurnoverRecord F) := do
  let status := firstPresent record statusKeys
  let remaining ← toMoneyNumber rt (firstPresent record remainingKeys)
  let required ← toMoneyNumber rt (firstPresent record requiredKeys)
  let valid ← toMoneyNumber rt (firstPresent record validKeys)
  let hasStatus := !status.isNull && strip (status.pyStr rt.toRuntime) ≠ ""
  let isIncomplete := isIncompleteTurnoverStatus rt status || (!hasStatus && rt.positive remaining)
  let _ ← toMoneyNumber rt (firstPresent record amountKeys)
  pure ⟨remaining, required, valid, isIncomplete⟩

/-- The fields of a query result that `sanitize_turnover_query_result` keeps. -/
structure TurnoverResult (F : Type) where
  playerFound : Bool
  customerId : Json
  customerName : Json
  activeRequirementsCount : Nat
  remainingTurnover : F
  requiredTurnover : Option F
  validTurnover : Option F
  isMet : Bool
  recordsCount : Option Nat
  queryWindows : List TurnoverWindow

/-- `round_money(sum(...))`. -/
def roundedSum {F : Type} (rt : TacRuntime F) (numbers : List F) : Except String F :=
  rt.roundMoney (numbers.foldl rt.add rt.zero)

/-- `summarize_turnover_requirement`. -/
def summarizeTurnoverRequirement {F : Type} (rt : TacRuntime F) (player : Player)
    (records : List (TurnoverRecord F)) : Except String (TurnoverResult F) := do
  let active := records.filter TurnoverRecord.isIncomplete
  let remaining ← roundedSum rt (active.map TurnoverRecord.remaining)
  let required ← roundedSum rt (active.map TurnoverRecord.required)
  let valid ← roundedSum rt (active.map TurnoverRecord.valid)
  pure
    { playerFound := true
      customerId := player.customerId
      customerName := player.customerName
      activeRequirementsCount := active.length
      remainingTurnover := remaining
      requiredTurnover := if active.isEmpty then none else some required
      validTurnover := if active.isEmpty then none else some valid
      isMet := active.isEmpty || rt.nonpositive remaining
      recordsCount := some records.length
      queryWindows := [] }

/-- Continue with a computed value, or raise its exception. -/
def TacProg.lift {α : Type} : Except String α → TacProg α
  | .ok a => .ret a
  | .error message => .raise (.other message)

/-- The summary of the rows of one window. -/
def summarizeRows {F : Type} (rt : TacRuntime F) (player : Player) (rows : List JsonObject) :
    Except String (TurnoverResult F) := do
  let records ← rows.mapM (normalizeTurnoverRequirementRecord rt)
  summarizeTurnoverRequirement rt player records

/-- The parameters of a turnover query. -/
def turnoverParams (merchant : String) (player : Player) (window : TurnoverWindow) : JsonObject :=
  .ofList [("merchantCode", .str merchant), ("customerId", player.customerId),
    ("dateType", .str window.dateType), ("startDate", .str window.range.1),
    ("endDate", .str window.range.2), ("pageNo", .int 1), ("pageSize", .int 20)]

/-- `best is None or summary["records_count"] > best["records_count"]`. -/
def isBetter {F : Type} (summary : TurnoverResult F) : Option (TurnoverResult F) → Bool
  | none => true
  | some best => decide (best.recordsCount.getD 0 < summary.recordsCount.getD 0)

/-- The loop over the windows. -/
def queryWindows {F : Type} (rt : TacRuntime F) (config : BackendConfig) (merchant : String)
    (player : Player) : List TurnoverWindow → List TurnoverWindow → Option (TurnoverResult F) →
      Option String → TacProg (Option (TurnoverResult F))
  | [], _, best, _ => pure best
  | window :: rest, done, best, authorization => do
      let response ← apiGet rt config authorization
        "/tac/api/relay/get/mcs-player-promotion-turnover-checking-getTurnoverCheckingRecord"
        (turnoverParams merchant player window) merchant
      assertBackendSuccess rt response.1 ("turnover requirement search " ++ window.queryMode)
      let summary ← TacProg.lift (summarizeRows rt player (extractRows response.1))
      let summary := { summary with queryWindows := done ++ [window] }
      if 0 < summary.activeRequirementsCount then pure (some summary)
      else
        queryWindows rt config merchant player rest (done ++ [window])
          (if isBetter summary best then some summary else best) response.2

/-- The result for a player that does not exist. -/
def playerNotFound {F : Type} (rt : TacRuntime F) (windows : List TurnoverWindow) :
    TurnoverResult F :=
  ⟨false, .null, .null, 0, rt.zero, some rt.zero, some rt.zero, false, none, windows.take 1⟩

/-- The windows of a player, when the search found one with an id. -/
def queryRequirements {F : Type} (rt : TacRuntime F) (config : BackendConfig) (merchant : String)
    (windows : List TurnoverWindow) (found : Option Player) (authorization : Option String) :
    TacProg (TurnoverResult F) :=
  match found.filter fun player => player.customerId.truthy with
  | none => pure (playerNotFound rt windows)
  | some player => do
      match ← queryWindows rt config merchant player windows [] none authorization with
      | some best => pure best
      | none => TacProg.lift (summarizeTurnoverRequirement rt player [])

/-- `query_turnover_requirement`. -/
def queryTurnoverRequirement {F : Type} (rt : TacRuntime F) (config : BackendConfig)
    (accountOrPhone : String) : TacProg (TurnoverResult F) := do
  let merchant ← merchantCode config
  let found ← queryPlayerUser rt config merchant accountOrPhone ["USERNAME", "MOBILE"]
    config.authorization
  queryRequirements rt config merchant
    (buildTurnoverRequirementQueries rt config.defaultLookbackDays config.fallbackLookbackDays)
    found.1 found.2

end AiCustomerService
