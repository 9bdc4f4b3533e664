import AiCustomerService.Services.BackendQuery
import AiCustomerService.Support.Trace

/-!
# Error responses of the backend

An error response either says that it was not successful or carries an error code.  Only
the first kind is noticed.
-/

namespace AiCustomerService

open Support

/-- The response carries an error code, or `success` is false. -/
def IsErrorResponse (response : Json) : Prop :=
  ∃ fields, response = .obj fields ∧
    ((getKey fields "errorCode").truthy = true ∨ (getKey fields "success").isFalse = true)

/-- The response says that it was not successful. -/
def SaysFailure (response : Json) : Prop :=
  ∃ fields, response = .obj fields ∧ (getKey fields "success").isFalse = true

/-- The response is the first one of a request that is repeated. -/
def isRepeated (repeated : Bool) : Json → Bool
  | .obj fields => isInvalidToken fields && !repeated
  | _ => false

/-- The final response of a request, if the event is one. -/
def finalResponse? : tacOps.Event → Option Json
  | ⟨.get _ _ _ _ repeated, .ok response⟩ =>
      if isRepeated repeated response then none else some response
  | _ => none

/-- The final responses of the requests of a trace. -/
def finalResponses (trace : List tacOps.Event) : List Json := trace.filterMap finalResponse?

@[simp]
theorem finalResponses_append (before after : List tacOps.Event) :
    finalResponses (before ++ after) = finalResponses before ++ finalResponses after :=
  List.filterMap_append

theorem finalResponses_get (path merchant authorization : String) (params : JsonObject)
    (repeated : Bool) (response : Json) :
    finalResponses [⟨.get path params authorization merchant repeated, .ok response⟩] =
      if isRepeated repeated response then [] else [response] := by
  by_cases hrepeated : isRepeated repeated response = true
  · simp [finalResponses, finalResponse?, hrepeated]
  · simp [finalResponses, finalResponse?, hrepeated]

section Client

variable {F : Type} {rt : TacRuntime F} {config : BackendConfig}

/-! ## What a query that returns has seen -/

/-- The operation is a login. -/
def TacOp.IsLogin : TacOp → Prop
  | .login _ _ => True
  | .get _ _ _ _ _ => False

theorem finalResponses_of_all {α : Type} {m : TacProg α} {trace : List tacOps.Event}
    {outcome : Except TacError α} (hm : m.All TacOp.IsLogin) (h : Prog.Runs m trace outcome) :
    finalResponses trace = [] := by
  induction h with
  | ret a => rfl
  | raise e => rfl
  | @call op k trace outcome r _ ih =>
      have hrest := ih (hm.2 r)
      cases op with
      | login path merchant => exact hrest
      | get path params authorization merchant repeated => exact hm.1.elim

theorem login_all (merchant : String) : (login rt config merchant).All TacOp.IsLogin := by
  have hcall : ∀ (path merchant : String) (f : Json → TacProg String),
      (∀ r, (f r).All TacOp.IsLogin) →
      ((TacOp.login path merchant).call >>= f).All TacOp.IsLogin := by
    intro path merchant f hf
    have hlogin : (TacOp.login path merchant).call.All TacOp.IsLogin := Prog.all_perform trivial
    exact hlogin.bind hf
  unfold login
  split
  · unfold loginOtp
    split
    · trivial
    · split
      · trivial
      · split
        · trivial
        · split
          · trivial
          · apply hcall
            intro result
            split
            · trivial
            · trivial
  · unfold loginPassword
    split
    · trivial
    · split
      · trivial
      · split
        · trivial
        · apply hcall
          intro result
          split
          · trivial
          · trivial

/-- One attempt of a request. -/
theorem runs_apiGetOnce {authorization path merchant : String} {params : JsonObject}
    {repeated : Bool} {trace : List tacOps.Event} {result : Json}
    (h : Prog.Runs (apiGetOnce config authorization path params merchant repeated) trace
      (.ok result)) :
    trace = [⟨.get path params authorization merchant repeated, .ok result⟩] := by
  unfold apiGetOnce at h
  split at h
  · cases h
  · exact Prog.runs_perform_iff.mp h

/-- `api_get` returns the final response of its request. -/
theorem runs_apiGet {authorization : Option String} {path merchant : String} {params : JsonObject}
    {trace : List tacOps.Event} {response : Json × Option String}
    (h : Prog.Runs (apiGet rt config authorization path params merchant) trace (.ok response)) :
    finalResponses trace = [response.1] := by
  obtain ⟨first, token, rest, rfl, hfirst, h⟩ := Prog.runs_bind_ok.mp h
  obtain ⟨second, result, rest, rfl, hsecond, h⟩ := Prog.runs_bind_ok.mp h
  have hlogin : finalResponses first = [] := by
    apply finalResponses_of_all _ hfirst
    unfold ensureAuthorization
    split
    · trivial
    · exact login_all merchant
  rw [finalResponses_append, finalResponses_append, hlogin, runs_apiGetOnce hsecond]
  cases result with
  | obj fields =>
      dsimp only at h
      split at h
      · next hinvalid =>
        obtain ⟨third, token', rest, rfl, hthird, h⟩ := Prog.runs_bind_ok.mp h
        obtain ⟨fourth, repeatedResult, rest, rfl, hfourth, h⟩ := Prog.runs_bind_ok.mp h
        obtain ⟨rfl, rfl⟩ := Prog.runs_ret_iff.mp h
        rw [finalResponses_append, finalResponses_append,
          finalResponses_of_all (login_all merchant) hthird, runs_apiGetOnce hfourth]
        have hrepeat : isRepeated true repeatedResult = false := by
          cases repeatedResult with
          | obj fields => simp [isRepeated]
          | _ => rfl
        rw [finalResponses_get, finalResponses_get, hrepeat, if_pos (by simp [isRepeated, hinvalid])]
        rfl
      · next hvalid =>
        obtain ⟨rfl, rfl⟩ := Prog.runs_ret_iff.mp h
        rw [finalResponses_get, if_neg (by simp [isRepeated, hvalid])]
        rfl
  | null => cases h
  | bool b => cases h
  | int n => cases h
  | float value repr => cases h
  | str s => cases h
  | arr items => cases h

theorem runs_assertBackendSuccess {result : Json} {context : String}
    {trace : List tacOps.Event} (h : Prog.Runs (assertBackendSuccess rt result context) trace
      (.ok ())) : trace = [] ∧ ¬SaysFailure result := by
  unfold assertBackendSuccess at h
  split at h
  · next fields =>
    split at h
    · cases h
    · next hsuccess =>
      obtain ⟨rfl, -⟩ := Prog.runs_ret_iff.mp h
      refine ⟨rfl, ?_⟩
      rintro ⟨fields', hfields, hfailure⟩
      cases hfields
      exact hsuccess hfailure
  · next hnot =>
    split at h
    · cases h
    · obtain ⟨rfl, -⟩ := Prog.runs_ret_iff.mp h
      refine ⟨rfl, ?_⟩
      rintro ⟨fields, rfl, -⟩
      exact hnot fields rfl

/-- No final response of the trace says that it was not successful. -/
def NoneSaysFailure (trace : List tacOps.Event) : Prop :=
  ∀ response ∈ finalResponses trace, ¬SaysFailure response

theorem NoneSaysFailure.append {before after : List tacOps.Event} (h : NoneSaysFailure before)
    (h' : NoneSaysFailure after) : NoneSaysFailure (before ++ after) := by
  intro response hmem
  rw [finalResponses_append, List.mem_append] at hmem
  rcases hmem with hmem | hmem
  · exact h response hmem
  · exact h' response hmem

theorem noneSaysFailure_nil : NoneSaysFailure [] := fun _ hmem => by cases hmem

/-- A request whose response is asserted. -/
theorem noneSaysFailure_of_asserted {authorization : Option String} {path merchant context : String}
    {params : JsonObject} {first second : List tacOps.Event} {response : Json × Option String}
    (h : Prog.Runs (apiGet rt config authorization path params merchant) first (.ok response))
    (hassert : Prog.Runs (assertBackendSuccess rt response.1 context) second (.ok ())) :
    NoneSaysFailure first := by
  intro final hmem
  rw [runs_apiGet h, List.mem_singleton] at hmem
  rw [hmem]
  exact (runs_assertBackendSuccess hassert).2

theorem noneSaysFailure_queryPlayerUser {merchant accountOrPhone : String} {codes : List String}
    {authorization : Option String} {trace : List tacOps.Event}
    {found : Option Player × Option String}
    (h : Prog.Runs (queryPlayerUser rt config merchant accountOrPhone codes authorization) trace
      (.ok found)) : NoneSaysFailure trace := by
  induction codes generalizing authorization trace with
  | nil =>
      obtain ⟨rfl, -⟩ := Prog.runs_ret_iff.mp h
      exact noneSaysFailure_nil
  | cons code rest ih =>
      obtain ⟨first, response, others, rfl, hget, h⟩ := Prog.runs_bind_ok.mp h
      obtain ⟨second, ⟨⟩, others, rfl, hassert, h⟩ := Prog.runs_bind_ok.mp h
      apply (noneSaysFailure_of_asserted hget hassert).append
      rw [(runs_assertBackendSuccess hassert).1, List.nil_append]
      split at h
      · obtain ⟨rfl, -⟩ := Prog.runs_ret_iff.mp h
        exact noneSaysFailure_nil
      · exact ih h

theorem runs_lift {α : Type} {computed : Except String α} {trace : List tacOps.Event} {a : α}
    (h : Prog.Runs (TacProg.lift computed) trace (.ok a)) : trace = [] ∧ computed = .ok a := by
  cases computed with
  | ok b =>
      obtain ⟨rfl, rfl⟩ := Prog.runs_ret_iff.mp h
      exact ⟨rfl, rfl⟩
  | error e => cases h

theorem noneSaysFailure_queryWindows {merchant : String} {player : Player}
    {windows done : List TurnoverWindow} {best : Option (TurnoverResult F)}
    {authorization : Option String} {trace : List tacOps.Event}
    {result : Option (TurnoverResult F)}
    (h : Prog.Runs (queryWindows rt config merchant player windows done best authorization) trace
      (.ok result)) : NoneSaysFailure trace := by
  induction windows generalizing done best authorization trace with
  | nil =>
      obtain ⟨rfl, -⟩ := Prog.runs_ret_iff.mp h
      exact noneSaysFailure_nil
  | cons window rest ih =>
      obtain ⟨first, response, others, rfl, hget, h⟩ := Prog.runs_bind_ok.mp h
      obtain ⟨second, ⟨⟩, others, rfl, hassert, h⟩ := Prog.runs_bind_ok.mp h
      obtain ⟨third, summary, others, rfl, hsummary, h⟩ := Prog.runs_bind_ok.mp h
      apply (noneSaysFailure_of_asserted hget hassert).append
      rw [(runs_assertBackendSuccess hassert).1, (runs_lift hsummary).1, List.nil_append,
        List.nil_append]
      dsimp only at h
      split at h
      · obtain ⟨rfl, -⟩ := Prog.runs_ret_iff.mp h
        exact noneSaysFailure_nil
      · exact ih h

theorem runs_merchantCode {trace : List tacOps.Event} {merchant : String}
    (h : Prog.Runs (merchantCode config) trace (.ok merchant)) : trace = [] := by
  unfold merchantCode at h
  split at h
  · exact (Prog.runs_ret_iff.mp h).1
  · cases h

/-- A query that returns has seen no response that says it was not successful. -/
theorem noneSaysFailure_queryTurnoverRequirement {accountOrPhone : String}
    {trace : List tacOps.Event} {result : TurnoverResult F}
    (h : Prog.Runs (queryTurnoverRequirement rt config accountOrPhone) trace (.ok result)) :
    NoneSaysFailure trace := by
  obtain ⟨first, merchant, rest, rfl, hmerchant, h⟩ := Prog.runs_bind_ok.mp h
  obtain ⟨second, found, rest, rfl, hfound, h⟩ := Prog.runs_bind_ok.mp h
  rw [runs_merchantCode hmerchant, List.nil_append]
  apply (noneSaysFailure_queryPlayerUser hfound).append
  unfold queryRequirements at h
  split at h
  · obtain ⟨rfl, -⟩ := Prog.runs_ret_iff.mp h
    exact noneSaysFailure_nil
  · obtain ⟨third, best, rest, rfl, hwindows, h⟩ := Prog.runs_bind_ok.mp h
    apply (noneSaysFailure_queryWindows hwindows).append
    cases best with
    | some best =>
        obtain ⟨rfl, -⟩ := Prog.runs_ret_iff.mp h
        exact noneSaysFailure_nil
    | none =>
        rw [(runs_lift h).1]
        exact noneSaysFailure_nil

/-! ## What a query can return -/

variable (rt)

/-- A client that can log in. -/
def reachableConfig : BackendConfig where
  providerType := "tac"
  baseUrl := some "https://backend"
  authorization := some "token"
  merchantCode := some "M"
  loginOperator := some "operator"
  loginPassword := some "password"
  totpSecret := none
  loginMerchant := none
  defaultLookbackDays := 30
  fallbackLookbackDays := 90

/-- The answer of a successful search without rows. -/
def emptyAnswer : Json := .obj (.ofList [("success", .bool true), ("value", .arr [])])

theorem runs_login (merchant : String) (hmerchant : merchant ≠ "") :
    ∃ trace, Prog.Runs (login rt reachableConfig merchant) trace (.ok "fresh") := by
  have hanswer : ∃ trace, Prog.Runs (TacOp.login "/tac/api/login/password"
      (loginMerchantOf reachableConfig merchant)).call trace
      (.ok (.obj (.ofList [("token", .str "fresh")]))) := ⟨_, Prog.runs_perform _⟩
  obtain ⟨trace, hanswer⟩ := hanswer
  refine ⟨trace ++ [], ?_⟩
  have hname : loginMerchantOf reachableConfig merchant ≠ "" := by
    simp [loginMerchantOf, hmerchant]
  have hsecret : hasText reachableConfig.totpSecret = false := rfl
  rw [login, if_neg (by simp [hsecret]), loginPassword, if_neg (by decide), if_neg hname,
    if_neg (by decide)]
  exact hanswer.bind (.ret "fresh")

/-- The transport may answer a request with any object. -/
theorem runs_apiGet_of_answer {authorization : Option String} (hauth : hasText authorization = true)
    {merchant : String} (hmerchant : merchant ≠ "") (path : String) (params fields : JsonObject) :
    ∃ trace authorization', hasText authorization' = true ∧
      Prog.Runs (apiGet rt reachableConfig authorization path params merchant) trace
        (.ok (.obj fields, authorization')) := by
  have honce : ∀ token repeated, ∃ trace, Prog.Runs
      (apiGetOnce reachableConfig token path params merchant repeated) trace
      (.ok (.obj fields)) := by
    intro token repeated
    rw [apiGetOnce, if_neg (by decide)]
    exact ⟨_, Prog.runs_perform _⟩
  have htoken : Prog.Runs (ensureAuthorization rt reachableConfig authorization merchant) []
      (.ok (textOr authorization "")) := by
    rw [ensureAuthorization, if_pos hauth]
    exact .ret _
  obtain ⟨first, hfirst⟩ := honce (textOr authorization "") false
  by_cases hinvalid : isInvalidToken fields = true
  · obtain ⟨second, hsecond⟩ := runs_login rt merchant hmerchant
    obtain ⟨third, hthird⟩ := honce "fresh" true
    have hrepeat : Prog.Runs (repeatRequest rt reachableConfig path params merchant) _
        (.ok (.obj fields, some "fresh")) := hsecond.bind (hthird.bind (.ret _))
    have hrest : Prog.Runs (if isInvalidToken fields then
        repeatRequest rt reachableConfig path params merchant
        else pure (.obj fields, some (textOr authorization ""))) (second ++ (third ++ []))
        (.ok (.obj fields, some "fresh")) := by
      rw [if_pos hinvalid]
      exact hrepeat
    exact ⟨_, some "fresh", by decide, htoken.bind (hfirst.bind hrest)⟩
  · have hrest : Prog.Runs (if isInvalidToken fields then
        repeatRequest rt reachableConfig path params merchant
        else pure (.obj fields, some (textOr authorization ""))) []
        (.ok (.obj fields, some (textOr authorization ""))) := by
      rw [if_neg hinvalid]
      exact .ret _
    refine ⟨_, some (textOr authorization ""), ?_, htoken.bind (hfirst.bind hrest)⟩
    simpa [hasText] using hauth

theorem runs_assert_of_not_says {fields : JsonObject} (h : ¬SaysFailure (.obj fields))
    (context : String) :
    Prog.Runs (assertBackendSuccess rt (.obj fields) context) [] (.ok ()) := by
  unfold assertBackendSuccess
  dsimp only
  rw [if_neg fun hfailure => h ⟨fields, rfl, hfailure⟩]
  exact .ret ()

theorem not_says_emptyAnswer : ¬SaysFailure emptyAnswer := by
  rintro ⟨fields, hfields, hfailure⟩
  cases hfields
  cases hfailure

/-- The answers of a backend: `response` to the first search, nothing to the others. -/
def FirstAnswers (response : Json) (trace : List tacOps.Event) : Prop :=
  response ∈ finalResponses trace ∧
    ∀ final ∈ finalResponses trace, final = response ∨ final = emptyAnswer

/-- Every response of the trace is the empty one. -/
def EmptyAnswers (trace : List tacOps.Event) : Prop :=
  ∀ final ∈ finalResponses trace, final = emptyAnswer

theorem EmptyAnswers.append {before after : List tacOps.Event} (h : EmptyAnswers before)
    (h' : EmptyAnswers after) : EmptyAnswers (before ++ after) := by
  intro final hmem
  rw [finalResponses_append, List.mem_append] at hmem
  rcases hmem with hmem | hmem
  · exact h final hmem
  · exact h' final hmem

theorem FirstAnswers.append {response : Json} {before after : List tacOps.Event}
    (h : FirstAnswers response before) (h' : EmptyAnswers after) :
    FirstAnswers response (before ++ after) := by
  constructor
  · rw [finalResponses_append]
    exact List.mem_append_left _ h.1
  · intro final hmem
    rw [finalResponses_append, List.mem_append] at hmem
    rcases hmem with hmem | hmem
    · exact h.2 final hmem
    · exact Or.inr (h' final hmem)

/-- A request that gets the empty answer. -/
theorem runs_apiGet_empty {authorization : Option String} (hauth : hasText authorization = true)
    {merchant : String} (hmerchant : merchant ≠ "") (path : String) (params : JsonObject) :
    ∃ trace authorization', hasText authorization' = true ∧
      Prog.Runs (apiGet rt reachableConfig authorization path params merchant) trace
        (.ok (emptyAnswer, authorization')) ∧ EmptyAnswers trace := by
  obtain ⟨trace, authorization', hauth', hget⟩ :=
    runs_apiGet_of_answer rt hauth hmerchant path params
      (.ofList [("success", .bool true), ("value", .arr [])])
  refine ⟨trace, authorization', hauth', hget, ?_⟩
  intro final hmem
  rw [runs_apiGet hget, List.mem_singleton] at hmem
  exact hmem

theorem extractRows_emptyAnswer : extractRows emptyAnswer = [] := rfl

/-- The summary of a window without rows. -/
theorem summarizeRows_nil (player : Player) :
    ∃ summary : TurnoverResult F, summarizeRows rt player [] = .ok summary ∧
      summary.activeRequirementsCount = 0 := by
  obtain ⟨rounded, hrounded⟩ := rt.round_zero
  have hsum : roundedSum rt [] = .ok rounded := hrounded
  refine ⟨{ playerFound := true, customerId := player.customerId,
            customerName := player.customerName, activeRequirementsCount := 0,
            remainingTurnover := rounded, requiredTurnover := none, validTurnover := none,
            isMet := true, recordsCount := some 0, queryWindows := [] }, ?_, rfl⟩
  change summarizeTurnoverRequirement rt player [] = _
  simp only [summarizeTurnoverRequirement, List.filter_nil, List.map_nil, hsum, bind, Except.bind]
  rfl

theorem runs_queryWindows_empty {merchant : String} (hmerchant : merchant ≠ "") (player : Player)
    (windows done : List TurnoverWindow) (best : Option (TurnoverResult F))
    {authorization : Option String} (hauth : hasText authorization = true) :
    ∃ trace result, Prog.Runs (queryWindows rt reachableConfig merchant player windows done best
      authorization) trace (.ok result) ∧ EmptyAnswers trace := by
  induction windows generalizing done best authorization with
  | nil =>
      refine ⟨[], best, .ret best, ?_⟩
      intro final hmem
      cases hmem
  | cons window rest ih =>
      obtain ⟨first, authorization', hauth', hget, hfirst⟩ := runs_apiGet_empty rt hauth
        hmerchant
        "/tac/api/relay/get/mcs-player-promotion-turnover-checking-getTurnoverCheckingRecord"
        (turnoverParams merchant player window)
      obtain ⟨summary, hsummary, hactive⟩ := summarizeRows_nil rt player
      have hassert := runs_assert_of_not_says rt not_says_emptyAnswer
        ("turnover requirement search " ++ window.queryMode)
      have hlift : Prog.Runs (TacProg.lift (summarizeRows rt player (extractRows emptyAnswer))) []
          (.ok summary) := by
        rw [extractRows_emptyAnswer, hsummary]
        exact .ret summary
      obtain ⟨trace, result, hrest, hempty⟩ := ih (done ++ [window])
        (if isBetter { summary with queryWindows := done ++ [window] } best then
          some { summary with queryWindows := done ++ [window] } else best) hauth'
      refine ⟨first ++ ([] ++ ([] ++ trace)), result, ?_, hfirst.append hempty⟩
      refine hget.bind (hassert.bind (hlift.bind ?_))
      dsimp only
      rw [if_neg (by omega)]
      exact hrest

/-- The requirements of whatever the search found, when the windows are empty. -/
theorem runs_queryRequirements_empty {merchant : String} (hmerchant : merchant ≠ "")
    (windows : List TurnoverWindow) (found : Option Player) {authorization : Option String}
    (hauth : hasText authorization = true) :
    ∃ trace result, Prog.Runs (queryRequirements rt reachableConfig merchant windows found
      authorization) trace (.ok result) ∧ EmptyAnswers trace := by
  unfold queryRequirements
  split
  · refine ⟨[], _, .ret _, ?_⟩
    intro final hmem
    cases hmem
  · next player _ =>
    obtain ⟨trace, best, hwindows, hempty⟩ := runs_queryWindows_empty rt hmerchant player
      windows [] none hauth
    have hnone : EmptyAnswers [] := by
      intro final hmem
      cases hmem
    cases best with
    | some best => exact ⟨trace ++ [], best, hwindows.bind (.ret best), hempty.append hnone⟩
    | none =>
        obtain ⟨summary, hsummary, -⟩ := summarizeRows_nil rt player
        have hlift : Prog.Runs (TacProg.lift (summarizeTurnoverRequirement rt player [])) []
            (.ok summary) := by
          have hsame : summarizeTurnoverRequirement rt player [] = .ok summary := hsummary
          rw [hsame]
          exact .ret summary
        exact ⟨trace ++ [], summary, hwindows.bind hlift, hempty.append hnone⟩

/-- The search, when the first request gets a response that does not say it failed. -/
theorem runs_queryPlayerUser_of_answer {merchant : String} (hmerchant : merchant ≠ "")
    (accountOrPhone : String) {fields : JsonObject} (hclean : ¬SaysFailure (.obj fields))
    {authorization : Option String} (hauth : hasText authorization = true) :
    ∃ trace found authorization', hasText authorization' = true ∧
      Prog.Runs (queryPlayerUser rt reachableConfig merchant accountOrPhone ["USERNAME", "MOBILE"]
        authorization) trace (.ok (found, authorization')) ∧
      FirstAnswers (.obj fields) trace := by
  obtain ⟨first, authorization₁, hauth₁, hget⟩ := runs_apiGet_of_answer rt hauth hmerchant
    "/tac/api/relay/get/player-search-non-bankcard"
    (playerSearchParams merchant accountOrPhone "USERNAME") fields
  have hassert := runs_assert_of_not_says rt hclean "player search USERNAME"
  have hfirst : FirstAnswers (.obj fields) first := by
    rw [FirstAnswers, runs_apiGet hget]
    exact ⟨List.mem_singleton_self _, fun final hmem => Or.inl (List.mem_singleton.mp hmem)⟩
  have hnone : EmptyAnswers [] := by
    intro final hmem
    cases hmem
  cases hpick : pickRow rt.toRuntime (extractRows (.obj fields)) accountOrPhone with
  | some picked =>
      refine ⟨first ++ ([] ++ []), some (playerOf picked accountOrPhone), authorization₁, hauth₁,
        hget.bind (hassert.bind ?_), hfirst.append hnone⟩
      dsimp only
      rw [hpick]
      exact .ret _
  | none =>
      obtain ⟨second, authorization₂, hauth₂, hget₂, hempty⟩ := runs_apiGet_empty rt hauth₁
        hmerchant "/tac/api/relay/get/player-search-non-bankcard"
        (playerSearchParams merchant accountOrPhone "MOBILE")
      have hassert₂ := runs_assert_of_not_says rt not_says_emptyAnswer
        "player search MOBILE"
      refine ⟨first ++ ([] ++ (second ++ ([] ++ []))), none, authorization₂, hauth₂,
        hget.bind (hassert.bind ?_), hfirst.append (hempty.append hnone)⟩
      dsimp only
      rw [hpick]
      refine hget₂.bind (hassert₂.bind ?_)
      dsimp only
      rw [extractRows_emptyAnswer]
      exact .ret _

end Client

/-! ## Error responses -/

/-- Whatever the transport answers, as far as the final responses are among `responses`: a
final error response makes `execute` fail. -/
def ErrorsFail {F : Type} (rt : TacRuntime F) (safeErrorMessage : String → String)
    (responses : Set Json) : Prop :=
  ∀ resolve payload trace result,
    Prog.Runs (executeBackendQuery rt safeErrorMessage resolve payload) trace (.ok result) →
    (∀ response ∈ finalResponses trace, response ∈ responses) →
    (∃ response ∈ finalResponses trace, IsErrorResponse response) → result.isFailed = true

/-- A query that does not fail reports what the client has returned. -/
theorem runs_of_not_failed {F : Type} {rt : TacRuntime F}
    {safeErrorMessage : String → String} {resolve : JsonObject → Except ProviderError BackendConfig}
    {payload : JsonObject} {trace : List tacOps.Event} {result : BackendQueryResult F}
    (h : Prog.Runs (executeBackendQuery rt safeErrorMessage resolve payload) trace (.ok result))
    (hsuccess : result.isFailed = false) :
    ∃ config turnover, Prog.Runs (queryTurnoverRequirement rt config
        ((getKey payload "account_or_phone").pyStr rt.toRuntime)) trace (.ok turnover) ∧
      result = successResult rt turnover := by
  have hfailed : ∀ {code message : String}, ¬Prog.Runs
      (pure (.failed code message) : TacProg (BackendQueryResult F)) trace (.ok result) := by
    intro code message hpure
    obtain ⟨-, rfl⟩ := Prog.runs_ret_iff.mp hpure
    cases hsuccess
  unfold executeBackendQuery at h
  split at h
  · exact absurd h hfailed
  · split at h
    · exact absurd h hfailed
    · split at h
      · exact absurd h hfailed
      · exact absurd h hfailed
      · next config _ =>
        rcases Prog.runs_tryCatch_ret h with ⟨queried, hqueried, hresult⟩ | ⟨e, -, hresult⟩
        · obtain ⟨before, turnover, after, rfl, hturnover, hret⟩ := Prog.runs_bind_ok.mp hqueried
          obtain ⟨rfl, rfl⟩ := Prog.runs_ret_iff.mp hret
          cases hresult
          rw [List.append_nil]
          exact ⟨config, turnover, hturnover, rfl⟩
        · cases hresult
          cases hsuccess

/-- `execute` either fails, or it has seen no response that says it was not successful. -/
theorem failed_or_noneSaysFailure {F : Type} {rt : TacRuntime F}
    {safeErrorMessage : String → String} {resolve : JsonObject → Except ProviderError BackendConfig}
    {payload : JsonObject} {trace : List tacOps.Event} {result : BackendQueryResult F}
    (h : Prog.Runs (executeBackendQuery rt safeErrorMessage resolve payload) trace (.ok result)) :
    result.isFailed = true ∨ NoneSaysFailure trace := by
  cases hsuccess : result.isFailed with
  | true => exact Or.inl rfl
  | false =>
      right
      obtain ⟨config, turnover, hturnover, -⟩ := runs_of_not_failed h hsuccess
      exact noneSaysFailure_queryTurnoverRequirement hturnover

/-- The payload of a customer with an account. -/
def accountPayload : JsonObject :=
  .ofList [("intent", .str "withdrawal_blocked_or_rollover"), ("account_or_phone", .str "ana")]

/-- A response that does not say it failed can be the first one of a successful query. -/
theorem succeeds_after_answer {F : Type} (rt : TacRuntime F) (hlower : rt.lower "tac" = "tac")
    (safeErrorMessage : String → String) {fields : JsonObject}
    (hclean : ¬SaysFailure (.obj fields)) :
    ∃ trace result, Prog.Runs
      (executeBackendQuery rt safeErrorMessage (fun _ => .ok reachableConfig) accountPayload)
        trace (.ok result) ∧ result.isFailed = false ∧ FirstAnswers (.obj fields) trace := by
  obtain ⟨first, found, authorization, hauth, hfound, hfirst⟩ :=
    runs_queryPlayerUser_of_answer rt (by decide : "M" ≠ "")
      ((getKey accountPayload "account_or_phone").pyStr rt.toRuntime) hclean
      (by decide : hasText reachableConfig.authorization = true)
  obtain ⟨second, turnover, hturnover, hempty⟩ := runs_queryRequirements_empty rt
    (by decide : "M" ≠ "") (buildTurnoverRequirementQueries rt reachableConfig.defaultLookbackDays
      reachableConfig.fallbackLookbackDays) found hauth
  have hmerchant : Prog.Runs (merchantCode reachableConfig) [] (.ok "M") := by
    rw [merchantCode, if_pos (by decide)]
    exact .ret _
  have hquery : Prog.Runs (queryTurnoverRequirement rt reachableConfig
      ((getKey accountPayload "account_or_phone").pyStr rt.toRuntime)) ([] ++ (first ++ second))
      (.ok turnover) := hmerchant.bind (hfound.bind hturnover)
  refine ⟨([] ++ (first ++ second)) ++ [], successResult rt turnover, ?_, rfl, ?_⟩
  · have hprovider : ((.ok reachableConfig : Except ProviderError BackendConfig) >>=
        createProvider rt.toRuntime) = .ok reachableConfig := by
      change createProvider rt.toRuntime reachableConfig = _
      have hstrip : strip reachableConfig.providerType = "tac" := by decide
      rw [createProvider, hstrip, if_pos hlower]
    rw [executeBackendQuery, if_neg (by decide), if_neg (by decide), hprovider]
    have hdone : Prog.Runs (queryProvider rt safeErrorMessage reachableConfig
        ((getKey accountPayload "account_or_phone").pyStr rt.toRuntime))
        (([] ++ (first ++ second)) ++ []) (.ok (successResult rt turnover)) :=
      (hquery.bind (.ret (successResult rt turnover))).tryCatch
    exact hdone
  · rw [List.append_nil, List.nil_append]
    exact hfirst.append hempty

/-- A final error response always makes `execute` fail exactly if every error response of
the backend says that it was not successful. -/
theorem errors_fail_iff {F : Type} (rt : TacRuntime F) (hlower : rt.lower "tac" = "tac")
    (safeErrorMessage : String → String) (responses : Set Json)
    (hempty : emptyAnswer ∈ responses) :
    ErrorsFail rt safeErrorMessage responses ↔
      ∀ response ∈ responses, IsErrorResponse response → SaysFailure response := by
  constructor
  · rintro hfail response hmem ⟨fields, rfl, herror⟩
    by_contra hclean
    obtain ⟨trace, result, hruns, hsuccess, hfirst⟩ :=
      succeeds_after_answer rt hlower safeErrorMessage hclean
    have hamong : ∀ final ∈ finalResponses trace, final ∈ responses := by
      intro final hfinal
      rcases hfirst.2 final hfinal with rfl | rfl
      · exact hmem
      · exact hempty
    have hfailed := hfail _ _ trace result hruns hamong ⟨_, hfirst.1, fields, rfl, herror⟩
    rw [hsuccess] at hfailed
    cases hfailed
  · rintro hclean resolve payload trace result hruns hamong ⟨response, hmem, herror⟩
    rcases failed_or_noneSaysFailure hruns with hfailed | hnone
    · exact hfailed
    · exact absurd (hclean response (hamong response hmem) herror) (hnone response hmem)

/-! ## A token that stays invalid -/

/-- The money of the examples: whole numbers. -/
def TacRuntime.plain : TacRuntime Int :=
  { Runtime.plain with
    upper := id
    isDigit := Char.isDigit
    zero := 0
    ofText := fun text => text.toInt?.map .ok
    add := fun a b => a + b
    positive := fun a => decide (0 < a)
    nonpositive := fun a => decide (a ≤ 0)
    roundMoney := .ok
    formatNumber := toString
    generateTotp := fun _ => .ok "0"
    rangeDays := fun _ => ("", "")
    monthRange := ("", "")
    lastWithdrawalWindow := ("", "")
    round_zero := ⟨0, rfl⟩ }

/-- The response that `api_get` gets again after the login. -/
def invalidToken : JsonObject := .ofList [("errorCode", .str "INVALID_TOKEN")]

theorem isErrorResponse_invalidToken : IsErrorResponse (.obj invalidToken) :=
  ⟨invalidToken, rfl, Or.inl (by decide)⟩

theorem not_saysFailure_invalidToken : ¬SaysFailure (.obj invalidToken) := by
  rintro ⟨fields, hfields, hfailure⟩
  cases hfields
  cases hfailure

/-- The repeated request is refused as well, and the query still succeeds. -/
theorem refused_token_can_succeed :
    ∃ trace result,
      Prog.Runs (executeBackendQuery .plain id (fun _ => .ok reachableConfig) accountPayload) trace
        (.ok result) ∧
      result.isFailed = false ∧ .obj invalidToken ∈ finalResponses trace ∧
      IsErrorResponse (.obj invalidToken) := by
  obtain ⟨trace, result, hruns, hsuccess, hfirst⟩ :=
    succeeds_after_answer .plain rfl id not_saysFailure_invalidToken
  exact ⟨trace, result, hruns, hsuccess, hfirst.1, isErrorResponse_invalidToken⟩

/-- A backend whose only error response says so. -/
theorem errors_fail_for_plain_backend :
    ErrorsFail .plain id {emptyAnswer, .obj (.ofList [("success", .bool false)])} := by
  apply (errors_fail_iff .plain rfl id _ (Set.mem_insert _ _)).mpr
  rintro response (rfl | rfl) ⟨fields, hfields, herror⟩
  · cases hfields
    rcases herror with h | h
    · cases h
    · cases h
  · exact ⟨_, rfl, rfl⟩

end AiCustomerService
