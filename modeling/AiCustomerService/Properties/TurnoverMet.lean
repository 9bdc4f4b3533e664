import AiCustomerService.Properties.BackendErrors

/-!
# Requirements that are reported as met

A record counts as open where its status is one of the known words for incomplete, or where it has
no status at all.  A status that is none of the known words is passed over, whatever remains.
-/

namespace AiCustomerService

open Support

/-! ## Records -/

/-- The path of the turnover queries. -/
def turnoverPath : String :=
  "/tac/api/relay/get/mcs-player-promotion-turnover-checking-getTurnoverCheckingRecord"

/-- The event is a turnover query. -/
def isTurnoverQuery : tacOps.Event → Bool
  | ⟨.get path _ _ _ _, _⟩ => decide (path = turnoverPath)
  | _ => false

/-- The records that the queried windows returned. -/
def receivedRecords (trace : List tacOps.Event) : List JsonObject :=
  (finalResponses (trace.filter isTurnoverQuery)).flatMap extractRows

@[simp]
theorem receivedRecords_append (before after : List tacOps.Event) :
    receivedRecords (before ++ after) = receivedRecords before ++ receivedRecords after := by
  simp [receivedRecords]

section Records

variable {F : Type} (rt : TacRuntime F) (record : JsonObject)

/-- The status of a record, under any of its names. -/
def recordStatus (record : JsonObject) : Json := firstPresent record statusKeys

/-- A positive turnover remains. -/
def HasRemaining : Prop :=
  ∃ amount, toMoneyNumber rt (firstPresent record remainingKeys) = .ok amount ∧
    rt.positive amount = true

/-- The status says that the requirement is completed, and not that it is incomplete. -/
def IsCompleted : Prop :=
  isCompleteTurnoverStatus rt (recordStatus record) = true ∧
    isIncompleteTurnoverStatus rt (recordStatus record) = false

/-- There is no status, or a blank one. -/
def HasNoStatus : Prop :=
  (recordStatus record).isNull = true ∨ strip ((recordStatus record).pyStr rt.toRuntime) = ""

/-- The status is one of the known words, or there is none. -/
def IsRecognised : Prop :=
  isIncompleteTurnoverStatus rt (recordStatus record) = true ∨
    isCompleteTurnoverStatus rt (recordStatus record) = true ∨ HasNoStatus rt record

/-- The record counts as an open requirement. -/
def IsOpenRequirement : Prop :=
  isIncompleteTurnoverStatus rt (recordStatus record) = true ∨
    (HasNoStatus rt record ∧ HasRemaining rt record)

end Records

section Summary

variable {F : Type} {rt : TacRuntime F}

/-- The flag of a normalised record. -/
theorem isIncomplete_iff {row : JsonObject} {record : TurnoverRecord F}
    (h : normalizeTurnoverRequirementRecord rt row = .ok record) :
    record.isIncomplete = true ↔ IsOpenRequirement rt row := by
  obtain ⟨remaining, hremaining, h⟩ := bind_eq_ok.mp h
  obtain ⟨required, -, h⟩ := bind_eq_ok.mp h
  obtain ⟨valid, -, h⟩ := bind_eq_ok.mp h
  obtain ⟨amount, -, h⟩ := bind_eq_ok.mp h
  cases h
  have hpositive : HasRemaining rt row ↔ rt.positive remaining = true := by
    constructor
    · rintro ⟨amount, hamount, hpositive⟩
      cases hremaining.symm.trans hamount
      exact hpositive
    · intro hpositive
      exact ⟨remaining, hremaining, hpositive⟩
  simp only [IsOpenRequirement, hpositive, HasNoStatus, recordStatus, Bool.or_eq_true,
    Bool.and_eq_true, Bool.not_eq_true', Bool.and_eq_false_iff, ne_eq, decide_not,
    Bool.not_eq_false', decide_eq_true_eq]

/-- A summary without open requirements. -/
structure NothingOpen (rt : TacRuntime F) (summary : TurnoverResult F) : Prop where
  found : summary.playerFound = true
  none : summary.activeRequirementsCount = 0
  met : summary.isMet = true
  rounded : rt.roundMoney rt.zero = .ok summary.remainingTurnover

/-- What a summary says of the records of its window. -/
theorem summarizeRows_ok {player : Player} {rows : List JsonObject} {summary : TurnoverResult F}
    (h : summarizeRows rt player rows = .ok summary) :
    (0 < summary.activeRequirementsCount ∧ ∃ row ∈ rows, IsOpenRequirement rt row) ∨
      (NothingOpen rt summary ∧ ∀ row ∈ rows, ¬IsOpenRequirement rt row) := by
  obtain ⟨records, hrecords, h⟩ := bind_eq_ok.mp h
  obtain ⟨remaining, hremaining, h⟩ := bind_eq_ok.mp h
  obtain ⟨required, -, h⟩ := bind_eq_ok.mp h
  obtain ⟨valid, -, h⟩ := bind_eq_ok.mp h
  cases h
  by_cases hactive : records.filter TurnoverRecord.isIncomplete = []
  · right
    constructor
    · rw [hactive] at hremaining
      refine ⟨rfl, ?_, ?_, hremaining⟩
      · simp [hactive]
      · simp [hactive]
    · intro row hrow hopen
      obtain ⟨record, hmem, hnormalized⟩ := mapM_ok_of_mem hrecords hrow
      have hincomplete := (isIncomplete_iff hnormalized).mpr hopen
      exact List.filter_eq_nil_iff.mp hactive record hmem hincomplete
  · left
    refine ⟨List.length_pos_iff.mpr hactive, ?_⟩
    obtain ⟨record, hmem⟩ := List.exists_mem_of_ne_nil _ hactive
    obtain ⟨hrecord, hincomplete⟩ := List.mem_filter.mp hmem
    obtain ⟨row, hrow, hnormalized⟩ := mem_mapM_ok hrecords hrecord
    exact ⟨row, hrow, (isIncomplete_iff hnormalized).mp hincomplete⟩

end Summary

/-! ## Queries -/

/-- Logins and requests with one path. -/
def TacOp.HasPath (path : String) : TacOp → Prop
  | .login _ _ => True
  | .get requested _ _ _ _ => requested = path

section Queries

variable {F : Type} {rt : TacRuntime F} {config : BackendConfig}

theorem hasPath_apiGet (authorization : Option String) (path : String) (params : JsonObject)
    (merchant : String) :
    (apiGet rt config authorization path params merchant).All (TacOp.HasPath path) := by
  have honce : ∀ token repeated,
      (apiGetOnce config token path params merchant repeated).All (TacOp.HasPath path) := by
    intro token repeated
    unfold apiGetOnce
    split
    · trivial
    · exact Prog.all_perform rfl
  have hlogin : (login rt config merchant).All (TacOp.HasPath path) := by
    apply (login_all merchant).mono
    intro op hop
    cases op with
    | login path merchant => trivial
    | get path params authorization merchant repeated => exact hop.elim
  have htoken : (ensureAuthorization rt config authorization merchant).All
      (TacOp.HasPath path) := by
    unfold ensureAuthorization
    split
    · trivial
    · exact hlogin
  apply htoken.bind
  intro token
  apply (honce token false).bind
  intro result
  split
  · split
    · apply hlogin.bind
      intro fresh
      apply (honce fresh true).bind
      intro again
      trivial
    · trivial
  · trivial

/-- Requests with another path are no turnover queries. -/
theorem not_turnoverQuery_of_path {α : Type} {m : TacProg α} {path : String}
    {trace : List tacOps.Event} {outcome : Except TacError α} (hm : m.All (TacOp.HasPath path))
    (hpath : path ≠ turnoverPath) (h : Prog.Runs m trace outcome) :
    ∀ event ∈ trace, isTurnoverQuery event = false := by
  induction h with
  | ret a => exact fun event hmem => by cases hmem
  | raise e => exact fun event hmem => by cases hmem
  | @call op k trace outcome r _ ih =>
      intro event hmem
      rcases List.mem_cons.mp hmem with rfl | hmem
      · cases op with
        | login path merchant => rfl
        | get requested params authorization merchant repeated =>
            obtain rfl : requested = path := hm.1
            simp [isTurnoverQuery, hpath]
      · exact ih (hm.2 r) event hmem

/-- The requests of one path are all turnover queries, or none of them is. -/
theorem finalResponses_filter {α : Type} {m : TacProg α} {path : String}
    {trace : List tacOps.Event} {outcome : Except TacError α} (hm : m.All (TacOp.HasPath path))
    (h : Prog.Runs m trace outcome) :
    finalResponses (trace.filter isTurnoverQuery) =
      if path = turnoverPath then finalResponses trace else [] := by
  induction h with
  | ret a => simp [finalResponses]
  | raise e => simp [finalResponses]
  | @call op k trace outcome r _ ih =>
      have hrest := ih (hm.2 r)
      cases op with
      | login path merchant => exact hrest
      | get requested params authorization merchant repeated =>
          obtain rfl : requested = path := hm.1
          by_cases hpath : requested = turnoverPath
          · rw [if_pos hpath] at hrest ⊢
            rw [List.filter_cons_of_pos (by simp [isTurnoverQuery, hpath])]
            simp only [finalResponses, List.filterMap_cons] at hrest ⊢
            rw [hrest]
          · rw [if_neg hpath] at hrest ⊢
            rw [List.filter_cons_of_neg (by simp [isTurnoverQuery, hpath])]
            exact hrest

/-- A turnover query receives the rows of its response. -/
theorem receivedRecords_apiGet {authorization : Option String} {merchant : String}
    {params : JsonObject} {trace : List tacOps.Event} {response : Json × Option String}
    (h : Prog.Runs (apiGet rt config authorization turnoverPath params merchant) trace
      (.ok response)) : receivedRecords trace = extractRows response.1 := by
  rw [receivedRecords, finalResponses_filter (hasPath_apiGet _ _ _ _) h, if_pos rfl, runs_apiGet h]
  simp

/-- The player searches make no turnover query. -/
theorem turnoverResponses_queryPlayerUser {merchant accountOrPhone : String} {codes : List String}
    {authorization : Option String} {trace : List tacOps.Event}
    {outcome : Except TacError (Option Player × Option String)}
    (h : Prog.Runs (queryPlayerUser rt config merchant accountOrPhone codes authorization) trace
      outcome) : finalResponses (trace.filter isTurnoverQuery) = [] := by
  have hpath : (queryPlayerUser rt config merchant accountOrPhone codes authorization).All
      (TacOp.HasPath "/tac/api/relay/get/player-search-non-bankcard") := by
    clear h
    induction codes generalizing authorization with
    | nil => trivial
    | cons code rest ih =>
        apply (hasPath_apiGet _ _ _ _).bind
        intro response
        have hassert : (assertBackendSuccess rt response.1 ("player search " ++ code)).All
            (TacOp.HasPath "/tac/api/relay/get/player-search-non-bankcard") := by
          unfold assertBackendSuccess
          split
          · split
            · trivial
            · trivial
          · split
            · trivial
            · trivial
        apply hassert.bind
        intro _
        split
        · trivial
        · exact ih
  rw [finalResponses_filter hpath h, if_neg (by decide)]

/-- The player searches receive no record. -/
theorem receivedRecords_queryPlayerUser {merchant accountOrPhone : String} {codes : List String}
    {authorization : Option String} {trace : List tacOps.Event}
    {outcome : Except TacError (Option Player × Option String)}
    (h : Prog.Runs (queryPlayerUser rt config merchant accountOrPhone codes authorization) trace
      outcome) : receivedRecords trace = [] := by
  rw [receivedRecords, turnoverResponses_queryPlayerUser h]
  rfl

/-- What the windows return: a summary with an open requirement, or the best of the summaries that
have none. -/
theorem runs_queryWindows_cases {merchant : String} {player : Player}
    {windows done : List TurnoverWindow} {best : Option (TurnoverResult F)}
    {authorization : Option String} {trace : List tacOps.Event}
    {result : Option (TurnoverResult F)}
    (hbest : ∀ summary, best = some summary → NothingOpen rt summary)
    (h : Prog.Runs (queryWindows rt config merchant player windows done best authorization) trace
      (.ok result)) :
    (∃ summary, result = some summary ∧ 0 < summary.activeRequirementsCount ∧
        ∃ record ∈ receivedRecords trace, IsOpenRequirement rt record) ∨
      ((∀ summary, result = some summary → NothingOpen rt summary) ∧
        ∀ record ∈ receivedRecords trace, ¬IsOpenRequirement rt record) := by
  induction windows generalizing done best authorization trace with
  | nil =>
      obtain ⟨rfl, rfl⟩ := Prog.runs_ret_iff.mp h
      exact Or.inr ⟨hbest, fun record hmem => by cases hmem⟩
  | cons window rest ih =>
      obtain ⟨first, response, others, rfl, hget, h⟩ := Prog.runs_bind_ok.mp h
      obtain ⟨second, ⟨⟩, others, rfl, hassert, h⟩ := Prog.runs_bind_ok.mp h
      obtain ⟨third, summary, others, rfl, hsummary, h⟩ := Prog.runs_bind_ok.mp h
      rw [(runs_assertBackendSuccess hassert).1, (runs_lift hsummary).1, List.nil_append,
        List.nil_append, receivedRecords_append, receivedRecords_apiGet hget]
      dsimp only at h
      rcases summarizeRows_ok (runs_lift hsummary).2 with
        ⟨hactive, record, hmem, hopen⟩ | ⟨hnothing, hclosed⟩
      · left
        rw [if_pos hactive] at h
        obtain ⟨rfl, rfl⟩ := Prog.runs_ret_iff.mp h
        exact ⟨_, rfl, hactive, record, List.mem_append_left _ hmem, hopen⟩
      · rw [if_neg (by rw [hnothing.none]; omega)] at h
        have hkept : NothingOpen rt { summary with queryWindows := done ++ [window] } :=
          ⟨hnothing.found, hnothing.none, hnothing.met, hnothing.rounded⟩
        have hnext : ∀ chosen, (if isBetter { summary with queryWindows := done ++ [window] } best
            then some { summary with queryWindows := done ++ [window] } else best) = some chosen →
            NothingOpen rt chosen := by
          intro chosen hchosen
          split at hchosen
          · cases hchosen
            exact hkept
          · exact hbest chosen hchosen
        rcases ih hnext h with ⟨found, hfound, hactive, record, hmem, hopen⟩ | ⟨hresult, hnone⟩
        · left
          exact ⟨found, hfound, hactive, record, List.mem_append_right _ hmem, hopen⟩
        · right
          refine ⟨hresult, ?_⟩
          intro record hmem
          rcases List.mem_append.mp hmem with hmem | hmem
          · exact hclosed record hmem
          · exact hnone record hmem

/-- The three kinds of results: no player, an open requirement, or none. -/
theorem runs_queryTurnoverRequirement_cases {accountOrPhone : String} {trace : List tacOps.Event}
    {turnover : TurnoverResult F}
    (h : Prog.Runs (queryTurnoverRequirement rt config accountOrPhone) trace (.ok turnover)) :
    (turnover.playerFound = false ∧ receivedRecords trace = []) ∨
      (0 < turnover.activeRequirementsCount ∧
        ∃ record ∈ receivedRecords trace, IsOpenRequirement rt record) ∨
      (NothingOpen rt turnover ∧ ∀ record ∈ receivedRecords trace, ¬IsOpenRequirement rt record) := by
  obtain ⟨first, merchant, rest, rfl, hmerchant, h⟩ := Prog.runs_bind_ok.mp h
  obtain ⟨second, found, rest, rfl, hfound, h⟩ := Prog.runs_bind_ok.mp h
  rw [runs_merchantCode hmerchant, List.nil_append, receivedRecords_append,
    receivedRecords_queryPlayerUser hfound, List.nil_append]
  unfold queryRequirements at h
  split at h
  · obtain ⟨rfl, rfl⟩ := Prog.runs_ret_iff.mp h
    exact Or.inl ⟨rfl, rfl⟩
  · next player _ =>
    right
    obtain ⟨third, best, rest, rfl, hwindows, h⟩ := Prog.runs_bind_ok.mp h
    have hcases := runs_queryWindows_cases (fun summary hsummary => by cases hsummary) hwindows
    cases best with
    | some best =>
        obtain ⟨rfl, rfl⟩ := Prog.runs_ret_iff.mp h
        rw [List.append_nil]
        rcases hcases with ⟨summary, hsummary, hopen⟩ | ⟨hnothing, hclosed⟩
        · cases hsummary
          exact Or.inl hopen
        · exact Or.inr ⟨hnothing _ rfl, hclosed⟩
    | none =>
        obtain ⟨rfl, hsummary⟩ := runs_lift h
        rw [List.append_nil]
        rcases hcases with ⟨summary, hsummary, -⟩ | ⟨-, hclosed⟩
        · cases hsummary
        · right
          have hempty : summarizeRows rt player [] = .ok turnover := hsummary
          rcases summarizeRows_ok hempty with ⟨-, record, hmem, -⟩ | ⟨hnothing, -⟩
          · cases hmem
          · exact ⟨hnothing, hclosed⟩

end Queries

/-! ## The verdict -/

/-- The customer is told that the requirement is met. -/
def AnswersMet {F : Type} (result : BackendQueryResult F) : Prop :=
  ∃ remaining query, result = .success .backendTurnoverMet remaining query

/-- The requirement is only reported as met if no received record with a positive remaining
turnover has a status other than a completed one. -/
def MetOnlyWhenCompleted {F : Type} (rt : TacRuntime F) (trace : List tacOps.Event)
    (result : BackendQueryResult F) : Prop :=
  AnswersMet result →
    ∀ record ∈ receivedRecords trace, HasRemaining rt record → IsCompleted rt record

section Verdict

variable {F : Type} {rt : TacRuntime F}

/-- The reply to a summary without open requirements. -/
theorem buildWithdrawalBlockedReply_nothingOpen {turnover : TurnoverResult F}
    (h : NothingOpen rt turnover)
    (hzero : ∀ rounded, rt.roundMoney rt.zero = .ok rounded → rt.positive rounded = false) :
    buildWithdrawalBlockedReply rt turnover = (.backendTurnoverMet, none) := by
  unfold buildWithdrawalBlockedReply
  rw [h.found, h.none, hzero _ h.rounded, h.met]
  rfl

/-- A result without open requirements is reported as met. -/
theorem answersMet_of_nothingOpen {turnover : TurnoverResult F} (h : NothingOpen rt turnover)
    (hzero : ∀ rounded, rt.roundMoney rt.zero = .ok rounded → rt.positive rounded = false) :
    AnswersMet (successResult rt turnover) :=
  ⟨none, turnover, by rw [successResult, buildWithdrawalBlockedReply_nothingOpen h hzero]⟩

/-- An open requirement is reported as such. -/
theorem not_answersMet_of_active {turnover : TurnoverResult F}
    (h : 0 < turnover.activeRequirementsCount) : ¬AnswersMet (successResult rt turnover) := by
  rintro ⟨remaining, query, hresult⟩
  have hreply := (BackendQueryResult.success.inj hresult).1
  unfold buildWithdrawalBlockedReply at hreply
  split at hreply
  · cases hreply
  · rw [if_pos (Or.inl h)] at hreply
    cases hreply

end Verdict

/-- For every run in which the backend answers: the requirement is only reported as met where it
is, exactly if some received record counts as open, or every received record with a positive
remaining turnover has a recognised status. -/
theorem metOnlyWhenCompleted_iff {F : Type} (rt : TacRuntime F)
    (hzero : ∀ rounded, rt.roundMoney rt.zero = .ok rounded → rt.positive rounded = false)
    {safeErrorMessage : String → String} {resolve : JsonObject → Except ProviderError BackendConfig}
    {payload : JsonObject} {trace : List tacOps.Event} {result : BackendQueryResult F}
    (h : Prog.Runs (executeBackendQuery rt safeErrorMessage resolve payload) trace (.ok result))
    (hsuccess : result.isFailed = false) :
    MetOnlyWhenCompleted rt trace result ↔
      (∃ record ∈ receivedRecords trace, IsOpenRequirement rt record) ∨
        ∀ record ∈ receivedRecords trace, HasRemaining rt record → IsRecognised rt record := by
  obtain ⟨config, turnover, hturnover, rfl⟩ := runs_of_not_failed h hsuccess
  have hcases := runs_queryTurnoverRequirement_cases hturnover
  constructor
  · intro hmet
    rcases hcases with ⟨-, hnone⟩ | ⟨-, hopen⟩ | ⟨hnothing, -⟩
    · right
      intro record hmem
      rw [hnone] at hmem
      cases hmem
    · exact Or.inl hopen
    · right
      intro record hmem hremaining
      obtain ⟨hcomplete, -⟩ :=
        hmet (answersMet_of_nothingOpen hnothing hzero) record hmem hremaining
      exact Or.inr (Or.inl hcomplete)
  · intro hcondition hanswers record hmem hremaining
    rcases hcases with ⟨-, hnone⟩ | ⟨hactive, -⟩ | ⟨-, hclosed⟩
    · rw [hnone] at hmem
      cases hmem
    · exact absurd hanswers (not_answersMet_of_active hactive)
    · have hrecognised : IsRecognised rt record := by
        rcases hcondition with ⟨other, hother, hopen⟩ | hall
        · exact absurd hopen (hclosed other hother)
        · exact hall record hmem hremaining
      have hnot := hclosed record hmem
      rcases hrecognised with hincomplete | hcomplete | hblank
      · exact absurd (Or.inl hincomplete) hnot
      · refine ⟨hcomplete, ?_⟩
        by_contra hincomplete
        exact hnot (Or.inl (by simpa using hincomplete))
      · exact absurd (Or.inr ⟨hblank, hremaining⟩) hnot

/-! ## A status that is not recognised -/

/-- Whole amounts, read digit by digit. -/
def TacRuntime.digits : TacRuntime Int :=
  { TacRuntime.plain with
    ofText := fun text => some (.ok (text.toList.foldl (fun n c => 10 * n + (c.toNat - 48)) 0)) }

/-- A requirement of 100 with the given status. -/
def requirementOf (status : String) : JsonObject :=
  .ofList [("statusName", .str status), ("remainingTurnover", .str "100")]

/-- A backend that knows one player with one requirement. -/
def oneRequirement (status : String) (op : TacOp) : Except TacError Json :=
  let row : JsonObject := match op with
    | .login _ _ => ∅
    | .get path _ _ _ _ =>
        if path = turnoverPath then requirementOf status
        else .ofList [("customerId", .str "1"), ("username", .str "ana")]
  .ok (.obj (.ofList [("success", .bool true), ("value", .arr [.obj row])]))

/-- The query of the customer `ana`. -/
def anaQuery : TacProg (BackendQueryResult Int) :=
  executeBackendQuery .digits id (fun _ => .ok reachableConfig) accountPayload

/-- The run of the query. -/
def anaRun (status : String) : List tacOps.Event × Except TacError (BackendQueryResult Int) :=
  Prog.traceOf (oneRequirement status) anaQuery

/-- A requirement that is in progress is reported as met. -/
theorem processing_is_reported_met :
    ∃ trace result, Prog.Runs anaQuery trace (.ok result) ∧ result.isFailed = false ∧
      ¬MetOnlyWhenCompleted .digits trace result := by
  obtain ⟨remaining, query, hresult⟩ : ∃ remaining query,
      (anaRun "PROCESSING").2 = .ok (.success .backendTurnoverMet remaining query) := ⟨_, _, rfl⟩
  have hruns := Prog.runs_traceOf (oneRequirement "PROCESSING") anaQuery
  refine ⟨(anaRun "PROCESSING").1, _, hresult ▸ hruns, rfl, ?_⟩
  intro hmet
  have hrecords : receivedRecords (anaRun "PROCESSING").1 =
      List.replicate 5 (requirementOf "PROCESSING") := rfl
  have hmem : requirementOf "PROCESSING" ∈ receivedRecords (anaRun "PROCESSING").1 := by
    rw [hrecords]
    exact List.mem_cons_self
  obtain ⟨hcomplete, -⟩ := hmet ⟨_, _, rfl⟩ _ hmem ⟨100, rfl, rfl⟩
  revert hcomplete
  decide

/-- A requirement that is known to be incomplete is not. -/
theorem incomplete_is_reported :
    ∃ result, MetOnlyWhenCompleted .digits (anaRun "未完成").1 result := by
  obtain ⟨remaining, query, hresult⟩ : ∃ remaining query,
      (anaRun "未完成").2 = .ok (.success .backendTurnoverRemaining remaining query) := ⟨_, _, rfl⟩
  have hruns := Prog.runs_traceOf (oneRequirement "未完成") anaQuery
  have hzero : ∀ rounded, TacRuntime.digits.roundMoney TacRuntime.digits.zero = .ok rounded →
      TacRuntime.digits.positive rounded = false := by
    rintro rounded ⟨⟩
    rfl
  have hrecords : receivedRecords (anaRun "未完成").1 = [requirementOf "未完成"] := rfl
  have hmem : requirementOf "未完成" ∈ receivedRecords (anaRun "未完成").1 := by
    rw [hrecords]
    exact List.mem_cons_self
  have hopen : IsOpenRequirement .digits (requirementOf "未完成") := Or.inl (by decide)
  exact ⟨_, (metOnlyWhenCompleted_iff .digits hzero (hresult ▸ hruns) rfl).mpr
    (Or.inl ⟨_, hmem, hopen⟩)⟩

end AiCustomerService
