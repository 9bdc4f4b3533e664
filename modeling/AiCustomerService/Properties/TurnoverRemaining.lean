import AiCustomerService.Backends.ExactAmounts
import AiCustomerService.Properties.TurnoverMet

/-!
# The turnover that remains

The reply to an open requirement states the sum of the remaining amounts.  An amount that is missing
or cannot be read counts as zero there, and the reply does not look at the sum.
-/

namespace AiCustomerService

open Support

variable {base : DecimalRuntime} {trace : List tacOps.Event}

/-! ## Statement -/

/-- The exact amount, if there is one. -/
def exactAmount? : Except String Amount → Option ℚ
  | .ok (.decimal value) => some value
  | _ => none

/-- The amount that a value denotes; `none` if it is absent or not a number. -/
def readAmount (base : DecimalRuntime) (value : Json) : Option ℚ :=
  if value.isNull || value.eqText "" then none
  else
    let text := (value.pyStr base.toRuntime).toList
    match base.ofText (strip (String.ofList (text.filter (· ≠ ',')))) with
    | some number => exactAmount? number
    | none =>
        let cleaned := text.filter fun c => base.isDigit c || c = '.' || c = '-'
        if cleaned = [] then none else (base.ofText (String.ofList cleaned)).bind exactAmount?

/-- The remaining amount of a record. -/
def remainingAmount (base : DecimalRuntime) (record : JsonObject) : Option ℚ :=
  readAmount base (firstPresent record remainingKeys)

/-- The record counts as an open requirement. -/
def isActive (base : DecimalRuntime) (record : JsonObject) : Bool :=
  (normalizeTurnoverRequirementRecord base.exact record).toOption.any TurnoverRecord.isIncomplete

/-- The records of each window that was queried. -/
def windowRows (trace : List tacOps.Event) : List (List JsonObject) :=
  (finalResponses (trace.filter isTurnoverQuery)).map extractRows

/-- The active records of the first window that has some, which is the one that is selected. -/
def activeRecords (base : DecimalRuntime) (trace : List tacOps.Event) : List JsonObject :=
  (((windowRows trace).find? fun rows => rows.any (isActive base)).getD []).filter (isActive base)

/-- The sum of the remaining amounts, rounded half up to hundredths. -/
def remainingTotal (base : DecimalRuntime) (trace : List tacOps.Event) : ℚ :=
  halfUpCents ((activeRecords base trace).filterMap (remainingAmount base)).sum / 100

/-- A remaining turnover that is stated is positive and the sum of the remaining amounts, and an
active record without an amount makes the answer unknown. -/
structure StatesRemaining (base : DecimalRuntime) (trace : List tacOps.Event)
    (result : BackendQueryResult Amount) : Prop where
  stated : ∀ fact query, result = .success .backendTurnoverRemaining fact query →
    ∃ text, fact = some text ∧ readNumber text = some (remainingTotal base trace) ∧
      0 < remainingTotal base trace
  unknown : (∃ record ∈ activeRecords base trace, remainingAmount base record = none) →
    ∃ fact query, result = .success .backendTurnoverUnknown fact query

/-- The active records all have an amount, and together more than nothing remains. -/
structure AmountsRemain (base : DecimalRuntime) (trace : List tacOps.Event) : Prop where
  readable : ∀ record ∈ activeRecords base trace, (remainingAmount base record).isSome
  positive : activeRecords base trace ≠ [] → 0 < remainingTotal base trace

/-! ## Records -/

/-- An amount that can be read is the one that the client sums up. -/
theorem toMoneyNumber_of_readAmount {value : Json} {amount : ℚ}
    (h : readAmount base value = some amount) :
    toMoneyNumber base.exact value = .ok (.decimal amount) := by
  unfold readAmount at h
  unfold toMoneyNumber
  split at h
  · cases h
  · rename_i hpresent
    rw [if_neg hpresent]
    dsimp only at h ⊢
    have hexact : ∀ {number : Except String Amount}, exactAmount? number = some amount →
        number = .ok (.decimal amount) := by
      intro number hnumber
      unfold exactAmount? at hnumber
      split at hnumber
      · rw [Option.some.inj hnumber]
      · cases hnumber
    have hof : base.exact.ofText = base.ofText := rfl
    have hdigit : base.exact.isDigit = base.isDigit := rfl
    have hruntime : base.exact.toRuntime = base.toRuntime := rfl
    rw [hof, hdigit, hruntime]
    split at h
    · rename_i number hnumber
      rw [hnumber]
      exact hexact h
    · rename_i hunread
      rw [hunread]
      split at h
      · cases h
      · rename_i hcleaned
        obtain ⟨number, hnumber, hamount⟩ := Option.bind_eq_some_iff.mp h
        rw [if_neg hcleaned, hnumber]
        exact hexact hamount

/-- The active records are the open requirements. -/
theorem isActive_iff {row : JsonObject} {record : TurnoverRecord Amount}
    (h : normalizeTurnoverRequirementRecord base.exact row = .ok record) :
    isActive base row = record.isIncomplete := by
  rw [isActive, h]
  rfl

theorem remaining_of_normalize {row : JsonObject} {record : TurnoverRecord Amount}
    (h : normalizeTurnoverRequirementRecord base.exact row = .ok record) :
    toMoneyNumber base.exact (firstPresent row remainingKeys) = .ok record.remaining := by
  obtain ⟨remaining, hremaining, h⟩ := bind_eq_ok.mp h
  obtain ⟨required, -, h⟩ := bind_eq_ok.mp h
  obtain ⟨valid, -, h⟩ := bind_eq_ok.mp h
  obtain ⟨amount, -, h⟩ := bind_eq_ok.mp h
  cases h
  exact hremaining

theorem not_isActive_of_closed {row : JsonObject} (h : ¬IsOpenRequirement base.exact row) :
    isActive base row = false := by
  unfold isActive
  cases hrecord : normalizeTurnoverRequirementRecord base.exact row with
  | error e => rfl
  | ok record =>
      have hclosed : record.isIncomplete ≠ true := fun hopen =>
        h ((isIncomplete_iff hrecord).mp hopen)
      exact Bool.eq_false_iff.mpr hclosed

/-- The active records of a window, and what is summed up of them when they can all be read. -/
theorem active_of_mapM {rows : List JsonObject} {records : List (TurnoverRecord Amount)}
    (h : rows.mapM (normalizeTurnoverRequirementRecord base.exact) = .ok records) :
    (records.filter TurnoverRecord.isIncomplete).length = (rows.filter (isActive base)).length ∧
      ((∀ row ∈ rows.filter (isActive base), (remainingAmount base row).isSome) →
        (records.filter TurnoverRecord.isIncomplete).map TurnoverRecord.remaining =
          ((rows.filter (isActive base)).filterMap (remainingAmount base)).map .decimal) := by
  induction rows generalizing records with
  | nil =>
      rw [List.mapM_nil] at h
      obtain rfl := Except.ok.inj h
      exact ⟨rfl, fun _ => rfl⟩
  | cons row rest ih =>
      rw [List.mapM_cons] at h
      obtain ⟨record, hrecord, h⟩ := bind_eq_ok.mp h
      obtain ⟨others, hothers, h⟩ := bind_eq_ok.mp h
      obtain rfl := Except.ok.inj h
      obtain ⟨hlength, hamounts⟩ := ih hothers
      by_cases hactive : isActive base row = true
      · have hincomplete := (isActive_iff hrecord).symm.trans hactive
        rw [List.filter_cons_of_pos hactive, List.filter_cons_of_pos hincomplete]
        refine ⟨by rw [List.length_cons, List.length_cons, hlength], fun hread => ?_⟩
        obtain ⟨hfirst, hrest⟩ := List.forall_mem_cons.mp hread
        obtain ⟨amount, hamount⟩ := Option.isSome_iff_exists.mp hfirst
        have hremaining := (remaining_of_normalize hrecord).symm.trans
          (toMoneyNumber_of_readAmount hamount)
        rw [List.map_cons, List.filterMap_cons_some hamount, List.map_cons, hamounts hrest,
          Except.ok.inj hremaining]
      · have hcomplete : ¬record.isIncomplete = true := (isActive_iff hrecord) ▸ hactive
        rw [List.filter_cons_of_neg hactive, List.filter_cons_of_neg hcomplete]
        exact ⟨hlength, hamounts⟩

/-- What the summary of a window states. -/
theorem summarizeRows_active {player : Player} {rows : List JsonObject}
    {summary : TurnoverResult Amount}
    (h : summarizeRows base.exact player rows = .ok summary) :
    summary.playerFound = true ∧
      summary.activeRequirementsCount = (rows.filter (isActive base)).length ∧
      ((∀ row ∈ rows.filter (isActive base), (remainingAmount base row).isSome) →
        summary.remainingTurnover = .decimal (halfUpCents
          ((rows.filter (isActive base)).filterMap (remainingAmount base)).sum / 100)) := by
  obtain ⟨records, hrecords, h⟩ := bind_eq_ok.mp h
  obtain ⟨remaining, hremaining, h⟩ := bind_eq_ok.mp h
  obtain ⟨required, -, h⟩ := bind_eq_ok.mp h
  obtain ⟨valid, -, h⟩ := bind_eq_ok.mp h
  cases h
  obtain ⟨hlength, hamounts⟩ := active_of_mapM hrecords
  refine ⟨rfl, hlength, fun hread => ?_⟩
  rw [hamounts hread] at hremaining
  have hsum := Amount.foldl_add ((rows.filter (isActive base)).filterMap (remainingAmount base)) 0
  rw [zero_add] at hsum
  have hrounded : Amount.roundMoney ((((rows.filter (isActive base)).filterMap
      (remainingAmount base)).map .decimal).foldl Amount.add (.decimal 0)) = .ok remaining :=
    hremaining
  rw [hsum, Amount.roundMoney] at hrounded
  split at hrounded
  · cases hrounded
  · exact (Except.ok.inj hrounded).symm

/-! ## Windows -/

theorem windowRows_append (before after : List tacOps.Event) :
    windowRows (before ++ after) = windowRows before ++ windowRows after := by
  simp [windowRows]

theorem windowRows_apiGet {config : BackendConfig} {authorization : Option String}
    {merchant : String} {params : JsonObject} {response : Json × Option String}
    (h : Prog.Runs (apiGet base.exact config authorization turnoverPath params merchant) trace
      (.ok response)) : windowRows trace = [extractRows response.1] := by
  rw [windowRows, finalResponses_filter (hasPath_apiGet _ _ _ _) h, if_pos rfl, runs_apiGet h]
  rfl

/-- A result with open requirements is the summary of the last window that was queried, and those
before it have none. -/
theorem runs_queryWindows_active {config : BackendConfig} {merchant : String} {player : Player}
    {windows done : List TurnoverWindow} {best : Option (TurnoverResult Amount)}
    {authorization : Option String} {result : TurnoverResult Amount}
    (hbest : ∀ summary, best = some summary → summary.activeRequirementsCount = 0)
    (h : Prog.Runs (queryWindows base.exact config merchant player windows done best authorization)
      trace (.ok (some result))) (hactive : 0 < result.activeRequirementsCount) :
    ∃ before rows summary, windowRows trace = before ++ [rows] ∧
      (∀ window ∈ before, ∀ row ∈ window, isActive base row = false) ∧
      summarizeRows base.exact player rows = .ok summary ∧
      result = { summary with queryWindows := result.queryWindows } := by
  induction windows generalizing done best authorization trace with
  | nil =>
      obtain ⟨rfl, hresult⟩ := Prog.runs_ret_iff.mp h
      have hnone := hbest result hresult
      omega
  | cons window rest ih =>
      obtain ⟨first, response, others, rfl, hget, h⟩ := Prog.runs_bind_ok.mp h
      obtain ⟨second, ⟨⟩, others, rfl, hassert, h⟩ := Prog.runs_bind_ok.mp h
      obtain ⟨third, summary, others, rfl, hsummary, h⟩ := Prog.runs_bind_ok.mp h
      obtain ⟨hthird, hsummary⟩ := runs_lift hsummary
      rw [(runs_assertBackendSuccess hassert).1, hthird, List.nil_append, List.nil_append,
        windowRows_append, windowRows_apiGet hget]
      dsimp only at h
      rcases summarizeRows_ok hsummary with ⟨hopen, -⟩ | ⟨hnothing, hclosed⟩
      · rw [if_pos hopen] at h
        obtain ⟨rfl, hresult⟩ := Prog.runs_ret_iff.mp h
        obtain rfl := (Option.some.inj hresult).symm
        exact ⟨[], _, summary, rfl, by simp, hsummary, rfl⟩
      · rw [if_neg (by rw [hnothing.none]; omega)] at h
        have hnext : ∀ chosen, (if isBetter { summary with queryWindows := done ++ [window] } best
            then some { summary with queryWindows := done ++ [window] } else best) = some chosen →
            chosen.activeRequirementsCount = 0 := by
          intro chosen hchosen
          split at hchosen
          · cases hchosen
            exact hnothing.none
          · exact hbest chosen hchosen
        obtain ⟨before, rows, found, hwindows, hbefore, hfound, hresult⟩ := ih hnext h
        refine ⟨extractRows response.1 :: before, rows, found, by rw [hwindows]; rfl, ?_, hfound,
          hresult⟩
        rintro window' (_ | hmem)
        · exact fun row hrow => not_isActive_of_closed (hclosed row hrow)
        · exact hbefore window' ‹_›

/-- The window that a result with open requirements summarises. -/
theorem runs_queryTurnoverRequirement_active {config : BackendConfig} {accountOrPhone : String}
    {turnover : TurnoverResult Amount}
    (h : Prog.Runs (queryTurnoverRequirement base.exact config accountOrPhone) trace
      (.ok turnover)) (hactive : 0 < turnover.activeRequirementsCount) :
    ∃ player before rows summary, windowRows trace = before ++ [rows] ∧
      (∀ window ∈ before, ∀ row ∈ window, isActive base row = false) ∧
      summarizeRows base.exact player rows = .ok summary ∧
      turnover = { summary with queryWindows := turnover.queryWindows } := by
  obtain ⟨first, merchant, rest, rfl, hmerchant, h⟩ := Prog.runs_bind_ok.mp h
  obtain ⟨second, found, rest, rfl, hfound, h⟩ := Prog.runs_bind_ok.mp h
  have hsearch : windowRows second = [] := by
    rw [windowRows, turnoverResponses_queryPlayerUser hfound, List.map_nil]
  rw [runs_merchantCode hmerchant, List.nil_append, windowRows_append, hsearch, List.nil_append]
  unfold queryRequirements at h
  split at h
  · obtain ⟨-, rfl⟩ := Prog.runs_ret_iff.mp h
    cases hactive
  · next player _ =>
    obtain ⟨third, best, rest, rfl, hwindows, h⟩ := Prog.runs_bind_ok.mp h
    cases best with
    | some best =>
        obtain ⟨rfl, rfl⟩ := Prog.runs_ret_iff.mp h
        rw [List.append_nil]
        exact ⟨player, runs_queryWindows_active (fun summary hsummary => by cases hsummary)
          hwindows hactive⟩
    | none =>
        obtain ⟨-, hsummary⟩ := runs_lift h
        have hempty : summarizeRows base.exact player [] = .ok turnover := hsummary
        have hnone := (summarizeRows_active hempty).2.1
        simp only [List.filter_nil, List.length_nil] at hnone
        omega

/-- Without open requirements no record is active. -/
theorem activeRecords_of_closed
    (h : ∀ record ∈ receivedRecords trace, ¬IsOpenRequirement base.exact record) :
    activeRecords base trace = [] := by
  unfold activeRecords
  rw [List.filter_eq_nil_iff]
  intro record hmem
  rw [Bool.not_eq_true]
  cases hfound : (windowRows trace).find? fun rows => rows.any (isActive base) with
  | none =>
      rw [hfound] at hmem
      cases hmem
  | some rows =>
      rw [hfound] at hmem
      refine not_isActive_of_closed (h record ?_)
      rw [receivedRecords, List.flatMap_def]
      exact List.mem_flatten.mpr ⟨rows, List.mem_of_find?_eq_some hfound, hmem⟩

/-- The active records are those of the window that is summarised. -/
theorem activeRecords_of_windows {before : List (List JsonObject)} {rows : List JsonObject}
    (hwindows : windowRows trace = before ++ [rows])
    (hbefore : ∀ window ∈ before, ∀ row ∈ window, isActive base row = false)
    (hactive : 0 < (rows.filter (isActive base)).length) :
    activeRecords base trace = rows.filter (isActive base) := by
  have hnone : before.find? (fun rows => rows.any (isActive base)) = none := by
    rw [List.find?_eq_none]
    intro window hmem
    simpa using hbefore window hmem
  have hany : rows.any (isActive base) = true := by
    obtain ⟨row, hrow⟩ := List.exists_mem_of_length_pos hactive
    obtain ⟨hmem, hrow⟩ := List.mem_filter.mp hrow
    exact List.any_eq_true.mpr ⟨row, hmem, hrow⟩
  unfold activeRecords
  rw [hwindows, List.find?_append, hnone, Option.none_or]
  simp [hany]

/-! ## The theorem -/

/-- An answer without open requirements states no remaining turnover. -/
theorem statesRemaining_of_inactive {result : BackendQueryResult Amount}
    {intent : CustomerReplyIntent} {stated : Option String} {turnover : TurnoverResult Amount}
    (hnone : activeRecords base trace = []) (hresult : result = .success intent stated turnover)
    (hintent : intent ≠ .backendTurnoverRemaining) :
    StatesRemaining base trace result ∧ AmountsRemain base trace := by
  refine ⟨⟨fun fact query hstated => ?_, ?_⟩, ?_, ?_⟩
  · exact absurd (BackendQueryResult.success.inj (hresult.symm.trans hstated)).1 hintent
  · rintro ⟨record, hmem, -⟩
    rw [hnone] at hmem
    cases hmem
  · rw [hnone]
    exact fun record hmem => by cases hmem
  · exact fun hsome => absurd hnone hsome

/-- Plain decimal texts and nothing else. -/
def DecimalRuntime.plain : DecimalRuntime where
  toRuntime := { Runtime.plain with reprFloat := fun value => centsText (value * 100).num }
  upper := id
  isDigit := Char.isDigit
  ofText := fun text => (readNumber text).map fun value => .ok (.decimal value)
  generateTotp := fun _ => .ok "0"
  rangeDays := fun _ => ("", "")
  monthRange := ("", "")
  lastWithdrawalWindow := ("", "")
  reprFloat_cents := by
    intro cents _
    change centsText ((cents : ℚ) / 100 * 100).num = _
    rw [div_mul_cancel₀ _ (by norm_num), Rat.num_intCast]

/-- A backend that knows one player with one record. -/
def oneRecord (record : JsonObject) (op : TacOp) : Except TacError Json :=
  let row : JsonObject := match op with
    | .login _ _ => ∅
    | .get path _ _ _ _ =>
        if path = turnoverPath then record
        else .ofList [("customerId", .str "1"), ("username", .str "ana")]
  .ok (.obj (.ofList [("success", .bool true), ("value", .arr [.obj row])]))

/-- The query of the customer `ana`, with exact amounts. -/
def exactQuery : TacProg (BackendQueryResult Amount) :=
  executeBackendQuery DecimalRuntime.plain.exact id (fun _ => .ok reachableConfig) accountPayload

/-- The run of the query for a customer with one record. -/
def recordRun (record : JsonObject) :
    List tacOps.Event × Except TacError (BackendQueryResult Amount) :=
  Prog.traceOf (oneRecord record) exactQuery

/-- The intent of a result. -/
def BackendQueryResult.intent? : BackendQueryResult Amount → Option CustomerReplyIntent
  | .failed _ _ => none
  | .success intent _ _ => some intent

theorem runs_recordRun {record : JsonObject} {intent : CustomerReplyIntent}
    (h : (recordRun record).2.toOption.any (fun result => result.intent? == some intent) = true) :
    ∃ fact query, Prog.Runs exactQuery (recordRun record).1 (.ok (.success intent fact query)) := by
  obtain ⟨result, hresult, hintent⟩ := toOption_any_eq_true.mp h
  cases result with
  | failed code message => cases hintent
  | success answered fact query =>
      obtain rfl : answered = intent := Option.some.inj (eq_of_beq hintent)
      have hruns := Prog.runs_traceOf (oneRecord record) exactQuery
      unfold recordRun at hresult ⊢
      rw [hresult] at hruns
      exact ⟨fact, query, hruns⟩

end AiCustomerService
