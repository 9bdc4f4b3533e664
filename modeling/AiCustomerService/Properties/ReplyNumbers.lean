import AiCustomerService.Properties.ReplyKeys
import AiCustomerService.Properties.TurnoverRemaining
import AiCustomerService.Workers.BackendReplyPlan

/-!
# The number that a backend reply has to state

The plan of a backend reply demands the remaining turnover word by word.  Only the template for an
open requirement states it; the other queries come with a turnover of zero, which their templates
do not mention.
-/

namespace AiCustomerService

open Support

/-! ## Templates -/

/-- The part writes no digit unless a fact does. -/
def isWordy : TemplatePart → Bool
  | .literal text => text.all fun c => !c.isDigit
  | .field name => isPlainField name

/-- The parts of a template whose characters are known. -/
theorem any_templateParts {template : String} {chars : List Char} {P : List TemplatePart → Bool}
    (htemplate : template = String.ofList chars)
    (h : (templateParts none chars).toOption.any P = true) :
    (templateParts none template.toList).toOption.any P = true := by
  rw [htemplate, String.toList_ofList]
  exact h

section Templates

variable {formatField : List Char → List (String × String) → Except PyError String}
variable {language : String}

theorem language_cases (h : language ∈ defaultTemplates.map Prod.fst) :
    language = "zh-Hans" ∨ language = "en" ∨ language = "es" := by
  simpa [defaultTemplates] using h

set_option maxRecDepth 4000 in
/-- The template for an open requirement has a place for the remaining turnover. -/
theorem remaining_template (h : language ∈ defaultTemplates.map Prod.fst) :
    (templateParts none ((ReplyRenderer.standard formatField).template language
      CustomerReplyIntent.backendTurnoverRemaining.text).toList).toOption.any
        (fun parts => parts.contains (.field "remaining_turnover".toList)) = true := by
  obtain rfl | rfl | rfl := language_cases h
  · exact any_templateParts rfl (by decide +kernel)
  · exact any_templateParts rfl (by decide +kernel)
  · exact any_templateParts rfl (by decide +kernel)

set_option maxRecDepth 4000 in
/-- The other templates have no digit. -/
theorem wordy_template {intent : CustomerReplyIntent} (hintent : intent ≠ .backendTurnoverRemaining)
    (h : language ∈ defaultTemplates.map Prod.fst) :
    (templateParts none ((ReplyRenderer.standard formatField).template language
      intent.text).toList).toOption.any (fun parts => parts.all isWordy) = true := by
  obtain rfl | rfl | rfl := language_cases h
  · cases intent with
    | backendTurnoverRemaining => exact absurd rfl hintent
    | backendPlayerNotFound => exact any_templateParts rfl (by decide +kernel)
    | backendTurnoverMet => exact any_templateParts rfl (by decide +kernel)
    | backendTurnoverUnknown => exact any_templateParts rfl (by decide +kernel)
  · cases intent with
    | backendTurnoverRemaining => exact absurd rfl hintent
    | backendPlayerNotFound => exact any_templateParts rfl (by decide +kernel)
    | backendTurnoverMet => exact any_templateParts rfl (by decide +kernel)
    | backendTurnoverUnknown => exact any_templateParts rfl (by decide +kernel)
  · cases intent with
    | backendTurnoverRemaining => exact absurd rfl hintent
    | backendPlayerNotFound => exact any_templateParts rfl (by decide +kernel)
    | backendTurnoverMet => exact any_templateParts rfl (by decide +kernel)
    | backendTurnoverUnknown => exact any_templateParts rfl (by decide +kernel)

theorem resolveLanguage_standard (rt : Runtime) (replyLanguage : Json) :
    (ReplyRenderer.standard formatField).resolveLanguage rt replyLanguage ∈
      defaultTemplates.map Prod.fst := by
  have hknown : "es" ≠ "unknown" := by decide
  have hfallback : (defaultTemplates.lookup "es").isSome = true := by decide
  exact (ReplyRenderer.standard formatField).resolveLanguage_mem hknown hfallback rt replyLanguage

end Templates

section Texts

variable {renderer : ReplyRenderer} {template text : String} {facts : List (String × String)}

/-- A fact with a place in the template occurs in the text. -/
theorem fact_isInfix {name : String} {value : String}
    (htemplate : (templateParts none template.toList).toOption.any
      (fun parts => parts.contains (.field name.toList)) = true)
    (hplain : isPlainField name.toList = true) (hfact : facts.lookup name = some value)
    (h : renderer.formatMap template facts = .ok text) : value.toList <:+: text.toList := by
  obtain ⟨parts, texts, hparts, htexts, rfl⟩ := renderer.formatMap_ok h
  obtain ⟨parts', hparts', hcontains⟩ := toOption_any_eq_true.mp htemplate
  obtain rfl := Except.ok.inj (hparts.symm.trans hparts')
  obtain ⟨part, hpart, hvalue⟩ := mapM_ok_of_mem htexts (List.contains_iff_mem.mp hcontains)
  rw [ReplyRenderer.formatPart, if_pos hplain, String.ofList_toList, hfact] at hvalue
  obtain rfl : value = part := Except.ok.inj hvalue
  rw [String.toList_join, List.flatMap_def]
  exact List.infix_of_mem_flatten (List.mem_map_of_mem hpart)

/-- A template without a digit gives a text without one if there are no facts. -/
theorem not_isDigit_of_wordy
    (htemplate : (templateParts none template.toList).toOption.any
      (fun parts => parts.all isWordy) = true)
    (h : renderer.formatMap template [] = .ok text) : ∀ c ∈ text.toList, c.isDigit = false := by
  obtain ⟨parts, texts, hparts, htexts, rfl⟩ := renderer.formatMap_ok h
  obtain ⟨parts', hparts', hwordy⟩ := toOption_any_eq_true.mp htemplate
  obtain rfl := Except.ok.inj (hparts.symm.trans hparts')
  intro c hc
  rw [String.toList_join] at hc
  obtain ⟨written, hwritten, hc⟩ := List.mem_flatMap.mp hc
  obtain ⟨part, hpart, hformat⟩ := mem_mapM_ok htexts hwritten
  have hquiet := List.all_eq_true.mp hwordy part hpart
  cases part with
  | literal literal =>
      obtain rfl : String.ofList literal = written := Except.ok.inj hformat
      rw [String.toList_ofList] at hc
      simpa using List.all_eq_true.mp hquiet c hc
  | field name =>
      have hplain : isPlainField name = true := hquiet
      rw [ReplyRenderer.formatPart, if_pos hplain] at hformat
      obtain rfl := Except.ok.inj hformat
      cases hc

end Texts

/-! ## The handler -/

section Handler

variable {rt : Runtime} {render : Renderer} {row : ExternalResultRow} {slotMemory : JsonObject}
variable {recordedAt : String} {handler : ResultHandler} {plan : ReplyPlan}

/-- A count that asks for a person says so in a command. -/
theorem handoffCommand_of_escalation {replyIntent : String} {escalation : LookupEscalation}
    (h : backendSuccessEscalation rt row slotMemory replyIntent = .ok escalation)
    (hhandoff : escalation.shouldHandoff = true) :
    ∃ command ∈ escalation.externalCommands,
      command.commandType = CommandType.humanHandoffRequested.text := by
  unfold backendSuccessEscalation at h
  dsimp only at h
  split at h
  · obtain ⟨given, -, h⟩ := bind_eq_ok.mp h
    split at h
    · obtain ⟨existing, count, -, -, -, -, hcommands⟩ := countLookup_ok h
      rw [hcommands, if_pos hhandoff]
      exact ⟨_, List.mem_singleton_self _, rfl⟩
    · obtain rfl := Except.ok.inj h
      cases hhandoff
  · obtain rfl := Except.ok.inj h
    cases hhandoff

/-- Without a command for a handoff, the text of a success is that of its reply. -/
theorem text_of_backendSuccessHandler
    (h : backendSuccessHandler rt render row slotMemory recordedAt = .ok handler)
    (hcommands : ¬hasHumanHandoffCommand handler = true) :
    ∃ reply, resolveBackendReply rt row.resultJson = .ok reply ∧
      backendSuccessText rt render row.resultJson reply (backendReplyLanguage row.resultJson) =
        .ok handler.text := by
  have hnone : ∀ command ∈ handler.externalCommands,
      command.commandType ≠ CommandType.humanHandoffRequested.text := by
    simpa [hasHumanHandoffCommand] using hcommands
  obtain ⟨reply, hreply, h⟩ := bind_eq_ok.mp h
  obtain ⟨text, htext, h⟩ := bind_eq_ok.mp h
  obtain ⟨escalation, hescalation, h⟩ := bind_eq_ok.mp h
  obtain ⟨recheck, hrecheck, h⟩ := bind_eq_ok.mp h
  obtain rfl := Except.ok.inj h
  have hcalm : escalation.shouldHandoff = false := by
    by_contra hhandoff
    obtain ⟨command, hmem, hcommand⟩ :=
      handoffCommand_of_escalation hescalation (by simpa using hhandoff)
    exact hnone command (List.mem_append_left _ hmem) hcommand
  have hsettled : recheck.shouldHandoff = false := by
    by_contra hhandoff
    dsimp only at hnone
    rw [if_pos (by simpa using hhandoff)] at hnone
    exact hnone _ (List.mem_append_right _ (List.mem_singleton_self _)) rfl
  refine ⟨reply, hreply, ?_⟩
  dsimp only
  rw [hsettled, hcalm]
  exact htext

/-- A stored answer is rendered with its own intent and facts. -/
theorem resolveBackendReply_of_stored {intent : CustomerReplyIntent} {fact : Option String}
    {turnover : TurnoverResult Amount} {result : JsonObject}
    (h : StoredAnswer rt intent fact turnover result) :
    resolveBackendReply rt result = .ok (intent.text, replyFacts fact) := by
  have htruthy : (Json.str intent.text).truthy = true := by
    cases intent with
    | backendPlayerNotFound => decide
    | backendTurnoverRemaining => decide
    | backendTurnoverMet => decide
    | backendTurnoverUnknown => decide
  unfold resolveBackendReply
  dsimp only
  rw [h.replyIntent, h.facts, if_pos htruthy]
  rfl

/-- A reply with a plan is the rendered one. -/
theorem rendered_of_attachedReplyPlan {intent : CustomerReplyIntent} {fact : Option String}
    {turnover : TurnoverResult Amount}
    (hstored : StoredAnswer rt intent fact turnover row.resultJson)
    (htype : row.resultType = "backend.query.result")
    (hhandler : buildResultHandler rt render row slotMemory recordedAt = .ok handler)
    (hplan : attachedReplyPlan rt row handler = some plan) :
    render intent.text (replyFacts fact) (backendReplyLanguage row.resultJson) = .ok handler.text ∧
      plan.mustSayExact =
        backendResultMustSayExact rt (getKey row.resultJson "query").dictOrEmpty := by
  have hsuccess : backendSuccessHandler rt render row slotMemory recordedAt = .ok handler := by
    unfold buildResultHandler at hhandler
    dsimp only at hhandler
    rw [if_neg (by rw [htype]; decide), if_neg (by rw [htype]; decide),
      if_neg (by rw [htype]; decide), if_pos htype, hstored.status] at hhandler
    exact hhandler
  unfold attachedReplyPlan at hplan
  rw [if_neg (by simp [htype])] at hplan
  split at hplan
  · cases hplan
  split at hplan
  · cases hplan
  rename_i hcommands
  obtain rfl := Option.some.inj hplan
  obtain ⟨reply, hreply, htext⟩ := text_of_backendSuccessHandler hsuccess hcommands
  obtain rfl := Except.ok.inj ((resolveBackendReply_of_stored hstored).symm.trans hreply)
  unfold backendSuccessText at htext
  rw [hstored.answer] at htext
  exact ⟨htext, rfl⟩

end Handler

/-! ## Numbers -/

section Numbers

variable {base : DecimalRuntime} {trace : List tacOps.Event}

/-- The plan writes a number of hundredths as the reply does. -/
theorem formatNumberForReplyPlan_cents (cents : ℤ) (repr : String) :
    formatNumberForReplyPlan base.toRuntime (.float (cents / 100) repr) =
      Amount.formatNumber (.decimal (cents / 100)) := by
  have hread : formatNumberForReplyPlan base.toRuntime (.float (cents / 100) repr) =
      if ((cents : ℚ) / 100).den = 1 then toString ((cents : ℚ) / 100).num
      else base.reprFloat (roundHundredth (cents / 100)) := rfl
  rw [hread, Amount.formatNumber]
  split
  · rfl
  · rename_i hden
    have hfraction : ¬(100 : ℤ) ∣ cents := by
      rintro ⟨whole, rfl⟩
      refine hden ?_
      have hwhole : ((100 * whole : ℤ) : ℚ) / 100 = whole := by
        push_cast
        ring
      rw [hwhole, Rat.den_intCast]
    rw [roundHundredth_cents, base.reprFloat_cents cents hfraction,
      div_mul_cancel₀ _ (by norm_num), Rat.num_intCast]

/-- A remaining turnover is demanded word by word. -/
theorem backendResultMustSayExact_of_present {rt : Runtime} {query : JsonObject}
    (h : (getKey query "remaining_turnover").isNull = false) :
    backendResultMustSayExact rt query =
      [formatNumberForReplyPlan rt (getKey query "remaining_turnover")] := by
  unfold backendResultMustSayExact
  dsimp only
  rw [if_neg (by simp [h])]

/-- A rounded amount that JSON has is a number of hundredths. -/
theorem cents_of_roundMoney {rt : Runtime} {total amount : Amount} {value : Json}
    (hround : Amount.roundMoney total = .ok amount) (hvalue : amountJson rt amount = some value) :
    ∃ cents : ℤ, amount = .decimal (cents / 100) ∧
      value = .float (cents / 100) (rt.reprFloat (cents / 100)) := by
  cases total with
  | infinite isNegative => cases hround
  | nan =>
      obtain rfl := Except.ok.inj hround
      cases hvalue
  | decimal number =>
      rw [Amount.roundMoney] at hround
      split at hround
      · cases hround
      · obtain rfl := Except.ok.inj hround
        exact ⟨halfUpCents number, rfl, (Option.some.inj hvalue).symm⟩

/-- What a summary states is rounded. -/
theorem roundMoney_of_summarizeRows {player : Player} {rows : List JsonObject}
    {summary : TurnoverResult Amount}
    (h : summarizeRows base.exact player rows = .ok summary) :
    ∃ total, Amount.roundMoney total = .ok summary.remainingTurnover := by
  obtain ⟨records, -, h⟩ := bind_eq_ok.mp h
  obtain ⟨remaining, hremaining, h⟩ := bind_eq_ok.mp h
  obtain ⟨required, -, h⟩ := bind_eq_ok.mp h
  obtain ⟨valid, -, h⟩ := bind_eq_ok.mp h
  obtain rfl := Except.ok.inj h
  exact ⟨_, hremaining⟩

/-- The answer to an open requirement. -/
structure AnswersRemaining (intent : CustomerReplyIntent) (fact : Option String)
    (turnover : TurnoverResult Amount) : Prop where
  intent_eq : intent = .backendTurnoverRemaining
  found : turnover.playerFound = true
  fact_eq : fact = some (Amount.formatNumber turnover.remainingTurnover)
  rounded : ∃ total, Amount.roundMoney total = .ok turnover.remainingTurnover

/-- The answer without one. -/
structure AnswersNothing (intent : CustomerReplyIntent) (fact : Option String)
    (turnover : TurnoverResult Amount) : Prop where
  intent_ne : intent ≠ .backendTurnoverRemaining
  fact_eq : fact = none
  zero : turnover.playerFound = true → turnover.remainingTurnover = .decimal 0

/-- A query that goes through answers according to what it received. -/
theorem runs_executeBackendQuery_cases {safeErrorMessage : String → String}
    {resolve : JsonObject → Except ProviderError BackendConfig} {payload : JsonObject}
    {intent : CustomerReplyIntent} {fact : Option String} {turnover : TurnoverResult Amount}
    (h : Prog.Runs (executeBackendQuery base.exact safeErrorMessage resolve payload) trace
      (.ok (.success intent fact turnover))) :
    ((∃ record ∈ receivedRecords trace, IsOpenRequirement base.exact record) ∧
        AnswersRemaining intent fact turnover) ∨
      ((∀ record ∈ receivedRecords trace, ¬IsOpenRequirement base.exact record) ∧
        AnswersNothing intent fact turnover) := by
  obtain ⟨config, answered, hturnover, hresult⟩ := runs_of_not_failed h rfl
  obtain ⟨rfl, rfl, rfl⟩ := BackendQueryResult.success.inj hresult
  rcases runs_queryTurnoverRequirement_cases hturnover with
    ⟨hplayer, hnone⟩ | ⟨hactive, hopen⟩ | ⟨hnothing, hclosed⟩
  · right
    rw [hnone, buildWithdrawalBlockedReply_notFound hplayer]
    refine ⟨fun record hmem => (by cases hmem), by decide, rfl, fun hfound => ?_⟩
    rw [hplayer] at hfound
    cases hfound
  · left
    obtain ⟨player, before, rows, summary, -, -, hsummary, hsame⟩ :=
      runs_queryTurnoverRequirement_active hturnover hactive
    have hfound : turnover.playerFound = true := by
      rw [hsame]
      exact (summarizeRows_active hsummary).1
    rw [buildWithdrawalBlockedReply_active hfound hactive]
    obtain ⟨total, htotal⟩ := roundMoney_of_summarizeRows hsummary
    refine ⟨hopen, rfl, hfound, rfl, total, ?_⟩
    rw [hsame]
    exact htotal
  · right
    rw [buildWithdrawalBlockedReply_nothingOpen hnothing DecimalRuntime.round_zero_not_positive]
    exact ⟨hclosed, by decide, rfl, fun _ => DecimalRuntime.round_zero_eq hnothing.rounded⟩

end Numbers

/-! ## The theorem -/

/-- Every text that the plan demands occurs in the reply. -/
def SaysExact (plan : ReplyPlan) (reply : String) : Prop :=
  ∀ item ∈ plan.mustSayExact, item.toList <:+: reply.toList

section Statement

variable {base : DecimalRuntime} {trace : List tacOps.Event} {intent : CustomerReplyIntent}
variable {fact : Option String} {turnover : TurnoverResult Amount} {row : ExternalResultRow}
variable {formatField : List Char → List (String × String) → Except PyError String}

/-- The reply to an open requirement states what the plan demands. -/
theorem saysExact_of_remaining (hanswer : AnswersRemaining intent fact turnover)
    (hstored : StoredAnswer base.toRuntime intent fact turnover row.resultJson)
    {text item : String}
    (htext : (ReplyRenderer.standard formatField).render base.toRuntime intent.text
      (replyFacts fact) (backendReplyLanguage row.resultJson) = .ok text)
    (hitem : item ∈ backendResultMustSayExact base.toRuntime
      (getKey row.resultJson "query").dictOrEmpty) : item.toList <:+: text.toList := by
  obtain ⟨rfl, hfound, rfl, total, htotal⟩ := hanswer
  obtain ⟨query, hquery, hrow⟩ := hstored.query
  have hremaining := remaining_of_turnoverJson hquery
  rw [if_pos hfound] at hremaining
  obtain ⟨cents, hcents, hvalue⟩ := cents_of_roundMoney htotal hremaining
  have hdict : (Json.obj query).dictOrEmpty = query := rfl
  rw [hrow, hdict, backendResultMustSayExact_of_present (by rw [hvalue]; rfl), hvalue,
    formatNumberForReplyPlan_cents, ← hcents, List.mem_singleton] at hitem
  rw [hitem]
  have hlanguage := @resolveLanguage_standard formatField base.toRuntime
    (backendReplyLanguage row.resultJson)
  exact fact_isInfix (remaining_template hlanguage) (by decide) rfl htext

/-- Any other reply leaves out the zero that the plan demands. -/
theorem zero_of_nothing (hanswer : AnswersNothing intent fact turnover)
    (hstored : StoredAnswer base.toRuntime intent fact turnover row.resultJson) {text : String}
    (htext : (ReplyRenderer.standard formatField).render base.toRuntime intent.text
      (replyFacts fact) (backendReplyLanguage row.resultJson) = .ok text) :
    "0" ∈ backendResultMustSayExact base.toRuntime (getKey row.resultJson "query").dictOrEmpty ∧
      ¬"0".toList <:+: text.toList := by
  obtain ⟨hintent, rfl, hzero⟩ := hanswer
  obtain ⟨query, hquery, hrow⟩ := hstored.query
  have hremaining := remaining_of_turnoverJson hquery
  constructor
  · have hvalue : getKey query "remaining_turnover" = .int 0 ∨
        getKey query "remaining_turnover" = .float 0 (base.reprFloat 0) := by
      split at hremaining
      · rename_i hfound
        rw [hzero hfound] at hremaining
        exact Or.inr (Option.some.inj hremaining).symm
      · exact Or.inl hremaining
    have hdict : (Json.obj query).dictOrEmpty = query := rfl
    rcases hvalue with hvalue | hvalue
    · rw [hrow, hdict, backendResultMustSayExact_of_present (by rw [hvalue]; rfl), hvalue]
      exact List.mem_singleton_self _
    · rw [hrow, hdict, backendResultMustSayExact_of_present (by rw [hvalue]; rfl), hvalue]
      exact List.mem_singleton_self _
  · intro hstated
    have hlanguage := @resolveLanguage_standard formatField base.toRuntime
      (backendReplyLanguage row.resultJson)
    have hwordy := not_isDigit_of_wordy (wordy_template hintent hlanguage) htext '0'
      (hstated.subset (by decide))
    cases hwordy

/-- For every query that goes through, every language and every reply that gets a plan: the reply
states what the plan demands exactly if some received record counts as an open requirement. -/
theorem saysExact_iff {safeErrorMessage : String → String}
    {resolve : JsonObject → Except ProviderError BackendConfig} {payload : JsonObject}
    {identity : BackendIdentity} {slotMemory : JsonObject} {recordedAt : String}
    {handler : ResultHandler} {plan : ReplyPlan}
    (hrun : Prog.Runs (executeBackendQuery base.exact safeErrorMessage resolve payload) trace
      (.ok (.success intent fact turnover)))
    (hresult : storedResult base.toRuntime identity payload intent fact turnover =
      some row.resultJson)
    (htype : row.resultType = "backend.query.result")
    (hhandler : buildResultHandler base.toRuntime
      ((ReplyRenderer.standard formatField).render base.toRuntime) row slotMemory recordedAt =
        .ok handler)
    (hplan : attachedReplyPlan base.toRuntime row handler = some plan) :
    SaysExact plan handler.text ↔
      ∃ record ∈ receivedRecords trace, IsOpenRequirement base.exact record := by
  have hstored := storedAnswer_of_storedResult hresult
  obtain ⟨htext, hmust⟩ := rendered_of_attachedReplyPlan hstored htype hhandler hplan
  rw [SaysExact, hmust]
  rcases runs_executeBackendQuery_cases hrun with ⟨hopen, hanswer⟩ | ⟨hclosed, hanswer⟩
  · exact iff_of_true (fun item hitem => saysExact_of_remaining hanswer hstored htext hitem) hopen
  · refine iff_of_false (fun hexact => ?_) ?_
    · obtain ⟨hzero, hmissing⟩ := zero_of_nothing hanswer hstored htext
      exact hmissing (hexact "0" hzero)
    · rintro ⟨record, hmem, hopen⟩
      exact hclosed record hmem hopen

end Statement

/-! ## Runs -/

/-- The payload of a customer who writes Chinese. -/
def chinesePayload : JsonObject := accountPayload.set "reply_language" (.str "zh-Hans")

/-- The query of that customer. -/
def chineseQuery : TacProg (BackendQueryResult Amount) :=
  executeBackendQuery DecimalRuntime.plain.exact id (fun _ => .ok reachableConfig) chinesePayload

/-- The run of the query for a customer with one record. -/
def chineseRun (record : JsonObject) :
    List tacOps.Event × Except TacError (BackendQueryResult Amount) :=
  Prog.traceOf (oneRecord record) chineseQuery

/-- The templates of the repository, and no other format. -/
def standardRender : Renderer :=
  (ReplyRenderer.standard fun _ _ => .ok "").render DecimalRuntime.plain.toRuntime

/-- The reply to an answer and its plan. -/
def replyTo (intent : CustomerReplyIntent) (fact : Option String)
    (turnover : TurnoverResult Amount) : Option (String × ReplyPlan) :=
  (storedResult DecimalRuntime.plain.toRuntime ⟨.null, .null, .null, .null⟩ chinesePayload intent
      fact turnover).bind fun stored =>
    let row := resultOfEvent 9 "backend.query.result" stored
    (buildResultHandler DecimalRuntime.plain.toRuntime standardRender row ∅ "").toOption.bind
      fun handler =>
        (attachedReplyPlan DecimalRuntime.plain.toRuntime row handler).map fun plan =>
          (handler.text, plan)

/-- The reply to a customer with one record and its plan. -/
def replyFor (record : JsonObject) : Option (String × ReplyPlan) :=
  (chineseRun record).2.toOption.bind fun result =>
    match result with
    | .failed _ _ => none
    | .success intent fact turnover => replyTo intent fact turnover

/-- A reply comes from an answer of the backend. -/
theorem runs_of_replyFor {record : JsonObject} {reply : String × ReplyPlan}
    (h : replyFor record = some reply) :
    ∃ intent fact turnover, Prog.Runs chineseQuery (chineseRun record).1
        (.ok (.success intent fact turnover)) ∧ replyTo intent fact turnover = some reply := by
  obtain ⟨result, hresult, h⟩ := Option.bind_eq_some_iff.mp h
  have hruns := Prog.runs_traceOf (oneRecord record) chineseQuery
  change Prog.Runs chineseQuery (chineseRun record).1 (chineseRun record).2 at hruns
  cases houtcome : (chineseRun record).2 with
  | error e =>
      rw [houtcome] at hresult
      cases hresult
  | ok answered =>
      rw [houtcome] at hresult hruns
      obtain rfl : answered = result := Option.some.inj hresult
      cases answered with
      | failed code message => cases h
      | success intent fact turnover => exact ⟨intent, fact, turnover, hruns, h⟩

/-- What the reply to an answer was made of. -/
theorem handler_of_replyTo {intent : CustomerReplyIntent} {fact : Option String}
    {turnover : TurnoverResult Amount} {reply : String × ReplyPlan}
    (h : replyTo intent fact turnover = some reply) :
    ∃ row handler,
      storedResult DecimalRuntime.plain.toRuntime ⟨.null, .null, .null, .null⟩ chinesePayload intent
        fact turnover = some row.resultJson ∧ row.resultType = "backend.query.result" ∧
      buildResultHandler DecimalRuntime.plain.toRuntime standardRender row ∅ "" = .ok handler ∧
      attachedReplyPlan DecimalRuntime.plain.toRuntime row handler = some reply.2 ∧
      handler.text = reply.1 := by
  obtain ⟨stored, hstored, h⟩ := Option.bind_eq_some_iff.mp h
  obtain ⟨handler, hhandler, h⟩ := Option.bind_eq_some_iff.mp h
  obtain ⟨plan, hplan, rfl⟩ := Option.map_eq_some_iff.mp h
  refine ⟨resultOfEvent 9 "backend.query.result" stored, handler, hstored, rfl, ?_, hplan, rfl⟩
  cases hbuilt : buildResultHandler DecimalRuntime.plain.toRuntime standardRender
      (resultOfEvent 9 "backend.query.result" stored) ∅ "" with
  | error e =>
      rw [hbuilt] at hhandler
      cases hhandler
  | ok built =>
      rw [hbuilt] at hhandler
      rw [Option.some.inj hhandler]

/-- The reply to a remaining turnover of 100 states it. -/
theorem saysExact_hundred :
    ∃ text plan, replyFor (requirementOf "未完成") = some (text, plan) ∧ SaysExact plan text := by
  have hsome : (replyFor (requirementOf "未完成")).isSome = true := by decide +kernel
  obtain ⟨reply, hreply⟩ := Option.isSome_iff_exists.mp hsome
  obtain ⟨intent, fact, turnover, hruns, hto⟩ := runs_of_replyFor hreply
  obtain ⟨row, handler, hstored, htype, hhandler, hplan, htext⟩ := handler_of_replyTo hto
  have hrecords : (receivedRecords (chineseRun (requirementOf "未完成")).1).any (fun record =>
      isIncompleteTurnoverStatus DecimalRuntime.plain.exact (recordStatus record)) = true := by
    decide +kernel
  obtain ⟨record, hmem, hopen⟩ := List.any_eq_true.mp hrecords
  refine ⟨reply.1, reply.2, hreply, htext ▸ ?_⟩
  exact (saysExact_iff hruns hstored htype hhandler hplan).mpr ⟨record, hmem, Or.inl hopen⟩

/-- The reply to a requirement that is met leaves out the zero that its plan demands. -/
theorem zero_is_demanded :
    ∃ text plan, replyFor (requirementOf "已完成") = some (text, plan) ∧ ¬SaysExact plan text := by
  have hsome : (replyFor (requirementOf "已完成")).any (fun reply =>
      reply.2.mustSayExact.contains "0" && !reply.1.toList.contains '0') = true := by
    decide +kernel
  obtain ⟨reply, hreply, hmissing⟩ := (Option.any_eq_true _ _).mp hsome
  rw [Bool.and_eq_true, Bool.not_eq_true', List.contains_iff_mem] at hmissing
  refine ⟨reply.1, reply.2, hreply, fun hexact => ?_⟩
  have hzero := (hexact "0" hmissing.1).subset (List.mem_singleton_self '0')
  rw [← List.contains_iff_mem, hmissing.2] at hzero
  cases hzero

end AiCustomerService
