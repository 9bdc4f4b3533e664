import AiCustomerService.Graph.Checkpoints

/-!
# What an earlier turn leaves

The input of a run sets most channels of the graph, but not all: what an earlier turn of the thread
left in the others, the next turn starts from.
-/

namespace AiCustomerService

open Support

/-- The channels that `build_graph_state_from_event` does not set. -/
def leftoverKeys : List String :=
  ["rewrite_result", "llm_sop_slot_result", "llm_sop_dialogue_plan", "sop_slot_source",
    "telegram_case_update"]

namespace GraphInput

theorem get?_ofList_isSome {entries : List (String × Json)} {key : String}
    (hkey : key ∈ entries.map Prod.fst) : ((Dict.ofList entries).get? key).isSome = true := by
  induction entries using List.reverseRecOn with
  | nil => cases hkey
  | append_singleton entries last ih =>
      rw [Dict.ofList, List.foldl_append, List.foldl_cons, List.foldl_nil, Dict.get?_set]
      split
      · rfl
      · rename_i hne
        refine ih ?_
        rw [List.map_append, List.mem_append] at hkey
        exact hkey.resolve_right fun hlast => hne (List.mem_singleton.mp hlast)

/-- The input sets every other channel. -/
theorem isSome_buildGraphState (rt : Runtime) (input : GraphInput) {key : String}
    (hkey : key ∈ valueKeys) (hset : key ∉ leftoverKeys) :
    ((input.buildGraphState rt).values.get? key).isSome = true := by
  refine get?_ofList_isSome ?_
  have hnames : (input.values rt).map Prod.fst = ["tenant_id", "channel_type", "conversation_id",
      "chat_id", "thread_id", "event_id", "payload_json", "raw_user_input", "rewritten_question",
      "detected_language", "language_confidence", "language_source", "conversation_language",
      "reply_language", "supported_languages", "language_result", "event_type", "occurred_at",
      "attachments", "image_analysis", "image_candidate_only", "pending_image_confirmation",
      "verified_receipt_attachments", "status", "active_workflow", "workflow_stage",
      "slot_memory", "llm_rewrite_result", "llm_router_result", "intent_result",
      "llm_intent_result", "route", "route_source", "route_locked", "rewrite_source",
      "rag_context", "rag_result", "node_reply_template", "node_facts", "recent_messages",
      "previous_thread_memory", "reply_plan", "customer_reply", "response_text_fallback",
      "final_response_text", "final_reply_result", "response_text", "errors"] := rfl
  rw [hnames]
  revert key
  decide

end GraphInput

/-! ## The first node -/

/-- The states are the same but for one key. -/
structure SameBut (key : String) (s t : NodeState) : Prop where
  values : s.values.erase key = t.values.erase key
  commands : s.commands = t.commands
  candidates : s.telegramMoneyCaseCandidates = t.telegramMoneyCaseCandidates
  matchedCase : s.matchedTelegramMoneyCase = t.matchedTelegramMoneyCase

namespace SameBut

variable {key : String} {s t : NodeState}

theorem get (h : SameBut key s t) {other : String} (hother : other ≠ key) :
    s.get other = t.get other := by
  have hsame := congrArg (fun d => Dict.get? d other) h.values
  simp only [Dict.get?_erase, if_neg hother] at hsame
  rw [NodeState.get, getKey, hsame, NodeState.get, getKey]

theorem set (h : SameBut key s t) (other : String) (value : Json) :
    SameBut key (s.set other value) (t.set other value) := by
  refine ⟨?_, h.commands, h.candidates, h.matchedCase⟩
  have hset (d : JsonObject) : (d.set other value).erase key =
      if other = key then d.erase key else (d.erase key).set other value := by
    split
    · rename_i heq
      simp [Dict.set, Dict.erase, heq, List.filter_filter]
    · rename_i hne
      simp [Dict.set, Dict.erase, hne, List.filter_filter, Bool.and_comm]
  exact (hset s.values).trans ((h.values ▸ rfl : _ = _).trans (hset t.values).symm)

/-- A state that sets the key is the same for both. -/
theorem set_eq (h : SameBut key s t) (value : Json) : s.set key value = t.set key value := by
  have hvalues : s.values.set key value = t.values.set key value := by
    rw [Dict.set, h.values, Dict.set]
  cases s
  cases t
  simp only [NodeState.set, NodeState.mk.injEq]
  exact ⟨hvalues, h.commands, h.candidates, h.matchedCase⟩

theorem declared (h : SameBut key s t) : SameBut key s.declared t.declared := by
  refine ⟨?_, h.commands, h.candidates, h.matchedCase⟩
  have hfilter (d : JsonObject) : (⟨d.entries.filter fun entry =>
      graphStateKeys.contains entry.1⟩ : JsonObject).erase key =
        ⟨(d.erase key).entries.filter fun entry => graphStateKeys.contains entry.1⟩ := by
    simp [Dict.erase, List.filter_filter, Bool.and_comm]
  exact (hfilter s.values).trans ((h.values ▸ rfl : _ = _).trans (hfilter t.values).symm)

end SameBut

namespace GraphServices

variable {services : GraphServices} {s t : NodeState}

theorem pressedButton_congr (h : SameBut "rewrite_result" s t) :
    services.pressedButton s = services.pressedButton t := by
  unfold pressedButton NodeState.slotMemory
  rw [h.get (by decide : "payload_json" ≠ _), h.get (by decide : "slot_memory" ≠ _),
    h.get (by decide : "raw_user_input" ≠ _), h.get (by decide : "reply_language" ≠ _)]

theorem applyMenuButtonRoute_congr (h : SameBut "rewrite_result" s t) :
    services.applyMenuButtonRoute s = services.applyMenuButtonRoute t := by
  have hbase (memory : JsonObject) (text : String) (result : Json) :
      ((s.withSlotMemory memory).set "rewritten_question" (.str text)).set "rewrite_result" result =
        ((t.withSlotMemory memory).set "rewritten_question" (.str text)).set "rewrite_result"
          result :=
    ((h.set _ _).set _ _).set_eq result
  have hbutton (base : NodeState) (buttonId : String) (target : String × String × Option String) :
      businessButtonState s base buttonId target = businessButtonState t base buttonId target := by
    unfold businessButtonState
    rw [h.get (by decide : "active_workflow" ≠ _), h.get (by decide : "workflow_stage" ≠ _)]
  unfold applyMenuButtonRoute
  rw [pressedButton_congr h, NodeState.slotMemory, h.get (by decide : "slot_memory" ≠ _),
    h.get (by decide : "raw_user_input" ≠ _), h.get (by decide : "payload_json" ≠ _)]
  simp only [hbase, NodeState.slotMemory]
  congr 1
  funext buttonId
  split
  · rfl
  · congr 1
    funext target
    exact hbutton _ buttonId target

theorem rewriteQuestionNode_congr (h : SameBut "rewrite_result" s t)
    (hnew : (s.get "rewritten_question").truthy = false) :
    services.rewriteQuestionNode s = services.rewriteQuestionNode t := by
  have hs : isRewritten s = false := by rw [isRewritten, hnew, Bool.false_and]
  have ht : isRewritten t = false := by
    rw [isRewritten, ← h.get (by decide : "rewritten_question" ≠ _), hnew, Bool.false_and]
  unfold rewriteQuestionNode
  rw [applyMenuButtonRoute_congr h, hs, ht]
  cases services.applyMenuButtonRoute t with
  | some routed => rfl
  | none =>
      simp only [Bool.false_eq_true, if_false]
      unfold deterministicRewrite
      rw [h.get (by decide : "raw_user_input" ≠ _)]
      exact (h.set _ _).set_eq _

/-- The first node forgets an earlier rewriting, where the rewriter does. -/
theorem llmRewriteQuestionNode_congr (h : SameBut "rewrite_result" s t)
    (hnew : (s.get "rewritten_question").truthy = false)
    (hrewrite : services.rewrite s = services.rewrite t) :
    services.llmRewriteQuestionNode s = services.llmRewriteQuestionNode t := by
  have hs : isRewritten s = false := by rw [isRewritten, hnew, Bool.false_and]
  have ht : isRewritten t = false := by
    rw [isRewritten, ← h.get (by decide : "rewritten_question" ≠ _), hnew, Bool.false_and]
  have hquestion := @rewriteQuestionNode_congr services s t h hnew
  have hfallback (reason : String) :
      services.rewriteFallback s reason = services.rewriteFallback t reason := by
    rw [rewriteFallback, hquestion, rewriteFallback]
  unfold llmRewriteQuestionNode
  rw [applyMenuButtonRoute_congr h, hs, ht, hrewrite]
  cases services.applyMenuButtonRoute t with
  | some routed => rfl
  | none =>
      simp only [Bool.false_eq_true, if_false]
      cases services.rewrite t with
      | missingProvider => exact hquestion
      | raised => exact hfallback _
      | answered result =>
          have haccepted :
              services.acceptedRewrite s result = services.acceptedRewrite t result := by
            unfold acceptedRewrite
            rw [hfallback, h.get (by decide : "raw_user_input" ≠ _)]
            simp only [(h.set _ _).set_eq]
          simp only [haccepted, hfallback]

end GraphServices

/-! ## Two threads -/

/-- The checkpoints have the same values in the channels that the input leaves alone and the first
node does not set. -/
def SameLeftovers (saved other : NodeState) : Prop :=
  ∀ key ∈ leftoverKeys, key ≠ "rewrite_result" → saved.values.get? key = other.values.get? key

/-- An event starts from the same state but for the rewriting of an earlier turn. -/
theorem sameBut_resume {saved other : NodeState} (h : SameLeftovers saved other) (rt : Runtime)
    (input : GraphInput) : SameBut "rewrite_result" (saved.resume (input.buildGraphState rt))
      (other.resume (input.buildGraphState rt)) := by
  refine ⟨?_, rfl, rfl, rfl⟩
  have hchannels : valueKeys.filterMap (fun key =>
        (((input.buildGraphState rt).values.get? key).or (saved.values.get? key)).map
          (Prod.mk key) |>.filter fun entry => entry.1 ≠ "rewrite_result") =
      valueKeys.filterMap fun key =>
        (((input.buildGraphState rt).values.get? key).or (other.values.get? key)).map
          (Prod.mk key) |>.filter fun entry => entry.1 ≠ "rewrite_result" := by
    refine List.filterMap_congr fun key hkey => ?_
    by_cases hrewrite : key = "rewrite_result"
    · have hnone (value? : Option Json) : (value?.map (Prod.mk key)).filter
          (fun entry => decide (entry.1 ≠ "rewrite_result")) = none := by
        cases value? with
        | none => rfl
        | some value => simp [hrewrite]
      rw [hnone, hnone]
    · by_cases hleft : key ∈ leftoverKeys
      · rw [h key hleft hrewrite]
      · obtain ⟨value, hvalue⟩ := Option.isSome_iff_exists.mp
          (input.isSome_buildGraphState rt hkey hleft)
        rw [hvalue, Option.some_or, Option.some_or]
  simp only [NodeState.resume, Dict.erase, List.filter_filterMap]
  exact congrArg Dict.mk hchannels

theorem lookup_channels (value : String → Option Json) (key : String) (keys : List String) :
    (keys.filterMap fun key => (value key).map (Prod.mk key)).lookup key =
      if key ∈ keys then value key else none := by
  induction keys with
  | nil => rfl
  | cons first rest ih =>
      by_cases hfirst : key = first
      · subst hfirst
        cases hvalue : value key with
        | none => simp [hvalue, ih]
        | some value => simp [hvalue]
      · have hne : (key == first) = false := by simpa using hfirst
        cases hvalue : value first with
        | none => simp [hvalue, ih, hfirst]
        | some value => simp [hvalue, ih, hfirst, List.lookup_cons, hne]

/-- No event starts with a question that was rewritten. -/
theorem rewrittenQuestion_resume (saved : NodeState) (rt : Runtime) (input : GraphInput) :
    ((saved.resume (input.buildGraphState rt)).declared.get "rewritten_question").truthy =
      false := by
  have hinput : (input.buildGraphState rt).values.get? "rewritten_question" = some .null := by
    simp [GraphInput.buildGraphState, GraphInput.values, Dict.ofList, Dict.get?_set]
  rw [NodeState.get_declared, if_pos (by decide), NodeState.get, getKey, NodeState.resume,
    Dict.get?, lookup_channels, if_pos (by decide), hinput]
  rfl

namespace ReplyServices

/-- Whatever the earlier events of two threads were, an event returns the same graph state in both
where they left the same in the channels that its input does not set, and the rewriter answers the
same. -/
theorem resumed_same_of_leftovers (services : ReplyServices) (first second : List GraphInput)
    (last : GraphInput)
    (h : SameLeftovers (runSteps services.checkpointed .unsaved first)
      (runSteps services.checkpointed .unsaved second))
    (hrewrite : services.rewrite ((runSteps services.checkpointed .unsaved first).resume
        (last.buildGraphState services.rt)).declared =
      services.rewrite ((runSteps services.checkpointed .unsaved second).resume
        (last.buildGraphState services.rt)).declared) :
    services.resumedGraphState (runSteps services.checkpointed .unsaved first) last =
      services.resumedGraphState (runSteps services.checkpointed .unsaved second) last := by
  have hsame := (sameBut_resume h services.rt last).declared
  have hrewritten := @GraphServices.llmRewriteQuestionNode_congr services.toGraphServices _ _ hsame
    (rewrittenQuestion_resume _ services.rt last) hrewrite
  unfold resumedGraphState GraphServices.runGraph GraphServices.routedState
  rw [hrewritten]

/-! ## A case update of an earlier turn -/

/-- A case of the customer that is open. -/
def openWithdrawal : MoneyCase := ⟨7, "withdrawal_missing", some "under_review", some 100, ∅, ∅⟩

/-- The customer confirms that the money of the case has arrived. -/
def arrivalMessage : GraphInput :=
  { GraphInput.plain "It has arrived" none none ∅ with
    telegramMoneyCaseCandidates := [openWithdrawal] }

/-- The customer asks for a human, in a conversation without a workflow. -/
def humanMessage : GraphInput := .plain "quiero un agente humano" none none ∅

/-- The request leaves its rewriting, and nothing else. -/
theorem sameLeftovers_request :
    SameLeftovers (runSteps plain.checkpointed .unsaved [humanMessage])
      (runSteps plain.checkpointed .unsaved []) := by
  have hnone : leftoverKeys.all (fun key => key == "rewrite_result" ||
      ((runSteps plain.checkpointed .unsaved [humanMessage]).values.get? key).isNone) = true := by
    decide +kernel
  intro key hkey hne
  have hkept := List.all_eq_true.mp hnone key hkey
  rw [Bool.or_eq_true, beq_iff_eq, Option.isNone_iff_eq_none] at hkept
  exact hkept.resolve_left hne

theorem resumed_same_after_request :
    plain.resumedGraphState (runSteps plain.checkpointed .unsaved [humanMessage])
        arrivalMessage =
      plain.resumedGraphState (runSteps plain.checkpointed .unsaved []) arrivalMessage :=
  resumed_same_of_leftovers plain [humanMessage] [] arrivalMessage sameLeftovers_request rfl

/-- Behind a confirmed case, the request returns the update of the case again. -/
theorem case_update_leaks :
    (plain.resumedGraphState (runSteps plain.checkpointed .unsaved [arrivalMessage])
        humanMessage).toOption.any
          (fun state => !(state.get "telegram_case_update").isNull) = true ∧
      (plain.resumedGraphState (runSteps plain.checkpointed .unsaved [])
        humanMessage).toOption.any
          (fun state => (state.get "telegram_case_update").isNull) = true := by
  refine ⟨?_, ?_⟩
  · decide +kernel
  · decide +kernel

end ReplyServices

end AiCustomerService
