import AiCustomerService.Graph.Frames
import AiCustomerService.Graph.KeptKeys
import AiCustomerService.Graph.RouterFrames

/-!
# The commands of a run

Which commands the nodes hand on: before the router only a menu plans one, and behind the handler
of the route the planner adds texts only.
-/

namespace AiCustomerService

open Support

/-- The commands are those of another state, or were replaced by a text, or by none. -/
def PlansTexts (s r : NodeState) : Prop :=
  r.commands = s.commands ∨ ∃ text? : Option String, r.commands = text?.toList.map textCommand

namespace PlansTexts

variable {s t r : NodeState}

theorem of_eq (h : r.commands = s.commands) : PlansTexts s r := .inl h

theorem refl (s : NodeState) : PlansTexts s s := .inl rfl

theorem trans (hst : PlansTexts s t) (htr : PlansTexts t r) : PlansTexts s r := by
  rcases htr with hkept | htext
  · rwa [PlansTexts, hkept]
  · exact .inr htext

theorem withRoute (h : PlansTexts s t) (rt : Runtime) (d : RouteDecision) :
    PlansTexts s (t.withRoute rt d) := h.trans (of_eq rfl)

theorem set (h : PlansTexts s t) (key : String) (value : Json) : PlansTexts s (t.set key value) :=
  h.trans (of_eq rfl)

theorem withSlotMemory (h : PlansTexts s t) (memory : JsonObject) :
    PlansTexts s (t.withSlotMemory memory) := h.trans (of_eq rfl)

theorem withReply (s t : NodeState) (text : String) : PlansTexts s (t.withReply text) :=
  .inr ⟨none, rfl⟩

theorem types (h : PlansTexts s r) {type : CommandType} (htype : type ∈ r.types) :
    type ∈ s.types ∨ type = .livechatSendText := by
  rcases h with hkept | ⟨text?, htext⟩
  · rw [NodeState.types, hkept] at htype
    exact .inl htype
  · rw [NodeState.types, htext] at htype
    cases text? with
    | none => cases htype
    | some text => exact .inr (List.mem_singleton.mp htype)

end PlansTexts

theorem RouterEdits.plansTexts {s r : NodeState} (h : RouterEdits s r) : PlansTexts s r := by
  induction h with
  | refl => exact .refl s
  | set _ value _ ih => exact ih.set _ value
  | withText _ text? => exact .inr ⟨text?, rfl⟩
  | matched _ case ih => exact ih.trans (.of_eq rfl)

namespace RouterSettings

variable {settings : RouterSettings} {s routed : NodeState}

/-- Whatever the language model answers, the router plans no command but texts. -/
theorem plansTexts_llmIntentRouterNode {limits : RouterLimits} {answer : RouterAnswer}
    (h : settings.llmIntentRouterNode limits answer s = .ok routed) : PlansTexts s routed :=
  (llmIntentRouterNode_edits h).plansTexts

end RouterSettings

/-- No command is planned, unless the route is locked. -/
def IdleOrLocked (s : NodeState) : Prop :=
  s.commands = [] ∨ RouterSettings.isRouteLocked s = true

namespace IdleOrLocked

open NodeState

variable {s t : NodeState}

theorem set (h : IdleOrLocked s) {key : String} (value : Json)
    (hkey : key ∉ ["route_locked", "route"]) : IdleOrLocked (s.set key value) := by
  simp only [List.mem_cons, List.not_mem_nil, or_false, not_or] at hkey
  refine h.imp id fun hlocked => ?_
  rwa [RouterSettings.isRouteLocked, get_set, get_set, if_neg (Ne.symm hkey.1),
    if_neg (Ne.symm hkey.2)]

theorem declared (h : IdleOrLocked s) : IdleOrLocked s.declared := by
  refine h.imp id fun hlocked => ?_
  rwa [RouterSettings.isRouteLocked, get_declared, get_declared, if_pos (by decide),
    if_pos (by decide)]

end IdleOrLocked

namespace GraphServices

open NodeState

variable {services : GraphServices} {s r : NodeState}

theorem idleOrLocked_applyMenuButtonRoute (h : services.applyMenuButtonRoute s = some r) :
    IdleOrLocked r := by
  refine .inr ?_
  obtain ⟨buttonId, -, h⟩ := Option.bind_eq_some_iff.mp h
  simp only at h
  split at h
  · cases h
    simp [RouterSettings.isRouteLocked, Json.truthy]
  · obtain ⟨⟨intent, route, query⟩, hroute, rfl⟩ := Option.map_eq_some_iff.mp h
    have hne : route ≠ "" := by
      unfold businessButtonRoute at hroute
      split at hroute <;> cases hroute <;> decide
    simp [businessButtonState, RouterSettings.isRouteLocked, Json.truthy, hne]

theorem Rewrites.idleOrLocked (hr : Rewrites services s r) (h : IdleOrLocked s) :
    IdleOrLocked r := by
  have hkeys : ∀ key ∈ rewriteKeys, key ∉ ["route_locked", "route"] := by decide
  induction hr with
  | pressed hbutton => exact idleOrLocked_applyMenuButtonRoute hbutton
  | refl => exact h
  | set _ value hkey ih => exact ih.set value (hkeys _ hkey)

theorem idleOrLocked_beforeRouter (h : IdleOrLocked s) :
    IdleOrLocked (services.beforeRouter s) := by
  have hrewritten := ((@llmRewriteQuestionNode_rewrites services _).idleOrLocked h.declared).declared
  exact (((((((hrewritten.set _ (by decide)).set _ (by decide)).set _ (by decide)).set _
    (by decide)).set _ (by decide)).set _ (by decide)).set _ (by decide)).declared

/-- The state shows menus only. -/
def PlansMenus (s : NodeState) : Prop := ∀ type ∈ s.types, type = .livechatSendButtons

theorem PlansMenus.of_eq (h : PlansMenus s) (heq : r.commands = s.commands) :
    PlansMenus r := by
  rwa [PlansMenus, NodeState.types, heq]

theorem plansMenus_applyMenuButtonRoute (h : PlansMenus s)
    (hr : services.applyMenuButtonRoute s = some r) : PlansMenus r := by
  obtain ⟨buttonId, -, hr⟩ := Option.bind_eq_some_iff.mp hr
  simp only at hr
  split at hr
  · cases hr
    intro type htype
    rw [SopSettings.types_withCommands] at htype
    exact List.mem_singleton.mp htype
  · obtain ⟨⟨intent, route, query⟩, -, rfl⟩ := Option.map_eq_some_iff.mp hr
    exact h.of_eq rfl

theorem Rewrites.plansMenus (hr : Rewrites services s r) (h : PlansMenus s) : PlansMenus r := by
  induction hr with
  | pressed hbutton => exact plansMenus_applyMenuButtonRoute h hbutton
  | refl => exact h
  | set _ value _ ih => exact ih.of_eq rfl

theorem plansMenus_beforeRouter (hcommands : s.commands = []) :
    PlansMenus (services.beforeRouter s) := by
  have hpolicy (t : NodeState) : (services.languagePolicyNode t.declared).declared.commands =
      t.commands := rfl
  have hidle : PlansMenus s.declared := by
    intro type htype
    have hnil : type ∈ s.commands.map WorkflowCommand.type := htype
    rw [hcommands] at hnil
    cases hnil
  refine ((@llmRewriteQuestionNode_rewrites services _).plansMenus hidle).of_eq ?_
  rw [beforeRouter, hpolicy]

/-! ## Behind the handler -/

theorem map_type_withText (isTarget : WorkflowCommand → Bool) (text : Json)
    (commands : List WorkflowCommand) :
    (withText isTarget text commands).map WorkflowCommand.type =
      commands.map WorkflowCommand.type := by
  induction commands with
  | nil => rfl
  | cons command rest ih =>
      unfold withText
      split
      · rfl
      · rw [List.map_cons, List.map_cons, ih]

/-- The planner adds texts only. -/
theorem mem_types_commandPlannerNode {type : CommandType} (htype : type ≠ .livechatSendText)
    (s : NodeState) : type ∈ (commandPlannerNode s).types ↔ type ∈ s.types := by
  rw [commandPlannerNode, SopSettings.types_withCommands, NodeState.types]
  unfold plannedCommands
  split
  · rfl
  · split
    · rw [map_type_withText]
    · split
      · rw [map_type_withText]
      · simp [SopSettings.command, htype]

theorem commands_finalReplyNode (s : NodeState) :
    (services.finalReplyNode s).commands = s.commands := by
  unfold finalReplyNode
  simp only
  split
  · rfl
  · split
    · rfl
    · split
      · rfl
      · rfl

/-- Texts apart, the commands of a run are those of the handler of its route. -/
theorem mem_types_handledState {routed result : NodeState} {type : CommandType}
    (htype : type ≠ .livechatSendText) (h : services.handledState routed = .ok result) :
    ∃ handled, services.routeNode routed = .ok handled ∧
      (type ∈ result.types ↔ type ∈ handled.types) := by
  obtain ⟨handled, hhandled, h⟩ := bind_eq_ok.mp h
  cases h
  refine ⟨handled, hhandled, (mem_types_commandPlannerNode htype _).trans ?_⟩
  rw [NodeState.types, NodeState.types]
  exact iff_of_eq (congrArg (fun commands => type ∈ commands.map WorkflowCommand.type)
    (@commands_finalReplyNode services handled.declared))

end GraphServices

end AiCustomerService
