import AiCustomerService.Graph.EventGraphs

/-!
# Every event is persisted once

The run of an event ends with its result persisted, and a reply is composed from one source and
guarded before.  An event that is handled again, on the state that its first run has left, goes
through the same nodes.
-/

namespace AiCustomerService.V2

open Support

/-! ## Traces -/

/-- The nodes at which a reply is prepared. -/
def GraphNode.preparesReply : GraphNode → Bool
  | .knowledge => true
  | .workflowEngine => true
  | .prepareHandoff => true
  | .prepareDirectReply => true
  | .prepareClarification => true
  | .prepareResultReply => true
  | .prepareQueryPendingReply => true
  | .prepareControlReply => true
  | _ => false

/-- The nodes after those at which a reply is prepared. -/
def GraphNode.closes (node : GraphNode) : Bool :=
  node = .composeReply || node = .factGuard || node = .persistResult

/-- The nodes of a run: any that neither prepare a reply nor close the run, and then the result is
persisted, either at once or after one reply was prepared, composed and guarded. -/
inductive Completes : List GraphNode → Prop
  | silent : Completes [.persistResult]
  | reply {source : GraphNode} (h : source.preparesReply = true) :
      Completes [source, .composeReply, .factGuard, .persistResult]
  | work {node : GraphNode} {rest : List GraphNode} (hprepares : node.preparesReply = false)
      (hcloses : node.closes = false) (hrest : Completes rest) : Completes (node :: rest)

/-- How far a node is from the end at least. -/
def GraphNode.rank : GraphNode → Nat
  | .persistResult => 0
  | .factGuard => 1
  | .composeReply => 2
  | .applyCapabilityResult => 4
  | .verifyJobStillPending => 4
  | .applyControlResult => 4
  | .applyConversationStatusUpdate => 4
  | .classifyIntent => 4
  | .interpretWorkflow => 5
  | .normalizeTurn => 6
  | .analyzeMultimodalContent => 7
  | .loadEventContext => 8
  | .loadDeferredMessages => 9
  | .buildDeferredMessageBatch => 9
  | _ => 3

/-- Where a node of a run may lead: closer to the end, only from the last node out of the graph, to
the composition of a reply exactly from where one is prepared, and from there straight to the
end. -/
def GraphNode.leadsTo (node : GraphNode) : Option GraphNode → Bool
  | none => node = .persistResult
  | some m => decide (m.rank < node.rank) && decide (node ≠ .persistResult) &&
      decide (m = .composeReply ↔ node.preparesReply = true) &&
      decide (m = .factGuard ↔ node = .composeReply) &&
      (node ≠ .factGuard || m = .persistResult)

theorem GraphNode.leadsTo_some {a b : GraphNode} :
    a.leadsTo (some b) = true ↔ b.rank < a.rank ∧ a ≠ .persistResult ∧
      (b = .composeReply ↔ a.preparesReply = true) ∧ (b = .factGuard ↔ a = .composeReply) ∧
      (a = .factGuard → b = .persistResult) := by
  simp only [leadsTo, Bool.and_eq_true, Bool.or_eq_true, decide_eq_true_eq, and_assoc,
    Classical.or_iff_not_imp_left, not_not]

namespace StateGraph

variable {graph : StateGraph}

/-- Where a run can go from a node. -/
def successors (graph : StateGraph) (node : GraphNode) : List (Option GraphNode) :=
  match graph.branches.lookup node with
  | some branch => branch.pathMap.map some
  | none => [graph.target (.node node)]

theorem next_mem_successors (node : GraphNode) (s : GraphState) :
    graph.next node s ∈ graph.successors node := by
  unfold next successors
  cases graph.branches.lookup node with
  | none => exact List.mem_singleton_self _
  | some branch => exact List.mem_map_of_mem (branch.path_mem s)

/-- The graph starts by loading the context, and its nodes lead where they may. -/
def keepsOrder (graph : StateGraph) : Bool :=
  decide (graph.target .start = some .loadEventContext) &&
    graph.nodes.contains .loadEventContext &&
    graph.nodes.all fun node => (graph.successors node).all fun next =>
      node.leadsTo next && next.all graph.nodes.contains

/-- What `keepsOrder` checks. -/
structure Ordered (graph : StateGraph) : Prop where
  starts : graph.target .start = some .loadEventContext
  loads : GraphNode.loadEventContext ∈ graph.nodes
  leads : ∀ node ∈ graph.nodes, ∀ next ∈ graph.successors node, node.leadsTo next = true
  closed : graph.flow.Closed graph.nodes

theorem ordered_of_keepsOrder (h : graph.keepsOrder = true) : graph.Ordered := by
  unfold keepsOrder at h
  simp only [Bool.and_eq_true, decide_eq_true_eq, List.all_eq_true, List.contains_iff_mem] at h
  obtain ⟨⟨hstarts, hloads⟩, hnodes⟩ := h
  refine ⟨hstarts, hloads, fun node hnode next hnext => (hnodes node hnode next hnext).1, ?_⟩
  rintro a ha b ⟨s, hs⟩
  have hb := (hnodes a ha (some b) (hs ▸ next_mem_successors a s)).2
  exact List.contains_iff_mem.mp hb

namespace Ordered

theorem leads_of_edge (h : graph.Ordered) {a b : GraphNode} (ha : a ∈ graph.nodes)
    (hedge : graph.flow.Edge a b) : a.leadsTo (some b) = true := by
  obtain ⟨s, hs⟩ := hedge
  exact h.leads a ha (some b) (hs ▸ next_mem_successors a s)

theorem eq_persistResult (h : graph.Ordered) {a : GraphNode} (ha : a ∈ graph.nodes)
    (hexit : graph.flow.IsExit a) : a = .persistResult := by
  obtain ⟨s, hs⟩ := hexit
  exact of_decide_eq_true (h.leads a ha none (hs ▸ next_mem_successors a s))

end Ordered

end StateGraph

/-! ## Runs -/

variable {graph : StateGraph}

/-- A path from the composition of a reply on. -/
theorem closing_path (h : graph.Ordered) {rest : List GraphNode}
    (hmem : GraphNode.composeReply ∈ graph.nodes)
    (hpath : graph.flow.IsPath (.composeReply :: rest)) : rest = [.factGuard, .persistResult] := by
  cases hpath with
  | last hexit => cases h.eq_persistResult hmem hexit
  | @cons _ b rest hedge hrest =>
      obtain ⟨-, -, -, hguard, -⟩ := GraphNode.leadsTo_some.mp (h.leads_of_edge hmem hedge)
      obtain rfl := hguard.mpr rfl
      have hguarded := h.closed _ hmem _ hedge
      cases hrest with
      | last hexit => cases h.eq_persistResult hguarded hexit
      | @cons _ c rest hedge hrest =>
          obtain ⟨-, -, -, -, hpersist⟩ :=
            GraphNode.leadsTo_some.mp (h.leads_of_edge hguarded hedge)
          obtain rfl := hpersist rfl
          have hpersisted := h.closed _ hguarded _ hedge
          cases hrest with
          | last _ => rfl
          | cons hedge _ =>
              obtain ⟨-, hne, -⟩ := GraphNode.leadsTo_some.mp (h.leads_of_edge hpersisted hedge)
              exact absurd rfl hne

/-- A path from a node on that does not close a reply. -/
theorem completes_of_path (h : graph.Ordered) {path : List GraphNode}
    (hpath : graph.flow.IsPath path) (hmem : ∀ a ∈ path.head?, a ∈ graph.nodes)
    (hopen : ∀ a ∈ path.head?, a ≠ .composeReply ∧ a ≠ .factGuard) : Completes path := by
  induction hpath with
  | @last a hexit =>
      obtain rfl := h.eq_persistResult (hmem a rfl) hexit
      exact .silent
  | @cons a b rest hedge hrest ih =>
      have ha := hmem a rfl
      have hb := h.closed a ha b hedge
      obtain ⟨-, hpersist, hcompose, hguard, -⟩ :=
        GraphNode.leadsTo_some.mp (h.leads_of_edge ha hedge)
      obtain ⟨hnotCompose, hnotGuard⟩ := hopen a rfl
      cases hprepares : a.preparesReply with
      | true =>
          obtain rfl := hcompose.mpr hprepares
          rw [closing_path h hb hrest]
          exact .reply hprepares
      | false =>
          have hcloses : a.closes = false := by
            simp [GraphNode.closes, hnotCompose, hnotGuard, hpersist]
          refine .work hprepares hcloses (ih (fun c hc => ?_) fun c hc => ?_)
          · obtain rfl := Option.some.inj hc
            exact hb
          · obtain rfl := Option.some.inj hc
            refine ⟨fun heq => ?_, fun heq => hnotCompose (hguard.mp heq)⟩
            rw [hcompose.mp heq] at hprepares
            cases hprepares

theorem nodePath_nodeRegistry (node : GraphNode) (s : GraphState) :
    (nodeRegistry node s).nodePath = s.nodePath ++ [node] := by
  cases node <;> rfl

theorem rank_lt_recursionLimit (node : GraphNode) : node.rank < recursionLimit := by
  cases node <;> decide

theorem foldl_concat (path visited : List GraphNode) :
    visited.foldl (fun path node => path ++ [node]) path = path ++ visited := by
  induction visited generalizing path with
  | nil => exact (List.append_nil path).symm
  | cons node rest ih =>
      rw [List.foldl_cons, ih, List.append_assoc]
      rfl

/-- A run of a graph that keeps the order. -/
theorem invoke_completes (h : graph.Ordered) (s : GraphState) :
    ∃ visited final, graph.invoke s = some (visited, final) ∧
      final.nodePath = s.nodePath ++ visited ∧ visited.head? = some .loadEventContext ∧
      Completes visited := by
  have hrank : ∀ a ∈ graph.nodes, ∀ b, graph.flow.Edge a b → b.rank < a.rank := by
    intro a ha b hedge
    exact (GraphNode.leadsTo_some.mp (h.leads_of_edge ha hedge)).1
  obtain ⟨result, hresult⟩ := FlowGraph.exists_runFrom h.closed hrank (fun _ _ _ => rfl) h.loads
    (rank_lt_recursionLimit .loadEventContext) s
  obtain ⟨rest, hvisited, hpath⟩ := FlowGraph.isPath_runFrom hresult
  refine ⟨result.1, result.2, ?_, ?_, ?_, ?_⟩
  · unfold StateGraph.invoke
    rw [h.starts]
    exact hresult
  · have hfold := @FlowGraph.runFrom_fold _ _ graph.flow _ GraphState.nodePath
      (fun path node => path ++ [node]) (fun node s acted hact => by
        obtain rfl := Option.some.inj hact
        exact nodePath_nodeRegistry node s) _ _ _ _ hresult
    rw [hfold, foldl_concat]
  · rw [hvisited]
    rfl
  · rw [hvisited]
    refine completes_of_path h hpath (fun a ha => ?_) fun a ha => ?_
    · obtain rfl := Option.some.inj ha
      exact h.loads
    · obtain rfl := Option.some.inj ha
      decide

theorem ordered_userMessageGraph : buildUserMessageGraph.Ordered :=
  StateGraph.ordered_of_keepsOrder (by decide)

/-- The graphs of the registry: plain ones, and the one around the graph of user messages. -/
theorem registered_graph {eventType : String} {eventGraph : EventGraph}
    (h : buildEventGraph eventType = .ok eventGraph) :
    (∃ graph ∈ [buildUserMessageGraph, buildCapabilityResultGraph, buildCapabilityPendingGraph,
      buildControlResultGraph, buildConversationStatusGraph], eventGraph = .plain graph) ∨
      eventGraph = .deferredResume deferredNodes buildUserMessageGraph := by
  have hmem : (eventType, eventGraph) ∈ eventGraphBuilders := by
    unfold buildEventGraph at h
    split at h
    next graph hlookup =>
      obtain rfl := Except.ok.inj h
      obtain ⟨before, after, hbuilders, -⟩ := List.lookup_eq_some_iff.mp hlookup
      rw [hbuilders]
      exact List.mem_append_right _ List.mem_cons_self
    · cases h
  unfold eventGraphBuilders at hmem
  simp only [List.mem_cons, Prod.mk.injEq, List.not_mem_nil, or_false] at hmem
  rcases hmem with ⟨-, rfl⟩ | ⟨-, rfl⟩ | ⟨-, rfl⟩ | ⟨-, rfl⟩ | ⟨-, rfl⟩ | ⟨-, rfl⟩
  · exact .inl ⟨_, by simp, rfl⟩
  · exact .inl ⟨_, by simp, rfl⟩
  · exact .inl ⟨_, by simp, rfl⟩
  · exact .inl ⟨_, by simp, rfl⟩
  · exact .inl ⟨_, by simp, rfl⟩
  · exact .inr rfl

theorem ordered_of_mem (h : graph ∈ [buildUserMessageGraph, buildCapabilityResultGraph,
    buildCapabilityPendingGraph, buildControlResultGraph, buildConversationStatusGraph]) :
    graph.Ordered := by
  refine StateGraph.ordered_of_keepsOrder ?_
  simp only [List.mem_cons, List.not_mem_nil, or_false] at h
  rcases h with rfl | rfl | rfl | rfl | rfl <;> decide

theorem nodePath_foldl (nodes : List GraphNode) (s : GraphState) :
    (nodes.foldl (fun s node => nodeRegistry node s) s).nodePath = s.nodePath ++ nodes := by
  induction nodes generalizing s with
  | nil => exact (List.append_nil _).symm
  | cons node rest ih =>
      rw [List.foldl_cons, ih, nodePath_nodeRegistry, List.append_assoc]
      rfl

theorem invoke_deferredResume (nodes : List GraphNode) (graph : StateGraph) (s : GraphState) :
    (EventGraph.deferredResume nodes graph).invoke s =
      (graph.invoke (nodes.foldl (fun s node => nodeRegistry node s) s)).map
        fun result => (nodes ++ result.1, result.2) := rfl

/-- Every event whose type is registered is handled to its end: the context is loaded first, the
result is persisted last and once, and between them either no reply is composed or one, from one
source, and it is guarded.  The trace that is returned records these nodes. -/
theorem event_is_persisted_once (eventType : String) (eventGraph : EventGraph)
    (h : buildEventGraph eventType = .ok eventGraph) (s : GraphState) :
    ∃ visited final, eventGraph.invoke s = some (visited, final) ∧
      final.nodePath = s.nodePath ++ visited ∧ visited.head? = some .loadEventContext ∧
      Completes visited := by
  rcases registered_graph h with ⟨graph, hmem, rfl⟩ | rfl
  · exact invoke_completes (ordered_of_mem hmem) s
  · obtain ⟨visited, final, hinvoke, hpath, -, hcompletes⟩ := invoke_completes
      ordered_userMessageGraph (deferredNodes.foldl (fun s node => nodeRegistry node s) s)
    refine ⟨deferredNodes ++ visited, final, ?_, ?_, rfl, ?_⟩
    · rw [invoke_deferredResume, hinvoke]
      rfl
    · rw [hpath, nodePath_foldl, List.append_assoc]
    · exact .work rfl rfl (.work rfl rfl (.work rfl rfl hcompletes))

/-- An event that resumes deferred messages, in a conversation with an active workflow. -/
def resumedState : GraphState where
  hasMultimodalContent := none
  activeWorkflow := some "workflow-1"
  understanding := ⟨none, some "human_request"⟩
  outcome := none
  nodePath := []

theorem event_is_persisted_once_resumed :
    ∃ visited final, (EventGraph.deferredResume deferredNodes buildUserMessageGraph).invoke
        resumedState = some (visited, final) ∧ final.nodePath = [] ++ visited ∧
      visited.head? = some .loadEventContext ∧ Completes visited :=
  event_is_persisted_once "ResumeDeferredMessagesEvent" _ rfl resumedState

/-! ## An event that is handled again -/

/-- The outcome that a node sets where there is none. -/
def GraphNode.outcomeDefault : GraphNode → Option ExecutionOutcome
  | .verifyJobStillPending => some .jobStillPending
  | .applyControlResult => some .controlReplyRequired
  | _ => none

/-- The second state is the first one with some of what is missing set to its default. -/
structure Refills (fallback : ExecutionOutcome) (s t : GraphState) : Prop where
  content : t.hasMultimodalContent = s.hasMultimodalContent
  workflow : t.activeWorkflow = s.activeWorkflow
  intent : t.understanding.intent.getD "casual_chat" = s.understanding.intent.getD "casual_chat"
  relation : t.understanding.workflowRelation.getD "acknowledgement" =
    s.understanding.workflowRelation.getD "acknowledgement"
  outcome : t.outcome.getD fallback = s.outcome.getD fallback

variable {fallback : ExecutionOutcome} {s t u : GraphState} {node : GraphNode}

theorem Refills.trans (hst : Refills fallback s t) (htu : Refills fallback t u) :
    Refills fallback s u where
  content := htu.content.trans hst.content
  workflow := htu.workflow.trans hst.workflow
  intent := htu.intent.trans hst.intent
  relation := htu.relation.trans hst.relation
  outcome := htu.outcome.trans hst.outcome

/-- A node fills in its own default. -/
theorem refills_nodeRegistry (hdefault : ∀ outcome ∈ node.outcomeDefault, outcome = fallback)
    (s : GraphState) : Refills fallback s (nodeRegistry node s) := by
  constructor
  · cases node <;> rfl
  · cases node <;> rfl
  · cases node <;> rfl
  · cases node <;> rfl
  · cases node with
    | verifyJobStillPending =>
        obtain rfl := hdefault _ rfl
        rfl
    | applyControlResult =>
        obtain rfl := hdefault _ rfl
        rfl
    | _ => rfl

theorem Refills.nodeRegistry (hdefault : ∀ outcome ∈ node.outcomeDefault, outcome = fallback)
    (h : Refills fallback s t) :
    Refills fallback (V2.nodeRegistry node s) (V2.nodeRegistry node t) := by
  have hs := refills_nodeRegistry hdefault s
  have ht := refills_nodeRegistry hdefault t
  exact ⟨ht.content.trans (h.content.trans hs.content.symm),
    ht.workflow.trans (h.workflow.trans hs.workflow.symm),
    ht.intent.trans (h.intent.trans hs.intent.symm),
    ht.relation.trans (h.relation.trans hs.relation.symm),
    ht.outcome.trans (h.outcome.trans hs.outcome.symm)⟩

/-- A branch after a node does not tell a missing value from the default that the node sets. -/
def Branch.Settled (node : GraphNode) (branch : Branch) : Prop :=
  ∀ fallback s t, (∀ outcome ∈ node.outcomeDefault, outcome = fallback) → Refills fallback s t →
    branch.path (nodeRegistry node t) = branch.path (nodeRegistry node s)

theorem settled_multimodal : multimodalBranch.Settled .loadEventContext := by
  intro fallback s t _ h
  have hcontent : (nodeRegistry .loadEventContext t).hasMultimodalContent =
      (nodeRegistry .loadEventContext s).hasMultimodalContent := h.content
  show multimodalContentRouter _ = multimodalContentRouter _
  unfold multimodalContentRouter
  rw [hcontent]

theorem settled_entry : entryBranch.Settled .normalizeTurn := by
  intro fallback s t _ h
  have hworkflow : (nodeRegistry .normalizeTurn t).activeWorkflow =
      (nodeRegistry .normalizeTurn s).activeWorkflow := h.workflow
  show entryRouter _ = entryRouter _
  unfold entryRouter
  rw [hworkflow]

theorem settled_dispatch : dispatchBranch.Settled .classifyIntent := by
  intro fallback s t _ h
  have hintent : (nodeRegistry .classifyIntent t).understanding.intent =
      (nodeRegistry .classifyIntent s).understanding.intent := congrArg some h.intent
  show dispatchIntentRouter _ = dispatchIntentRouter _
  unfold dispatchIntentRouter
  rw [hintent]

theorem settled_relation : relationBranch.Settled .interpretWorkflow := by
  intro fallback s t _ h
  have hrelation : (nodeRegistry .interpretWorkflow t).understanding.workflowRelation =
      (nodeRegistry .interpretWorkflow s).understanding.workflowRelation := congrArg some h.relation
  show workflowRelationRouter _ = workflowRelationRouter _
  unfold workflowRelationRouter
  rw [hrelation]

theorem settled_pending : pendingBranch.Settled .verifyJobStillPending := by
  intro fallback s t hdefault h
  obtain rfl := hdefault _ rfl
  have houtcome : (nodeRegistry .verifyJobStillPending t).outcome =
      (nodeRegistry .verifyJobStillPending s).outcome := congrArg some h.outcome
  show pendingNoticeRouter _ = pendingNoticeRouter _
  unfold pendingNoticeRouter
  rw [houtcome]

theorem settled_control : controlBranch.Settled .applyControlResult := by
  intro fallback s t hdefault h
  obtain rfl := hdefault _ rfl
  have houtcome : (nodeRegistry .applyControlResult t).outcome =
      (nodeRegistry .applyControlResult s).outcome := congrArg some h.outcome
  show controlReplyRouter _ = controlReplyRouter _
  unfold controlReplyRouter
  rw [houtcome]

/-- The nodes of a graph set one default for the outcome, and its branches are settled. -/
structure StateGraph.Replayable (graph : StateGraph) (fallback : ExecutionOutcome) : Prop where
  ordered : graph.Ordered
  defaults : ∀ node ∈ graph.nodes, ∀ outcome ∈ node.outcomeDefault, outcome = fallback
  settled : ∀ entry ∈ graph.branches, entry.2.Settled entry.1

namespace StateGraph.Replayable

theorem next_eq (h : graph.Replayable fallback) (hmem : node ∈ graph.nodes)
    (hst : Refills fallback s t) :
    graph.next node (nodeRegistry node t) = graph.next node (nodeRegistry node s) := by
  unfold next
  split
  next branch hlookup =>
    obtain ⟨before, after, hbranches, -⟩ := List.lookup_eq_some_iff.mp hlookup
    have hsettled := h.settled (node, branch) (by
      rw [hbranches]
      exact List.mem_append_right _ List.mem_cons_self)
    exact congrArg some (hsettled fallback s t (h.defaults node hmem) hst)
  · rfl

/-- States that differ in defaults only go through the same nodes, and so do their ends. -/
theorem invoke_refilled (h : graph.Replayable fallback) (hst : Refills fallback s t)
    {visited : List GraphNode} {final : GraphState}
    (hrun : graph.invoke s = some (visited, final)) :
    Refills fallback s final ∧ ∃ again, graph.invoke t = some (visited, again) := by
  unfold invoke at hrun ⊢
  rw [h.ordered.starts] at hrun ⊢
  constructor
  · have hstep : ∀ node ∈ graph.nodes, ∀ s acted, graph.flow.action node s = some acted →
        Refills fallback s acted := by
      intro node hmem s acted hact
      obtain rfl := Option.some.inj hact
      exact refills_nodeRegistry (h.defaults node hmem) s
    exact FlowGraph.runFrom_rel (R := Refills fallback) h.ordered.closed
      (fun _ _ _ => Refills.trans) hstep h.ordered.loads hrun
  · have hstep : ∀ node ∈ graph.nodes, ∀ s t acted, Refills fallback s t →
        graph.flow.action node s = some acted → ∃ acted', graph.flow.action node t = some acted' ∧
          Refills fallback acted acted' ∧
            graph.flow.next node acted' = graph.flow.next node acted := by
      intro node hmem s t acted hst hact
      obtain rfl := Option.some.inj hact
      exact ⟨_, rfl, hst.nodeRegistry (h.defaults node hmem), h.next_eq hmem hst⟩
    obtain ⟨again, hagain, -⟩ :=
      FlowGraph.runFrom_simulates h.ordered.closed hstep h.ordered.loads hst hrun
    exact ⟨again, hagain⟩

end StateGraph.Replayable

theorem replayable_userMessageGraph (fallback : ExecutionOutcome) :
    buildUserMessageGraph.Replayable fallback where
  ordered := ordered_userMessageGraph
  defaults := by
    have hnone : ∀ node ∈ buildUserMessageGraph.nodes, node.outcomeDefault = none := by decide
    intro node hmem outcome houtcome
    rw [hnone node hmem] at houtcome
    cases houtcome
  settled := by
    simp only [buildUserMessageGraph, List.forall_mem_cons]
    exact ⟨settled_multimodal, settled_entry, settled_dispatch, settled_relation, by simp⟩

theorem replayable_of_mem (h : graph ∈ [buildUserMessageGraph, buildCapabilityResultGraph,
    buildCapabilityPendingGraph, buildControlResultGraph, buildConversationStatusGraph]) :
    ∃ fallback, graph.Replayable fallback := by
  have hordered := ordered_of_mem h
  simp only [List.mem_cons, List.not_mem_nil, or_false] at h
  rcases h with rfl | rfl | rfl | rfl | rfl
  · exact ⟨.noControlReply, replayable_userMessageGraph _⟩
  · exact ⟨.noControlReply, hordered, by decide, by simp [buildCapabilityResultGraph]⟩
  · refine ⟨.jobStillPending, hordered, by decide, ?_⟩
    simp only [buildCapabilityPendingGraph, List.forall_mem_cons]
    exact ⟨settled_pending, by simp⟩
  · refine ⟨.controlReplyRequired, hordered, by decide, ?_⟩
    simp only [buildControlResultGraph, List.forall_mem_cons]
    exact ⟨settled_control, by simp⟩
  · exact ⟨.noControlReply, hordered, by decide, by
      simp [buildConversationStatusGraph, buildLinearGraph]⟩

theorem refills_foldl (nodes : List GraphNode)
    (hdefaults : ∀ node ∈ nodes, ∀ outcome ∈ node.outcomeDefault, outcome = fallback)
    (s : GraphState) :
    Refills fallback s (nodes.foldl (fun s node => nodeRegistry node s) s) := by
  induction nodes generalizing s with
  | nil => exact ⟨rfl, rfl, rfl, rfl, rfl⟩
  | cons node rest ih =>
      have hfirst := refills_nodeRegistry (hdefaults node List.mem_cons_self) s
      exact hfirst.trans (ih (fun n hn => hdefaults n (List.mem_cons_of_mem _ hn)) _)

/-- An event that is handled again, on the state that its first run left, goes through the same
nodes. -/
theorem event_replayed (eventType : String) (eventGraph : EventGraph)
    (h : buildEventGraph eventType = .ok eventGraph) (s final : GraphState)
    (visited : List GraphNode) (hrun : eventGraph.invoke s = some (visited, final)) :
    ∃ again, eventGraph.invoke final = some (visited, again) := by
  rcases registered_graph h with ⟨graph, hmem, rfl⟩ | rfl
  · obtain ⟨fallback, hreplayable⟩ := replayable_of_mem hmem
    have hrefl : Refills fallback s s := ⟨rfl, rfl, rfl, rfl, rfl⟩
    have hfinal := (hreplayable.invoke_refilled hrefl hrun).1
    exact (hreplayable.invoke_refilled hfinal hrun).2
  · have hreplayable := replayable_userMessageGraph .noControlReply
    rw [invoke_deferredResume] at hrun
    obtain ⟨result, hinner, hresult⟩ := Option.map_eq_some_iff.mp hrun
    obtain ⟨rfl, rfl⟩ := Prod.mk.inj hresult
    have hdeferred (s : GraphState) :
        Refills .noControlReply s (deferredNodes.foldl (fun s node => nodeRegistry node s) s) :=
      refills_foldl deferredNodes (by decide) s
    have hrefl (s : GraphState) : Refills .noControlReply s s := ⟨rfl, rfl, rfl, rfl, rfl⟩
    have hfinal := (hreplayable.invoke_refilled (hrefl _) hinner).1
    obtain ⟨again, hagain⟩ :=
      (hreplayable.invoke_refilled (hfinal.trans (hdeferred result.2)) hinner).2
    refine ⟨again, ?_⟩
    rw [invoke_deferredResume, hagain]
    rfl

/-- The nodes that an event goes through which resumes the messages of `resumedState`. -/
def resumedNodes : List GraphNode :=
  deferredNodes ++ [.loadEventContext, .normalizeTurn, .interpretWorkflow, .prepareHandoff,
    .composeReply, .factGuard, .persistResult]

theorem event_replayed_resumed :
    ∃ again, (EventGraph.deferredResume deferredNodes buildUserMessageGraph).invoke
      { resumedState with nodePath := resumedNodes } = some (resumedNodes, again) :=
  event_replayed "ResumeDeferredMessagesEvent" _ rfl resumedState
    { resumedState with nodePath := resumedNodes } resumedNodes (by decide)

end AiCustomerService.V2
