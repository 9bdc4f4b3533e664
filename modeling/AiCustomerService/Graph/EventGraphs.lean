import AiCustomerService.Python.Json
import AiCustomerService.Support.FlowGraph

/-!
# The graphs of the events

`app_v2/graph`: the nodes, the routers and the graph of each event type.  A graph is what its
builder adds to it; running it is left to the library, which stops a run after 25 nodes.
-/

namespace AiCustomerService.V2

open Support

/-! ## State -/

/-- The names under which the nodes are added. -/
inductive GraphNode
  | loadEventContext
  | analyzeMultimodalContent
  | normalizeTurn
  | classifyIntent
  | interpretWorkflow
  | knowledge
  | workflowEngine
  | prepareHandoff
  | prepareDirectReply
  | prepareClarification
  | composeReply
  | factGuard
  | persistResult
  | applyCapabilityResult
  | prepareResultReply
  | verifyJobStillPending
  | prepareQueryPendingReply
  | applyControlResult
  | prepareControlReply
  | applyConversationStatusUpdate
  | loadDeferredMessages
  | buildDeferredMessageBatch
  deriving DecidableEq

/-- `ExecutionOutcome`. -/
inductive ExecutionOutcome
  | jobStillPending
  | jobAlreadyFinished
  | controlReplyRequired
  | noControlReply
  deriving DecidableEq

/-- `UnderstandingState`. -/
structure UnderstandingState where
  intent : Option String
  workflowRelation : Option String
  deriving DecidableEq

/-- The parts of `GraphState` that the graphs read or write: `has_multimodal_content` of the event,
the id of the active workflow of the session, the understanding, the outcome of the execution and
the nodes so far. -/
structure GraphState where
  hasMultimodalContent : Option Bool
  activeWorkflow : Option String
  understanding : UnderstandingState
  outcome : Option ExecutionOutcome
  nodePath : List GraphNode
  deriving DecidableEq

/-! ## Nodes -/

/-- `record_node`. -/
def recordNode (name : GraphNode) (s : GraphState) : GraphState :=
  { s with nodePath := s.nodePath ++ [name] }

/-! The nodes that only record their name. -/

def loadEventContextNode : GraphState → GraphState := recordNode .loadEventContext

def loadDeferredMessagesNode : GraphState → GraphState := recordNode .loadDeferredMessages

def buildDeferredMessageBatchNode : GraphState → GraphState := recordNode .buildDeferredMessageBatch

def analyzeMultimodalContentNode : GraphState → GraphState := recordNode .analyzeMultimodalContent

def normalizeTurnNode : GraphState → GraphState := recordNode .normalizeTurn

def knowledgeNode : GraphState → GraphState := recordNode .knowledge

def workflowEngineNode : GraphState → GraphState := recordNode .workflowEngine

def applyCapabilityResultNode : GraphState → GraphState := recordNode .applyCapabilityResult

def prepareResultReplyNode : GraphState → GraphState := recordNode .prepareResultReply

def prepareQueryPendingReplyNode : GraphState → GraphState := recordNode .prepareQueryPendingReply

def prepareDirectReplyNode : GraphState → GraphState := recordNode .prepareDirectReply

def prepareHandoffNode : GraphState → GraphState := recordNode .prepareHandoff

def prepareClarificationNode : GraphState → GraphState := recordNode .prepareClarification

def prepareControlReplyNode : GraphState → GraphState := recordNode .prepareControlReply

def applyConversationStatusUpdateNode : GraphState → GraphState :=
  recordNode .applyConversationStatusUpdate

def composeReplyNode : GraphState → GraphState := recordNode .composeReply

def factGuardNode : GraphState → GraphState := recordNode .factGuard

def persistResultNode : GraphState → GraphState := recordNode .persistResult

/-- `classify_intent_node`. -/
def classifyIntentNode (s : GraphState) : GraphState :=
  { recordNode .classifyIntent s with
    understanding :=
      { s.understanding with intent := some (s.understanding.intent.getD "casual_chat") } }

/-- `interpret_workflow_node`. -/
def interpretWorkflowNode (s : GraphState) : GraphState :=
  { recordNode .interpretWorkflow s with
    understanding :=
      { s.understanding with
        workflowRelation := some (s.understanding.workflowRelation.getD "acknowledgement") } }

/-- `verify_job_still_pending_node`. -/
def verifyJobStillPendingNode (s : GraphState) : GraphState :=
  { recordNode .verifyJobStillPending s with outcome := some (s.outcome.getD .jobStillPending) }

/-- `apply_control_result_node`. -/
def applyControlResultNode (s : GraphState) : GraphState :=
  { recordNode .applyControlResult s with
    outcome := some (s.outcome.getD .controlReplyRequired) }

/-- `NODE_REGISTRY`. -/
def nodeRegistry : GraphNode → GraphState → GraphState
  | .loadEventContext => loadEventContextNode
  | .analyzeMultimodalContent => analyzeMultimodalContentNode
  | .normalizeTurn => normalizeTurnNode
  | .classifyIntent => classifyIntentNode
  | .interpretWorkflow => interpretWorkflowNode
  | .knowledge => knowledgeNode
  | .workflowEngine => workflowEngineNode
  | .prepareHandoff => prepareHandoffNode
  | .prepareDirectReply => prepareDirectReplyNode
  | .prepareClarification => prepareClarificationNode
  | .composeReply => composeReplyNode
  | .factGuard => factGuardNode
  | .persistResult => persistResultNode
  | .applyCapabilityResult => applyCapabilityResultNode
  | .prepareResultReply => prepareResultReplyNode
  | .verifyJobStillPending => verifyJobStillPendingNode
  | .prepareQueryPendingReply => prepareQueryPendingReplyNode
  | .applyControlResult => applyControlResultNode
  | .prepareControlReply => prepareControlReplyNode
  | .applyConversationStatusUpdate => applyConversationStatusUpdateNode
  | .loadDeferredMessages => loadDeferredMessagesNode
  | .buildDeferredMessageBatch => buildDeferredMessageBatchNode

/-! ## Routers -/

/-- `IntentHandlerKind`. -/
inductive IntentHandlerKind
  | knowledge
  | workflow
  | handoff
  | directReply
  | clarification
  deriving DecidableEq

/-- `INTENT_HANDLERS`. -/
def intentHandlers : List (String × IntentHandlerKind) := [
  ("deposit_howto", .knowledge),
  ("withdrawal_howto", .knowledge),
  ("forgot_password_howto", .knowledge),
  ("screenshot_upload_howto", .knowledge),
  ("turnover_requirement_query", .workflow),
  ("explicit_human_request", .handoff),
  ("account_access_issue", .handoff),
  ("account_profile_or_wallet_change", .handoff),
  ("screenshot_upload_failed", .handoff),
  ("wallet_identity_risk", .handoff),
  ("account_verification_issue", .handoff),
  ("game_technical_issue", .handoff),
  ("abuse_or_fraud_risk", .handoff),
  ("unsupported_concrete_issue", .handoff),
  ("casual_chat", .directReply),
  ("service_frustration", .directReply),
  ("abusive_or_emotional", .directReply),
  ("clarification_needed", .clarification),
  ("backend_fact_like", .clarification)]

/-- `INTENT_HANDLERS.get(intent or "", "clarification")`. -/
def intentHandler (intent : Option String) : IntentHandlerKind :=
  (intentHandlers.lookup (intent.getD "")).getD .clarification

/-- The node of a handler in `dispatch_intent_router`. -/
def IntentHandlerKind.node : IntentHandlerKind → GraphNode
  | .knowledge => .knowledge
  | .workflow => .workflowEngine
  | .handoff => .prepareHandoff
  | .directReply => .prepareDirectReply
  | .clarification => .prepareClarification

/-- `multimodal_content_router`. -/
def multimodalContentRouter (s : GraphState) : GraphNode :=
  if s.hasMultimodalContent = some true then .analyzeMultimodalContent else .normalizeTurn

/-- `entry_router`. -/
def entryRouter (s : GraphState) : GraphNode :=
  if s.activeWorkflow.isSome then .interpretWorkflow else .classifyIntent

/-- `dispatch_intent_router`. -/
def dispatchIntentRouter (s : GraphState) : GraphNode :=
  (intentHandler s.understanding.intent).node

/-- `workflow_relation_router`. -/
def workflowRelationRouter (s : GraphState) : GraphNode :=
  let relation := s.understanding.workflowRelation
  if relation = some "independent_faq" ∨ relation = some "switch_topic" then .classifyIntent
  else if relation = some "human_request" then .prepareHandoff
  else if relation = some "resolved_or_cancel" then .prepareDirectReply
  else .workflowEngine

/-- `pending_notice_router`. -/
def pendingNoticeRouter (s : GraphState) : GraphNode :=
  if s.outcome = some .jobStillPending then .prepareQueryPendingReply else .persistResult

/-- `control_reply_router`. -/
def controlReplyRouter (s : GraphState) : GraphNode :=
  if s.outcome = some .controlReplyRequired then .prepareControlReply else .persistResult

/-- A router with the targets that it is added with. -/
structure Branch where
  path : GraphState → GraphNode
  pathMap : List GraphNode
  path_mem : ∀ s, path s ∈ pathMap

/-- The branch after `load_event_context`. -/
def multimodalBranch : Branch where
  path := multimodalContentRouter
  pathMap := [.analyzeMultimodalContent, .normalizeTurn]
  path_mem s := by
    unfold multimodalContentRouter
    split <;> decide

/-- The branch after `normalize_turn`. -/
def entryBranch : Branch where
  path := entryRouter
  pathMap := [.classifyIntent, .interpretWorkflow]
  path_mem s := by
    unfold entryRouter
    split <;> decide

/-- `dispatch_routes`. -/
def dispatchBranch : Branch where
  path := dispatchIntentRouter
  pathMap := [.knowledge, .workflowEngine, .prepareHandoff, .prepareDirectReply,
    .prepareClarification]
  path_mem s := by
    unfold dispatchIntentRouter
    cases intentHandler s.understanding.intent <;> decide

/-- The branch after `interpret_workflow`. -/
def relationBranch : Branch where
  path := workflowRelationRouter
  pathMap := [.classifyIntent, .workflowEngine, .prepareHandoff, .prepareDirectReply]
  path_mem s := by
    unfold workflowRelationRouter
    dsimp only
    split_ifs <;> decide

/-- The branch after `verify_job_still_pending`. -/
def pendingBranch : Branch where
  path := pendingNoticeRouter
  pathMap := [.prepareQueryPendingReply, .persistResult]
  path_mem s := by
    unfold pendingNoticeRouter
    split <;> decide

/-- The branch after `apply_control_result`. -/
def controlBranch : Branch where
  path := controlReplyRouter
  pathMap := [.prepareControlReply, .persistResult]
  path_mem s := by
    unfold controlReplyRouter
    split <;> decide

/-! ## Graphs -/

/-- The ends of an edge: a node, `START` or `END`. -/
inductive Point
  | start
  | node (name : GraphNode)
  | finish
  deriving DecidableEq

/-- What is added to a `StateGraph`. -/
structure StateGraph where
  nodes : List GraphNode
  edges : List (Point × Point)
  branches : List (GraphNode × Branch)

/-- The edges that `_chain` adds. -/
def chain (nodes : List Point) : List (Point × Point) := nodes.zip nodes.tail

/-- The nodes between two points. -/
def between (nodes : List GraphNode) : List Point := nodes.map .node

/-- `build_user_message_graph`. -/
def buildUserMessageGraph : StateGraph where
  nodes := [.loadEventContext, .analyzeMultimodalContent, .normalizeTurn, .classifyIntent,
    .interpretWorkflow, .knowledge, .workflowEngine, .prepareHandoff, .prepareDirectReply,
    .prepareClarification, .composeReply, .factGuard, .persistResult]
  edges := [(.start, .node .loadEventContext),
    (.node .analyzeMultimodalContent, .node .normalizeTurn)] ++
    [GraphNode.knowledge, .workflowEngine, .prepareHandoff, .prepareDirectReply,
      .prepareClarification].map (fun source => (.node source, .node .composeReply)) ++
    [(.node .composeReply, .node .factGuard), (.node .factGuard, .node .persistResult),
      (.node .persistResult, .finish)]
  branches := [(.loadEventContext, multimodalBranch), (.normalizeTurn, entryBranch),
    (.classifyIntent, dispatchBranch), (.interpretWorkflow, relationBranch)]

/-- `build_capability_result_graph`. -/
def buildCapabilityResultGraph : StateGraph where
  nodes := [.loadEventContext, .applyCapabilityResult, .prepareResultReply, .composeReply,
    .factGuard, .persistResult]
  edges := chain ([.start] ++ between [.loadEventContext, .applyCapabilityResult,
    .prepareResultReply, .composeReply, .factGuard, .persistResult] ++ [.finish])
  branches := []

/-- `build_capability_pending_graph`. -/
def buildCapabilityPendingGraph : StateGraph where
  nodes := [.loadEventContext, .verifyJobStillPending, .prepareQueryPendingReply, .composeReply,
    .factGuard, .persistResult]
  edges := chain ([.start] ++ between [.loadEventContext, .verifyJobStillPending]) ++
    chain (between [.prepareQueryPendingReply, .composeReply, .factGuard, .persistResult] ++
      [.finish])
  branches := [(.verifyJobStillPending, pendingBranch)]

/-- `build_control_result_graph`. -/
def buildControlResultGraph : StateGraph where
  nodes := [.loadEventContext, .applyControlResult, .prepareControlReply, .composeReply,
    .factGuard, .persistResult]
  edges := chain ([.start] ++ between [.loadEventContext, .applyControlResult]) ++
    chain (between [.prepareControlReply, .composeReply, .factGuard, .persistResult] ++ [.finish])
  branches := [(.applyControlResult, controlBranch)]

/-- `_build_linear_graph`. -/
def buildLinearGraph (node : GraphNode) : StateGraph where
  nodes := [.loadEventContext, node, .persistResult]
  edges := chain ([.start] ++ between [.loadEventContext, node, .persistResult] ++ [.finish])
  branches := []

/-- `build_conversation_status_graph`. -/
def buildConversationStatusGraph : StateGraph := buildLinearGraph .applyConversationStatusUpdate

/-- The nodes of `build_deferred_resume_graph` before the graph that is its last node. -/
def deferredNodes : List GraphNode :=
  [.loadEventContext, .loadDeferredMessages, .buildDeferredMessageBatch]

/-- The graphs of `EVENT_GRAPH_BUILDERS`; one of them runs its nodes in turn and then the graph of
user messages as a node. -/
inductive EventGraph
  | plain (graph : StateGraph)
  | deferredResume (nodes : List GraphNode) (userMessageGraph : StateGraph)

/-- `EVENT_GRAPH_BUILDERS`. -/
def eventGraphBuilders : List (String × EventGraph) := [
  ("UserMessage", .plain buildUserMessageGraph),
  ("CapabilityResultEvent", .plain buildCapabilityResultGraph),
  ("CapabilityPendingDueEvent", .plain buildCapabilityPendingGraph),
  ("ControlDirectiveResult", .plain buildControlResultGraph),
  ("ConversationStatusUpdate", .plain buildConversationStatusGraph),
  ("ResumeDeferredMessagesEvent", .deferredResume deferredNodes buildUserMessageGraph)]

/-- `build_event_graph`. -/
def buildEventGraph (eventType : String) : Except PyError EventGraph :=
  match eventGraphBuilders.lookup eventType with
  | some graph => .ok graph
  | none => .error (.valueError ("No business Graph registered for event type: " ++ eventType))

/-! ## Runs -/

/-- How many nodes a run of the library may visit. -/
def recursionLimit : Nat := 25

namespace StateGraph

variable (graph : StateGraph)

/-- The node that an edge leads to. -/
def target (source : Point) : Option GraphNode :=
  match graph.edges.lookup source with
  | some (.node name) => some name
  | _ => none

/-- The node after a node. -/
def next (node : GraphNode) (s : GraphState) : Option GraphNode :=
  match graph.branches.lookup node with
  | some branch => some (branch.path s)
  | none => graph.target (.node node)

/-- The graph as the library runs it. -/
def flow : FlowGraph GraphNode GraphState where
  action node s := some (nodeRegistry node s)
  next := graph.next

/-- The nodes that `invoke` visits and the state that it returns, unless the limit is reached. -/
def invoke (s : GraphState) : Option (List GraphNode × GraphState) :=
  (graph.target .start).bind fun first => graph.flow.runFrom recursionLimit first s

end StateGraph

/-- The nodes that `invoke` visits, those of the inner graph among them. -/
def EventGraph.invoke (s : GraphState) : EventGraph → Option (List GraphNode × GraphState)
  | .plain graph => graph.invoke s
  | .deferredResume nodes userMessageGraph =>
      (userMessageGraph.invoke (nodes.foldl (fun s node => nodeRegistry node s) s)).map
        fun result => (nodes ++ result.1, result.2)

end AiCustomerService.V2
