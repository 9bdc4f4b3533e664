import AiCustomerService.Services.GatewayReply
import AiCustomerService.Support.Steps

/-!
# Checkpoints

With a checkpointer the graph starts from the values that the last run of the thread left, under
the values of its input; a key that the input does not set keeps what was left.
-/

namespace AiCustomerService

open Support

/-- The keys of the schema that a state keeps among its values. -/
def valueKeys : List String :=
  graphStateKeys.filter fun key =>
    !(["telegram_money_case_candidates", "matched_telegram_money_case", "commands"].contains key)

/-- What `ainvoke` starts from: every channel has the value of the input, or else the one that was
saved. -/
def NodeState.resume (saved input : NodeState) : NodeState :=
  { input with
    values := ⟨valueKeys.filterMap fun key =>
      ((input.values.get? key).or (saved.values.get? key)).map (Prod.mk key)⟩ }

/-- A thread without a run. -/
def NodeState.unsaved : NodeState := ⟨∅, [], [], none⟩

namespace ReplyServices

variable (services : ReplyServices)

/-- What a run leaves in the checkpoints of its thread: the state behind the last node that did
not fail. -/
def savedState (input : NodeState) : NodeState :=
  match services.routedState input with
  | .error _ => services.beforeRouter input
  | .ok routed =>
      match services.handledState routed with
      | .error _ => routed
      | .ok result => result

/-- The checkpoints of a thread after an event; a button that the gateway answers does not reach
the graph. -/
def checkpointed (saved : NodeState) (input : GraphInput) : NodeState :=
  match services.buildPreGraphState input with
  | .ok none => services.savedState (saved.resume (input.buildGraphState services.rt))
  | _ => saved

/-- The graph state of an event, in a thread with checkpoints. -/
def resumedGraphState (saved : NodeState) (input : GraphInput) : Except PyError NodeState := do
  match ← services.buildPreGraphState input with
  | some state => pure (services.applyFinalReplyFailureHandoff (services.runFinalReply state))
  | none => do
      let result ← services.runGraph (saved.resume (input.buildGraphState services.rt))
      pure (services.applyFinalReplyFailureHandoff (services.withPreview result))

end ReplyServices

end AiCustomerService
