import AiCustomerService.Services.KeptSlots
import AiCustomerService.Support.Steps
import AiCustomerService.Workers.TelegramReplyConsumer

/-!
# Images that are promoted twice

The router asks whether an image is a receipt and notes the image in the slot memory; a later
message promotes it.  Nothing takes it out of the memory, so the next message of that kind promotes
the same image again, unless the router has asked about another one.
-/

namespace AiCustomerService

open Support

namespace ReplyServices

variable (services : ReplyServices) (input : GraphInput)

/-- The router of the turn asks about an image, and notes it. -/
def asksAboutImage : Bool :=
  (services.routedTurn input).any RouterSettings.asksAboutImage

/-- The router of the turn makes a verified receipt of the image that waits. -/
def promotesImage : Bool :=
  (services.routedTurn input).any fun routed =>
    match routed.get "verified_receipt_attachments" with
    | .arr (_ :: _) => true
    | _ => false

end ReplyServices

/-- What a conversation went through: the slot memory that its next event finds, how many images
the router has asked about, what it noted of the last one, and the numbers of the images that were
promoted, the last one first. -/
structure ImageHistory where
  memory : JsonObject
  asked : Nat
  noted : Json
  promoted : List Nat

/-- What changes the slot memory of a conversation: a turn of the customer, or another writer, who
adds entries and removes keys, and notes no image. -/
inductive ImageStep
  | turn (services : ReplyServices) (input : GraphInput)
  | update (added : JsonObject) (removed : List String)
      (unnoted : ∀ entry ∈ added.entries, entry.1 ≠ "pending_image_candidates")

namespace ImageHistory

/-- The image that waits in the slot memory. -/
def pending (history : ImageHistory) : Json := getKey history.memory "pending_image_candidates"

/-- The history after a step; an event that fails changes nothing. -/
def step (history : ImageHistory) : ImageStep → ImageHistory
  | .turn services input =>
      let input := input.withMemory history.memory
      match services.graphState input with
      | .ok state =>
          { memory := state.slotMemory
            asked := if services.asksAboutImage input then history.asked + 1 else history.asked
            noted := if services.asksAboutImage input then
                getKey state.slotMemory "pending_image_candidates"
              else history.noted
            promoted := if services.promotesImage input then history.asked :: history.promoted
              else history.promoted }
      | .error _ => history
  | .update added removed _ =>
      { history with memory := (history.memory.merge added).eraseAll removed }

/-- The history of a conversation that no event has reached, with the slot memory of the thread
before it. -/
def start (memory : JsonObject) : ImageHistory :=
  ⟨memory, 0, getKey memory "pending_image_candidates", []⟩

/-- The image that waits, if there is one, is the last one that the router has asked about. -/
def Current (history : ImageHistory) : Prop :=
  history.pending = history.noted ∨ history.pending = .null

/-- An event that promotes an image comes after a question about another image than the one that
was promoted last. -/
def AsksFirst (history : ImageHistory) : ImageStep → Prop
  | .turn services input =>
      services.promotesImage (input.withMemory history.memory) = true →
      (services.graphState (input.withMemory history.memory)).toOption.isSome = true →
      history.promoted.head? ≠ some history.asked
  | .update .. => True

/-! ## The image that waits -/

theorem current_step {history : ImageHistory} (h : history.Current) (e : ImageStep) :
    (history.step e).Current := by
  have hkey : "pending_image_candidates" ∈ keptKeys := by decide
  cases e with
  | update added removed unnoted =>
      have hmerged : getKey (history.memory.merge added) "pending_image_candidates" =
          history.pending := slotAt_merge history.memory unnoted
      unfold Current pending step
      simp only
      rw [getKey_eraseAll]
      split
      · exact .inr rfl
      · rw [hmerged]
        exact h
  | turn services input =>
      unfold step
      simp only
      cases hstate : services.graphState (input.withMemory history.memory) with
      | error e => exact h
      | ok state =>
          simp only
          by_cases hasks : services.asksAboutImage (input.withMemory history.memory) = true
          · refine .inl ?_
            unfold pending
            simp only [if_pos hasks]
          · have hslot := ReplyServices.slot_graphState hkey
              (fun hmark => absurd hmark (by decide)) (fun _ routed hrouted => ?_) hstate
            · unfold Current pending
              simp only
              rw [if_neg hasks]
              rcases hslot with hsame | hnone
              · rw [show getKey state.slotMemory "pending_image_candidates" = history.pending from
                  hsame]
                exact h
              · exact .inr hnone
            · rw [ReplyServices.asksAboutImage, hrouted] at hasks
              simpa using hasks

theorem current_run (memory : JsonObject) (events : List ImageStep) :
    (runSteps step (start memory) events).Current := by
  induction events using List.reverseRecOn with
  | nil => exact .inl rfl
  | append_singleton events e ih =>
      rw [runSteps_concat]
      exact current_step ih e

/-- An event that promotes an image finds one, the last one that the router has asked about. -/
theorem noted_of_promotes {history : ImageHistory} (h : history.Current)
    {services : ReplyServices} {input : GraphInput}
    (hpromotes : services.promotesImage (input.withMemory history.memory) = true) :
    history.pending = history.noted ∧ history.pending ≠ .null := by
  obtain ⟨routed, hrouted, hreceipts⟩ := (Option.any_eq_true _ _).mp hpromotes
  have hpending : history.pending ≠ .null := by
    refine ReplyServices.pending_of_receipts hrouted fun hnone => ?_
    rw [hnone] at hreceipts
    cases hreceipts
  exact ⟨h.resolve_right hpending, hpending⟩

/-! ## The images that were promoted -/

/-- The images are promoted in the order in which the router asks about them. -/
structure Ordered (history : ImageHistory) : Prop where
  asked : ∀ image ∈ history.promoted, image ≤ history.asked
  sorted : history.promoted.Pairwise (· ≥ ·)

/-- The image that waits was promoted exactly when it was the last one. -/
theorem Ordered.mem_iff {history : ImageHistory} (h : history.Ordered) :
    history.asked ∈ history.promoted ↔ history.promoted.head? = some history.asked := by
  cases hpromoted : history.promoted with
  | nil => simp
  | cons last before =>
      have hsorted := h.sorted
      rw [hpromoted, List.pairwise_cons] at hsorted
      have hlast : last ≤ history.asked := h.asked last (by simp [hpromoted])
      rw [List.head?_cons, Option.some_inj, List.mem_cons]
      constructor
      · rintro (hsame | hbefore)
        · exact hsame.symm
        · exact Nat.le_antisymm hlast (hsorted.1 _ hbefore)
      · exact fun hsame => .inl hsame.symm

theorem ordered_step {history : ImageHistory} (h : history.Ordered) (e : ImageStep) :
    (history.step e).Ordered := by
  cases e with
  | update added removed unnoted => exact ⟨h.asked, h.sorted⟩
  | turn services input =>
      unfold step
      simp only
      cases services.graphState (input.withMemory history.memory) with
      | error e => exact h
      | ok state =>
          have hasked : history.asked ≤ (if services.asksAboutImage
              (input.withMemory history.memory) = true then history.asked + 1
              else history.asked) := by
            split
            · exact Nat.le_succ _
            · exact Nat.le_refl _
          constructor
          · intro image hmem
            simp only at hmem ⊢
            split at hmem
            · rcases List.mem_cons.mp hmem with rfl | hbefore
              · exact hasked
              · exact (h.asked image hbefore).trans hasked
            · exact (h.asked image hmem).trans hasked
          · simp only
            split
            · exact List.pairwise_cons.mpr ⟨h.asked, h.sorted⟩
            · exact h.sorted

theorem ordered_run (memory : JsonObject) (events : List ImageStep) :
    (runSteps step (start memory) events).Ordered := by
  induction events using List.reverseRecOn with
  | nil => exact ⟨fun image hmem => (List.not_mem_nil hmem).elim, List.Pairwise.nil⟩
  | append_singleton events e ih =>
      rw [runSteps_concat]
      exact ordered_step ih e

/-- A step keeps the images apart exactly when its event promotes no image that was promoted. -/
theorem nodup_step_iff {history : ImageHistory} (h : history.Ordered) (e : ImageStep) :
    (history.step e).promoted.Nodup ↔ history.promoted.Nodup ∧ history.AsksFirst e := by
  cases e with
  | update added removed unnoted => exact ⟨fun hnodup => ⟨hnodup, trivial⟩, fun hboth => hboth.1⟩
  | turn services input =>
      unfold step AsksFirst
      simp only
      cases services.graphState (input.withMemory history.memory) with
      | error e => simp [Except.toOption]
      | ok state =>
          by_cases hpromotes : services.promotesImage (input.withMemory history.memory) = true
          · simp [hpromotes, Except.toOption, ← h.mem_iff, and_comm]
          · simp [hpromotes]

/-- An image alone, with an analysis that takes it for the receipt of a deposit. -/
def receiptImage : GraphInput :=
  let message : GraphInput := .plain "" none none ∅
  { message with
    event := { message.event with
      standardEventType := "FILE_RECEIVED"
      payloadJson := .ofList [("event", .obj (.ofList [("file", .obj (.ofList [
        ("url", .str "https://cdn/r.png"), ("content_type", .str "image/png"),
        ("image_analysis", .obj (.ofList [("is_receipt_like", .bool true),
          ("receipt_kind", .str "deposit")]))]))]))] } }

/-- A confirmation outside any workflow. -/
def confirmation : ImageStep := .turn .plain (.plain "yes" none none ∅)

/-- The staff's reply completes the case. -/
def resolution : ImageStep :=
  .update (.ofList [("customer_confirmed_resolved", .bool false)]) activeTelegramCaseSlotKeys
    (forall_mem_ofList (by decide))

end ImageHistory

end AiCustomerService
