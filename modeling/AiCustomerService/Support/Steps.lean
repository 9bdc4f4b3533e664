import Mathlib.Data.List.Induction

/-!
# Runs of steps

A run folds a step function over a list of events.  A condition on the steps holds along the run
where it holds of each event, in the state that the event finds.
-/

namespace Support

variable {S E : Type}

/-- The state after a run. -/
def runSteps (step : S → E → S) (s : S) (events : List E) : S := events.foldl step s

/-- The condition holds of every step of the run. -/
def EveryStep (ok : S → E → Prop) (step : S → E → S) (s : S) (events : List E) : Prop :=
  ∀ first e rest, events = first ++ e :: rest → ok (runSteps step s first) e

variable {ok ok' : S → E → Prop} {step : S → E → S} {s : S}

theorem runSteps_concat (step : S → E → S) (s : S) (events : List E) (e : E) :
    runSteps step s (events ++ [e]) = step (runSteps step s events) e := by
  simp [runSteps]

/-- A part of a run from its beginning. -/
theorem EveryStep.of_append {first rest : List E} (h : EveryStep ok step s (first ++ rest)) :
    EveryStep ok step s first := by
  rintro before e after rfl
  exact h before e (after ++ rest) (by simp)

/-- A run that goes on with one more step. -/
theorem everyStep_concat {events : List E} {last : E} :
    EveryStep ok step s (events ++ [last]) ↔
      EveryStep ok step s events ∧ ok (runSteps step s events) last := by
  constructor
  · intro h
    exact ⟨h.of_append, h events last [] rfl⟩
  · rintro ⟨hsteps, hlast⟩ first e rest hsplit
    rcases rest.eq_nil_or_concat with rfl | ⟨before, final, rfl⟩
    · obtain ⟨rfl, hsame⟩ := List.append_inj' hsplit rfl
      cases hsame
      exact hlast
    · have hlonger : events ++ [last] = (first ++ e :: before) ++ [final] := by
        rw [hsplit]
        simp
      exact hsteps first e before (List.append_inj' hlonger rfl).1

theorem EveryStep.nil : EveryStep ok step s [] := by
  intro first e rest hsplit
  simp at hsplit

theorem everyStep_congr {events : List E} (h : ∀ s e, ok s e ↔ ok' s e) :
    EveryStep ok step s events ↔ EveryStep ok' step s events := by
  simp only [EveryStep, h]

theorem runSteps_append (step : S → E → S) (s : S) (events later : List E) :
    runSteps step s (events ++ later) = runSteps step (runSteps step s events) later :=
  List.foldl_append

/-- What every step keeps holds at every point of a run. -/
theorem runSteps_invariant {Inv : S → Prop} (hstep : ∀ s e, Inv s → Inv (step s e))
    (hstart : Inv s) (events : List E) : Inv (runSteps step s events) := by
  induction events using List.reverseRecOn with
  | nil => exact hstart
  | append_singleton events last ih =>
      rw [runSteps_concat]
      exact hstep _ _ ih

/-- A preorder that relates the states before and after every step relates the ends of a run. -/
theorem runSteps_related {R : S → S → Prop} (hrefl : ∀ s, R s s)
    (htrans : ∀ {s₁ s₂ s₃}, R s₁ s₂ → R s₂ s₃ → R s₁ s₃) (hstep : ∀ s e, R s (step s e))
    (s : S) (events : List E) : R s (runSteps step s events) :=
  runSteps_invariant (fun _ e h => htrans h (hstep _ e)) (hrefl s) events

/-- What the steps that satisfy the condition keep holds at every point of the run. -/
theorem EveryStep.invariant {Inv : S → Prop} {events : List E}
    (h : EveryStep ok step s events) (hstart : Inv s)
    (hstep : ∀ s e, Inv s → ok s e → Inv (step s e)) : Inv (runSteps step s events) := by
  induction events using List.reverseRecOn with
  | nil => exact hstart
  | append_singleton events last ih =>
      obtain ⟨hbefore, hlast⟩ := everyStep_concat.mp h
      rw [runSteps_concat]
      exact hstep _ _ (ih hbefore) hlast

end Support
