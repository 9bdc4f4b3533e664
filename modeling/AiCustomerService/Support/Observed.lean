import Mathlib.Data.List.Basic

/-!
# What can be observed of a run

A step may give an answer.  An abstraction of the states that decides the answers decides all of
them along a run, and events that leave the abstraction as it is can be left out.
-/

namespace Support

variable {S E O A : Type}

/-- The answers of a run. -/
def observe (step : S → E → S × Option O) : S → List E → List O
  | _, [] => []
  | s, e :: rest => (step s e).2.toList ++ observe step (step s e).1 rest

/-- The answer of a step, and the abstraction after it, depend on the abstraction only. -/
def Decides (step : S → E → S × Option O) (abstraction : S → A) : Prop :=
  ∀ s s' e, abstraction s = abstraction s' →
    (step s e).2 = (step s' e).2 ∧ abstraction (step s e).1 = abstraction (step s' e).1

/-- The event cannot be observed. -/
def Unobserved (step : S → E → S × Option O) (abstraction : S → A) (e : E) : Prop :=
  ∀ s, (step s e).2 = none ∧ abstraction (step s e).1 = abstraction s

variable {step : S → E → S × Option O} {abstraction : S → A}

/-- States with one abstraction have the same answers. -/
theorem Decides.observe_eq (h : Decides step abstraction) {s s' : S}
    (hsame : abstraction s = abstraction s') (events : List E) :
    observe step s events = observe step s' events := by
  induction events generalizing s s' with
  | nil => rfl
  | cons e rest ih =>
      obtain ⟨hanswer, hnext⟩ := h s s' e hsame
      rw [observe, observe, hanswer, ih hnext]

/-- Leaving out events that cannot be observed changes no answer. -/
theorem Decides.observe_filter (h : Decides step abstraction) {quiet : E → Bool}
    (hquiet : ∀ e, quiet e = true → Unobserved step abstraction e) (s : S) (events : List E) :
    observe step s (events.filter fun e => !quiet e) = observe step s events := by
  induction events generalizing s with
  | nil => rfl
  | cons e rest ih =>
      cases hevent : quiet e with
      | true =>
          obtain ⟨hnone, hsame⟩ := hquiet e hevent s
          rw [List.filter_cons_of_neg (by simp [hevent]), observe, hnone, Option.toList_none,
            List.nil_append, ih, h.observe_eq hsame]
      | false =>
          rw [List.filter_cons_of_pos (by simp [hevent]), observe, observe, ih]

end Support
