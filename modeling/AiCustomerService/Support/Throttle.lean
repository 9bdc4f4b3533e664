import AiCustomerService.Support.Steps
import Mathlib.Logic.Function.Basic

/-!
# Throttled actions

An action is requested for a key at a time, and is taken unless the last one for that key is less
than an interval ago.  The actions that are taken for a key are then at least an interval apart,
and every request comes less than an interval after one that is taken.
-/

namespace Support

variable {K : Type} [DecidableEq K]

/-- The time of the last action for each key, and the actions taken so far. -/
structure Throttle (K : Type) where
  last : K → Option ℕ
  taken : List (K × ℕ)

namespace Throttle

/-- Nothing has been done. -/
def start : Throttle K := ⟨fun _ => none, []⟩

/-- The action may be taken. -/
def due (interval : ℕ) (last : Option ℕ) (now : ℕ) : Bool :=
  last.all fun t => t + interval ≤ now

@[simp] theorem due_none (interval now : ℕ) : due interval none now = true := rfl

@[simp] theorem due_some (interval t now : ℕ) :
    due interval (some t) now = decide (t + interval ≤ now) := rfl

/-- A request. -/
def request (interval : ℕ) (s : Throttle K) (call : K × ℕ) : Throttle K :=
  if due interval (s.last call.1) call.2 then
    ⟨Function.update s.last call.1 (some call.2), s.taken ++ [call]⟩
  else s

/-- The requests one after another. -/
def run (interval : ℕ) (calls : List (K × ℕ)) : Throttle K :=
  runSteps (request interval) start calls

/-- The last action of a key is the latest one, and actions of a key are an interval apart. -/
structure Paced (interval : ℕ) (s : Throttle K) : Prop where
  apart : s.taken.Pairwise fun a b => a.1 = b.1 → a.2 + interval ≤ b.2
  latest : ∀ k t, s.last k = some t → (k, t) ∈ s.taken ∧ ∀ t', (k, t') ∈ s.taken → t' ≤ t
  none : ∀ k t, s.last k = none → (k, t) ∉ s.taken

variable {interval : ℕ} {s : Throttle K}

omit [DecidableEq K] in
theorem paced_start : Paced interval (start : Throttle K) where
  apart := List.Pairwise.nil
  latest _ _ h := by cases h
  none _ _ _ := List.not_mem_nil

theorem Paced.request (h : Paced interval s) (call : K × ℕ) :
    Paced interval (s.request interval call) := by
  unfold Throttle.request
  split
  next hdue =>
    have hbefore (t : ℕ) (ht : (call.1, t) ∈ s.taken) : t + interval ≤ call.2 := by
      cases hlast : s.last call.1 with
      | none => exact absurd ht (h.none _ _ hlast)
      | some last =>
          have hle := (h.latest _ _ hlast).2 t ht
          rw [hlast, due_some, decide_eq_true_eq] at hdue
          exact Nat.le_trans (Nat.add_le_add_right hle interval) hdue
    constructor
    · refine List.pairwise_append.mpr ⟨h.apart, List.pairwise_singleton _ _, ?_⟩
      rintro ⟨k, t⟩ ht later hlater
      obtain rfl := List.mem_singleton.mp hlater
      rintro rfl
      exact hbefore t ht
    · intro k t ht
      dsimp only at ht
      by_cases hkey : k = call.1
      · subst hkey
        rw [Function.update_self] at ht
        obtain rfl := Option.some.inj ht
        refine ⟨List.mem_append_right _ (List.mem_singleton_self call), fun t' ht' => ?_⟩
        rcases List.mem_append.mp ht' with hold | hnew
        · exact Nat.le_trans (Nat.le_add_right t' interval) (hbefore t' hold)
        · exact Nat.le_of_eq (congrArg Prod.snd (List.mem_singleton.mp hnew))
      · rw [Function.update_of_ne hkey] at ht
        obtain ⟨hmem, hlatest⟩ := h.latest k t ht
        refine ⟨List.mem_append_left _ hmem, fun t' ht' => ?_⟩
        rcases List.mem_append.mp ht' with hold | hnew
        · exact hlatest t' hold
        · exact absurd (congrArg Prod.fst (List.mem_singleton.mp hnew)) hkey
    · intro k t hnone
      dsimp only at hnone
      by_cases hkey : k = call.1
      · subst hkey
        rw [Function.update_self] at hnone
        cases hnone
      · rw [Function.update_of_ne hkey] at hnone
        intro hmem
        rcases List.mem_append.mp hmem with hold | hnew
        · exact h.none k t hnone hold
        · exact hkey (congrArg Prod.fst (List.mem_singleton.mp hnew))
  next => exact h

theorem paced_run (interval : ℕ) (calls : List (K × ℕ)) : Paced interval (run interval calls) :=
  runSteps_invariant (fun _ call h => h.request call) paced_start calls

/-- What has been taken stays, and is what was requested. -/
theorem mem_taken_request {action call : K × ℕ} (h : action ∈ s.taken) :
    action ∈ (s.request interval call).taken := by
  unfold request
  split
  · exact List.mem_append_left _ h
  · exact h

theorem subset_of_mem_taken {calls : List (K × ℕ)} {action : K × ℕ}
    (h : action ∈ (run interval calls).taken) : action ∈ calls := by
  induction calls using List.reverseRecOn with
  | nil => cases h
  | append_singleton calls call ih =>
      unfold run at h
      rw [runSteps_concat] at h
      unfold request at h
      split at h
      · exact (List.mem_append.mp h).elim (fun hold => List.mem_append_left _ (ih hold))
          (List.mem_append_right _)
      · exact List.mem_append_left _ (ih h)

/-- Each request comes less than an interval after an action for its key, where the clock does not
run backwards. -/
theorem exists_taken {calls : List (K × ℕ)} (hinterval : 0 < interval)
    (hclock : calls.Pairwise fun a b => a.2 ≤ b.2) {call : K × ℕ} (hcall : call ∈ calls) :
    ∃ t, (call.1, t) ∈ (run interval calls).taken ∧ t ≤ call.2 ∧ call.2 < t + interval := by
  induction calls using List.reverseRecOn with
  | nil => cases hcall
  | append_singleton calls last ih =>
      obtain ⟨hsorted, -, hbefore⟩ := List.pairwise_append.mp hclock
      have hrun : run interval (calls ++ [last]) = (run interval calls).request interval last :=
        runSteps_concat _ _ _ _
      rw [hrun]
      rcases List.mem_append.mp hcall with hold | hnew
      · obtain ⟨t, ht, hle, hlt⟩ := ih hsorted hold
        exact ⟨t, mem_taken_request ht, hle, hlt⟩
      · obtain rfl := List.mem_singleton.mp hnew
        unfold request
        split
        · exact ⟨call.2, List.mem_append_right _ (List.mem_singleton_self call), Nat.le_refl _,
            Nat.lt_add_of_pos_right hinterval⟩
        next hdue =>
          cases hlast : (run interval calls).last call.1 with
          | none => simp [hlast] at hdue
          | some t =>
              obtain ⟨ht, -⟩ := (paced_run interval calls).latest _ _ hlast
              refine ⟨t, ht, hbefore _ (subset_of_mem_taken ht) call hnew, ?_⟩
              simpa [hlast] using hdue

end Throttle

end Support
