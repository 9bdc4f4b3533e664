import AiCustomerService.Support.Pool
import Mathlib.Data.Fintype.Basic

/-!
# One program at a time on a resource

Several programs run against a world, but a program that touches a resource is started
only while no other program may still touch it.  An invariant then relates the world to
the phase of the only program on the resource.
-/

namespace Support.Machine

variable {I : Interface} {M : Machine I} {T : Type} [DecidableEq T] {P : Type}
  (touches : I.Op → Prop)

/-- The program no longer touches the resource. -/
def LeavesAlone {α : Type} (prog : Prog I α) : Prop := prog.All fun op => ¬touches op

/-- A program that touches the resource is started only when the others leave it alone. -/
def StartsAlone (c : Config M T) : Label M T → Prop
  | .spawn _ job => ∀ started, M.start job c.world = some started →
      LeavesAlone touches started.1 ∨ ∀ t, LeavesAlone touches (c.threads t)
  | _ => True

/-- A program is started while no other program runs. -/
def StartsIdle (c : Config M T) : Label M T → Prop
  | .spawn _ _ => ∀ t, (c.threads t).head?.isNone = true
  | _ => True

instance decidableStartsIdle [Fintype T] (c : Config M T) :
    (l : Label M T) → Decidable (StartsIdle c l)
  | .spawn _ _ => inferInstanceAs (Decidable (∀ t, (c.threads t).head?.isNone = true))
  | .act _ _ => isTrue trivial
  | .env _ => isTrue trivial

omit [DecidableEq T] in
theorem StartsIdle.startsAlone {c : Config M T} {l : Label M T} (h : StartsIdle c l) :
    StartsAlone touches c l := by
  cases l with
  | act t choice => trivial
  | env e => trivial
  | spawn t job =>
      intro _ _
      right
      intro t'
      have hidle : (c.threads t').head?.isNone = true := h t'
      unfold LeavesAlone
      cases hprog : c.threads t' with
      | ret a => trivial
      | raise e => trivial
      | call op k =>
          rw [hprog] at hidle
          cases hidle

variable {touches} {δ : Protocol I P} {final : P → Prop}

/-- `Inv` relates the world to the phase of the program on the resource. -/
structure IsSoloInvariant (touches : I.Op → Prop) (δ : Protocol I P) (final : P → Prop)
    (cond : M.World → I.Op → M.Choice → Prop) (Inv : M.World → P → Prop) : Prop where
  own : ∀ {w p op choice p'}, Inv w p → cond w op choice → δ p op (M.handle op choice w).1 p' →
    touches op → Inv (M.handle op choice w).2 p'
  other : ∀ {w p op choice}, Inv w p → cond w op choice → ¬touches op →
    Inv (M.handle op choice w).2 p
  phase : ∀ p op r p', δ p op r p' → ¬touches op → p' = p
  env : ∀ {w p} e, Inv w p → Inv (M.environ e w) p
  beside : ∀ {w p job prog w'}, Inv w p → M.start job w = some (prog, w') →
    LeavesAlone touches prog → Inv w' p
  spawn : ∀ {w p job prog w'}, Inv w p → final p → M.start job w = some (prog, w') →
    ∃ p', Follows δ final p' prog ∧ Inv w' p'

/-- A program that follows the protocol and leaves the resource alone is in a final phase. -/
theorem final_of_leavesAlone [Inhabited I.Err] {α : Type} {p : P} {prog : Prog I α}
    (hphase : ∀ p op r p', δ p op r p' → ¬touches op → p' = p)
    (hprog : Follows δ final p prog) (halone : LeavesAlone touches prog) : final p := by
  induction prog generalizing p with
  | ret a => exact hprog
  | raise e => exact hprog
  | call op k ih =>
      obtain ⟨p', hδ, hk⟩ := hprog (.error default)
      have hp : p' = p := hphase _ _ _ _ hδ halone.1
      subst hp
      exact ih _ hk (halone.2 _)

/-- At most one program may still touch the resource, and the invariant holds. -/
def TracksSolo (touches : I.Op → Prop) (δ : Protocol I P) (final : P → Prop)
    (Inv : M.World → P → Prop) (c : Config M T) : Prop :=
  ∃ p, Inv c.world p ∧
    ((final p ∧ ∀ t, LeavesAlone touches (c.threads t)) ∨
      ∃ t, Follows δ final p (c.threads t) ∧ ∀ t', t' ≠ t → LeavesAlone touches (c.threads t'))

variable {cond : M.World → I.Op → M.Choice → Prop} {Inv : M.World → P → Prop}

omit [DecidableEq T] in
theorem tracksSolo_idle {w : M.World} {p : P} (h : Inv w p) (hfinal : final p) :
    TracksSolo touches δ final Inv (idle w : Config M T) :=
  ⟨p, h, Or.inl ⟨hfinal, fun _ => trivial⟩⟩

theorem leavesAlone_update {threads : T → Prog I Unit} {t : T} {prog : Prog I Unit}
    (hprog : LeavesAlone touches prog) {t' : T}
    (h : t' ≠ t → LeavesAlone touches (threads t')) :
    LeavesAlone touches (Function.update threads t prog t') := by
  by_cases ht : t' = t
  · subst ht
    simpa using hprog
  · simpa [ht] using h ht

/-- The program on the resource executes an operation. -/
theorem TracksSolo.act_own (hinv : IsSoloInvariant touches δ final cond Inv) {c : Config M T}
    {t : T} {op : I.Op} {k : Except I.Err (I.Res op) → Prog I Unit} {p : P}
    {choice : M.Choice} (hprog : c.threads t = .call op k) (hw : Inv c.world p)
    (hfollows : Follows δ final p (c.threads t))
    (hothers : ∀ t', t' ≠ t → LeavesAlone touches (c.threads t'))
    (hcond : cond c.world op choice) :
    TracksSolo touches δ final Inv (Machine.step c (.act t choice)) := by
  rw [step_act hprog]
  rw [hprog] at hfollows
  obtain ⟨p', hδ, hk⟩ := hfollows (M.handle op choice c.world).1
  refine ⟨p', ?_, Or.inr ⟨t, ?_, ?_⟩⟩
  · by_cases htouches : touches op
    · exact hinv.own hw hcond hδ htouches
    · rw [hinv.phase _ _ _ _ hδ htouches]
      exact hinv.other hw hcond htouches
  · change Follows δ final p' (Function.update c.threads t _ t)
    rw [Function.update_self]
    exact hk
  · intro t' ht'
    simpa [ht'] using hothers t' ht'

/-- Another program executes an operation. -/
theorem TracksSolo.act_other (hinv : IsSoloInvariant touches δ final cond Inv)
    {c : Config M T} {t : T} {op : I.Op} {k : Except I.Err (I.Res op) → Prog I Unit} {p : P}
    {choice : M.Choice} (hprog : c.threads t = .call op k) (hw : Inv c.world p)
    (halone : LeavesAlone touches (c.threads t)) (hcond : cond c.world op choice)
    (hrest : (final p ∧ ∀ t, LeavesAlone touches (c.threads t)) ∨
      ∃ t₀, t ≠ t₀ ∧ Follows δ final p (c.threads t₀) ∧
        ∀ t', t' ≠ t₀ → LeavesAlone touches (c.threads t')) :
    TracksSolo touches δ final Inv (Machine.step c (.act t choice)) := by
  rw [step_act hprog]
  rw [hprog] at halone
  have hnext : LeavesAlone touches (k (M.handle op choice c.world).1) := halone.2 _
  refine ⟨p, hinv.other hw hcond halone.1, ?_⟩
  rcases hrest with ⟨hfinal, hall⟩ | ⟨t₀, hne, hfollows, hothers⟩
  · exact Or.inl ⟨hfinal, fun t' => leavesAlone_update hnext fun _ => hall t'⟩
  · refine Or.inr ⟨t₀, ?_, ?_⟩
    · simpa [hne.symm] using hfollows
    · intro t' ht'
      exact leavesAlone_update hnext fun _ => hothers t' ht'

/-- A program is started. -/
theorem TracksSolo.spawned [Inhabited I.Err] (hinv : IsSoloInvariant touches δ final cond Inv)
    {c : Config M T} {t : T} {job : M.Job} {prog : Prog I Unit} {w : M.World}
    (h : TracksSolo touches δ final Inv c) (hidle : (c.threads t).head? = none)
    (hstart : M.start job c.world = some (prog, w))
    (halone : LeavesAlone touches prog ∨ ∀ t, LeavesAlone touches (c.threads t)) :
    TracksSolo touches δ final Inv
      (⟨w, Function.update c.threads t prog⟩ : Config M T) := by
  obtain ⟨p, hw, hrest⟩ := h
  by_cases hprog : LeavesAlone touches prog
  · refine ⟨p, hinv.beside hw hstart hprog, ?_⟩
    rcases hrest with ⟨hfinal, hall⟩ | ⟨t₀, hfollows, hothers⟩
    · exact Or.inl ⟨hfinal, fun t' => leavesAlone_update hprog fun _ => hall t'⟩
    · by_cases ht : t = t₀
      · subst ht
        refine Or.inl ⟨final_of_head_eq_none hidle hfollows, ?_⟩
        intro t'
        exact leavesAlone_update hprog fun hne => hothers t' hne
      · refine Or.inr ⟨t₀, ?_, ?_⟩
        · simpa [Ne.symm ht] using hfollows
        · intro t' ht'
          exact leavesAlone_update hprog fun _ => hothers t' ht'
  · have hall : ∀ t, LeavesAlone touches (c.threads t) := halone.resolve_left hprog
    have hfinal : final p := by
      rcases hrest with ⟨hfinal, -⟩ | ⟨t₀, hfollows, -⟩
      · exact hfinal
      · exact final_of_leavesAlone hinv.phase hfollows (hall t₀)
    obtain ⟨p', hfollows, hw'⟩ := hinv.spawn hw hfinal hstart
    refine ⟨p', hw', Or.inr ⟨t, ?_, ?_⟩⟩
    · change Follows δ final p' (Function.update c.threads t prog t)
      rw [Function.update_self]
      exact hfollows
    · intro t' ht'
      simpa [ht'] using hall t'

theorem TracksSolo.step [Inhabited I.Err] (hinv : IsSoloInvariant touches δ final cond Inv)
    {c : Config M T} {l : Label M T} (h : TracksSolo touches δ final Inv c)
    (hl : Executes cond c l) (halone : StartsAlone touches c l) :
    TracksSolo touches δ final Inv (Machine.step c l) := by
  cases l with
  | act t choice =>
      cases hprog : c.threads t with
      | ret a =>
          rw [step_act_finished (by rw [hprog]; rfl)]
          exact h
      | raise e =>
          rw [step_act_finished (by rw [hprog]; rfl)]
          exact h
      | call op k =>
          have hcond : cond c.world op choice := hl op (by rw [hprog]; rfl)
          obtain ⟨p, hw, ⟨hfinal, hall⟩ | ⟨t₀, hfollows, hothers⟩⟩ := h
          · exact act_other hinv hprog hw (hall t) hcond (Or.inl ⟨hfinal, hall⟩)
          · by_cases ht : t = t₀
            · subst ht
              exact act_own hinv hprog hw hfollows hothers hcond
            · exact act_other hinv hprog hw (hothers t ht) hcond
                (Or.inr ⟨t₀, ht, hfollows, hothers⟩)
  | env e =>
      obtain ⟨p, hw, hrest⟩ := h
      exact ⟨p, hinv.env e hw, hrest⟩
  | spawn t job =>
      cases hhead : (c.threads t).head? with
      | some op =>
          rw [step_spawn_of_head_eq_some hhead]
          exact h
      | none =>
          cases hstart : M.start job c.world with
          | none =>
              rw [step_spawn_of_start_eq_none hstart]
              exact h
          | some started =>
              rw [step_spawn hhead hstart]
              exact h.spawned hinv hhead hstart (halone started hstart)

/-- The invariant rule for runs in which programs on the resource do not overlap. -/
theorem TracksSolo.run [Inhabited I.Err] (hinv : IsSoloInvariant touches δ final cond Inv)
    {c : Config M T} {labels : List (Label M T)} (h : TracksSolo touches δ final Inv c)
    (hlabels : AllSteps (fun c l => Executes cond c l ∧ StartsAlone touches c l) c labels) :
    TracksSolo touches δ final Inv (Machine.run c labels) := by
  induction labels generalizing c with
  | nil => exact h
  | cons l rest ih => exact ih (h.step hinv hlabels.1.1 hlabels.1.2) hlabels.2

end Support.Machine
