import AiCustomerService.Support.Program

/-!
# Interleaved programs over a shared world

A machine executes programs against a world.  A step lets one thread execute
its next operation, lets the environment act, or starts a new program on a
thread that has finished; a schedule is the list of those steps.  Failures of
an operation, the answers of a remote service and the passing of time are part
of the schedule, so a statement about every schedule is a statement about every
interleaving and every failure pattern.
-/

namespace Support

/-- An operation that raises may have taken effect nevertheless. -/
structure Fault (E : Type) where
  error : E
  applied : Bool

/-- The answer of an operation and the world after it, when the schedule may let
the operation fail. -/
def faulty {E α W : Type} (fault : Option (Fault E)) (before : W) (done : Except E α × W) :
    Except E α × W :=
  match fault with
  | none => done
  | some fault => (.error fault.error, if fault.applied then done.2 else before)

theorem faulty_world {E α W : Type} (fault : Option (Fault E)) (before : W)
    (done : Except E α × W) :
    (faulty fault before done).2 = if fault.all Fault.applied then done.2 else before := by
  cases fault with
  | none => rfl
  | some fault => rfl

/-- A property of the world before an operation and of the world that its effect
leaves also holds after a failure. -/
theorem faulty_induction {E α W : Type} {fault : Option (Fault E)} {before : W}
    {done : Except E α × W} {motive : W → Prop} (hbefore : motive before)
    (hdone : motive done.2) : motive (faulty fault before done).2 := by
  cases fault with
  | none => exact hdone
  | some fault =>
      cases happlied : fault.applied with
      | true => simpa [faulty, happlied] using hdone
      | false => simpa [faulty, happlied] using hbefore

/-- How operations act on the world.  `handle` resolves what the schedule leaves
open in its `Choice`, and `start` says when a job may be started. -/
structure Machine (I : Interface) where
  World : Type
  Choice : Type
  Env : Type
  Job : Type
  handle : (op : I.Op) → Choice → World → Except I.Err (I.Res op) × World
  environ : Env → World → World
  start : Job → World → Option (Prog I Unit × World)

namespace Machine

variable {I : Interface} (M : Machine I) (T : Type) [DecidableEq T]

/-- The world and what is left of the program of each thread. -/
structure Config where
  world : M.World
  threads : T → Prog I Unit

/-- One step of a schedule. -/
inductive Label
  | act (t : T) (choice : M.Choice)
  | env (e : M.Env)
  | spawn (t : T) (job : M.Job)

variable {M T}

/-- Every thread is idle. -/
def idle (w : M.World) : Config M T := ⟨w, fun _ => .ret ()⟩

/-- Execute one step; a step that is not possible changes nothing. -/
def step (c : Config M T) : Label M T → Config M T
  | .act t choice =>
      match c.threads t with
      | .call op k =>
          ⟨(M.handle op choice c.world).2,
            Function.update c.threads t (k (M.handle op choice c.world).1)⟩
      | _ => c
  | .env e => { c with world := M.environ e c.world }
  | .spawn t job =>
      match (c.threads t).head?, M.start job c.world with
      | none, some (prog, w) => ⟨w, Function.update c.threads t prog⟩
      | _, _ => c

/-- Execute a schedule. -/
def run (c : Config M T) (labels : List (Label M T)) : Config M T :=
  labels.foldl step c

/-- Every step of the schedule satisfies `ok` where it is taken. -/
def AllSteps (ok : Config M T → Label M T → Prop) :
    Config M T → List (Label M T) → Prop
  | _, [] => True
  | c, l :: rest => ok c l ∧ AllSteps ok (step c l) rest

/-- If the step executes an operation, then `cond` holds of the world before
it, the operation and the choice. -/
def Executes (cond : M.World → I.Op → M.Choice → Prop) (c : Config M T) :
    Label M T → Prop
  | .act t choice => ∀ op, (c.threads t).head? = some op → cond c.world op choice
  | _ => True

instance decidableExecutes (cond : M.World → I.Op → M.Choice → Prop)
    [∀ w op choice, Decidable (cond w op choice)] (c : Config M T) :
    (l : Label M T) → Decidable (Executes cond c l)
  | .act t choice =>
      match hhead : (c.threads t).head? with
      | none => isTrue fun op hop => by rw [hhead] at hop; cases hop
      | some op =>
          decidable_of_iff (cond c.world op choice)
            ⟨fun h op' hop' => by rw [hhead] at hop'; cases hop'; exact h, fun h => h op hhead⟩
  | .env _ => isTrue trivial
  | .spawn _ _ => isTrue trivial

instance decidableAllSteps (ok : Config M T → Label M T → Prop) [∀ c l, Decidable (ok c l)] :
    (c : Config M T) → (labels : List (Label M T)) → Decidable (AllSteps ok c labels)
  | _, [] => isTrue trivial
  | c, l :: rest =>
      have : Decidable (AllSteps ok (step c l) rest) := decidableAllSteps ok (step c l) rest
      inferInstanceAs (Decidable (ok c l ∧ AllSteps ok (step c l) rest))

/-! ## Single steps -/

theorem step_act {c : Config M T} {t : T} {op : I.Op}
    {k : Except I.Err (I.Res op) → Prog I Unit} (h : c.threads t = .call op k)
    (choice : M.Choice) :
    step c (.act t choice) =
      ⟨(M.handle op choice c.world).2,
        Function.update c.threads t (k (M.handle op choice c.world).1)⟩ := by
  rw [step, h]

theorem step_act_finished {c : Config M T} {t : T}
    (h : (c.threads t).head? = none) (choice : M.Choice) :
    step c (.act t choice) = c := by
  cases hprog : c.threads t with
  | ret a => rw [step, hprog]
  | raise e => rw [step, hprog]
  | call op k => simp [hprog, Prog.head?] at h

theorem step_spawn {c : Config M T} {t : T} {job : M.Job} {prog : Prog I Unit}
    {w : M.World} (hidle : (c.threads t).head? = none)
    (hstart : M.start job c.world = some (prog, w)) :
    step c (.spawn t job) = ⟨w, Function.update c.threads t prog⟩ := by
  rw [step, hidle, hstart]

theorem step_spawn_of_start_eq_none {c : Config M T} {job : M.Job}
    (hstart : M.start job c.world = none) (t : T) :
    step c (.spawn t job) = c := by
  rw [step, hstart]
  cases (c.threads t).head? with
  | none => rfl
  | some op => rfl

theorem step_spawn_of_head_eq_some {c : Config M T} {t : T} {op : I.Op}
    (hbusy : (c.threads t).head? = some op) (job : M.Job) :
    step c (.spawn t job) = c := by
  rw [step, hbusy]

/-! ## Runs -/

@[simp]
theorem run_nil (c : Config M T) : run c [] = c := rfl

@[simp]
theorem run_cons (c : Config M T) (l : Label M T) (rest : List (Label M T)) :
    run c (l :: rest) = run (step c l) rest := rfl

theorem run_append (c : Config M T) (first second : List (Label M T)) :
    run c (first ++ second) = run (run c first) second :=
  List.foldl_append

theorem AllSteps.mono {ok ok' : Config M T → Label M T → Prop} {c : Config M T}
    {labels : List (Label M T)} (h : AllSteps ok c labels)
    (himp : ∀ c l, ok c l → ok' c l) : AllSteps ok' c labels := by
  induction labels generalizing c with
  | nil => trivial
  | cons l rest ih => exact ⟨himp c l h.1, ih h.2⟩

theorem AllSteps.and {ok ok' : Config M T → Label M T → Prop} {c : Config M T}
    {labels : List (Label M T)} (h : AllSteps ok c labels) (h' : AllSteps ok' c labels) :
    AllSteps (fun c l => ok c l ∧ ok' c l) c labels := by
  induction labels generalizing c with
  | nil => trivial
  | cons l rest ih => exact ⟨⟨h.1, h'.1⟩, ih h.2 h'.2⟩

/-- A condition that every choice of the schedule meets in any world holds along the run. -/
theorem allSteps_of_choices {cond : M.World → I.Op → M.Choice → Prop} {c : Config M T}
    {labels : List (Label M T)}
    (h : ∀ t choice, .act t choice ∈ labels → ∀ w op, cond w op choice) :
    AllSteps (Executes cond) c labels := by
  induction labels generalizing c with
  | nil => trivial
  | cons l rest ih =>
      refine ⟨?_, ih fun t choice hmem => h t choice (List.mem_cons_of_mem _ hmem)⟩
      cases l with
      | act t choice => exact fun op _ => h t choice List.mem_cons_self c.world op
      | env e => trivial
      | spawn t job => trivial

theorem allSteps_append {ok : Config M T → Label M T → Prop} {c : Config M T}
    {first second : List (Label M T)} :
    AllSteps ok c (first ++ second) ↔
      AllSteps ok c first ∧ AllSteps ok (run c first) second := by
  induction first generalizing c with
  | nil => simp [AllSteps]
  | cons l rest ih =>
      rw [List.cons_append, AllSteps, AllSteps, ih, run_cons, and_assoc]

theorem allSteps_iff_forall {ok : Config M T → Label M T → Prop} {c : Config M T}
    {labels : List (Label M T)} :
    AllSteps ok c labels ↔
      ∀ first l rest, labels = first ++ l :: rest → ok (run c first) l := by
  constructor
  · rintro h first l rest rfl
    exact (allSteps_append.mp h).2.1
  · intro h
    induction labels generalizing c with
    | nil => trivial
    | cons l rest ih =>
        refine ⟨h [] l rest rfl, ih ?_⟩
        rintro first l' rest' rfl
        exact h (l :: first) l' rest' rfl

/-! ## Properties that last -/

/-- Each property of the family lasts once it holds. -/
def Persists {ι : Type} (P : ι → Config M T → Prop) (c : Config M T)
    (labels : List (Label M T)) : Prop :=
  ∀ i first later rest, labels = first ++ later ++ rest → P i (run c first) →
    P i (run c (first ++ later))

/-- When the steps that meet a condition keep every property of a family, and any
other step breaks one, the properties last along a run exactly if all its steps
meet the condition.  `Good` is what is known of every configuration reached. -/
theorem persists_iff_allSteps {ι : Type} {P : ι → Config M T → Prop}
    (Good : Config M T → Prop) {ok : Config M T → Label M T → Prop}
    (hgood : ∀ c l, Good c → Good (step c l))
    (hkeep : ∀ i c l, Good c → ok c l → P i c → P i (step c l))
    (hbreak : ∀ c l, Good c → ¬ok c l → ∃ i, P i c ∧ ¬P i (step c l))
    {c : Config M T} (hc : Good c) (labels : List (Label M T)) :
    Persists P c labels ↔ AllSteps ok c labels := by
  have hrun : ∀ first : List (Label M T), Good (run c first) := by
    intro first
    induction first generalizing c with
    | nil => exact hc
    | cons l rest ih => exact ih (hgood c l hc)
  constructor
  · intro h
    rw [allSteps_iff_forall]
    intro first l rest hlabels
    by_contra hok
    obtain ⟨i, hholds, hbroken⟩ := hbreak _ _ (hrun first) hok
    have hlast := h i first [l] rest (by rw [hlabels]; simp) hholds
    rw [run_append] at hlast
    exact hbroken hlast
  · rintro h i first later rest rfl hholds
    have hlater := (allSteps_append.mp (allSteps_append.mp h).1).2
    have hstart := hrun first
    clear h hrun
    rw [run_append]
    generalize run c first = c' at hholds hlater hstart
    induction later generalizing c' with
    | nil => exact hholds
    | cons l later ih =>
        exact ih _ (hkeep i _ l hstart hlater.1 hholds) hlater.2 (hgood _ l hstart)

/-- When the steps that meet a condition keep a property, and no other step leads to it, the
property holds along a run exactly if all its steps meet the condition. -/
theorem always_iff_allSteps {P : Config M T → Prop} (Good : Config M T → Prop)
    {ok : Config M T → Label M T → Prop} (hgood : ∀ c l, Good c → Good (step c l))
    (hkeep : ∀ c l, Good c → ok c l → P c → P (step c l))
    (hbreak : ∀ c l, Good c → ¬ok c l → ¬P (step c l))
    {c : Config M T} (hc : Good c) (hP : P c) (labels : List (Label M T)) :
    (∀ first rest, labels = first ++ rest → P (run c first)) ↔ AllSteps ok c labels := by
  induction labels generalizing c with
  | nil =>
      refine ⟨fun _ => trivial, ?_⟩
      rintro - first rest hnil
      rw [(List.append_eq_nil_iff.mp hnil.symm).1]
      exact hP
  | cons l labels ih =>
      constructor
      · intro h
        have hnext : P (step c l) := h [l] labels rfl
        have hl : ok c l := by
          by_contra hl
          exact hbreak c l hc hl hnext
        refine ⟨hl, (ih (hgood c l hc) hnext).mp ?_⟩
        rintro first rest rfl
        exact h (l :: first) rest rfl
      · rintro ⟨hl, hrest⟩ first rest hlabels
        have hnext := hkeep c l hc hl hP
        cases first with
        | nil => exact hP
        | cons l' first =>
            obtain ⟨rfl, hlabels'⟩ := List.cons.inj hlabels
            exact (ih (hgood c l hc) hnext).mpr hrest first rest hlabels'

/-! ## The operations of the threads -/

/-- What is left of every program calls operations that satisfy `ok` only. -/
def ThreadsWithin (ok : I.Op → Prop) (c : Config M T) : Prop := ∀ t, (c.threads t).All ok

omit [DecidableEq T] in
theorem threadsWithin_idle (ok : I.Op → Prop) (w : M.World) :
    ThreadsWithin ok (idle w : Config M T) := fun _ => trivial

omit [DecidableEq T] in
theorem ThreadsWithin.head {ok : I.Op → Prop} {c : Config M T} (h : ThreadsWithin ok c) {t : T}
    {op : I.Op} (hop : (c.threads t).head? = some op) : ok op := by
  have hthread := h t
  cases hprog : c.threads t with
  | ret a => simp [hprog, Prog.head?] at hop
  | raise e => simp [hprog, Prog.head?] at hop
  | call op' k =>
      rw [hprog] at hthread
      have hop' : op' = op := by simpa [hprog, Prog.head?] using hop
      exact hop' ▸ hthread.1

theorem ThreadsWithin.update {ok : I.Op → Prop} {c : Config M T} (h : ThreadsWithin ok c) {t : T}
    {prog : Prog I Unit} (hprog : prog.All ok) (w : M.World) :
    ThreadsWithin ok (⟨w, Function.update c.threads t prog⟩ : Config M T) := by
  intro t'
  by_cases ht : t' = t
  · subst ht
    simpa using hprog
  · simpa [ht] using h t'

/-- When every job is within `ok`, so are the threads. -/
theorem ThreadsWithin.step {ok : I.Op → Prop}
    (hstart : ∀ job w prog w', M.start job w = some (prog, w') → prog.All ok) {c : Config M T}
    (h : ThreadsWithin ok c) (l : Label M T) : ThreadsWithin ok (Machine.step c l) := by
  cases l with
  | act t choice =>
      cases hprog : c.threads t with
      | ret a => rwa [step_act_finished (by rw [hprog]; rfl)]
      | raise e => rwa [step_act_finished (by rw [hprog]; rfl)]
      | call op k =>
          rw [step_act hprog]
          have hcall := h t
          rw [hprog] at hcall
          exact h.update (hcall.2 _) _
  | env e => exact h
  | spawn t job =>
      cases hhead : (c.threads t).head? with
      | some op => rwa [step_spawn_of_head_eq_some hhead]
      | none =>
          cases hjob : M.start job c.world with
          | none => rwa [step_spawn_of_start_eq_none hjob]
          | some started =>
              rw [step_spawn hhead hjob]
              exact h.update (hstart _ _ _ _ hjob) _

/-! ## Invariants of a run -/

/-- `Inv` relates the world to the protocol phases of the threads, and every
kind of step keeps it.  Only operations that meet `cond` are considered, and a
thread starts a job in a final phase. -/
structure IsInvariant {P : Type} (δ : Protocol I P) (final : P → Prop)
    (cond : M.World → I.Op → M.Choice → Prop)
    (Inv : M.World → (T → P) → Prop) : Prop where
  act : ∀ {w phases t op choice p}, Inv w phases → cond w op choice →
    δ (phases t) op (M.handle op choice w).1 p →
      Inv (M.handle op choice w).2 (Function.update phases t p)
  env : ∀ {w phases} e, Inv w phases → Inv (M.environ e w) phases
  spawn : ∀ {w phases} t {job prog w'}, Inv w phases → final (phases t) →
    M.start job w = some (prog, w') →
      ∃ p, Follows δ final p prog ∧ Inv w' (Function.update phases t p)

section Invariant

variable {P : Type} {δ : Protocol I P} {final : P → Prop}
  {cond : M.World → I.Op → M.Choice → Prop} {Inv : M.World → (T → P) → Prop}

/-- The phases describe what is left of the programs, and the invariant holds. -/
def Tracks (δ : Protocol I P) (final : P → Prop) (Inv : M.World → (T → P) → Prop)
    (c : Config M T) : Prop :=
  ∃ phases, Inv c.world phases ∧ ∀ t, Follows δ final (phases t) (c.threads t)

omit [DecidableEq T] in
theorem tracks_idle {w : M.World} {phases : T → P} (h : Inv w phases)
    (hfinal : ∀ t, final (phases t)) : Tracks δ final Inv (idle w) :=
  ⟨phases, h, hfinal⟩

theorem tracks_update {c : Config M T} {w : M.World} {phases : T → P} {t : T}
    {p : P} {prog : Prog I Unit} (hInv : Inv w (Function.update phases t p))
    (hprog : Follows δ final p prog)
    (hthreads : ∀ t, Follows δ final (phases t) (c.threads t)) :
    Tracks δ final Inv (⟨w, Function.update c.threads t prog⟩ : Config M T) := by
  refine ⟨Function.update phases t p, hInv, ?_⟩
  intro t'
  by_cases ht : t' = t
  · subst ht
    simpa using hprog
  · simpa [ht] using hthreads t'

omit [DecidableEq T] in
/-- A program that has finished ended in a final phase. -/
theorem final_of_head_eq_none {p : P} {prog : Prog I Unit} (hhead : prog.head? = none)
    (hprog : Follows δ final p prog) : final p := by
  cases prog with
  | ret a => exact hprog
  | raise e => exact hprog
  | call op k => simp [Prog.head?] at hhead

/-- The same with a condition on whole steps: a job may also be started in the light of what the
other threads have left to do. -/
structure IsGuardedInvariant (δ : Protocol I P) (final : P → Prop)
    (ok : Config M T → Label M T → Prop) (Inv : M.World → (T → P) → Prop) : Prop where
  act : ∀ {c : Config M T} {phases t op choice p}, Inv c.world phases →
    (c.threads t).head? = some op → ok c (.act t choice) →
    δ (phases t) op (M.handle op choice c.world).1 p →
      Inv (M.handle op choice c.world).2 (Function.update phases t p)
  env : ∀ {c : Config M T} {phases} e, Inv c.world phases → ok c (.env e) →
    Inv (M.environ e c.world) phases
  spawn : ∀ {c : Config M T} {phases} t {job prog w'}, Inv c.world phases →
    (∀ t, Follows δ final (phases t) (c.threads t)) → ok c (.spawn t job) → final (phases t) →
    M.start job c.world = some (prog, w') →
      ∃ p, Follows δ final p prog ∧ Inv w' (Function.update phases t p)

theorem Tracks.guardedStep {ok : Config M T → Label M T → Prop}
    (hinv : IsGuardedInvariant δ final ok Inv) {c : Config M T} {l : Label M T}
    (h : Tracks δ final Inv c) (hl : ok c l) : Tracks δ final Inv (Machine.step c l) := by
  obtain ⟨phases, hworld, hthreads⟩ := h
  cases l with
  | act t choice =>
      cases hprog : c.threads t with
      | ret a =>
          rw [step_act_finished (by rw [hprog]; rfl)]
          exact ⟨phases, hworld, hthreads⟩
      | raise e =>
          rw [step_act_finished (by rw [hprog]; rfl)]
          exact ⟨phases, hworld, hthreads⟩
      | call op k =>
          rw [step_act hprog]
          have hcall : Follows δ final (phases t) (.call op k) := hprog ▸ hthreads t
          obtain ⟨p, hδ, hk⟩ := hcall (M.handle op choice c.world).1
          exact tracks_update (hinv.act hworld (by rw [hprog]; rfl) hl hδ) hk hthreads
  | env e => exact ⟨phases, hinv.env e hworld hl, hthreads⟩
  | spawn t job =>
      cases hhead : (c.threads t).head? with
      | some op =>
          rw [step_spawn_of_head_eq_some hhead]
          exact ⟨phases, hworld, hthreads⟩
      | none =>
          cases hstart : M.start job c.world with
          | none =>
              rw [step_spawn_of_start_eq_none hstart]
              exact ⟨phases, hworld, hthreads⟩
          | some started =>
              rw [step_spawn hhead hstart]
              have hfinal := final_of_head_eq_none hhead (hthreads t)
              obtain ⟨p, hfollows, hworld'⟩ := hinv.spawn t hworld hthreads hl hfinal hstart
              exact tracks_update hworld' hfollows hthreads

theorem Tracks.guardedRun {ok : Config M T → Label M T → Prop}
    (hinv : IsGuardedInvariant δ final ok Inv) {c : Config M T} {labels : List (Label M T)}
    (h : Tracks δ final Inv c) (hlabels : AllSteps ok c labels) :
    Tracks δ final Inv (Machine.run c labels) := by
  induction labels generalizing c with
  | nil => exact h
  | cons l rest ih => exact ih (h.guardedStep hinv hlabels.1) hlabels.2

theorem IsInvariant.guarded (hinv : IsInvariant δ final cond Inv) :
    IsGuardedInvariant δ final (Executes cond) Inv where
  act hworld hhead hl hδ := hinv.act hworld (hl _ hhead) hδ
  env e hworld _ := hinv.env e hworld
  spawn t _ _ _ hworld _ _ hfinal hstart := hinv.spawn t hworld hfinal hstart

theorem Tracks.step (hinv : IsInvariant δ final cond Inv) {c : Config M T}
    {l : Label M T} (h : Tracks δ final Inv c) (hl : Executes cond c l) :
    Tracks δ final Inv (Machine.step c l) :=
  h.guardedStep hinv.guarded hl

/-- The invariant rule: along a schedule whose steps meet the condition, the
invariant holds of every configuration reached. -/
theorem Tracks.run (hinv : IsInvariant δ final cond Inv) {c : Config M T}
    {labels : List (Label M T)} (h : Tracks δ final Inv c)
    (hlabels : AllSteps (Executes cond) c labels) :
    Tracks δ final Inv (Machine.run c labels) := by
  induction labels generalizing c with
  | nil => exact h
  | cons l rest ih => exact ih (h.step hinv hlabels.1) hlabels.2

/-- What the invariant says of each operation where it is executed holds of
every step of such a schedule. -/
theorem Tracks.allSteps (hinv : IsInvariant δ final cond Inv)
    {good : M.World → I.Op → M.Choice → Prop}
    (hgood : ∀ {w phases t op choice p}, Inv w phases → cond w op choice →
      δ (phases t) op (M.handle op choice w).1 p → good w op choice)
    {c : Config M T} {labels : List (Label M T)} (h : Tracks δ final Inv c)
    (hlabels : AllSteps (Executes cond) c labels) :
    AllSteps (Executes good) c labels := by
  induction labels generalizing c with
  | nil => trivial
  | cons l rest ih =>
      refine ⟨?_, ih (h.step hinv hlabels.1) hlabels.2⟩
      cases l with
      | act t choice =>
          intro op hop
          obtain ⟨phases, hworld, hthreads⟩ := h
          have hcond : cond c.world op choice := hlabels.1 op hop
          cases hprog : c.threads t with
          | ret a => simp [hprog, Prog.head?] at hop
          | raise e => simp [hprog, Prog.head?] at hop
          | call op' k =>
              have hop' : op' = op := by simpa [hprog, Prog.head?] using hop
              subst hop'
              have hcall : Follows δ final (phases t) (.call op' k) := hprog ▸ hthreads t
              obtain ⟨p, hδ, -⟩ := hcall (M.handle op' choice c.world).1
              exact hgood hworld hcond hδ
      | env e => trivial
      | spawn t job => trivial

end Invariant

end Machine

end Support
