import Mathlib.Data.Nat.Notation

/-!
# Graphs of nodes that act on a state

A run starts at a node; each node acts on the state, or fails, and then says, from the state that it
leaves, which node is next or that the run ends.  A graph is considered on nodes that the edges do
not leave; where a rank falls along the edges every run ends.
-/

namespace Support

/-- What the nodes of a graph do and where they lead. -/
structure FlowGraph (N S : Type) where
  action : N → S → Option S
  next : N → S → Option N

namespace FlowGraph

variable {N S : Type} {g : FlowGraph N S}

/-- The nodes that are visited from a node on with the state at the end, if no node fails and the
run ends within `fuel` nodes. -/
def runFrom (g : FlowGraph N S) : ℕ → N → S → Option (List N × S)
  | 0, _, _ => none
  | fuel + 1, n, s =>
      match g.action n s with
      | none => none
      | some acted =>
          match g.next n acted with
          | none => some ([n], acted)
          | some m => (runFrom g fuel m acted).map fun rest => (n :: rest.1, rest.2)

/-- The second node can follow the first. -/
def Edge (g : FlowGraph N S) (a b : N) : Prop := ∃ s, g.next a s = some b

/-- A run can end at the node. -/
def IsExit (g : FlowGraph N S) (a : N) : Prop := ∃ s, g.next a s = none

/-- The edges do not leave the nodes. -/
def Closed (g : FlowGraph N S) (nodes : List N) : Prop := ∀ a ∈ nodes, ∀ b, g.Edge a b → b ∈ nodes

theorem runFrom_succ_of_none {fuel : ℕ} {n : N} {s acted : S} (hact : g.action n s = some acted)
    (h : g.next n acted = none) : g.runFrom (fuel + 1) n s = some ([n], acted) := by
  rw [runFrom, hact]
  dsimp only
  rw [h]

theorem runFrom_succ_of_some {fuel : ℕ} {n m : N} {s acted : S}
    (hact : g.action n s = some acted) (h : g.next n acted = some m) :
    g.runFrom (fuel + 1) n s =
      (g.runFrom fuel m acted).map fun rest => (n :: rest.1, rest.2) := by
  rw [runFrom, hact]
  dsimp only
  rw [h]

/-- A run acts at its first node and ends there or goes on. -/
theorem runFrom_cases {fuel : ℕ} {n : N} {s : S} {result : List N × S}
    (h : g.runFrom (fuel + 1) n s = some result) :
    ∃ acted, g.action n s = some acted ∧
      ((g.next n acted = none ∧ result = ([n], acted)) ∨
        ∃ m rest, g.next n acted = some m ∧ g.runFrom fuel m acted = some rest ∧
          result = (n :: rest.1, rest.2)) := by
  cases hact : g.action n s with
  | none => rw [runFrom, hact] at h; cases h
  | some acted =>
      refine ⟨acted, rfl, ?_⟩
      cases hnext : g.next n acted with
      | none =>
          rw [runFrom_succ_of_none hact hnext] at h
          exact .inl ⟨rfl, (Option.some.inj h).symm⟩
      | some m =>
          rw [runFrom_succ_of_some hact hnext] at h
          obtain ⟨rest, hrest, hresult⟩ := Option.map_eq_some_iff.mp h
          exact .inr ⟨m, rest, rfl, hrest, hresult.symm⟩

/-- Where no node fails and a rank falls along the edges, every run ends. -/
theorem exists_runFrom {nodes : List N} {rank : N → ℕ} (hclosed : g.Closed nodes)
    (hrank : ∀ a ∈ nodes, ∀ b, g.Edge a b → rank b < rank a)
    (hacts : ∀ a ∈ nodes, ∀ s, (g.action a s).isSome = true) {fuel : ℕ} {n : N}
    (hn : n ∈ nodes) (hfuel : rank n < fuel) (s : S) :
    ∃ result, g.runFrom fuel n s = some result := by
  induction fuel generalizing n s with
  | zero => cases hfuel
  | succ fuel ih =>
      obtain ⟨acted, hact⟩ := Option.isSome_iff_exists.mp (hacts n hn s)
      cases hnext : g.next n acted with
      | none => exact ⟨_, runFrom_succ_of_none hact hnext⟩
      | some m =>
          have hless := hrank n hn m ⟨acted, hnext⟩
          obtain ⟨result, hresult⟩ := ih (hclosed n hn m ⟨acted, hnext⟩) (by omega) acted
          refine ⟨(n :: result.1, result.2), ?_⟩
          rw [runFrom_succ_of_some hact hnext, hresult]
          rfl

/-- What the nodes do to a state one after another is known at the end of a run. -/
theorem runFrom_fold {T : Type} {observe : S → T} {f : T → N → T}
    (hstep : ∀ n s acted, g.action n s = some acted → observe acted = f (observe s) n) {fuel : ℕ}
    {n : N} {s : S} {result : List N × S} (h : g.runFrom fuel n s = some result) :
    observe result.2 = result.1.foldl f (observe s) := by
  induction fuel generalizing n s result with
  | zero => cases h
  | succ fuel ih =>
      obtain ⟨acted, hact, ⟨-, rfl⟩ | ⟨m, rest, -, hrest, rfl⟩⟩ := runFrom_cases h
      · exact hstep n s acted hact
      · rw [List.foldl_cons, ← hstep n s acted hact]
        exact ih hrest

/-- A relation between a state and what every node makes of it relates the ends of a run. -/
theorem runFrom_rel {R : S → S → Prop} {nodes : List N} (hclosed : g.Closed nodes)
    (htrans : ∀ s t u, R s t → R t u → R s u)
    (hstep : ∀ a ∈ nodes, ∀ s acted, g.action a s = some acted → R s acted) {fuel : ℕ} {n : N}
    (hn : n ∈ nodes) {s : S} {result : List N × S} (h : g.runFrom fuel n s = some result) :
    R s result.2 := by
  induction fuel generalizing n s result with
  | zero => cases h
  | succ fuel ih =>
      obtain ⟨acted, hact, ⟨-, rfl⟩ | ⟨m, rest, hnext, hrest, rfl⟩⟩ := runFrom_cases h
      · exact hstep n hn s acted hact
      · exact htrans s acted rest.2 (hstep n hn s acted hact)
          (ih (hclosed n hn m ⟨acted, hnext⟩) hrest)

/-- States that every node takes to related states and after which it leads on in the same way are
left by runs through the same nodes. -/
theorem runFrom_simulates {R : S → S → Prop} {nodes : List N} (hclosed : g.Closed nodes)
    (hstep : ∀ a ∈ nodes, ∀ s t acted, R s t → g.action a s = some acted →
      ∃ acted', g.action a t = some acted' ∧ R acted acted' ∧ g.next a acted' = g.next a acted)
    {fuel : ℕ} {n : N} (hn : n ∈ nodes) {s t : S} (hR : R s t) {result : List N × S}
    (h : g.runFrom fuel n s = some result) :
    ∃ final, g.runFrom fuel n t = some (result.1, final) ∧ R result.2 final := by
  induction fuel generalizing n s t result with
  | zero => cases h
  | succ fuel ih =>
      obtain ⟨acted, hact, hcases⟩ := runFrom_cases h
      obtain ⟨acted', hact', hR', hnext'⟩ := hstep n hn s t acted hR hact
      rcases hcases with ⟨hnext, rfl⟩ | ⟨m, rest, hnext, hrest, rfl⟩
      · exact ⟨acted', runFrom_succ_of_none hact' (hnext'.trans hnext), hR'⟩
      · obtain ⟨final, hfinal, hRfinal⟩ := ih (hclosed n hn m ⟨acted, hnext⟩) hR' hrest
        refine ⟨final, ?_, hRfinal⟩
        rw [runFrom_succ_of_some hact' (hnext'.trans hnext), hfinal]
        rfl

/-! ## Paths -/

/-- The nodes of a run. -/
inductive IsPath (g : FlowGraph N S) : List N → Prop
  | last {a : N} (h : g.IsExit a) : IsPath g [a]
  | cons {a b : N} {rest : List N} (h : g.Edge a b) (hrest : IsPath g (b :: rest)) :
      IsPath g (a :: b :: rest)

/-- The nodes of a run form a path from the node at which it starts. -/
theorem isPath_runFrom {fuel : ℕ} {n : N} {s : S} {result : List N × S}
    (h : g.runFrom fuel n s = some result) :
    ∃ rest, result.1 = n :: rest ∧ g.IsPath (n :: rest) := by
  induction fuel generalizing n s result with
  | zero => cases h
  | succ fuel ih =>
      obtain ⟨acted, hact, ⟨hnext, rfl⟩ | ⟨m, rest, hnext, hrest, rfl⟩⟩ := runFrom_cases h
      · exact ⟨[], rfl, .last ⟨acted, hnext⟩⟩
      · obtain ⟨others, hothers, hpath⟩ := ih hrest
        exact ⟨m :: others, congrArg (n :: ·) hothers, .cons ⟨acted, hnext⟩ hpath⟩

end FlowGraph

end Support
