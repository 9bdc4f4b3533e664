import AiCustomerService.Support.Program

/-!
# Traces of a program

A trace lists the operations that a program executed with their answers.  Nothing is
assumed about the answers, so a statement about every trace is a statement about every
behaviour of what is called.
-/

namespace Support

/-- An operation with its answer. -/
abbrev Interface.Event (I : Interface) := (op : I.Op) × Except I.Err (I.Res op)

namespace Prog

variable {I : Interface} {α β : Type}

/-- The program can execute the operations of the trace and end with the outcome. -/
inductive Runs : Prog I α → List I.Event → Except I.Err α → Prop
  | ret (a : α) : Runs (.ret a) [] (.ok a)
  | raise (e : I.Err) : Runs (.raise e) [] (.error e)
  | call {op : I.Op} {k : Except I.Err (I.Res op) → Prog I α} {trace : List I.Event}
      {outcome : Except I.Err α} (r : Except I.Err (I.Res op)) (h : Runs (k r) trace outcome) :
      Runs (.call op k) (⟨op, r⟩ :: trace) outcome

theorem runs_perform {op : I.Op} (r : Except I.Err (I.Res op)) :
    Runs (perform op) [⟨op, r⟩] r := by
  apply Runs.call r
  cases r with
  | ok a => exact .ret a
  | error e => exact .raise e

theorem runs_perform_iff {op : I.Op} {trace : List I.Event}
    {outcome : Except I.Err (I.Res op)} :
    Runs (perform op) trace outcome ↔ trace = [⟨op, outcome⟩] := by
  constructor
  · intro h
    cases h with
    | call r h =>
        cases r with
        | ok a =>
            cases h
            rfl
        | error e =>
            cases h
            rfl
  · rintro rfl
    exact runs_perform outcome

/-- A sequence of programs that both return. -/
theorem Runs.bind {m : Prog I α} {f : α → Prog I β} {before after : List I.Event} {a : α}
    {outcome : Except I.Err β} (h : Runs m before (.ok a)) (h' : Runs (f a) after outcome) :
    Runs (m >>= f) (before ++ after) outcome := by
  generalize hdone : (Except.ok a : Except I.Err α) = done at h
  induction h with
  | ret b =>
      cases hdone
      exact h'
  | raise e => cases hdone
  | call r _ ih => exact .call r (ih hdone)

/-- What a sequence that returns has executed. -/
theorem runs_bind_ok {m : Prog I α} {f : α → Prog I β} {trace : List I.Event} {b : β} :
    Runs (m >>= f) trace (.ok b) ↔
      ∃ before a after, trace = before ++ after ∧ Runs m before (.ok a) ∧
        Runs (f a) after (.ok b) := by
  constructor
  · intro h
    induction m generalizing trace with
    | ret a => exact ⟨[], a, trace, rfl, .ret a, h⟩
    | raise e => cases h
    | call op k ih =>
        cases h with
        | call r h =>
            obtain ⟨before, a, after, rfl, hfirst, hrest⟩ := ih r h
            exact ⟨⟨op, r⟩ :: before, a, after, rfl, .call r hfirst, hrest⟩
  · rintro ⟨before, a, after, rfl, hfirst, hrest⟩
    exact hfirst.bind hrest

/-- What a sequence has executed: the first program raised, or both have run. -/
theorem Runs.of_bind {m : Prog I α} {f : α → Prog I β} {trace : List I.Event}
    {outcome : Except I.Err β} (h : Runs (m >>= f) trace outcome) :
    (∃ e, Runs m trace (.error e) ∧ outcome = .error e) ∨
      ∃ before a after, trace = before ++ after ∧ Runs m before (.ok a) ∧
        Runs (f a) after outcome := by
  induction m generalizing trace with
  | ret a => exact Or.inr ⟨[], a, trace, rfl, .ret a, h⟩
  | raise e =>
      cases h
      exact Or.inl ⟨e, .raise e, rfl⟩
  | call op k ih =>
      cases h with
      | call r h =>
          rcases ih r h with ⟨e, hraise, rfl⟩ | ⟨before, a, after, rfl, hfirst, hrest⟩
          · exact Or.inl ⟨e, .call r hraise, rfl⟩
          · exact Or.inr ⟨⟨op, r⟩ :: before, a, after, rfl, .call r hfirst, hrest⟩

@[simp]
theorem runs_ret_iff {a b : α} {trace : List I.Event} :
    Runs (.ret a : Prog I α) trace (.ok b) ↔ trace = [] ∧ a = b := by
  constructor
  · intro h
    cases h
    exact ⟨rfl, rfl⟩
  · rintro ⟨rfl, rfl⟩
    exact .ret a

/-- A program whose exceptions are all handled returns what the protected program returns,
or what the handler returns. -/
theorem runs_tryCatch_ret {m : Prog I α} {handler : I.Err → α} {trace : List I.Event}
    {outcome : Except I.Err α} (h : Runs (m.tryCatch fun e => .ret (handler e)) trace outcome) :
    (∃ a, Runs m trace (.ok a) ∧ outcome = .ok a) ∨
      ∃ e, Runs m trace (.error e) ∧ outcome = .ok (handler e) := by
  induction m generalizing trace with
  | ret a =>
      cases h
      exact Or.inl ⟨a, .ret a, rfl⟩
  | raise e =>
      cases h
      exact Or.inr ⟨e, .raise e, rfl⟩
  | call op k ih =>
      cases h with
      | call r h =>
          rcases ih r h with ⟨a, ha, houtcome⟩ | ⟨e, he, houtcome⟩
          · exact Or.inl ⟨a, .call r ha, houtcome⟩
          · exact Or.inr ⟨e, .call r he, houtcome⟩

theorem Runs.tryCatch {m : Prog I α} {handler : I.Err → Prog I α} {trace : List I.Event} {a : α}
    (h : Runs m trace (.ok a)) : Runs (m.tryCatch handler) trace (.ok a) := by
  generalize hdone : (Except.ok a : Except I.Err α) = done at h
  induction h with
  | ret b => exact hdone ▸ .ret b
  | raise e => cases hdone
  | call r _ ih => exact .call r (ih hdone)

theorem Runs.attempt {m : Prog I α} {trace : List I.Event} {a : α} (h : Runs m trace (.ok a)) :
    Runs m.attempt trace (.ok (.ok a)) := by
  have hreturn : Runs (m >>= fun a => (.ret (.ok a) : Prog I (Except I.Err α))) (trace ++ [])
      (.ok (.ok a)) := h.bind (.ret _)
  rw [List.append_nil] at hreturn
  exact hreturn.tryCatch

/-- What a program computes with the operations that it executes: where it follows a protocol
whose phase is a fold over the events, it ends in the phase of its trace. -/
theorem Runs.fold {P : Type} {f : P → I.Event → P} {Q : P → Except I.Err α → Prop} {p : P}
    {m : Prog I α} {trace : List I.Event} {outcome : Except I.Err α} (h : Runs m trace outcome)
    (hm : FollowsTo (fun p op r p' => p' = f p ⟨op, r⟩) Q p m) : Q (trace.foldl f p) outcome := by
  induction h generalizing p with
  | ret a => exact hm
  | raise e => exact hm
  | call r _ ih =>
      obtain ⟨p', rfl, hrest⟩ := hm r
      exact ih hrest

/-- The run of a program whose operations answer as a function says. -/
def traceOf (answer : (op : I.Op) → Except I.Err (I.Res op)) :
    Prog I α → List I.Event × Except I.Err α
  | .ret a => ([], .ok a)
  | .raise e => ([], .error e)
  | .call op k =>
      let rest := traceOf answer (k (answer op))
      (⟨op, answer op⟩ :: rest.1, rest.2)

/-- Every program has a run, whatever its operations answer. -/
theorem runs_traceOf (answer : (op : I.Op) → Except I.Err (I.Res op)) (m : Prog I α) :
    Runs m (traceOf answer m).1 (traceOf answer m).2 := by
  induction m with
  | ret a => exact .ret a
  | raise e => exact .raise e
  | call op k ih => exact .call (answer op) (ih (answer op))

/-! ## What a program can return -/

/-- The program can return the value while its operations answer as `ok` allows. -/
def CanReturn (ok : I.Event → Prop) (m : Prog I α) (a : α) : Prop :=
  ∃ trace, Runs m trace (.ok a) ∧ ∀ event ∈ trace, ok event

section CanReturn

variable {ok : I.Event → Prop}

@[simp]
theorem canReturn_ret_iff {a b : α} : CanReturn ok (.ret a : Prog I α) b ↔ b = a := by
  constructor
  · rintro ⟨trace, hruns, -⟩
    exact (runs_ret_iff.mp hruns).2.symm
  · rintro rfl
    exact ⟨[], .ret b, by simp⟩

@[simp]
theorem not_canReturn_raise {e : I.Err} {a : α} : ¬CanReturn ok (.raise e : Prog I α) a := by
  rintro ⟨trace, hruns, -⟩
  cases hruns

theorem canReturn_call_iff {op : I.Op} {k : Except I.Err (I.Res op) → Prog I α} {a : α} :
    CanReturn ok (.call op k) a ↔ ∃ r, ok ⟨op, r⟩ ∧ CanReturn ok (k r) a := by
  constructor
  · rintro ⟨trace, hruns, hok⟩
    cases hruns with
    | call r hrest =>
        refine ⟨r, hok _ List.mem_cons_self, _, hrest, ?_⟩
        exact fun event hevent => hok event (List.mem_cons_of_mem _ hevent)
  · rintro ⟨r, hr, trace, hruns, hok⟩
    refine ⟨_, .call r hruns, ?_⟩
    intro event hevent
    rcases List.mem_cons.mp hevent with rfl | hrest
    · exact hr
    · exact hok event hrest

theorem canReturn_bind_iff {m : Prog I α} {f : α → Prog I β} {b : β} :
    CanReturn ok (m >>= f) b ↔ ∃ a, CanReturn ok m a ∧ CanReturn ok (f a) b := by
  constructor
  · rintro ⟨trace, hruns, hok⟩
    obtain ⟨before, a, after, rfl, hfirst, hrest⟩ := runs_bind_ok.mp hruns
    refine ⟨a, ⟨before, hfirst, ?_⟩, after, hrest, ?_⟩
    · exact fun event hevent => hok event (List.mem_append_left _ hevent)
    · exact fun event hevent => hok event (List.mem_append_right _ hevent)
  · rintro ⟨a, ⟨before, hfirst, hbefore⟩, after, hrest, hafter⟩
    refine ⟨before ++ after, hfirst.bind hrest, ?_⟩
    intro event hevent
    exact (List.mem_append.mp hevent).elim (hbefore event) (hafter event)

/-- One operation returns what it may answer. -/
theorem canReturn_perform_iff {op : I.Op} {a : I.Res op} :
    CanReturn ok (perform op) a ↔ ok ⟨op, .ok a⟩ := by
  unfold perform
  rw [canReturn_call_iff]
  constructor
  · rintro ⟨r, hr, hreturn⟩
    cases r with
    | ok b =>
        cases canReturn_ret_iff.mp hreturn
        exact hr
    | error e => exact absurd hreturn not_canReturn_raise
  · intro h
    exact ⟨.ok a, h, canReturn_ret_iff.mpr rfl⟩

/-- A program goes on with the only value that can be returned. -/
theorem canReturn_bind_iff_of {m : Prog I α} {f : α → Prog I β} {a : α} {b : β}
    (h : ∀ a', CanReturn ok m a' ↔ a' = a) :
    CanReturn ok (m >>= f) b ↔ CanReturn ok (f a) b := by
  rw [canReturn_bind_iff]
  constructor
  · rintro ⟨a', ha', hrest⟩
    rwa [(h a').mp ha'] at hrest
  · intro hrest
    exact ⟨a, (h a).mpr rfl, hrest⟩

/-- One operation whose exception is caught. -/
theorem canReturn_attempt_perform_iff {op : I.Op} {r : Except I.Err (I.Res op)} :
    CanReturn ok (perform op).attempt r ↔ ok ⟨op, r⟩ := by
  have hcall : (perform op).attempt = .call op fun r => .ret r := by
    refine congrArg (call op) (funext fun r => ?_)
    cases r with
    | ok a => rfl
    | error e => rfl
  rw [hcall, canReturn_call_iff]
  constructor
  · rintro ⟨r', hr, hreturn⟩
    cases canReturn_ret_iff.mp hreturn
    exact hr
  · intro h
    exact ⟨r, h, canReturn_ret_iff.mpr rfl⟩

theorem CanReturn.tryCatch {m : Prog I α} {handler : I.Err → Prog I α} {a : α}
    (h : CanReturn ok m a) : CanReturn ok (m.tryCatch handler) a := by
  obtain ⟨trace, hruns, hok⟩ := h
  exact ⟨trace, hruns.tryCatch, hok⟩

/-- A program whose exceptions are handled returns a value of its own or one of the handler. -/
theorem canReturn_of_tryCatch_ret {m : Prog I α} {handler : I.Err → α} {a : α}
    (h : CanReturn ok (m.tryCatch fun e => .ret (handler e)) a) :
    CanReturn ok m a ∨ ∃ e, a = handler e := by
  obtain ⟨trace, hruns, hok⟩ := h
  rcases runs_tryCatch_ret hruns with ⟨b, hb, heq⟩ | ⟨e, -, heq⟩
  · cases heq
    exact Or.inl ⟨trace, hb, hok⟩
  · cases heq
    exact Or.inr ⟨e, rfl⟩

/-- What the program returns whatever its operations answer, it returns here. -/
theorem Returns.canReturn {Q : α → Prop} {m : Prog I α} (h : m.Returns Q) {a : α}
    (ha : CanReturn ok m a) : Q a := by
  induction m with
  | ret b => exact canReturn_ret_iff.mp ha ▸ h
  | raise e => exact absurd ha not_canReturn_raise
  | call op k ih =>
      obtain ⟨r, -, hrest⟩ := canReturn_call_iff.mp ha
      exact ih r (h r) hrest

end CanReturn

end Prog

end Support
