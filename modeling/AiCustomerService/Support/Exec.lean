import AiCustomerService.Support.Program

/-!
# Executing a program

A program executes its operations one after the other against a world.  A handler says how an
operation answers and which world it leaves.
-/

namespace Support.Prog

variable {I : Interface} {α β W : Type}

/-- How the operations act on the world. -/
abbrev Handler (I : Interface) (W : Type) := (op : I.Op) → W → Except I.Err (I.Res op) × W

/-- The outcome of a program, and the world that it leaves. -/
def exec (handler : Handler I W) : W → Prog I α → Except I.Err α × W
  | w, .ret a => (.ok a, w)
  | w, .raise e => (.error e, w)
  | w, .call op k => exec handler (handler op w).2 (k (handler op w).1)

variable {handler : Handler I W} {w : W}

@[simp]
theorem exec_ret (a : α) : exec handler w (.ret a) = (.ok a, w) := rfl

/-- An operation is executed, and the rest goes on from its answer. -/
theorem exec_perform_bind (op : I.Op) (f : I.Res op → Prog I α) :
    exec handler w (perform op >>= f) =
      match handler op w with
      | (.ok a, w') => exec handler w' (f a)
      | (.error e, w') => (.error e, w') := by
  change exec handler (handler op w).2 (ofExcept (handler op w).1 >>= f) = _
  rcases handler op w with ⟨outcome, w'⟩
  cases outcome with
  | ok a => rfl
  | error e => rfl

/-- A sequence: the second program is executed in the world that the first one leaves. -/
theorem exec_bind (m : Prog I α) (f : α → Prog I β) :
    exec handler w (m >>= f) =
      match exec handler w m with
      | (.ok a, w') => exec handler w' (f a)
      | (.error e, w') => (.error e, w') := by
  induction m generalizing w with
  | ret a => rfl
  | raise e => rfl
  | call op k ih => exact ih _

/-- A handler is executed in the world in which the protected program has raised. -/
theorem exec_tryCatch (m : Prog I α) (onError : I.Err → Prog I α) :
    exec handler w (m.tryCatch onError) =
      match exec handler w m with
      | (.ok a, w') => (.ok a, w')
      | (.error e, w') => exec handler w' (onError e) := by
  induction m generalizing w with
  | ret a => rfl
  | raise e => rfl
  | call op k ih => exact ih _

/-- What every operation keeps holds in the end. -/
theorem exec_induction (Inv : W → Prop) (hstep : ∀ op w, Inv w → Inv (handler op w).2)
    (m : Prog I α) (h : Inv w) : Inv (exec handler w m).2 := by
  induction m generalizing w with
  | ret a => exact h
  | raise e => exact h
  | call op k ih => exact ih _ (hstep op w h)

/-- A value that is returned at the end does not touch the world. -/
theorem exec_bind_ret (m : Prog I α) (b : β) :
    (exec handler w (m >>= fun _ => ret b)).2 = (exec handler w m).2 := by
  rw [exec_bind]
  rcases exec handler w m with ⟨outcome, w'⟩
  cases outcome with
  | ok a => rfl
  | error e => rfl

end Support.Prog
