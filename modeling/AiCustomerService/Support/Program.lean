import Mathlib.Logic.Function.Basic

/-!
# Programs over an interface of fallible operations

A worker is a program whose only effects are the operations of an interface:
statements sent to a database, calls to a service.  Each operation answers
with a value or with an error, and a program can catch the error.  A program
is a tree of operations, so nothing is assumed about when its operations are
executed or what happens between two of them.
-/

namespace Support

/-- The operations a program may call, what each of them returns and the
errors they raise. -/
structure Interface where
  Op : Type
  Res : Op → Type
  Err : Type

/-- A program: a value, an uncaught error, or an operation and what follows
each of its answers. -/
inductive Prog (I : Interface) (α : Type) : Type
  | ret (a : α)
  | raise (e : I.Err)
  | call (op : I.Op) (k : Except I.Err (I.Res op) → Prog I α)

namespace Prog

variable {I : Interface} {α β : Type}

/-- Sequencing; an uncaught error skips the continuation. -/
def bind : Prog I α → (α → Prog I β) → Prog I β
  | ret a, f => f a
  | raise e, _ => raise e
  | call op k, f => call op fun r => (k r).bind f

/-- `try: m except e: handler e`. -/
def tryCatch : Prog I α → (I.Err → Prog I α) → Prog I α
  | ret a, _ => ret a
  | raise e, handler => handler e
  | call op k, handler => call op fun r => (k r).tryCatch handler

/-- What a program does once an operation has answered. -/
def ofExcept : Except I.Err α → Prog I α
  | .ok a => ret a
  | .error e => raise e

/-- Call one operation and return its value or raise its error. -/
def perform (op : I.Op) : Prog I (I.Res op) := call op ofExcept

instance : Monad (Prog I) where
  pure := ret
  bind := bind

instance : LawfulMonad (Prog I) :=
  LawfulMonad.mk' _ (fun m => by induction m with
      | ret a => rfl
      | raise e => rfl
      | call op k ih => exact congrArg (call op) (funext ih))
    (fun _ _ => rfl)
    (fun m f g => by induction m with
      | ret a => rfl
      | raise e => rfl
      | call op k ih => exact congrArg (call op) (funext ih))

/-- Run a program and return its value or the error that it raises. -/
def attempt (m : Prog I α) : Prog I (Except I.Err α) :=
  (m.bind fun a => ret (.ok a)).tryCatch fun e => ret (.error e)

/-- The operation that the program executes next. -/
def head? : Prog I α → Option I.Op
  | call op _ => some op
  | _ => none

@[simp]
theorem pure_eq_ret (a : α) : (pure a : Prog I α) = ret a := rfl

@[simp]
theorem bind_ret (a : α) (f : α → Prog I β) : (ret a >>= f) = f a := rfl

@[simp]
theorem bind_raise (e : I.Err) (f : α → Prog I β) :
    ((raise e : Prog I α) >>= f) = raise e := rfl

@[simp]
theorem bind_call (op : I.Op) (k : Except I.Err (I.Res op) → Prog I α)
    (f : α → Prog I β) : (call op k >>= f) = call op fun r => k r >>= f := rfl

@[simp]
theorem tryCatch_ret (a : α) (handler : I.Err → Prog I α) :
    (ret a).tryCatch handler = ret a := rfl

@[simp]
theorem tryCatch_raise (e : I.Err) (handler : I.Err → Prog I α) :
    (raise e).tryCatch handler = handler e := rfl

@[simp]
theorem tryCatch_call (op : I.Op) (k : Except I.Err (I.Res op) → Prog I α)
    (handler : I.Err → Prog I α) :
    (call op k).tryCatch handler = call op fun r => (k r).tryCatch handler := rfl

end Prog

/-! ## The operations of a program -/

namespace Prog

variable {I : Interface} {α β : Type} {ok : I.Op → Prop}

/-- Every operation that the program may execute satisfies `ok`. -/
def All (ok : I.Op → Prop) : Prog I α → Prop
  | ret _ => True
  | raise _ => True
  | call op k => ok op ∧ ∀ r, All ok (k r)

@[simp]
theorem all_ret (a : α) : (ret a : Prog I α).All ok := trivial

@[simp]
theorem all_raise (e : I.Err) : (raise e : Prog I α).All ok := trivial

theorem all_perform {op : I.Op} (h : ok op) : (perform op).All ok := by
  refine ⟨h, ?_⟩
  intro r
  cases r with
  | ok a => trivial
  | error e => trivial

theorem All.bind {m : Prog I α} {f : α → Prog I β} (hm : m.All ok) (hf : ∀ a, (f a).All ok) :
    (m >>= f).All ok := by
  induction m with
  | ret a => exact hf a
  | raise e => trivial
  | call op k ih => exact ⟨hm.1, fun r => ih r (hm.2 r)⟩

theorem All.tryCatch {m : Prog I α} {handler : I.Err → Prog I α} (hm : m.All ok)
    (hhandler : ∀ e, (handler e).All ok) : (m.tryCatch handler).All ok := by
  induction m with
  | ret a => trivial
  | raise e => exact hhandler e
  | call op k ih => exact ⟨hm.1, fun r => ih r (hm.2 r)⟩

theorem All.attempt {m : Prog I α} (hm : m.All ok) : m.attempt.All ok := by
  have hreturn : (m >>= fun a => (ret (.ok a) : Prog I (Except I.Err α))).All ok :=
    hm.bind fun a => all_ret _
  exact hreturn.tryCatch fun e => all_ret _

theorem All.mono {ok' : I.Op → Prop} {m : Prog I α} (hm : m.All ok)
    (himp : ∀ op, ok op → ok' op) : m.All ok' := by
  induction m with
  | ret a => trivial
  | raise e => trivial
  | call op k ih => exact ⟨himp op hm.1, fun r => ih r (hm.2 r)⟩

theorem all_of_forall (h : ∀ op, ok op) (m : Prog I α) : m.All ok := by
  induction m with
  | ret a => trivial
  | raise e => trivial
  | call op k ih => exact ⟨h op, ih⟩

theorem All.mapM {γ : Type} {f : γ → Prog I β} {items : List γ}
    (h : ∀ item ∈ items, (f item).All ok) : (items.mapM f).All ok := by
  induction items with
  | nil => trivial
  | cons item rest ih =>
      rw [List.mapM_cons]
      apply (h item List.mem_cons_self).bind
      intro first
      apply (ih fun other hother => h other (List.mem_cons_of_mem _ hother)).bind
      intro others
      trivial

/-- Where the program returns, its value satisfies `Q`. -/
def Returns (Q : α → Prop) : Prog I α → Prop
  | ret a => Q a
  | raise _ => True
  | call _ k => ∀ r, Returns Q (k r)

theorem Returns.bind {Q : α → Prop} {R : β → Prop} {m : Prog I α} {f : α → Prog I β}
    (hm : m.Returns Q) (hf : ∀ a, Q a → (f a).Returns R) : (m >>= f).Returns R := by
  induction m with
  | ret a => exact hf a hm
  | raise e => trivial
  | call op k ih => exact fun r => ih r (hm r)

theorem Returns.tryCatch {Q : α → Prop} {m : Prog I α} {handler : I.Err → Prog I α}
    (hm : m.Returns Q) (hhandler : ∀ e, (handler e).Returns Q) :
    (m.tryCatch handler).Returns Q := by
  induction m with
  | ret a => exact hm
  | raise e => exact hhandler e
  | call op k ih => exact fun r => ih r (hm r)

theorem Returns.mono {Q R : α → Prop} {m : Prog I α} (hm : m.Returns Q)
    (himp : ∀ a, Q a → R a) : m.Returns R := by
  induction m with
  | ret a => exact himp a hm
  | raise e => trivial
  | call op k ih => exact fun r => ih r (hm r)

theorem returns_true (m : Prog I α) : m.Returns fun _ => True := by
  induction m with
  | ret a => trivial
  | raise e => trivial
  | call op k ih => exact ih

/-- A sequence whose second program is known for the values that the first one returns. -/
theorem All.bind_of {Q : α → Prop} {m : Prog I α} {f : α → Prog I β} (hm : m.All ok)
    (hQ : m.Returns Q) (hf : ∀ a, Q a → (f a).All ok) : (m >>= f).All ok := by
  induction m with
  | ret a => exact hf a hQ
  | raise e => trivial
  | call op k ih => exact ⟨hm.1, fun r => ih r (hm.2 r) (hQ r)⟩

end Prog

/-! ## Programs as parts of others -/

namespace Prog

variable {I J : Interface} {α : Type}

/-- How the operations of one interface are operations of another one. -/
structure Embedding (I J : Interface) where
  op : I.Op → J.Op
  answer : (op' : I.Op) → Except J.Err (J.Res (op op')) → Except I.Err (I.Res op')
  raises : I.Err → J.Err

/-- The program as a part of one over the other interface. -/
def embed (e : Embedding I J) : Prog I α → Prog J α
  | ret a => ret a
  | raise err => raise (e.raises err)
  | call op k => call (e.op op) fun r => embed e (k (e.answer op r))

end Prog

/-! ## Protocols -/

/-- A protocol says, for a phase, which operation may be called and in which
phase an answer leaves the caller.  An operation is forbidden in a phase when
no phase is related to its answers. -/
abbrev Protocol (I : Interface) (P : Type) :=
  P → (op : I.Op) → Except I.Err (I.Res op) → P → Prop

/-- Whatever the operations answer, the program calls only what the protocol
allows from phase `p` on, and it ends in a phase and with an outcome that
satisfy `Q`. -/
def FollowsTo {I : Interface} {P α : Type} (δ : Protocol I P)
    (Q : P → Except I.Err α → Prop) : P → Prog I α → Prop
  | p, .ret a => Q p (.ok a)
  | p, .raise e => Q p (.error e)
  | p, .call op k => ∀ r, ∃ p', δ p op r p' ∧ FollowsTo δ Q p' (k r)

/-- The program calls only what the protocol allows, and it ends in a final phase. -/
def Follows {I : Interface} {P α : Type} (δ : Protocol I P) (final : P → Prop) (p : P)
    (prog : Prog I α) : Prop :=
  FollowsTo δ (fun p' _ => final p') p prog

section Rules

variable {I : Interface} {P α β : Type} {δ : Protocol I P} {p : P}
  {Q R : P → Except I.Err α → Prop} {S : P → Except I.Err β → Prop}

theorem FollowsTo.mono {m : Prog I α} (h : FollowsTo δ R p m)
    (hRQ : ∀ p' r, R p' r → Q p' r) : FollowsTo δ Q p m := by
  induction m generalizing p with
  | ret a => exact hRQ p _ h
  | raise e => exact hRQ p _ h
  | call op k ih =>
      intro r
      obtain ⟨p', hδ, hk⟩ := h r
      exact ⟨p', hδ, ih r hk⟩

theorem FollowsTo.follows {m : Prog I α} {final : P → Prop} (h : FollowsTo δ R p m)
    (hfinal : ∀ p' r, R p' r → final p') : Follows δ final p m :=
  h.mono hfinal

/-- One operation: every answer has a phase to go to. -/
theorem FollowsTo.perform {op : I.Op} {Q : P → Except I.Err (I.Res op) → Prop}
    (h : ∀ r, ∃ p', δ p op r p' ∧ Q p' r) : FollowsTo δ Q p (Prog.perform op) := by
  intro r
  obtain ⟨p', hδ, hQ⟩ := h r
  refine ⟨p', hδ, ?_⟩
  cases r with
  | ok a => exact hQ
  | error e => exact hQ

/-- Sequencing: the second program follows from wherever the first returns. -/
theorem FollowsTo.bind {m : Prog I α} {f : α → Prog I β} (h : FollowsTo δ R p m)
    (hok : ∀ p' a, R p' (.ok a) → FollowsTo δ S p' (f a))
    (herror : ∀ p' e, R p' (.error e) → S p' (.error e)) :
    FollowsTo δ S p (m >>= f) := by
  induction m generalizing p with
  | ret a => exact hok p a h
  | raise e => exact herror p e h
  | call op k ih =>
      intro r
      obtain ⟨p', hδ, hk⟩ := h r
      exact ⟨p', hδ, ih r hk⟩

/-- A handler follows from wherever the protected program raises. -/
theorem FollowsTo.tryCatch {m : Prog I α} {handler : I.Err → Prog I α}
    (h : FollowsTo δ R p m) (hok : ∀ p' a, R p' (.ok a) → Q p' (.ok a))
    (herror : ∀ p' e, R p' (.error e) → FollowsTo δ Q p' (handler e)) :
    FollowsTo δ Q p (m.tryCatch handler) := by
  induction m generalizing p with
  | ret a => exact hok p a h
  | raise e => exact herror p e h
  | call op k ih =>
      intro r
      obtain ⟨p', hδ, hk⟩ := h r
      exact ⟨p', hδ, ih r hk⟩

/-- Catching the exception of a program turns its outcome into a value. -/
theorem FollowsTo.attempt {m : Prog I α} (h : FollowsTo δ Q p m) :
    FollowsTo δ (fun p' r => ∃ outcome, r = .ok outcome ∧ Q p' outcome) p m.attempt := by
  have hreturn : FollowsTo δ (fun p' r => Q p' (r >>= id)) p
      (m >>= fun a => (Prog.ret (.ok a) : Prog I (Except I.Err α))) := by
    apply h.bind
    · intro p' a hQ
      exact hQ
    · intro p' e hQ
      exact hQ
  apply hreturn.tryCatch
  · intro p' outcome hQ
    exact ⟨outcome, rfl, hQ⟩
  · intro p' e hQ
    exact ⟨.error e, rfl, hQ⟩

/-- A program whose operations are all allowed in a phase stays in it. -/
theorem FollowsTo.of_all {ok : I.Op → Prop} {m : Prog I α} (hm : m.All ok)
    (hδ : ∀ op r, ok op → δ p op r p) : FollowsTo δ (fun p' _ => p' = p) p m := by
  induction m with
  | ret a => rfl
  | raise e => rfl
  | call op k ih => exact fun r => ⟨p, hδ op r hm.1, ih r (hm.2 r)⟩

/-- A program follows the protocol of its own interface as a part of another one. -/
theorem FollowsTo.embed {J : Interface} {δ' : Protocol J P} (e : Prog.Embedding I J)
    {m : Prog I α} (h : FollowsTo δ Q p m)
    (hδ : ∀ p op r p', δ p op (e.answer op r) p' → δ' p (e.op op) r p') :
    FollowsTo δ' (fun p' _ => ∃ r, Q p' r) p (m.embed e) := by
  induction m generalizing p with
  | ret a => exact ⟨_, h⟩
  | raise err => exact ⟨_, h⟩
  | call op k ih =>
      intro r
      obtain ⟨p', hp', hk⟩ := h (e.answer op r)
      exact ⟨p', hδ p op r p' hp', ih _ hk⟩

end Rules

end Support
