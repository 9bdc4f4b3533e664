import Mathlib.Data.List.Basic

/-!
# Validation with collected errors

A validation returns a value, or is rejected with at least one error, or an exception passes through
it.  The parts of a record are all validated before it is rejected; an exception ends it at once.
-/

namespace Support

/-- A step on the way to the part of a value that is in error. -/
inductive LocItem where
  | key (name : String)
  | index (n : Nat)
  deriving DecidableEq

/-- What is wrong with a part of a value; `text` is what a check of the program says of it. -/
structure LineError where
  loc : List LocItem
  type : String
  text : Option String
  deriving DecidableEq

/-- The result of a validation. -/
inductive Validated (E α : Type) where
  | valid (value : α)
  | invalid (first : LineError) (rest : List LineError)
  | raised (exception : E)

namespace Validated

variable {E α β : Type}

/-- Rejected with one error. -/
def fail (type : String) : Validated E α := .invalid ⟨[], type, none⟩ []

/-- Continue with the value. -/
def map (f : α → β) : Validated E α → Validated E β
  | valid a => .valid (f a)
  | invalid first rest => .invalid first rest
  | raised e => .raised e

/-- Validate two parts and collect their errors. -/
def ap : Validated E (α → β) → Validated E α → Validated E β
  | raised e, _ => .raised e
  | _, raised e => .raised e
  | valid f, valid a => .valid (f a)
  | valid _, invalid first rest => .invalid first rest
  | invalid first rest, valid _ => .invalid first rest
  | invalid first rest, invalid second others => .invalid first (rest ++ second :: others)

instance : Functor (Validated E) where
  map := map

instance : Applicative (Validated E) where
  pure := .valid
  seq f x := f.ap (x ())

/-- The errors of a part, with the way to it. -/
def within (item : LocItem) : Validated E α → Validated E α
  | invalid first rest =>
      .invalid { first with loc := item :: first.loc }
        (rest.map fun error => { error with loc := item :: error.loc })
  | other => other

/-- Continue with a step on the value, if there is one. -/
def andThen (x : Validated E α) (f : α → Validated E β) : Validated E β :=
  match x with
  | valid a => f a
  | invalid first rest => .invalid first rest
  | raised e => .raised e

/-- Check the value; `rejection?` is the text of an exception that rejects it. -/
def after (rejection? : E → Option String) (check : α → Except E Unit) (x : Validated E α) :
    Validated E α :=
  x.andThen fun a =>
    match check a with
    | .ok _ => .valid a
    | .error e =>
        match rejection? e with
        | some text => .invalid ⟨[], "value_error", some text⟩ []
        | none => .raised e

/-- Validate the items of a list, counted from `n`. -/
def each (f : α → Validated E β) : Nat → List α → Validated E (List β)
  | _, [] => .valid []
  | n, item :: rest => List.cons <$> (f item).within (.index n) <*> each f (n + 1) rest

/-! ## Results -/

/-- The exception that passed through. -/
def raised? : Validated E α → Option E
  | raised e => some e
  | _ => none

theorem raised?_eq_some {x : Validated E α} {e : E} : x.raised? = some e ↔ x = .raised e := by
  cases x with
  | valid a => simp [raised?]
  | invalid first rest => simp [raised?]
  | raised e' => simp [raised?]

/-- No exception passes through. -/
def Quiet (x : Validated E α) : Prop := x.raised? = none

@[simp]
theorem quiet_valid (a : α) : (.valid a : Validated E α).Quiet := rfl

@[simp]
theorem quiet_invalid (first : LineError) (rest : List LineError) :
    (.invalid first rest : Validated E α).Quiet := rfl

@[simp]
theorem quiet_pure (a : α) : (pure a : Validated E α).Quiet := rfl

@[simp]
theorem quiet_fail (type : String) : (fail type : Validated E α).Quiet := rfl

@[simp]
theorem raised?_map (f : α → β) (x : Validated E α) : (f <$> x).raised? = x.raised? := by
  cases x with
  | valid a => rfl
  | invalid first rest => rfl
  | raised e => rfl

@[simp]
theorem raised?_seq (f : Validated E (α → β)) (x : Validated E α) :
    (f <*> x).raised? = f.raised?.or x.raised? := by
  cases f with
  | raised e => rfl
  | valid g =>
      cases x with
      | valid a => rfl
      | invalid first rest => rfl
      | raised e => rfl
  | invalid first rest =>
      cases x with
      | valid a => rfl
      | invalid second others => rfl
      | raised e => rfl

@[simp]
theorem raised?_within (item : LocItem) (x : Validated E α) :
    (x.within item).raised? = x.raised? := by
  cases x with
  | valid a => rfl
  | invalid first rest => rfl
  | raised e => rfl

theorem Quiet.map {x : Validated E α} (h : x.Quiet) (f : α → β) : (f <$> x).Quiet := by
  rw [Quiet, raised?_map, h]

theorem Quiet.seq {f : Validated E (α → β)} {x : Validated E α} (hf : f.Quiet) (hx : x.Quiet) :
    (f <*> x).Quiet := by
  rw [Quiet, raised?_seq, hf, hx, Option.or_none]

theorem Quiet.within {x : Validated E α} (h : x.Quiet) (item : LocItem) :
    (x.within item).Quiet := by
  rw [Quiet, raised?_within, h]

theorem Quiet.andThen {x : Validated E α} (h : x.Quiet) {f : α → Validated E β}
    (hf : ∀ a, (f a).Quiet) : (x.andThen f).Quiet := by
  cases x with
  | valid a => exact hf a
  | invalid first rest => rfl
  | raised e => cases h

theorem andThen_eq_valid {x : Validated E α} {f : α → Validated E β} {b : β} :
    x.andThen f = .valid b ↔ ∃ a, x = .valid a ∧ f a = .valid b := by
  cases x with
  | valid a => simp [Validated.andThen]
  | invalid first rest => simp [Validated.andThen]
  | raised e => simp [Validated.andThen]

theorem andThen_eq_raised {x : Validated E α} (h : x.Quiet) {f : α → Validated E β} {e : E} :
    x.andThen f = .raised e ↔ ∃ a, x = .valid a ∧ f a = .raised e := by
  cases x with
  | valid a => simp [Validated.andThen]
  | invalid first rest => simp [Validated.andThen]
  | raised e' => cases h

/-- A record raises what its last part does if the others raise nothing. -/
theorem seq_eq_raised {f : Validated E (α → β)} (h : f.Quiet) {x : Validated E α} {e : E} :
    f <*> x = .raised e ↔ x = .raised e := by
  rw [← raised?_eq_some, raised?_seq, h, Option.none_or, raised?_eq_some]

theorem map_eq_raised {f : α → β} {x : Validated E α} {e : E} :
    f <$> x = .raised e ↔ x = .raised e := by
  rw [← raised?_eq_some, raised?_map, raised?_eq_some]

theorem within_eq_raised {item : LocItem} {x : Validated E α} {e : E} :
    x.within item = .raised e ↔ x = .raised e := by
  rw [← raised?_eq_some, raised?_within, raised?_eq_some]

theorem Quiet.ne_raised {x : Validated E α} (h : x.Quiet) (e : E) : x ≠ .raised e := by
  rintro rfl
  cases h

/-- Items that raise nothing make a list that raises nothing. -/
theorem quiet_each {f : α → Validated E β} (hf : ∀ a, (f a).Quiet) (n : Nat) (items : List α) :
    (each f n items).Quiet := by
  induction items generalizing n with
  | nil => rfl
  | cons item rest ih => exact (((hf item).within _).map _).seq (ih (n + 1))

/-- A record is valid where both of its parts are. -/
theorem seq_eq_valid {f : Validated E (α → β)} {x : Validated E α} {b : β} :
    f <*> x = .valid b ↔ ∃ g a, f = .valid g ∧ x = .valid a ∧ g a = b := by
  constructor
  · intro h
    cases f with
    | raised e => cases h
    | invalid first rest =>
        cases x with
        | valid a => cases h
        | invalid second others => cases h
        | raised e => cases h
    | valid g =>
        cases x with
        | valid a => exact ⟨g, a, rfl, rfl, Validated.valid.inj h⟩
        | invalid first rest => cases h
        | raised e => cases h
  · rintro ⟨g, a, rfl, rfl, rfl⟩
    rfl

theorem map_eq_valid {f : α → β} {x : Validated E α} {b : β} :
    f <$> x = .valid b ↔ ∃ a, x = .valid a ∧ f a = b := by
  constructor
  · intro h
    cases x with
    | valid a => exact ⟨a, rfl, Validated.valid.inj h⟩
    | invalid first rest => cases h
    | raised e => cases h
  · rintro ⟨a, rfl, rfl⟩
    rfl

theorem within_eq_valid {item : LocItem} {x : Validated E α} {a : α} :
    x.within item = .valid a ↔ x = .valid a := by
  cases x with
  | valid b => rfl
  | invalid first rest => simp [Validated.within]
  | raised e => rfl

section After

variable {rejection? : E → Option String} {check : α → Except E Unit} {x : Validated E α} {a : α}

/-- What passes a check has a value that the check accepts. -/
theorem after_eq_valid : x.after rejection? check = .valid a ↔ x = .valid a ∧ check a = .ok () := by
  cases x with
  | invalid first rest => simp [after, andThen]
  | raised e => simp [after, andThen]
  | valid b =>
      constructor
      · intro h
        dsimp only [after, andThen] at h
        split at h
        · rename_i hcheck
          obtain rfl := Validated.valid.inj h
          exact ⟨rfl, hcheck⟩
        · split at h
          · cases h
          · cases h
      · rintro ⟨hb, hcheck⟩
        obtain rfl := Validated.valid.inj hb
        dsimp only [after, andThen]
        rw [hcheck]

/-- An exception passes through a check if it passed through the validation, or if the check raises
one that does not reject the value. -/
theorem raised?_after (e : E) :
    (x.after rejection? check).raised? = some e ↔
      x.raised? = some e ∨ ∃ a, x = .valid a ∧ check a = .error e ∧ rejection? e = none := by
  cases x with
  | invalid first rest => simp [after, andThen, raised?]
  | raised e' => simp [after, andThen, raised?]
  | valid a =>
      constructor
      · intro h
        right
        refine ⟨a, rfl, ?_⟩
        dsimp only [after, andThen] at h
        split at h
        · cases h
        · rename_i e' hcheck
          split at h
          · cases h
          · rename_i hnone
            obtain rfl : e' = e := Option.some.inj h
            exact ⟨hcheck, hnone⟩
      · rintro (h | ⟨b, hb, hcheck, hnone⟩)
        · cases h
        · obtain rfl := Validated.valid.inj hb
          dsimp only [after, andThen]
          rw [hcheck]
          dsimp only
          rw [hnone]
          rfl

end After

end Validated

end Support
