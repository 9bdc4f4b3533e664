import AiCustomerService.Python.Datetime
import AiCustomerService.Support.Validated

/-!
# Contract models

The models of `app_v2/domain`: records without further fields whose fields are read from untrusted
data.  How the data is read is a parameter, with the error types of what cannot be read.
-/

namespace AiCustomerService

open Support

/-- How untrusted data is read in the fields of a model. -/
structure Pydantic (Value : Type) where
  mapping : Value → Except String (Dict String Value)
  list : Value → Except String (List Value)
  text : Value → Except String String
  strictText : Value → Except String String
  literal : Value → Option String
  boolean : Value → Except String Bool
  integer : Value → Except String ℤ
  datetime : Value → Except String PyDatetime
  isNone : Value → Bool

/-- A reader of decoded JSON for evaluating examples: nothing is converted but the texts of
datetimes. -/
def Pydantic.plain : Pydantic Json where
  mapping := fun
    | .obj fields => .ok fields
    | _ => .error "dict_type"
  list := fun
    | .arr items => .ok items
    | _ => .error "list_type"
  text := fun
    | .str text => .ok text
    | _ => .error "string_type"
  strictText := fun
    | .str text => .ok text
    | _ => .error "string_type"
  literal := fun
    | .str text => some text
    | _ => none
  boolean := fun
    | .bool b => .ok b
    | _ => .error "bool_type"
  integer := fun
    | .int n => .ok n
    | _ => .error "int_type"
  datetime := fun
    | .str text => (PyDatetime.ofIsoText text).elim (.error "datetime_parsing") .ok
    | _ => .error "datetime_type"
  isNone := fun
    | .null => true
    | _ => false

/-- A text with `min_length=1`. -/
abbrev NonEmptyText := {text : String // text ≠ ""}

/-- The text of an exception that rejects the data; any other one passes through. -/
def rejectionText? : PyError → Option String
  | .valueError message => some ("Value error, " ++ message)
  | _ => none

/-- What is read, or an error. -/
def ofRead {α : Type} : Except String α → Validated PyError α
  | .ok a => .valid a
  | .error type => .fail type

/-- A text with `min_length=1`. -/
def nonEmptyText {Value : Type} (read : Value → Except String String) (value : Value) :
    Validated PyError NonEmptyText :=
  (ofRead (read value)).andThen fun text =>
    if h : text = "" then .fail "string_too_short" else .valid ⟨text, h⟩

/-- A field of a record, and what stands for one that is missing. -/
def recordField {Value α : Type} (missing : Validated PyError α) (fields : Dict String Value)
    (name : String) (validator : Value → Validated PyError α) : Validated PyError α :=
  ((fields.get? name).elim missing validator).within (.key name)

/-- A field without a default. -/
def requiredField {Value α : Type} (fields : Dict String Value) (name : String)
    (validator : Value → Validated PyError α) : Validated PyError α :=
  recordField (.fail "missing") fields name validator

/-- A field with the default `None`. -/
def optionalField {Value α : Type} (fields : Dict String Value) (name : String)
    (validator : Value → Validated PyError (Option α)) : Validated PyError (Option α) :=
  recordField (.valid none) fields name validator

/-- `extra="forbid"`. -/
def forbidExtra {Value : Type} (names : List String) (fields : Dict String Value) :
    Validated PyError Unit :=
  let extra := fun name : String => (⟨[.key name], "extra_forbidden", none⟩ : LineError)
  match (fields.entries.map Prod.fst).filter fun name => name ∉ names with
  | [] => .valid ()
  | first :: rest => .invalid (extra first) (rest.map extra)

namespace Pydantic

variable {Value : Type} (py : Pydantic Value) {α : Type}

/-- A `Literal`. -/
def oneOf (options : List (String × α)) (value : Value) : Validated PyError α :=
  match (py.literal value).bind fun text => options.lookup text with
  | some option => .valid option
  | none => .fail "literal_error"

/-- `T | None`. -/
def nullable (validator : Value → Validated PyError α) (value : Value) :
    Validated PyError (Option α) :=
  if py.isNone value then .valid none else some <$> validator value

/-- `list[T]`. -/
def listOf (validator : Value → Validated PyError α) (value : Value) :
    Validated PyError (List α) :=
  (ofRead (py.list value)).andThen (Validated.each validator 0)

/-- `list[T]` with `min_length=1`. -/
def nonEmptyListOf (validator : Value → Validated PyError α) (value : Value) :
    Validated PyError {items : List α // items ≠ []} :=
  (py.listOf validator value).andThen fun items =>
    if h : items = [] then .fail "too_short" else .valid ⟨items, h⟩

/-- An integer with `ge=1`. -/
def positiveInteger (value : Value) : Validated PyError {n : ℤ // 1 ≤ n} :=
  (ofRead (py.integer value)).andThen fun n =>
    if h : 1 ≤ n then .valid ⟨n, h⟩ else .fail "greater_than_equal"

/-- The fields of a model, none of which may be left over. -/
def model (names : List String) (fieldsOf : Dict String Value → Validated PyError α)
    (value : Value) : Validated PyError α :=
  (ofRead (py.mapping value)).andThen fun fields =>
    (fun a _ => a) <$> fieldsOf fields <*> forbidExtra names fields

end Pydantic

/-! ## Fields raise nothing -/

section Quiet

variable {Value α : Type} {py : Pydantic Value}

@[simp]
theorem quiet_ofRead (read : Except String α) : (ofRead read).Quiet := by
  cases read with
  | ok a => rfl
  | error type => rfl

@[simp]
theorem quiet_nonEmptyText (read : Value → Except String String) (value : Value) :
    (nonEmptyText read value).Quiet := by
  refine (quiet_ofRead _).andThen fun text => ?_
  split
  · rfl
  · rfl

theorem quiet_recordField {missing : Validated PyError α} (hmissing : missing.Quiet)
    {validator : Value → Validated PyError α} (h : ∀ value, (validator value).Quiet)
    (fields : Dict String Value) (name : String) :
    (recordField missing fields name validator).Quiet := by
  refine Validated.Quiet.within ?_ _
  cases fields.get? name with
  | none => exact hmissing
  | some value => exact h value

theorem quiet_requiredField {validator : Value → Validated PyError α}
    (h : ∀ value, (validator value).Quiet) (fields : Dict String Value) (name : String) :
    (requiredField fields name validator).Quiet :=
  quiet_recordField (Validated.quiet_fail _) h fields name

theorem quiet_optionalField {validator : Value → Validated PyError (Option α)}
    (h : ∀ value, (validator value).Quiet) (fields : Dict String Value) (name : String) :
    (optionalField fields name validator).Quiet :=
  quiet_recordField (Validated.quiet_valid _) h fields name

@[simp]
theorem quiet_forbidExtra (names : List String) (fields : Dict String Value) :
    (forbidExtra names fields).Quiet := by
  unfold forbidExtra
  dsimp only
  split
  · rfl
  · rfl

@[simp]
theorem quiet_oneOf (options : List (String × α)) (value : Value) :
    (py.oneOf options value).Quiet := by
  unfold Pydantic.oneOf
  split
  · rfl
  · rfl

theorem quiet_nullable {validator : Value → Validated PyError α}
    (h : ∀ value, (validator value).Quiet) (value : Value) :
    (py.nullable validator value).Quiet := by
  unfold Pydantic.nullable
  split
  · rfl
  · exact (h value).map _

theorem quiet_listOf {validator : Value → Validated PyError α}
    (h : ∀ value, (validator value).Quiet) (value : Value) : (py.listOf validator value).Quiet :=
  (quiet_ofRead _).andThen fun items => Validated.quiet_each h 0 items

theorem quiet_nonEmptyListOf {validator : Value → Validated PyError α}
    (h : ∀ value, (validator value).Quiet) (value : Value) :
    (py.nonEmptyListOf validator value).Quiet := by
  refine (quiet_listOf h value).andThen fun items => ?_
  split
  · rfl
  · rfl

@[simp]
theorem quiet_positiveInteger (value : Value) : (py.positiveInteger value).Quiet := by
  refine (quiet_ofRead _).andThen fun n => ?_
  split
  · rfl
  · rfl

theorem quiet_model {names : List String} {fieldsOf : Dict String Value → Validated PyError α}
    (h : ∀ fields, (fieldsOf fields).Quiet) (value : Value) :
    (py.model names fieldsOf value).Quiet :=
  (quiet_ofRead _).andThen fun fields => ((h fields).map _).seq (quiet_forbidExtra names fields)

end Quiet

/-! ## What a model is made of -/

section Parts

variable {Value α : Type} {py : Pydantic Value} {names : List String} {name : String}
variable {fieldsOf : Dict String Value → Validated PyError α} {fields : Dict String Value}
variable {validator : Value → Validated PyError α} {value : Value} {a : α} {e : PyError}

theorem ofRead_eq_valid {read : Except String α} : ofRead read = .valid a ↔ read = .ok a := by
  cases read with
  | ok b => simp [ofRead]
  | error type => simp [ofRead, Validated.fail]

theorem requiredField_eq_valid :
    requiredField fields name validator = .valid a ↔
      ∃ found, fields.get? name = some found ∧ validator found = .valid a := by
  unfold requiredField recordField
  rw [Validated.within_eq_valid]
  cases fields.get? name with
  | none => simp [Validated.fail]
  | some found => simp

theorem requiredField_eq_raised :
    requiredField fields name validator = .raised e ↔
      ∃ found, fields.get? name = some found ∧ validator found = .raised e := by
  unfold requiredField recordField
  rw [Validated.within_eq_raised]
  cases fields.get? name with
  | none => simp [Validated.fail]
  | some found => simp

/-- The fields of a valid model are valid. -/
theorem fields_of_model (h : py.model names fieldsOf value = .valid a) :
    ∃ fields, py.mapping value = .ok fields ∧ fieldsOf fields = .valid a := by
  obtain ⟨fields, hfields, h⟩ := Validated.andThen_eq_valid.mp h
  obtain ⟨g, _, hg, -, rfl⟩ := Validated.seq_eq_valid.mp h
  obtain ⟨b, hb, rfl⟩ := Validated.map_eq_valid.mp hg
  exact ⟨fields, ofRead_eq_valid.mp hfields, hb⟩

/-- An exception that passes through a model comes from its fields. -/
theorem model_eq_raised :
    py.model names fieldsOf value = .raised e ↔
      ∃ fields, py.mapping value = .ok fields ∧ fieldsOf fields = .raised e := by
  have hforbid : ∀ fields : Dict String Value,
      (forbidExtra names fields).raised? = none := quiet_forbidExtra names
  unfold Pydantic.model
  rw [Validated.andThen_eq_raised (quiet_ofRead _)]
  simp only [ofRead_eq_valid, ← Validated.raised?_eq_some, Validated.raised?_seq,
    Validated.raised?_map, hforbid, Option.or_none]

end Parts

end AiCustomerService
