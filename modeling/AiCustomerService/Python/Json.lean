import AiCustomerService.Support.Dict
import Mathlib.Data.Rat.Init
import Mathlib.Algebra.Order.Field.Rat
import Mathlib.Data.Rat.Floor
import Mathlib.Data.List.DropRight

/-!
# JSON values as the program sees them

Slot memories, command payloads and service results are decoded JSON: values
of the dynamic type `Json`.  The definitions below are the built-in operations
that the program applies to such values: truth testing, `str`, `int`,
`dict.get` and `==`.
-/

namespace AiCustomerService

open Support

/-- A decoded JSON value.  A float carries its value and its `repr`. -/
inductive Json where
  | null
  | bool (b : Bool)
  | int (n : Int)
  | float (value : ℚ) (repr : String)
  | str (s : String)
  | arr (items : List Json)
  | obj (fields : Dict String Json)
  deriving Inhabited

/-- A JSON object. -/
abbrev JsonObject := Dict String Json

/-- The exceptions raised by the modelled code, with their messages. -/
inductive PyError where
  | valueError (message : String)
  | typeError (message : String)
  | keyError (key : String)
  | attributeError (message : String)
  | schemaError (message : String)
  | databaseError (message : String)
  deriving DecidableEq

/-- The operations of the language whose tables are not part of the repository:
full Unicode lowering, the `repr` of a container, the parsers of `int(text)` and
`float(text)`, the rendering of a float, and the calendar behind
`datetime.isoformat` and `datetime.fromisoformat`. -/
structure Runtime where
  lower : String → String
  reprContainer : Json → String
  intOfText : String → Option Int
  floatOfText : String → Option ℚ
  reprFloat : ℚ → String
  isoFormat : Nat → String
  fromIsoFormat : String → Option Nat

/-- A runtime for evaluating examples on plain texts. -/
def Runtime.plain : Runtime where
  lower := id
  reprContainer := fun _ => ""
  intOfText := String.toInt?
  floatOfText := fun text => (text.toInt?).map fun n => (n : ℚ)
  reprFloat := fun value => toString value
  isoFormat := toString
  fromIsoFormat := String.toNat?

/-- A sequence of two steps returns exactly when both of them do. -/
theorem bind_eq_ok {ε α β : Type} {x : Except ε α} {f : α → Except ε β} {b : β} :
    (x >>= f) = .ok b ↔ ∃ a, x = .ok a ∧ f a = .ok b := by
  cases x with
  | error e => simp [bind, Except.bind]
  | ok a => simp [bind, Except.bind]

theorem map_eq_ok {α β : Type} {x : Except PyError α} {f : α → β} {b : β} :
    (f <$> x) = .ok b ↔ ∃ a, x = .ok a ∧ f a = b := by
  cases x with
  | error e => simp [Functor.map, Except.map]
  | ok a => simp [Functor.map, Except.map]

theorem eq_ok_of_toOption {ε α : Type} {result : Except ε α} (h : result.toOption.isSome) :
    result = .ok (result.toOption.get h) := by
  match result, h with
  | .ok _, _ => rfl

theorem toOption_any_eq_true {ε α : Type} {result : Except ε α} {P : α → Bool} :
    result.toOption.any P = true ↔ ∃ value, result = .ok value ∧ P value = true := by
  cases result with
  | error e => simp [Except.toOption]
  | ok a => simp [Except.toOption]

/-- What a list of steps returns comes from one of its items. -/
theorem mem_mapM_ok {ε α β : Type} {f : α → Except ε β} {items : List α} {results : List β}
    (h : items.mapM f = .ok results) {result : β} (hmem : result ∈ results) :
    ∃ item ∈ items, f item = .ok result := by
  induction items generalizing results with
  | nil =>
      rw [List.mapM_nil] at h
      cases h
      cases hmem
  | cons item rest ih =>
      rw [List.mapM_cons] at h
      obtain ⟨first, hfirst, h⟩ := bind_eq_ok.mp h
      obtain ⟨others, hothers, h⟩ := bind_eq_ok.mp h
      cases h
      rcases List.mem_cons.mp hmem with rfl | htail
      · exact ⟨item, List.mem_cons_self, hfirst⟩
      · obtain ⟨found, hfound, hresult⟩ := ih hothers htail
        exact ⟨found, List.mem_cons_of_mem _ hfound, hresult⟩

/-- Each item of a list of steps has its result among what they return. -/
theorem mapM_ok_of_mem {ε α β : Type} {f : α → Except ε β} {items : List α}
    {results : List β} (h : items.mapM f = .ok results) {item : α} (hmem : item ∈ items) :
    ∃ result ∈ results, f item = .ok result := by
  induction items generalizing results with
  | nil => cases hmem
  | cons first rest ih =>
      rw [List.mapM_cons] at h
      obtain ⟨value, hvalue, h⟩ := bind_eq_ok.mp h
      obtain ⟨others, hothers, h⟩ := bind_eq_ok.mp h
      cases h
      rcases List.mem_cons.mp hmem with rfl | htail
      · exact ⟨value, List.mem_cons_self, hvalue⟩
      · obtain ⟨found, hfound, hresult⟩ := ih hothers htail
        exact ⟨found, List.mem_cons_of_mem _ hfound, hresult⟩

theorem mapM_ok {α β : Type} {f : α → Except PyError β} {items : List α}
    (h : ∀ item ∈ items, ∃ result, f item = .ok result) :
    ∃ results, items.mapM f = .ok results := by
  induction items with
  | nil => exact ⟨[], rfl⟩
  | cons item rest ih =>
      obtain ⟨result, hresult⟩ := h item List.mem_cons_self
      obtain ⟨results, hresults⟩ := ih fun other hmem => h other (List.mem_cons_of_mem _ hmem)
      refine ⟨result :: results, ?_⟩
      rw [List.mapM_cons, hresult, hresults]
      rfl

/-- What a list of steps returns is related to the items one by one. -/
theorem forall₂_of_mapM_ok {α β : Type} {f : α → Except PyError β} {R : α → β → Prop}
    (hstep : ∀ item result, f item = .ok result → R item result) {items : List α}
    {results : List β} (h : items.mapM f = .ok results) : List.Forall₂ R items results := by
  induction items generalizing results with
  | nil =>
      rw [List.mapM_nil] at h
      cases h
      exact .nil
  | cons item rest ih =>
      rw [List.mapM_cons] at h
      obtain ⟨first, hfirst, h⟩ := bind_eq_ok.mp h
      obtain ⟨others, hothers, h⟩ := bind_eq_ok.mp h
      cases h
      exact .cons (hstep item first hfirst) (ih hothers)

/-- Steps that succeed on the images of a list. -/
theorem mapM_map_ok {α β γ : Type} {key : α → β} {f : β → Except PyError γ} {g : α → γ}
    (items : List α) (h : ∀ item, f (key item) = .ok (g item)) :
    (items.map key).mapM f = .ok (items.map g) := by
  induction items with
  | nil => rfl
  | cons item rest ih =>
      rw [List.map_cons, List.mapM_cons, h, ih]
      rfl

/-- What is read of the results of a list of steps is read of the items. -/
theorem filterMap_of_mapM_ok {α β γ : Type} {f : α → Except PyError β} {g : β → Option γ}
    {k : α → Option γ} {items : List α} {results : List β} (h : items.mapM f = .ok results)
    (hstep : ∀ item ∈ items, ∀ result, f item = .ok result → g result = k item) :
    results.filterMap g = items.filterMap k := by
  induction items generalizing results with
  | nil =>
      rw [List.mapM_nil] at h
      cases h
      rfl
  | cons item rest ih =>
      rw [List.mapM_cons] at h
      obtain ⟨first, hfirst, h⟩ := bind_eq_ok.mp h
      obtain ⟨others, hothers, h⟩ := bind_eq_ok.mp h
      cases h
      have hhead := hstep item List.mem_cons_self first hfirst
      have htail := ih hothers fun other hmem => hstep other (List.mem_cons_of_mem _ hmem)
      rw [List.filterMap_cons, List.filterMap_cons, hhead, htail]

/-- What is read of the lists that a list of steps returns is read of the items. -/
theorem flatMap_of_mapM_ok {α β γ : Type} {f : α → Except PyError (List β)} {g : β → Option γ}
    {k : α → List γ} {items : List α} {results : List (List β)} (h : items.mapM f = .ok results)
    (hstep : ∀ item ∈ items, ∀ result ∈ results, f item = .ok result →
      result.filterMap g = k item) :
    results.flatten.filterMap g = items.flatMap k := by
  induction items generalizing results with
  | nil =>
      rw [List.mapM_nil] at h
      cases h
      rfl
  | cons item rest ih =>
      rw [List.mapM_cons] at h
      obtain ⟨first, hfirst, h⟩ := bind_eq_ok.mp h
      obtain ⟨others, hothers, h⟩ := bind_eq_ok.mp h
      cases h
      have hhead := hstep item List.mem_cons_self first List.mem_cons_self hfirst
      have htail := ih hothers fun other hmem result hresult =>
        hstep other (List.mem_cons_of_mem _ hmem) result (List.mem_cons_of_mem _ hresult)
      rw [List.flatten_cons, List.filterMap_append, List.flatMap_cons, hhead, htail]

namespace Json

/-- `bool(value)`. -/
def truthy : Json → Bool
  | null => false
  | bool b => b
  | int n => n ≠ 0
  | float value _ => value ≠ 0
  | str s => s ≠ ""
  | arr items => !items.isEmpty
  | obj fields => !fields.isEmpty

/-- `value or fallback`. -/
def orElse (value fallback : Json) : Json :=
  if value.truthy then value else fallback

/-- `str(value)`. -/
def pyStr (rt : Runtime) : Json → String
  | null => "None"
  | bool true => "True"
  | bool false => "False"
  | int n => toString n
  | float _ repr => repr
  | str s => s
  | value => rt.reprContainer value

/-- `str(value or "")`. -/
def textOrEmpty (rt : Runtime) (value : Json) : String :=
  (value.orElse (str "")).pyStr rt

/-- `int(value)`. -/
def toInt (rt : Runtime) : Json → Except PyError Int
  | int n => .ok n
  | bool b => .ok (if b then 1 else 0)
  | float value _ => .ok (if 0 ≤ value then ⌊value⌋ else ⌈value⌉)
  | str s =>
      match rt.intOfText s with
      | some n => .ok n
      | none => .error (.valueError ("invalid literal for int() with base 10: " ++ s))
  | null => .error (.typeError "int() argument must not be 'NoneType'")
  | arr _ => .error (.typeError "int() argument must not be 'list'")
  | obj _ => .error (.typeError "int() argument must not be 'dict'")

/-- `int(value or 0)`. -/
def intOrZero (rt : Runtime) (value : Json) : Except PyError Int :=
  (value.orElse (int 0)).toInt rt

/-- The object when `isinstance(value, dict)`. -/
def dict? : Json → Option JsonObject
  | obj fields => some fields
  | _ => none

/-- The text when the value is a string. -/
def str? : Json → Option String
  | str s => some s
  | _ => none

/-- `value is False`. -/
def isFalse : Json → Bool
  | bool false => true
  | _ => false

/-- `value is True`. -/
def isTrue : Json → Bool
  | bool true => true
  | _ => false

/-- `value is None`. -/
def isNull : Json → Bool
  | null => true
  | _ => false

/-- `value == text`. -/
def eqText (value : Json) (text : String) : Bool := value.str? = some text

/-- `value if isinstance(value, dict) else {}`. -/
def dictOrEmpty (value : Json) : JsonObject := value.dict?.getD ∅

/-- `value or {}`, on which a method of dictionaries is then called. -/
def mappingOrEmpty (value : Json) : Except PyError JsonObject :=
  match value.orElse (obj ∅) with
  | obj fields => .ok fields
  | _ => .error (.attributeError "object has no attribute 'get'")

/-- `value in {...}` for a set of texts; a container is not hashable. -/
def inTexts (value : Json) (texts : List String) : Except PyError Bool :=
  match value with
  | arr _ => .error (.typeError "unhashable type: 'list'")
  | obj _ => .error (.typeError "unhashable type: 'dict'")
  | str s => .ok (decide (s ∈ texts))
  | _ => .ok false

/-- The text stored in a column for a value; `None` is stored as `NULL`. -/
def columnText (rt : Runtime) : Json → Option String
  | null => none
  | value => some (value.pyStr rt)

/-- The number that `==` compares. -/
def number? : Json → Option ℚ
  | int n => some n
  | bool b => some (if b then 1 else 0)
  | float value _ => some value
  | _ => none

mutual

/-- `a == b`. -/
def pyEq : Json → Json → Bool
  | null, null => true
  | str s, str t => s = t
  | arr xs, arr ys => pyEqItems xs ys
  | obj ⟨xs⟩, obj ys =>
      pyEqEntries xs ys && ys.entries.all fun entry => (xs.lookup entry.1).isSome
  | bool a, b => (number? b) = some (if a then 1 else 0)
  | int a, b => (number? b) = some (a : ℚ)
  | float a _, b => (number? b) = some a
  | _, _ => false

def pyEqItems : List Json → List Json → Bool
  | [], [] => true
  | x :: xs, y :: ys => pyEq x y && pyEqItems xs ys
  | _, _ => false

def pyEqEntries : List (String × Json) → JsonObject → Bool
  | [], _ => true
  | (key, value) :: rest, other =>
      (match other.get? key with
        | some value' => pyEq value value'
        | none => false) && pyEqEntries rest other

end

/-- `None` or a text. -/
def ofText? : Option String → Json
  | some s => str s
  | none => null

@[simp]
theorem truthy_null : null.truthy = false := rfl

@[simp]
theorem truthy_bool (b : Bool) : (bool b).truthy = b := rfl

@[simp]
theorem truthy_int (n : Int) : (int n).truthy = decide (n ≠ 0) := rfl

@[simp]
theorem truthy_str (s : String) : (str s).truthy = decide (s ≠ "") := rfl

@[simp]
theorem toInt_int (rt : Runtime) (n : Int) : (int n).toInt rt = .ok n := rfl

/-- A number counts as itself, zero included. -/
@[simp]
theorem intOrZero_int (rt : Runtime) (n : Int) : (int n).intOrZero rt = .ok n := by
  by_cases hn : n = 0
  · simp [intOrZero, orElse, hn]
  · simp [intOrZero, orElse, hn]

@[simp]
theorem intOrZero_null (rt : Runtime) : null.intOrZero rt = .ok 0 := rfl

@[simp]
theorem dict?_obj (fields : JsonObject) : (obj fields).dict? = some fields := rfl

theorem str?_eq_some {value : Json} {s : String} : value.str? = some s ↔ value = str s := by
  cases value with
  | str text => simp [str?]
  | _ => simp [str?]

theorem eqText_iff {value : Json} {text : String} : value.eqText text = true ↔ value = str text := by
  rw [eqText, decide_eq_true_iff, str?_eq_some]

@[simp]
theorem eqText_str (s t : String) : (str s).eqText t = decide (s = t) := by
  simp [eqText, str?]

end Json

/-- `d.get(key)`. -/
def getKey (d : JsonObject) (key : String) : Json := (d.get? key).getD .null

/-! ## Text -/

/-- The characters removed by `str.strip()`. -/
def isPySpace (c : Char) : Bool :=
  let n := c.toNat
  (9 ≤ n ∧ n ≤ 13) ∨ (28 ≤ n ∧ n ≤ 32) ∨ n = 0x85 ∨ n = 0xA0 ∨ n = 0x1680 ∨
    (0x2000 ≤ n ∧ n ≤ 0x200A) ∨ n = 0x2028 ∨ n = 0x2029 ∨ n = 0x202F ∨
    n = 0x205F ∨ n = 0x3000

/-- `text.strip()`. -/
def strip (text : String) : String :=
  String.ofList
    (((text.toList.dropWhile isPySpace).reverse.dropWhile isPySpace).reverse)

theorem strip_strip (text : String) : strip (strip text) = strip text := by
  have hends (chars : List Char) : ((chars.dropWhile isPySpace).rdropWhile isPySpace).dropWhile
      isPySpace = (chars.dropWhile isPySpace).rdropWhile isPySpace := by
    rw [List.dropWhile_eq_self_iff]
    intro hpos
    have hprefix := List.rdropWhile_prefix isPySpace (chars.dropWhile isPySpace)
    have hsame := hprefix.getElem hpos
    have hfirst := List.dropWhile_eq_self_iff.mp
      (List.dropWhile_idempotent isPySpace chars) (hpos.trans_le hprefix.length_le)
    rwa [← hsame] at hfirst
  unfold strip
  rw [String.toList_ofList, ← List.rdropWhile, ← List.rdropWhile, hends, List.rdropWhile_idempotent]

/-- `None` and the empty text are false. -/
def textOr (text : Option String) (fallback : String) : String :=
  match text with
  | some s => if s = "" then fallback else s
  | none => fallback

/-- `bool(text)` of a text that may be `None`. -/
def hasText (text : Option String) : Bool := textOr text "" ≠ ""

@[simp]
theorem textOr_none (fallback : String) : textOr none fallback = fallback := rfl

@[simp]
theorem textOr_some_empty (s : String) : textOr (some s) "" = s := by
  by_cases hs : s = ""
  · simp [textOr, hs]
  · simp [textOr, hs]

theorem textOr_some_of_ne {s : String} (hs : s ≠ "") (fallback : String) :
    textOr (some s) fallback = s := by
  simp [textOr, hs]

@[simp]
theorem hasText_none : hasText none = false := rfl

@[simp]
theorem hasText_some (s : String) : hasText (some s) = decide (s ≠ "") := by
  simp [hasText]

end AiCustomerService
