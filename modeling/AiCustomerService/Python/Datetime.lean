import AiCustomerService.Python.Json
import AiCustomerService.Python.Numbers
import AiCustomerService.Support.CheckedSort

/-!
# Datetimes

A datetime with an offset and one without cannot be ordered, and are never equal.
-/

namespace AiCustomerService

open Support

/-- A `datetime`: what the clock shows and the offset from UTC, in microseconds.  A naive one has no
offset. -/
structure PyDatetime where
  clock : ℤ
  utcOffset : Option ℤ
  deriving DecidableEq

namespace PyDatetime

/-- The datetime has an offset. -/
def isAware (time : PyDatetime) : Bool := time.utcOffset.isSome

/-- What is compared with a datetime of the same kind. -/
def instant (time : PyDatetime) : ℤ := time.clock - time.utcOffset.getD 0

/-- What the comparison of a naive with an aware datetime raises. -/
def mixedComparison : PyError := .typeError "can't compare offset-naive and offset-aware datetimes"

/-- `a < b`. -/
def lt (a b : PyDatetime) : Except PyError Bool :=
  if a.isAware = b.isAware then .ok (decide (a.instant < b.instant)) else .error mixedComparison

/-- `a == b`. -/
def eq (a b : PyDatetime) : Bool := decide (a.isAware = b.isAware) && decide (a.instant = b.instant)

theorem comparesWithin_lt : ComparesWithin lt isAware instant mixedComparison where
  comparable h := if_pos h
  incomparable h := if_neg h

theorem lt_eq_false {a b : PyDatetime} :
    a.lt b = .ok false ↔ a.isAware = b.isAware ∧ b.instant ≤ a.instant := by
  by_cases hkind : a.isAware = b.isAware
  · rw [comparesWithin_lt.comparable hkind]
    simp [hkind]
  · rw [comparesWithin_lt.incomparable hkind]
    simp [hkind]

theorem eq_iff {a b : PyDatetime} :
    a.eq b = true ↔ a.isAware = b.isAware ∧ a.instant = b.instant := by
  simp [eq]

/-- The times are in order. -/
def InOrder (times : List PyDatetime) : Prop := times.Pairwise fun a b => a.instant ≤ b.instant

/-- Lists that are equal item by item have the same instants. -/
theorem map_instant_of_isEqv {times others : List PyDatetime} (h : times.isEqv others eq = true) :
    times.map instant = others.map instant := by
  induction times generalizing others with
  | nil =>
      cases others with
      | nil => rfl
      | cons other rest => cases h
  | cons time rest ih =>
      cases others with
      | nil => cases h
      | cons other others =>
          rw [List.isEqv, Bool.and_eq_true] at h
          rw [List.map_cons, List.map_cons, (eq_iff.mp h.1).2, ih h.2]

theorem isEqv_self (times : List PyDatetime) : times.isEqv times eq = true := by
  induction times with
  | nil => rfl
  | cons time rest ih =>
      rw [List.isEqv, Bool.and_eq_true]
      exact ⟨eq_iff.mpr ⟨rfl, rfl⟩, ih⟩

/-- A list of one kind equals its sorted copy exactly if it is in order. -/
theorem isEqv_sorted_iff {times sorted : List PyDatetime} (hone : OneKind isAware times)
    (hsorted : sortChecked lt times = .ok sorted) :
    times.isEqv sorted eq = true ↔ InOrder times := by
  obtain ⟨result, hresult, -, hordered, hkept⟩ := sortChecked_ok comparesWithin_lt hone
  obtain rfl := Except.ok.inj (hsorted.symm.trans hresult)
  constructor
  · intro h
    have hmap := map_instant_of_isEqv h
    have hinstants : (sorted.map instant).Pairwise (· ≤ ·) := List.pairwise_map.mpr hordered
    rw [← hmap] at hinstants
    exact List.pairwise_map.mp hinstants
  · intro h
    rw [hkept h]
    exact isEqv_self times

/-! ## Texts -/

/-- The lengths of the months of a year. -/
def monthLengths (year : ℕ) : List ℕ :=
  let february := if year % 4 = 0 ∧ (year % 100 ≠ 0 ∨ year % 400 = 0) then 29 else 28
  [31, february, 31, 30, 31, 30, 31, 31, 30, 31, 30, 31]

/-- The days before a date of the calendar, from the first of the year 1. -/
def daysBefore (year month day : ℕ) : Option ℕ :=
  let years := year - 1
  if 1 ≤ year ∧ 1 ≤ month ∧ 1 ≤ day ∧ day ≤ (monthLengths year).getD (month - 1) 0 then
    some (years * 365 + years / 4 - years / 100 + years / 400 +
      ((monthLengths year).take (month - 1)).sum + (day - 1))
  else none

/-- The microseconds of a time of the day. -/
def timeOfDay (hour minute second : ℕ) : Option ℕ :=
  if hour < 24 ∧ minute < 60 ∧ second < 60 then
    some (((hour * 60 + minute) * 60 + second) * 1000000)
  else none

/-- What follows a time: nothing, `Z`, or an offset of hours and minutes. -/
def readOffset (zone : List Char) : Option (Option ℤ) :=
  let offset := (readDigits ((zone.drop 1).take 2)).bind fun hours =>
    (readDigits (zone.drop 4)).bind fun minutes =>
      (timeOfDay hours minutes 0).map fun micros : ℕ => (micros : ℤ)
  if zone = [] then some none
  else if zone = ['Z'] then some (some 0)
  else if zone.length ≠ 6 ∨ zone[3]? ≠ some ':' then none
  else if zone.head? = some '+' then offset.map some
  else if zone.head? = some '-' then offset.map fun micros => some (-micros)
  else none

/-- The datetime of a text `YYYY-MM-DDTHH:MM:SS`, with or without an offset. -/
def ofIsoText (text : String) : Option PyDatetime :=
  let chars := text.toList
  let number := fun start count => readDigits ((chars.drop start).take count)
  if chars[4]? = some '-' ∧ chars[7]? = some '-' ∧ chars[10]? = some 'T' ∧
      chars[13]? = some ':' ∧ chars[16]? = some ':' then do
    let days ← daysBefore (← number 0 4) (← number 5 2) (← number 8 2)
    let micros ← timeOfDay (← number 11 2) (← number 14 2) (← number 17 2)
    let offset ← readOffset (chars.drop 19)
    some ⟨(days * 86400000000 + micros : ℕ), offset⟩
  else none

end PyDatetime

end AiCustomerService
