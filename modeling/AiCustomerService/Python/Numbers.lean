import Mathlib.Algebra.Order.Field.Rat
import Mathlib.Data.List.TakeWhile
import Mathlib.Data.Rat.Floor
import Mathlib.Tactic.Linarith
import Mathlib.Tactic.Ring
import AiCustomerService.Support.Segments

/-!
# Numbers and their texts

Exact numbers rounded to hundredths, the text of a number of hundredths, and the number that a text
of digits denotes.
-/

namespace AiCustomerService

open Support

/-! ## Rounding -/

/-- `round(number, 2)`: to the nearest hundredth, ties to even. -/
def roundHundredth (number : ℚ) : ℚ :=
  let scaled := number * 100
  let below := ⌊scaled⌋
  let rest := scaled - below
  let nearest :=
    if rest < 1 / 2 then below
    else if 1 / 2 < rest then below + 1
    else if below % 2 = 0 then below
    else below + 1
  (nearest : ℚ) / 100

/-- `number.quantize(Decimal("0.01"), rounding=ROUND_HALF_UP)`, in hundredths. -/
def halfUpCents (number : ℚ) : ℤ :=
  if number < 0 then -⌊-number * 100 + 1 / 2⌋ else ⌊number * 100 + 1 / 2⌋

/-- A number of hundredths stays as it is. -/
theorem roundHundredth_cents (cents : ℤ) : roundHundredth ((cents : ℚ) / 100) = cents / 100 := by
  have hscaled : (cents : ℚ) / 100 * 100 = cents := by ring
  simp only [roundHundredth, hscaled, Int.floor_intCast, sub_self]
  norm_num

theorem halfUpCents_zero : halfUpCents 0 = 0 := by
  norm_num [halfUpCents]

/-! ## Texts -/

/-- The digits behind the point, without a zero at the end. -/
def fractionText (hundredths : ℕ) : String :=
  if hundredths % 10 = 0 then toString (hundredths / 10)
  else if hundredths < 10 then "0" ++ toString hundredths
  else toString hundredths

/-- The text of a number of hundredths, with a point. -/
def centsText (cents : ℤ) : String :=
  (if cents < 0 then "-" else "") ++ toString (cents.natAbs / 100) ++ "." ++
    fractionText (cents.natAbs % 100)

/-- The number of some digits. -/
def readDigits (digits : List Char) : Option ℕ :=
  if digits ≠ [] ∧ digits.all Char.isDigit = true then some (Nat.ofDigitChars 10 digits 0) else none

/-- The number that a text without a sign denotes. -/
def readUnsigned (text : List Char) : Option ℚ :=
  let whole := text.takeWhile fun c => c ≠ '.'
  match text.dropWhile fun c => c ≠ '.' with
  | [] => (readDigits whole).map fun number : ℕ => (number : ℚ)
  | _ :: fraction =>
      (readDigits whole).bind fun number : ℕ =>
        (readDigits fraction).map fun rest : ℕ => (number : ℚ) + (rest : ℚ) / 10 ^ fraction.length

/-- The number that a text of digits denotes. -/
def readNumber (text : String) : Option ℚ :=
  if text.toList.head? = some '-' then (readUnsigned text.toList.tail).map fun number => -number
  else readUnsigned text.toList

theorem isDigit_of_mem_toString_nat {n : ℕ} : (toString n).toList.all Char.isDigit = true :=
  List.all_eq_true.mpr fun _ => isDigit_of_mem_toString

theorem readDigits_toString (n : ℕ) : readDigits (toString n).toList = some n := by
  have hdigits : (toString n).toList = Nat.toDigits 10 n := by
    rw [Nat.toString_eq_repr, Nat.repr, String.toList_ofList]
  rw [readDigits, if_pos ⟨hdigits ▸ Nat.toDigits_ne_nil, isDigit_of_mem_toString_nat⟩, hdigits,
    Nat.ofDigitChars_ten_toDigits]

theorem ne_point_of_mem_toString {n : ℕ} {c : Char} (h : c ∈ (toString n).toList) : c ≠ '.' := by
  rintro rfl
  exact absurd (isDigit_of_mem_toString h) (by decide)

/-- The digits of a number, up to the point behind them. -/
theorem takeWhile_toString (n : ℕ) (rest : List Char) :
    ((toString n).toList ++ '.' :: rest).takeWhile (fun c => c ≠ '.') = (toString n).toList ∧
      ((toString n).toList ++ '.' :: rest).dropWhile (fun c => c ≠ '.') = '.' :: rest := by
  have hdigits : ∀ c ∈ (toString n).toList, decide (c ≠ '.') = true := fun c hmem =>
    decide_eq_true (ne_point_of_mem_toString hmem)
  rw [List.takeWhile_append_of_pos hdigits, List.dropWhile_append_of_pos hdigits]
  simp

/-- The digits behind the point denote the hundredths. -/
theorem readDigits_fractionText {hundredths : ℕ} (h : hundredths < 100) :
    ∃ rest, readDigits (fractionText hundredths).toList = some rest ∧
      (rest : ℚ) / 10 ^ (fractionText hundredths).toList.length = hundredths / 100 := by
  have hall : (List.range 100).all (fun n =>
      (readDigits (fractionText n).toList).any fun rest =>
        decide (rest * 100 = n * 10 ^ (fractionText n).toList.length)) = true := by
    decide +kernel
  have hread := List.all_eq_true.mp hall hundredths (List.mem_range.mpr h)
  obtain ⟨rest, hrest, hvalue⟩ := (Option.any_eq_true _ _).mp hread
  refine ⟨rest, hrest, ?_⟩
  have hcast : (rest : ℚ) * 100 = hundredths * 10 ^ (fractionText hundredths).toList.length := by
    exact_mod_cast of_decide_eq_true hvalue
  rw [div_eq_div_iff (by positivity) (by norm_num)]
  exact hcast

theorem readUnsigned_point (n : ℕ) {hundredths : ℕ} (h : hundredths < 100) :
    readUnsigned ((toString n).toList ++ '.' :: (fractionText hundredths).toList) =
      some ((n : ℚ) + (hundredths : ℚ) / 100) := by
  obtain ⟨rest, hrest, hvalue⟩ := readDigits_fractionText h
  obtain ⟨hwhole, hbehind⟩ := takeWhile_toString n (fractionText hundredths).toList
  unfold readUnsigned
  dsimp only
  rw [hwhole, hbehind, readDigits_toString]
  simp only [hrest, Option.bind_some, Option.map_some, hvalue]

theorem readUnsigned_toString (n : ℕ) : readUnsigned (toString n).toList = some (n : ℚ) := by
  have hdigits : ∀ c ∈ (toString n).toList, decide (c ≠ '.') = true := fun c hmem =>
    decide_eq_true (ne_point_of_mem_toString hmem)
  unfold readUnsigned
  dsimp only
  rw [List.takeWhile_eq_self_iff.mpr hdigits, List.dropWhile_eq_nil_iff.mpr hdigits,
    readDigits_toString]
  rfl

theorem head?_toString_ne (n : ℕ) (rest : List Char) :
    ((toString n).toList ++ rest).head? ≠ some '-' := by
  intro hhead
  have hdigits : (toString n).toList = Nat.toDigits 10 n := by
    rw [Nat.toString_eq_repr, Nat.repr, String.toList_ofList]
  have hsome : (toString n).toList ≠ [] := hdigits ▸ Nat.toDigits_ne_nil
  rw [List.head?_append_of_ne_nil _ hsome] at hhead
  have hdigit := isDigit_of_mem_toString (List.mem_of_mem_head? hhead)
  exact absurd hdigit (by decide)

/-- A natural number can be read from its text. -/
theorem readNumber_toString (n : ℕ) : readNumber (toString n) = some (n : ℚ) := by
  have hhead := head?_toString_ne n []
  rw [List.append_nil] at hhead
  rw [readNumber, if_neg hhead, readUnsigned_toString]

/-- A number of hundredths that is not negative can be read from its text. -/
theorem readNumber_centsText (cents : ℕ) :
    readNumber (centsText cents) = some ((cents : ℚ) / 100) := by
  have htext : (centsText cents).toList =
      (toString (cents / 100)).toList ++ '.' :: (fractionText (cents % 100)).toList := by
    simp [centsText]
  have hsplit : ((cents / 100 : ℕ) : ℚ) + ((cents % 100 : ℕ) : ℚ) / 100 = cents / 100 := by
    have hdiv : (100 : ℚ) * ((cents / 100 : ℕ) : ℚ) + ((cents % 100 : ℕ) : ℚ) = cents := by
      exact_mod_cast Nat.div_add_mod cents 100
    linarith
  rw [readNumber, htext, if_neg (head?_toString_ne _ _),
    readUnsigned_point _ (Nat.mod_lt _ (by decide)), hsplit]

end AiCustomerService
