import AiCustomerService.Python.Numbers
import AiCustomerService.Services.BackendQuery

/-!
# Exact amounts

The decimal arithmetic of the backend client and of `_format_number`, with amounts that are exact.
-/

namespace AiCustomerService

open Support

/-- What `float(Decimal(text))` gives. -/
inductive Amount where
  | decimal (value : ℚ)
  | infinite (isNegative : Bool)
  | nan
  deriving DecidableEq

namespace Amount

/-- `a + b`. -/
def add : Amount → Amount → Amount
  | decimal a, decimal b => decimal (a + b)
  | nan, _ => nan
  | _, nan => nan
  | infinite a, infinite b => if a = b then infinite a else nan
  | infinite a, decimal _ => infinite a
  | decimal _, infinite b => infinite b

/-- `amount > 0`. -/
def isPositive : Amount → Bool
  | decimal value => decide (0 < value)
  | infinite isNegative => !isNegative
  | nan => false

/-- `amount <= 0`. -/
def isNonpositive : Amount → Bool
  | decimal value => decide (value ≤ 0)
  | infinite isNegative => isNegative
  | nan => false

/-- The rounding of `round_money`; a decimal has at most 28 digits. -/
def roundMoney : Amount → Except String Amount
  | decimal value =>
      if 10 ^ 28 ≤ (halfUpCents value).natAbs then .error "[<class 'decimal.InvalidOperation'>]"
      else .ok (decimal (halfUpCents value / 100))
  | infinite _ => .error "[<class 'decimal.InvalidOperation'>]"
  | nan => .ok nan

/-- `_format_number`. -/
def formatNumber : Amount → String
  | decimal value =>
      if value.den = 1 then toString value.num else centsText (roundHundredth value * 100).num
  | infinite isNegative => if isNegative then "-inf" else "inf"
  | nan => "nan"

theorem foldl_add (values : List ℚ) (start : ℚ) :
    (values.map decimal).foldl add (decimal start) = decimal (start + values.sum) := by
  induction values generalizing start with
  | nil => simp
  | cons value rest ih =>
      rw [List.map_cons, List.foldl_cons, add, ih, List.sum_cons, add_assoc]

/-- An amount of hundredths that is not negative can be read from its text. -/
theorem readNumber_formatNumber {cents : ℤ} (h : 0 ≤ cents) :
    readNumber (formatNumber (decimal ((cents : ℚ) / 100))) = some ((cents : ℚ) / 100) := by
  obtain ⟨n, rfl⟩ := Int.eq_ofNat_of_zero_le h
  unfold formatNumber
  dsimp only
  split
  · rename_i hden
    have hvalue := Rat.coe_int_num_of_den_eq_one hden
    have hnum : 0 ≤ (((n : ℤ) : ℚ) / 100).num := Rat.num_nonneg.mpr (by positivity)
    obtain ⟨whole, hwhole⟩ := Int.eq_ofNat_of_zero_le hnum
    rw [hwhole] at hvalue ⊢
    rw [← hvalue]
    exact readNumber_toString whole
  · rw [roundHundredth_cents, div_mul_cancel₀ _ (by norm_num), Rat.num_intCast]
    exact readNumber_centsText n

end Amount

/-- What the client takes from the language besides its arithmetic.  `str(number)` writes a number
of hundredths with a point. -/
structure DecimalRuntime extends Runtime where
  upper : String → String
  isDigit : Char → Bool
  ofText : String → Option (Except String Amount)
  generateTotp : String → Except TacError String
  rangeDays : Int → String × String
  monthRange : String × String
  lastWithdrawalWindow : String × String
  reprFloat_cents : ∀ cents : ℤ, ¬(100 : ℤ) ∣ cents → reprFloat (cents / 100) = centsText cents

/-- The runtime of the client with exact amounts. -/
def DecimalRuntime.exact (base : DecimalRuntime) : TacRuntime Amount where
  toRuntime := base.toRuntime
  upper := base.upper
  isDigit := base.isDigit
  zero := .decimal 0
  ofText := base.ofText
  add := Amount.add
  positive := Amount.isPositive
  nonpositive := Amount.isNonpositive
  roundMoney := Amount.roundMoney
  formatNumber := Amount.formatNumber
  generateTotp := base.generateTotp
  rangeDays := base.rangeDays
  monthRange := base.monthRange
  lastWithdrawalWindow := base.lastWithdrawalWindow
  round_zero := ⟨.decimal 0, by simp [Amount.roundMoney, halfUpCents_zero]⟩

/-- Nothing stays nothing when it is rounded. -/
theorem DecimalRuntime.round_zero_eq {base : DecimalRuntime} {rounded : Amount}
    (h : base.exact.roundMoney base.exact.zero = .ok rounded) : rounded = .decimal 0 := by
  have hzero : Amount.roundMoney (.decimal 0) = .ok rounded := h
  simp only [Amount.roundMoney, halfUpCents_zero] at hzero
  simpa using (Except.ok.inj hzero).symm

theorem DecimalRuntime.round_zero_not_positive {base : DecimalRuntime} (rounded : Amount)
    (h : base.exact.roundMoney base.exact.zero = .ok rounded) :
    base.exact.positive rounded = false := by
  rw [round_zero_eq h]
  simp [DecimalRuntime.exact, Amount.isPositive]

end AiCustomerService
