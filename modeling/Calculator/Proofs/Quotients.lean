import Calculator.Meaning
import Calculator.Proofs.ExceptLaws
namespace Calculator

namespace IsQuotient

theorem divisor_ne_zero (isQuotient : IsQuotient dividend divisor quotient) : divisor ≠ 0 :=
  Int.natAbs_pos.mp (Nat.zero_lt_of_lt isQuotient.small)

theorem neg_dividend (isQuotient : IsQuotient dividend divisor quotient) :
    IsQuotient (-dividend) divisor (-quotient) := by
  have opposite : -dividend - divisor * -quotient = -(dividend - divisor * quotient) := by
    rw [Int.mul_neg]
    omega
  obtain ⟨small, side⟩ := isQuotient
  constructor
  · rwa [opposite, Int.natAbs_neg]
  · rwa [opposite, Int.neg_eq_zero, Int.sign_neg, Int.sign_neg, Int.neg_inj]

theorem neg_divisor (isQuotient : IsQuotient dividend divisor quotient) :
    IsQuotient dividend (-divisor) (-quotient) := by
  obtain ⟨small, side⟩ := isQuotient
  constructor
  · rwa [Int.neg_mul_neg, Int.natAbs_neg]
  · rwa [Int.neg_mul_neg]

theorem tdiv_eq (isQuotient : IsQuotient dividend divisor quotient) : dividend.tdiv divisor = quotient := by
  have nonzero := isQuotient.divisor_ne_zero
  obtain ⟨small, side⟩ := isQuotient
  rcases Int.le_total 0 dividend with positive | negative
  · have left : 0 ≤ dividend - divisor * quotient := by
      rcases side with exact | same
      · exact Int.le_of_eq exact.symm
      · rwa [← Int.sign_nonneg_iff, same, Int.sign_nonneg_iff]
    exact ((Int.tdiv_tmod_unique positive nonzero).mpr ⟨by omega, left, by omega⟩).1
  · have left : dividend - divisor * quotient ≤ 0 := by
      rcases side with exact | same
      · exact Int.le_of_eq exact
      · rwa [← Int.sign_nonpos_iff, same, Int.sign_nonpos_iff]
    exact ((Int.tdiv_tmod_unique' negative nonzero).mpr ⟨by omega, by omega, left⟩).1

end IsQuotient

theorem isQuotient_tdiv (dividend : Int) (nonzero : divisor ≠ 0) :
    IsQuotient dividend divisor (dividend.tdiv divisor) := by
  constructor
  · rw [← Int.tmod_def, Int.natAbs_tmod]
    exact Nat.mod_lt _ (Int.natAbs_pos.mpr nonzero)
  · rw [← Int.tmod_def]
    by_cases divides : divisor ∣ dividend
    · exact .inl (Int.tmod_eq_zero_of_dvd divides)
    · exact .inr (by rw [Int.sign_tmod, if_neg divides])

theorem sign_cases (value : Int) :
    ∃ magnitude : Nat, (value < 0 ∧ value = -magnitude) ∨ (¬ value < 0 ∧ value = magnitude) :=
  ⟨value.natAbs, by omega⟩

theorem divide_eq_tdiv (dividend : Int) (nonzero : divisor ≠ 0) :
    divide dividend divisor = .ok (dividend.tdiv divisor) := by
  rw [divide, if_neg nonzero]
  dsimp only
  obtain ⟨m, ⟨below, dividendSame⟩ | ⟨above, dividendSame⟩⟩ := sign_cases dividend
  all_goals obtain ⟨n, ⟨divisorBelow, divisorSame⟩ | ⟨divisorAbove, divisorSame⟩⟩ := sign_cases divisor
  case inl.inl =>
    rw [if_pos (iff_of_true below divisorBelow), dividendSame, divisorSame]
    simp only [Int.natAbs_neg, Int.natAbs_natCast, Int.neg_tdiv_neg, Int.ofNat_tdiv]
  case inl.inr =>
    rw [if_neg fun same => divisorAbove (same.mp below), dividendSame, divisorSame]
    simp only [Int.natAbs_neg, Int.natAbs_natCast, Int.neg_tdiv, Int.ofNat_tdiv]
  case inr.inl =>
    rw [if_neg fun same => above (same.mpr divisorBelow), dividendSame, divisorSame]
    simp only [Int.natAbs_neg, Int.natAbs_natCast, Int.tdiv_neg, Int.ofNat_tdiv]
  case inr.inr =>
    rw [if_pos (iff_of_false above divisorAbove), dividendSame, divisorSame]
    simp only [Int.natAbs_natCast, Int.ofNat_tdiv]

theorem divide_zero (dividend : Int) : divide dividend 0 = .error .divisionByZero := rfl

theorem divide_ok_iff : divide dividend divisor = .ok quotient ↔ IsQuotient dividend divisor quotient := by
  by_cases zero : divisor = 0
  · rw [zero, divide_zero]
    exact iff_of_false (by simp) fun isQuotient => isQuotient.divisor_ne_zero rfl
  · rw [divide_eq_tdiv dividend zero, Except.ok.injEq]
    exact ⟨fun same => same ▸ isQuotient_tdiv dividend zero, IsQuotient.tdiv_eq⟩

theorem exists_quotient (dividend : Int) (nonzero : divisor ≠ 0) : ∃ quotient, divide dividend divisor = .ok quotient :=
  ⟨_, divide_ok_iff.mpr (isQuotient_tdiv dividend nonzero)⟩

theorem divide_error_iff : divide dividend divisor = .error fault ↔ divisor = 0 ∧ fault = .divisionByZero := by
  by_cases zero : divisor = 0
  · rw [zero, divide_zero]
    simp [eq_comm]
  · obtain ⟨quotient, divided⟩ := exists_quotient dividend zero
    simp [divided, zero]

theorem divide_neg (dividend divisor : Int) : divide (-dividend) divisor = (- ·) <$> divide dividend divisor := by
  cases divided : divide dividend divisor with
  | ok quotient => exact divide_ok_iff.mpr (divide_ok_iff.mp divided).neg_dividend
  | error fault => exact divide_error_iff.mpr (divide_error_iff.mp divided)

theorem divide_neg_divisor (dividend divisor : Int) :
    divide dividend (-divisor) = (- ·) <$> divide dividend divisor := by
  cases divided : divide dividend divisor with
  | ok quotient => exact divide_ok_iff.mpr (divide_ok_iff.mp divided).neg_divisor
  | error fault =>
    obtain ⟨zero, refused⟩ := divide_error_iff.mp divided
    exact divide_error_iff.mpr ⟨Int.neg_eq_zero.mpr zero, refused⟩

theorem divide_natural (dividend : Nat) (nonzero : divisor ≠ 0) :
    divide dividend (divisor : Nat) = .ok (dividend / divisor : Nat) := by
  rw [divide_eq_tdiv _ (Int.natCast_ne_zero.mpr nonzero), Int.ofNat_tdiv]

theorem divide_divide_natural (dividend first second : Nat) :
    (do let quotient ← divide dividend first; divide quotient second) = divide dividend (first * second) := by
  by_cases firstZero : first = 0
  · rw [firstZero, Int.natCast_zero, divide_zero, error_bind, Int.zero_mul, divide_zero]
  · rw [divide_natural dividend firstZero, ok_bind]
    by_cases secondZero : second = 0
    · rw [secondZero, Int.natCast_zero, divide_zero, Int.mul_zero, divide_zero]
    · rw [divide_natural _ secondZero, Nat.div_div_eq_div_mul, ← Int.natCast_mul,
        divide_natural dividend (Nat.mul_ne_zero firstZero secondZero)]

-- Two divisors one after the other are worth their product. A sign in front of any of the
-- three numbers comes out in front of both sides, so that natural numbers are enough.
theorem divide_divide (dividend first second : Int) :
    (do let quotient ← divide dividend first; divide quotient second) = divide dividend (first * second) := by
  obtain ⟨l, rfl | rfl⟩ := dividend.eq_nat_or_neg
  all_goals obtain ⟨m, rfl | rfl⟩ := first.eq_nat_or_neg
  all_goals obtain ⟨n, rfl | rfl⟩ := second.eq_nat_or_neg
  all_goals simp only [divide_neg, divide_neg_divisor, Int.neg_mul, Int.mul_neg, map_bind, bind_map_left,
    ← divide_divide_natural]

end Calculator
