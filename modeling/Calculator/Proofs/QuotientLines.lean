import Calculator.Proofs.OperandLines
import Calculator.Proofs.Quotients
namespace Calculator

theorem TextReading.factor (isFactor : sign = '*' ∨ sign = '/') (before : TextReading leads 2 left leftExpr)
    (last : TextReading false 3 right rightExpr) :
    TextReading leads 2 (left ++ [sign] ++ right) (.binary (String.singleton sign) leftExpr rightExpr) := by
  have alone : Collapses [sign] [sign] := by
    rcases isFactor with rfl | rfl <;> exact .other (by simp) (by simp)
  rcases isFactor with rfl | rfl
  · exact .joined (by simp) alone .product before last
  · exact .joined (by simp) alone .quotient before last

inductive DividedTwice (x y z : String) : List Char → Prop
  | chained : DividedTwice x y z (x ++ "/" ++ y ++ "/" ++ z).toList
  | grouped : DividedTwice x y z (x ++ "/(" ++ y ++ "*" ++ z ++ ")").toList

section
variable {x y z : String} (namedX : isName x = true) (namedY : isName y = true) (namedZ : isName z = true)
include namedX namedY namedZ

theorem TextReading.chained : TextReading true 0 (x ++ "/" ++ y ++ "/" ++ z).toList
    (.binary "/" (.binary "/" (.variable x) (.variable y)) (.variable z)) := by
  have dividend : TextReading true 2 x.toList (.variable x) := .looser (of_name namedX) (by decide)
  have quotient := dividend.factor (.inr rfl) (of_name namedY)
  have whole := quotient.factor (.inr rfl) (of_name namedZ)
  simpa using whole.loosen (Nat.zero_le 2)

theorem TextReading.grouped : TextReading true 0 (x ++ "/(" ++ y ++ "*" ++ z ++ ")").toList
    (.binary "/" (.variable x) (.binary "*" (.variable y) (.variable z))) := by
  have dividend : TextReading true 2 x.toList (.variable x) := .looser (of_name namedX) (by decide)
  have first : TextReading true 2 y.toList (.variable y) := .looser (of_name namedY) (by decide)
  have product := first.factor (.inl rfl) (of_name namedZ)
  have whole := dividend.factor (.inr rfl) (.group (product.loosen (Nat.zero_le 2)))
  simpa using whole.loosen (Nat.zero_le 2)

namespace DividedTwice

theorem digitless (divided : DividedTwice x y z text) : ∀ c ∈ text, CharClass.of? c ≠ some .digit := by
  have first := isName_digitless namedX
  have second := isName_digitless namedY
  have third := isName_digitless namedZ
  have slash : ∀ c ∈ "/".toList, CharClass.of? c ≠ some .digit := by simp [CharClass.of?]
  have opened : ∀ c ∈ "/(".toList, CharClass.of? c ≠ some .digit := by simp [CharClass.of?]
  have times : ∀ c ∈ "*".toList, CharClass.of? c ≠ some .digit := by simp [CharClass.of?]
  have closed : ∀ c ∈ ")".toList, CharClass.of? c ≠ some .digit := by simp [CharClass.of?]
  cases divided with
  | chained =>
    simp only [String.toList_append, List.forall_mem_append]
    exact ⟨⟨⟨⟨first, slash⟩, second⟩, slash⟩, third⟩
  | grouped =>
    simp only [String.toList_append, List.forall_mem_append]
    exact ⟨⟨⟨⟨⟨first, opened⟩, second⟩, times⟩, third⟩, closed⟩

variable {store : Store} {dividend first second : Int} (boundX : store.get? x = some dividend)
  (boundY : store.get? y = some first) (boundZ : store.get? z = some second)
include boundX boundY boundZ

theorem reading (divided : DividedTwice x y z text) :
    ∃ expr, TextReading true 0 text expr ∧ expr.eval store = divide dividend (first * second) := by
  have foundX := Store.require_ok_iff.mpr boundX
  have foundY := Store.require_ok_iff.mpr boundY
  have foundZ := Store.require_ok_iff.mpr boundZ
  cases divided with
  | chained =>
    refine ⟨_, .chained namedX namedY namedZ, ?_⟩
    simp only [Expr.eval, foundX, foundY, foundZ, ok_bind]
    exact divide_divide dividend first second
  | grouped =>
    refine ⟨_, .grouped namedX namedY namedZ, ?_⟩
    simp only [Expr.eval, foundX, foundY, foundZ, ok_bind]
    rfl

theorem valueOfLine_eq_divide (divided : DividedTwice x y z (Text.removeBlanks line.toList)) (policy : Policy) :
    valueOfLine policy store line = divide dividend (first * second) := by
  obtain ⟨strict, limit⟩ := policy
  obtain ⟨expr, reading, valued⟩ := divided.reading namedX namedY namedZ boundX boundY boundZ
  have fits := Lexeme.all_fit_of_digitless (divided.digitless namedX namedY namedZ) limit
  exact (reading.valueOfLine_fits fits strict store).trans valued

end DividedTwice
end

-- The quotient is the only number that leaves less than the divisor, on the side of zero
-- where the dividend is. A sign in front of either number is a sign in front of it, and two
-- divisions in a row are one division by the product, also where a line asks for them.
theorem divide_truncates (dividend : Int) (nonzero : divisor ≠ 0) :
    ∃ quotient, divide dividend divisor = .ok quotient ∧
      IsQuotient dividend divisor quotient ∧
      (∀ other, IsQuotient dividend divisor other → other = quotient) ∧
      divide (-dividend) divisor = .ok (-quotient) ∧
      divide dividend (-divisor) = .ok (-quotient) ∧
      ∀ further, further ≠ 0 → ∃ result,
        divide quotient further = .ok result ∧
        divide dividend (divisor * further) = .ok result ∧
        ∀ x y z store, isName x = true → isName y = true → isName z = true →
          store.get? x = some dividend → store.get? y = some divisor → store.get? z = some further →
          ∀ line, DividedTwice x y z (Text.removeBlanks line.toList) → ∀ policy,
            valueOfLine policy store line = .ok result ∧
              evaluate policy store line =
                if policy.limit.Allows (Decimal.digits result.natAbs).length then .ok (Decimal.text result)
                else .error (.resultTooLong ⟨policy.limit.toNat, none⟩) := by
  obtain ⟨quotient, divided⟩ := exists_quotient dividend nonzero
  have isQuotient := divide_ok_iff.mp divided
  refine ⟨quotient, divided, isQuotient, ?unique, ?oppositeDividend, ?oppositeDivisor, ?nested⟩
  case unique =>
    intro other otherQuotient
    exact Except.ok.inj ((divide_ok_iff.mpr otherQuotient).symm.trans divided)
  case oppositeDividend => exact divide_ok_iff.mpr isQuotient.neg_dividend
  case oppositeDivisor => exact divide_ok_iff.mpr isQuotient.neg_divisor
  case nested =>
    intro further furtherNonzero
    obtain ⟨result, again⟩ := exists_quotient quotient furtherNonzero
    have whole : divide dividend (divisor * further) = .ok result := by
      rw [← divide_divide, divided, ok_bind, again]
    refine ⟨result, again, whole, ?_⟩
    intro x y z store namedX namedY namedZ boundX boundY boundZ line asked policy
    have valued := (asked.valueOfLine_eq_divide namedX namedY namedZ boundX boundY boundZ policy).trans whole
    exact ⟨valued, evaluate_valued valued⟩

theorem divide_truncates_nested :
    let store := ((Store.empty.set "a" (-100)).set "b" 7).set "c" (-3)
    (7 : Int) ≠ 0 ∧ (-3 : Int) ≠ 0 ∧ divide (-100) 7 = .ok (-14) ∧ IsQuotient (-100) 7 (-14) ∧
      divide (-(-100)) 7 = .ok 14 ∧ divide (-100) (-7) = .ok 14 ∧
      divide (-14) (-3) = .ok 4 ∧ divide (-100) (7 * -3) = .ok 4 ∧
      evaluate ⟨true, .atMost 640⟩ store "a / b / c" = .ok "4" ∧
      evaluate ⟨true, .atMost 640⟩ store " a/(b * c)" = .ok "4" := by
  intro store
  obtain ⟨quotient, divided, isQuotient, _, oppositeDividend, oppositeDivisor, nested⟩ :=
    divide_truncates (-100) (by decide : (7 : Int) ≠ 0)
  obtain rfl : -14 = quotient := Except.ok.inj divided
  obtain ⟨result, again, whole, lines⟩ := nested (-3) (by decide)
  obtain rfl : 4 = result := Except.ok.inj again
  have asked := lines "a" "b" "c" store (by decide) (by decide) (by decide) (by decide) (by decide) (by decide)
  have chainedText : Text.removeBlanks "a / b / c".toList = ("a" ++ "/" ++ "b" ++ "/" ++ "c").toList := by rfl
  have groupedText : Text.removeBlanks " a/(b * c)".toList = ("a" ++ "/(" ++ "b" ++ "*" ++ "c" ++ ")").toList := by rfl
  obtain ⟨_, chained⟩ := asked "a / b / c" (chainedText ▸ .chained) ⟨true, .atMost 640⟩
  obtain ⟨_, grouped⟩ := asked " a/(b * c)" (groupedText ▸ .grouped) ⟨true, .atMost 640⟩
  exact ⟨by decide, by decide, divided, isQuotient, oppositeDividend, oppositeDivisor, again, whole, chained, grouped⟩

end Calculator
