import Calculator.Decimal
namespace Calculator

inductive LiteralText : List Char → Decimal.Literal → Prop
  | unsigned (someDigit : run ≠ []) (allDigits : ∀ c ∈ run, c.isDigit = true) : LiteralText run ⟨false, run⟩
  | plus (someDigit : run ≠ []) (allDigits : ∀ c ∈ run, c.isDigit = true) : LiteralText ('+' :: run) ⟨false, run⟩
  | minus (someDigit : run ≠ []) (allDigits : ∀ c ∈ run, c.isDigit = true) : LiteralText ('-' :: run) ⟨true, run⟩

theorem Decimal.Literal.ofDigits?_iff {sign : Bool} {run : List Char} {literal : Literal} :
    ofDigits? sign run = some literal ↔ run ≠ [] ∧ (∀ c ∈ run, c.isDigit = true) ∧ literal = ⟨sign, run⟩ := by
  rw [ofDigits?, ← List.all_eq_true]
  split
  · rename_i digits
    simp [digits, eq_comm]
  · rename_i other
    exact iff_of_false (Option.some_ne_none literal).symm fun digits => other ⟨digits.1, digits.2.1⟩

theorem literalText_iff : LiteralText text literal ↔ Decimal.Literal.ofChars? text = some literal := by
  constructor
  · intro written
    cases written with
    | plus someDigit allDigits => exact Decimal.Literal.ofDigits?_iff.mpr ⟨someDigit, allDigits, rfl⟩
    | minus someDigit allDigits => exact Decimal.Literal.ofDigits?_iff.mpr ⟨someDigit, allDigits, rfl⟩
    | unsigned someDigit allDigits =>
      unfold Decimal.Literal.ofChars?
      split
      · cases allDigits '+' List.mem_cons_self
      · cases allDigits '-' List.mem_cons_self
      · exact Decimal.Literal.ofDigits?_iff.mpr ⟨someDigit, allDigits, rfl⟩
  · intro parsed
    unfold Decimal.Literal.ofChars? at parsed
    split at parsed <;> obtain ⟨someDigit, allDigits, rfl⟩ := Decimal.Literal.ofDigits?_iff.mp parsed
    · exact .plus someDigit allDigits
    · exact .minus someDigit allDigits
    · exact .unsigned someDigit allDigits

theorem LiteralText.someDigit (written : LiteralText text literal) : literal.digits ≠ [] := by
  cases written <;> assumption

theorem LiteralText.allDigits (written : LiteralText text literal) : ∀ c ∈ literal.digits, c.isDigit = true := by
  cases written <;> assumption

theorem LiteralText.length_le (written : LiteralText text literal) : literal.digits.length ≤ text.length := by
  cases written with
  | unsigned => exact Nat.le_refl _
  | plus => exact Nat.le_succ _
  | minus => exact Nat.le_succ _

namespace Decimal

-- A printed number is a literal with the number as its value: no digit is taken for a sign.
theorem ofChars?_chars (value : Int) :
    Literal.ofChars? (chars value) = some ⟨decide (value < 0), digits value.natAbs⟩ := by
  have allDigits : ∀ c ∈ digits value.natAbs, c.isDigit = true := fun c => isDigit_of_mem_digits
  apply literalText_iff.mp
  unfold chars
  split
  · rename_i negative
    rw [decide_eq_true negative]
    exact .minus (digits_ne_nil _) allDigits
  · rename_i positive
    rw [decide_eq_false positive]
    exact .unsigned (digits_ne_nil _) allDigits

theorem literalText_text (value : Int) : LiteralText (text value).toList ⟨decide (value < 0), digits value.natAbs⟩ := by
  rw [text, String.toList_ofList]
  exact literalText_iff.mpr (ofChars?_chars value)

theorem Literal.natAbs_value (literal : Literal) : literal.value.natAbs = ofDigits literal.digits := by
  rw [value, signed]
  split
  · exact Int.natAbs_neg _
  · rfl

theorem value_of_chars (value : Int) : Literal.value ⟨decide (value < 0), digits value.natAbs⟩ = value := by
  rw [Literal.value, Literal.signed, ofDigits_digits]
  split
  · rename_i negative
    have below := of_decide_eq_true negative
    omega
  · rename_i positive
    have above := of_decide_eq_false (Bool.eq_false_iff.mpr positive)
    omega

theorem text_injective {left right : Int} (same : text left = text right) : left = right := by
  have chars : chars left = chars right := String.ofList_injective same
  have literals := congrArg Literal.ofChars? chars
  rw [ofChars?_chars, ofChars?_chars] at literals
  have values := congrArg Literal.value (Option.some.inj literals)
  rwa [value_of_chars, value_of_chars] at values

theorem countP_text (value : Int) : (text value).toList.countP Char.isDigit = (digits value.natAbs).length := by
  have all : (digits value.natAbs).countP Char.isDigit = (digits value.natAbs).length :=
    List.countP_eq_length.mpr fun c member => isDigit_of_mem_digits member
  rw [text, String.toList_ofList, chars]
  split
  · rw [List.countP_cons_of_neg (by decide), all]
  · exact all

end Decimal
end Calculator
