import Calculator.Lexeme
import Calculator.Proofs.ExprListing
import Mathlib.Data.List.Basic
import Mathlib.Data.List.Induction
namespace Calculator

namespace Decimal

theorem exists_digitChar (digit : c.isDigit = true) : ∃ d, d < 10 ∧ c = Nat.digitChar d := by
  obtain ⟨low, high⟩ := Char.isDigit_iff_toNat.mp digit
  have zero : '0'.toNat = 48 := rfl
  have nine : '9'.toNat = 57 := rfl
  refine ⟨c.toNat - 48, by omega, Char.toNat_inj.mp ?_⟩
  rw [Nat.toNat_digitChar_of_lt_ten (by omega)]
  omega

theorem ofDigits_concat (run : List Char) (small : d < 10) :
    ofDigits (run ++ [Nat.digitChar d]) = 10 * ofDigits run + d := by
  rw [ofDigits, Nat.ofDigitChars_append, Nat.ofDigitChars_cons_digitChar_of_lt_ten small, Nat.ofDigitChars_nil,
    ofDigits]

theorem Denotes.someDigit (denotes : Denotes run n) : run ≠ [] := by
  cases denotes <;> simp

theorem Denotes.allDigits (denotes : Denotes run n) : ∀ c ∈ run, c.isDigit = true := by
  induction denotes with
  | digit small => simpa using small
  | behind front small ih => simpa [or_imp, forall_and] using ⟨ih, small⟩

theorem Denotes.ofDigits_eq (denotes : Denotes run n) : ofDigits run = n := by
  induction denotes with
  | digit small => simpa [ofDigits] using ofDigits_concat [] small
  | behind front small ih => rw [ofDigits_concat _ small, ih]

theorem denotes_ofDigits (someDigit : run ≠ []) (allDigits : ∀ c ∈ run, c.isDigit = true) :
    Denotes run (ofDigits run) := by
  -- From the end: the last digit was put behind the others.
  induction run using List.reverseRecOn with
  | nil => exact absurd rfl someDigit
  | append_singleton front last ih =>
    obtain ⟨d, small, rfl⟩ := exists_digitChar (allDigits last (by simp))
    rw [ofDigits_concat front small]
    cases front with
    | nil => simpa [ofDigits] using Denotes.digit small
    | cons first others =>
      exact .behind (ih (List.cons_ne_nil _ _) fun c member => allDigits c (List.mem_append_left _ member)) small

theorem denotes_iff :
    Denotes run n ↔ run ≠ [] ∧ (∀ c ∈ run, c.isDigit = true) ∧ ofDigits run = n := by
  constructor
  · intro denotes
    exact ⟨denotes.someDigit, denotes.allDigits, denotes.ofDigits_eq⟩
  · rintro ⟨someDigit, allDigits, rfl⟩
    exact denotes_ofDigits someDigit allDigits

theorem denotes_digits (n : Nat) : Denotes (digits n) n :=
  denotes_iff.mpr ⟨digits_ne_nil n, fun _ => isDigit_of_mem_digits, ofDigits_digits n⟩

theorem Denotes.eq_digits (denotes : Denotes run n) (noZero : run.head? = some '0' → run = ['0']) : run = digits n := by
  induction denotes with
  | digit small => exact (Nat.toDigits_of_lt_base small).symm
  | @behind front n d denotes small ih =>
    obtain ⟨first, others, rfl⟩ := List.exists_cons_of_ne_nil denotes.someDigit
    have solid : first ≠ '0' := by
      rintro rfl
      simpa using noZero rfl
    have same := ih fun zero => absurd (Option.some.inj zero) solid
    have positive : 0 < n := by
      refine Nat.pos_of_ne_zero ?_
      rintro rfl
      exact solid (List.cons.inj same).1
    rw [same, digits, digits, ← Nat.toDigits_of_lt_base small, Nat.toDigits_append_toDigits (by decide) positive small]

theorem digits_noZero (n : Nat) : (digits n).head? = some '0' → digits n = ['0'] := by
  induction n using Nat.strongRecOn with
  | ind n ih =>
    by_cases small : n < 10
    · rw [digits, Nat.toDigits_of_lt_base small]
      simp
    · have front : digits n = digits (n / 10) ++ [Nat.digitChar (n % 10)] :=
        Nat.toDigits_of_base_le (by decide) (by omega)
      rw [front, List.head?_append_of_ne_nil _ (digits_ne_nil _)]
      intro zero
      have same := ih (n / 10) (by omega) zero
      have value := congrArg ofDigits same
      rw [ofDigits_digits] at value
      have none : ofDigits ['0'] = 0 := rfl
      omega

theorem digits_head_ne (positive : 0 < n) : (digits n).head? ≠ some '0' := by
  intro zero
  have value := congrArg ofDigits (digits_noZero n zero)
  rw [ofDigits_digits] at value
  exact absurd value (Nat.ne_of_gt positive)

theorem shows_iff : Shows run value ↔ run = chars value := by
  constructor
  · intro shows
    cases shows with
    | @natural _ n denotes noZero =>
      rw [chars, if_neg (by omega), Int.natAbs_natCast]
      exact denotes.eq_digits noZero
    | @negative run n denotes noZero =>
      have same := denotes.eq_digits fun zero => absurd zero noZero
      have positive : 0 < n := by
        refine Nat.pos_of_ne_zero ?_
        rintro rfl
        exact noZero (same ▸ rfl)
      rw [chars, if_pos (by omega), Int.natAbs_neg, Int.natAbs_natCast, same]
  · rintro rfl
    unfold chars
    split
    · have shows := Shows.negative (denotes_digits value.natAbs) (digits_head_ne (by omega))
      rwa [show -(value.natAbs : Int) = value by omega] at shows
    · have shows := Shows.natural (denotes_digits value.natAbs) (digits_noZero _)
      rwa [show (value.natAbs : Int) = value by omega] at shows

theorem shows_text {text : String} : Shows text.toList value ↔ Decimal.text value = text := by
  rw [shows_iff, Decimal.text, ← String.toList_inj, String.toList_ofList, eq_comm]

end Decimal

theorem replicate_of_all {run : List Char} (all : run.all (· == c) = true) (someSign : run ≠ []) :
    ∃ count, run = List.replicate (count + 1) c := by
  obtain ⟨first, others, rfl⟩ := List.exists_cons_of_ne_nil someSign
  exact ⟨others.length, List.eq_replicate_of_mem (by simpa using all)⟩

theorem collapses_iff : Collapses run symbol ↔ run ≠ [] ∧ collapse run = symbol := by
  constructor
  · intro collapses
    cases collapses with
    | plus count => simp [collapse]
    | even count => simp [collapse]
    | odd count => simp [collapse]
    | other noPlus noMinus =>
      obtain ⟨c, member, different⟩ := noPlus
      refine ⟨List.ne_nil_of_mem member, ?_⟩
      rw [collapse, if_neg (List.ne_nil_of_mem member), if_neg (by simpa using ⟨c, member, different⟩),
        if_neg (by simpa using noMinus)]
  · rintro ⟨someSign, rfl⟩
    rw [collapse, if_neg someSign]
    split
    · rename_i plus
      obtain ⟨count, rfl⟩ := replicate_of_all plus someSign
      exact .plus count
    · rename_i noPlus
      split
      · rename_i minus
        obtain ⟨count, rfl⟩ := replicate_of_all minus someSign
        rw [List.length_replicate]
        obtain ⟨half, even | odd⟩ : ∃ half, count + 1 = 2 * half + 2 ∨ count + 1 = 2 * half + 1 := ⟨count / 2, by omega⟩
        · rw [even, if_pos (by omega)]
          exact .even half
        · rw [odd, if_neg (by omega)]
          exact .odd half
      · rename_i noMinus
        exact .other (by simpa using noPlus) (by simpa using noMinus)

theorem ranks_iff (unary : Bool) : Ranks symbol rank ↔ Operator.precedence ⟨symbol, unary⟩ = rank := by
  constructor
  · intro ranks
    cases ranks with
    | meaningless unknown => simp_all [Operator.precedence]
    | _ => rfl
  · rintro rfl
    simp only [Operator.precedence]
    split
    · rename_i sum
      rcases sum with rfl | rfl
      · exact .sum
      · exact .difference
    · split
      · rename_i product
        rcases product with rfl | rfl
        · exact .product
        · exact .quotient
      · exact .meaningless (by simp_all)

theorem combines_iff : Combines symbol left right outcome ↔ combine symbol left right = outcome := by
  constructor
  · intro combines
    cases combines with
    | quotient isQuotient => exact divide_ok_iff.mpr isQuotient
    | meaningless unknown => simp_all [combine]
    | _ => rfl
  · rintro rfl
    unfold combine
    split
    · rename_i plus
      exact plus ▸ .sum
    · split
      · rename_i minus
        exact minus ▸ .difference
      · split
        · rename_i times
          exact times ▸ .product
        · split
          · rename_i slash
            subst slash
            cases divided : divide left right with
            | ok value => exact .quotient (divide_ok_iff.mp divided)
            | error fault =>
              obtain ⟨rfl, rfl⟩ := divide_error_iff.mp divided
              exact .zero
          · exact .meaningless (by simp_all)

namespace Expr

theorem Yields.eval_eq (yields : Yields store expr outcome) : expr.eval store = outcome := by
  induction yields with
  | literal value => rfl
  | bound held => exact Store.require_ok_iff.mpr held
  | unbound missing => exact Store.require_unbound missing
  | negated operand ih => simp [eval, ih, applySign]
  | passed operand noMinus ih => simp [eval, ih, applySign, noMinus]
  | stopped operand ih => simp [eval, ih]
  | combined left right result ihLeft ihRight => simpa [eval, ihLeft, ihRight] using combines_iff.mp result
  | stoppedLeft left ih => simp [eval, ih]
  | stoppedRight left right ihLeft ihRight => simp [eval, ihLeft, ihRight]

theorem yields_eval (store : Store) (expr : Expr) : Yields store expr (expr.eval store) := by
  induction expr with
  | literal value => exact .literal value
  | «variable» name =>
    rw [eval]
    cases held : store.get? name with
    | some value => exact Store.require_ok_iff.mpr held ▸ .bound held
    | none => exact Store.require_unbound held ▸ .unbound held
  | unary symbol operand ih =>
    rw [eval]
    cases result : operand.eval store with
    | error fault => exact .stopped (result ▸ ih)
    | ok value =>
      rw [ok_bind, applySign, pure_eq_ok]
      split
      · rename_i minus
        exact minus ▸ .negated (result ▸ ih)
      · rename_i noMinus
        exact .passed (result ▸ ih) noMinus
  | binary symbol left right ihLeft ihRight =>
    rw [eval]
    cases first : left.eval store with
    | error fault => exact .stoppedLeft (first ▸ ihLeft)
    | ok a =>
      rw [ok_bind]
      cases second : right.eval store with
      | error fault => exact .stoppedRight (first ▸ ihLeft) (second ▸ ihRight)
      | ok b => exact .combined (first ▸ ihLeft) (second ▸ ihRight) (combines_iff.mpr rfl)

theorem yields_iff : Yields store expr outcome ↔ expr.eval store = outcome :=
  ⟨Yields.eval_eq, fun same => same ▸ yields_eval store expr⟩

end Expr
end Calculator
