import Calculator.Proofs.Conversions
import Calculator.Proofs.SignRuns
import Calculator.Proofs.WrittenLines
import Mathlib.Algebra.Ring.Int.Defs
namespace Calculator

inductive Numeral : Nat → List Char → Prop
  | digits (someDigit : run ≠ []) (allDigits : ∀ c ∈ run, c.isDigit = true) : Numeral (Decimal.ofDigits run) run
  | bracketed (inside : Numeral n text) : Numeral n ('(' :: text ++ [')'])

inductive SignedNumeral (run : List Char) : Nat → List Char → Prop
  | bare (numeral : Numeral n text) : SignedNumeral run n (run ++ text)
  | bracketed (inside : SignedNumeral run n text) : SignedNumeral run n ('(' :: text ++ [')'])

def OneSign (run : List Char) : Prop := ∃ sign, ∀ c ∈ run, c = sign

theorem numeral_digits (n : Nat) : Numeral n (Decimal.digits n) := by
  have spelled := Numeral.digits (Decimal.digits_ne_nil n) fun _ => Decimal.isDigit_of_mem_digits
  rwa [Decimal.ofDigits_digits] at spelled

theorem Numeral.reading (numeral : Numeral n text) : TextReading false 3 text (.literal n) := by
  induction numeral with
  | digits someDigit allDigits => exact .digits (Decimal.denotes_ofDigits someDigit allDigits)
  | bracketed inside ih => exact .group (ih.leads_true.loosen (Nat.zero_le 3))

theorem SignedNumeral.reading (signed : SignedNumeral run n text) (someSign : run ≠ [])
    (allSigns : ∀ c ∈ run, c ∈ ['+', '-', '*', '/']) :
    TextReading true 3 text (.unary (String.ofList (collapse run)) (.literal n)) := by
  induction signed with
  | bare numeral => exact .signed allSigns (collapses_iff.mpr ⟨someSign, rfl⟩) numeral.reading
  | bracketed inside ih => exact .group (ih.loosen (Nat.zero_le 3))

theorem applySigns_count (signs : ∀ c ∈ run, c = '+' ∨ c = '-') (value : Int) :
    applySigns run value = (-1) ^ run.count '-' * value := by
  induction run with
  | nil => simp [applySigns]
  | cons sign others ih =>
    have rest := ih fun c member => signs c (List.mem_cons_of_mem _ member)
    have first : applySigns (sign :: others) value = applySign (String.singleton sign) (applySigns others value) := rfl
    rw [first, rest]
    rcases signs sign List.mem_cons_self with rfl | rfl
    · rw [List.count_cons_of_ne (by decide)]
      rfl
    · rw [List.count_cons_self, pow_succ, mul_neg_one, neg_mul]
      rfl

theorem OneSign.uniform (one : OneSign run) (someSign : run ≠ []) (signs : ∀ c ∈ run, c = '+' ∨ c = '-') :
    Lexeme.Uniform (.signs run) := by
  obtain ⟨sign, all⟩ := one
  obtain ⟨first, others, rfl⟩ := List.exists_cons_of_ne_nil someSign
  obtain rfl := all first List.mem_cons_self
  have same : first :: others = List.replicate (others.length + 1) first := List.eq_replicate_of_mem all
  rcases signs first List.mem_cons_self with rfl | rfl
  · exact .inl ⟨others.length, same⟩
  · exact .inr (.inl ⟨others.length, same⟩)

section
variable (mixed : ¬ OneSign run)
include mixed

theorem collapse_mixed : collapse run = run := by
  unfold collapse
  split_ifs with empty plus minus
  · exact empty.symm
  · exact absurd ⟨'+', by simpa using plus⟩ mixed
  · exact absurd ⟨'-', by simpa using minus⟩ mixed
  · exact absurd ⟨'-', by simpa using minus⟩ mixed
  · rfl

theorem mixed_ne_single (sign : Char) : String.ofList run ≠ String.ofList [sign] := by
  intro same
  have single : run = [sign] := String.ofList_injective same
  exact mixed ⟨sign, by simp [single]⟩

theorem applySign_mixed (value : Int) : applySign (String.ofList run) value = value :=
  if_neg (mixed_ne_single mixed '-')

theorem combine_mixed (left right : Int) :
    combine (String.ofList run) left right = .error (.unknownOperator (String.ofList run)) := by
  rw [combine, if_neg (mixed_ne_single mixed '+'), if_neg (mixed_ne_single mixed '-'),
    if_neg (mixed_ne_single mixed '*'), if_neg (mixed_ne_single mixed '/')]

end

theorem combine_signs (uniform : Lexeme.Uniform (.signs run)) (someSign : run ≠ [])
    (signs : ∀ c ∈ run, c = '+' ∨ c = '-') (left right : Int) :
    combine (String.ofList (collapse run)) left right = .ok (left + applySigns run right) := by
  obtain ⟨sign, others, rfl⟩ := List.exists_cons_of_ne_nil someSign
  rw [uniform.combine_collapse]
  rcases signs sign List.mem_cons_self with rfl | rfl
  · rfl
  · exact congrArg Except.ok (Int.sub_eq_add_neg : left - applySigns others right = _)

-- A run of equal signs is worth its signs one by one. A mixed run is refused between two
-- numbers, and in front of one it is kept and changes nothing, not even for an odd number
-- of minus signs. A limit can only refuse the line for a number that is too long.
theorem evaluate_signs (someSign : run ≠ []) (signs : ∀ c ∈ run, c = '+' ∨ c = '-') :
    (∀ value, applySigns run value = (-1) ^ run.count '-' * value) ∧
    ∀ strict store line,
      let answer := evaluate ⟨strict, .unlimited⟩ store line
      (∀ m left n right, Numeral m left → Numeral n right → Text.removeBlanks line.toList = left ++ run ++ right →
        (OneSign run → answer = .ok (Decimal.text (m + (-1) ^ run.count '-' * n))) ∧
        (¬ OneSign run → answer = .error (.unknownOperator (String.ofList run)))) ∧
      (∀ n, SignedNumeral run n (Text.removeBlanks line.toList) →
        (OneSign run → answer = .ok (Decimal.text ((-1) ^ run.count '-' * n))) ∧
        (¬ OneSign run → answer = .ok (Decimal.text n))) ∧
      ∀ limit, evaluate ⟨strict, limit⟩ store line = answer ∨
        ∃ fault, evaluate ⟨strict, limit⟩ store line = .error fault ∧ fault.kind = "NumberTooLarge" := by
  have allSigns : ∀ c ∈ run, c ∈ ['+', '-', '*', '/'] := by
    intro c member
    rcases signs c member with rfl | rfl <;> decide
  refine ⟨applySigns_count signs, fun strict store line => ⟨?between, ?inFront, ?limited⟩⟩
  case between =>
    intro m left n right first second text
    let op : Operator := ⟨String.ofList (collapse run), false⟩
    have before := first.reading.leads_true.loosen (Nat.le_succ_of_le op.precedence_le_two)
    have last := second.reading.loosen (Nat.succ_le_succ op.precedence_le_two)
    have reading := TextReading.joined allSigns (collapses_iff.mpr ⟨someSign, rfl⟩) ((ranks_iff false).mpr rfl) before last
    rw [← text] at reading
    have answer := (reading.loosen (Nat.zero_le _)).evaluate_eq_eval strict store
    simp only [Expr.eval, ok_bind] at answer
    refine ⟨fun one => ?_, fun mixed => ?_⟩
    · rw [answer, combine_signs (one.uniform someSign signs) someSign signs, applySigns_count signs, Except.map_ok]
    · rw [answer, collapse_mixed mixed, combine_mixed mixed, Except.map_error]
  case inFront =>
    intro n signed
    have answer := ((signed.reading someSign allSigns).loosen (Nat.zero_le 3)).evaluate_eq_eval strict store
    simp only [Expr.eval, ok_bind, pure_eq_ok, Except.map_ok] at answer
    refine ⟨fun one => ?_, fun mixed => ?_⟩
    · obtain ⟨sign, others, rfl⟩ := List.exists_cons_of_ne_nil someSign
      rw [answer, (one.uniform someSign signs).applySign_collapse, applySigns_count signs]
    · rw [answer, collapse_mixed mixed, applySign_mixed mixed]
  case limited =>
    intro limit
    exact evaluate_limit ⟨strict, limit⟩ store line

theorem evaluate_signs_minus_run :
    let run := ['-', '-', '-']
    run ≠ [] ∧ (∀ c ∈ run, c = '+' ∨ c = '-') ∧ OneSign run ∧
      evaluate {} .empty "4 -- -(2)" = .ok (Decimal.text (4 + (-1) ^ run.count '-' * 2)) ∧
      evaluate {} .empty "(- --2 )" = .ok (Decimal.text ((-1) ^ run.count '-' * 2)) := by
  intro run
  have someSign : run ≠ [] := List.cons_ne_nil _ _
  have signs : ∀ c ∈ run, c = '+' ∨ c = '-' := by simp [run]
  have one : OneSign run := ⟨'-', by simp [run]⟩
  have four : Numeral 4 ['4'] := numeral_digits 4
  have two : Numeral 2 ['2'] := numeral_digits 2
  have difference := ((evaluate_signs someSign signs).2 false .empty "4 -- -(2)").1 4 _ 2 _ four (.bracketed two) (by rfl)
  have opposite := ((evaluate_signs someSign signs).2 false .empty "(- --2 )").2.1 2 (.bracketed (.bare two))
  exact ⟨someSign, signs, one, difference.1 one, opposite.1 one⟩

theorem evaluate_plus_minus :
    SignedNumeral ['+', '-'] 5 (Text.removeBlanks "+-5".toList) ∧ evaluate {} .empty "+-5" = .ok "5" ∧
      ¬ ((∃ fault, evaluate {} .empty "+-5" = .error fault) ∨
        evaluate {} .empty "+-5" = .ok (Decimal.text ((-1) ^ ['+', '-'].count '-' * 5))) := by
  have five : Numeral 5 ['5'] := numeral_digits 5
  have answer : evaluate {} .empty "+-5" = .ok "5" := by rfl
  refine ⟨.bare five, answer, ?_⟩
  rintro (⟨fault, failed⟩ | negative)
  · cases answer.symm.trans failed
  · have same : "5" = Decimal.text ((-1) ^ ['+', '-'].count '-' * 5) := Except.ok.inj (answer.symm.trans negative)
    revert same
    decide

end Calculator
