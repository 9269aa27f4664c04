import Calculator.Line
import Calculator.Proofs.Meanings
import Mathlib.Data.List.Forall2
namespace Calculator

namespace Expr

def listing (trees : List Expr) : List Token := trees.reverse.flatMap postorder

theorem listing_cons (expr : Expr) (trees : List Expr) :
    listing (expr :: trees) = listing trees ++ expr.postorder := by
  simp [listing]

theorem grow_listing (grew : grow trees token = some grown) : listing grown = listing trees ++ [token] := by
  cases token with
  | integer value =>
    cases grew
    exact listing_cons (.literal value) trees
  | identifier name =>
    cases grew
    exact listing_cons (.variable name) trees
  | operator op =>
    obtain ⟨symbol, unary⟩ := op
    cases unary with
    | true =>
      cases trees with
      | nil => cases grew
      | cons operand below =>
        cases grew
        simp only [listing_cons, postorder, List.append_assoc]
    | false =>
      cases trees with
      | nil => cases grew
      | cons right rest =>
        cases rest with
        | nil => cases grew
        | cons left below =>
          cases grew
          simp only [listing_cons, postorder, List.append_assoc]
  | bracket side => cases grew

theorem assemble_listing (assembled : assemble trees stream = some grown) :
    listing grown = listing trees ++ stream := by
  induction stream generalizing trees with
  | nil =>
    cases assembled
    exact (List.append_nil _).symm
  | cons token later ih =>
    obtain ⟨between, grew, rest⟩ := Option.bind_eq_some_iff.mp assembled
    rw [ih rest, grow_listing grew, List.append_assoc, List.singleton_append]

abbrev Valued (store : Store) : List Expr → Operands → Prop :=
  List.Forall₂ fun expr value => expr.eval store = .ok value

theorem reduce_grow (valued : Valued store trees operands) (done : op.reduce operands = .ok result) :
    ∃ grown, grow trees (.operator op) = some grown ∧ Valued store grown result := by
  obtain ⟨symbol, unary⟩ := op
  cases unary with
  | true =>
    cases valued with
    | nil => cases done
    | @cons operand value trees operands same below =>
      cases done
      exact ⟨.unary symbol operand :: trees, rfl, .cons (by simp [eval, same]) below⟩
  | false =>
    cases valued with
    | nil => cases done
    | @cons right rightValue trees operands rightSame rest =>
      cases rest with
      | nil => cases done
      | @cons left leftValue trees operands leftSame below =>
        obtain ⟨value, combined, same⟩ := bind_eq_ok.mp done
        cases same
        exact ⟨.binary symbol left right :: trees, rfl, .cons (by simp [eval, leftSame, rightSame, combined]) below⟩

-- A token that can be performed makes of the trees what it makes of their values.
theorem perform_grow (valued : Valued store trees operands)
    (done : Token.perform store operands token = .ok result) :
    ∃ grown, grow trees token = some grown ∧ Valued store grown result := by
  cases token with
  | integer value =>
    cases done
    exact ⟨.literal value :: trees, rfl, .cons rfl valued⟩
  | identifier name =>
    obtain ⟨value, found, same⟩ := bind_eq_ok.mp done
    cases same
    exact ⟨.variable name :: trees, rfl, .cons found valued⟩
  | operator op => exact reduce_grow valued done
  | bracket side => cases done

theorem performAll_assemble (valued : Valued store trees operands)
    (done : performAll store operands stream = .ok result) :
    ∃ grown, assemble trees stream = some grown ∧ Valued store grown result := by
  induction stream generalizing trees operands with
  | nil =>
    cases done
    exact ⟨trees, rfl, valued⟩
  | cons token later ih =>
    obtain ⟨between, first, rest⟩ := bind_eq_ok.mp done
    obtain ⟨middle, grew, middleValued⟩ := perform_grow valued first
    obtain ⟨grown, assembled, grownValued⟩ := ih middleValued rest
    exact ⟨grown, Option.bind_eq_some_iff.mpr ⟨middle, grew, assembled⟩, grownValued⟩

theorem postorder_of_value (answered : valueOfPostfix store stream = .ok value) :
    ∃ expr, postorder expr = stream ∧ expr.eval store = .ok value := by
  obtain ⟨operands, done, sole⟩ := bind_eq_ok.mp answered
  obtain ⟨grown, assembled, valued⟩ := performAll_assemble .nil done
  have listed := assemble_listing assembled
  unfold soleValue at sole
  split at sole
  · cases sole
    cases valued with
    | @cons expr value trees operands same none =>
      cases none
      exact ⟨expr, by simpa [listing] using listed, same⟩
  · cases sole

theorem evaluate_of_postorder (store : Store) (read : tokensOfLine ⟨strict, .unlimited⟩ line = .ok tokens)
    (converted : postfixOf tokens = .ok (postorder expr)) :
    evaluate ⟨strict, .unlimited⟩ store line = Decimal.text <$> expr.eval store := by
  simp only [evaluate, valueOfLine, postfixOfLine, read, converted, ok_bind, valueOfPostfix_postorder]
  cases expr.eval store with
  | error fault => rfl
  | ok value => simp [DigitLimit.print, DigitLimit.Allows]

theorem bracket_not_mem_postorder (side : Bracket) (expr : Expr) : Token.bracket side ∉ expr.postorder := by
  induction expr with
  | literal value => simp [postorder]
  | «variable» name => simp [postorder]
  | unary symbol operand ih => simp [postorder, ih]
  | binary symbol left right ihLeft ihRight => simp [postorder, ihLeft, ihRight]

end Expr

-- A postfix stream means the one tree that it lists, and comes to what the tree comes to: its
-- value, or the first fault. A stream that lists no tree has no value at all.
theorem valueOfPostfix_tree (store : Store) (stream : List Token) :
    (∀ value, valueOfPostfix store stream = .ok value ↔
      ∃ expr : Expr, expr.postorder = stream ∧ expr.Yields store (.ok value)) ∧
    (∀ expr other : Expr, expr.postorder = stream → other.postorder = stream → other = expr) ∧
    (∀ (expr : Expr) (fault : Fault), expr.postorder = stream → expr.Yields store (.error fault) →
      valueOfPostfix store stream = .error fault) ∧
    ((∀ expr : Expr, expr.postorder ≠ stream) ∨ (∃ side, Token.bracket side ∈ stream) →
      ∃ fault, valueOfPostfix store stream = .error fault) := by
  have listed {expr : Expr} {outcome : Except Fault Int} (lists : expr.postorder = stream)
      (yields : expr.Yields store outcome) : valueOfPostfix store stream = outcome :=
    lists ▸ (expr.valueOfPostfix_postorder store).trans yields.eval_eq
  refine ⟨?_, ?_, ?_, ?_⟩
  · intro value
    constructor
    · intro answered
      obtain ⟨expr, lists, same⟩ := Expr.postorder_of_value answered
      exact ⟨expr, lists, Expr.yields_iff.mpr same⟩
    · rintro ⟨expr, lists, yields⟩
      exact listed lists yields
  · intro expr other lists otherLists
    exact Expr.postorder_injective (otherLists.trans lists.symm)
  · intro expr fault lists failed
    exact listed lists failed
  · intro treeless
    cases answer : valueOfPostfix store stream with
    | error fault => exact ⟨fault, rfl⟩
    | ok value =>
      obtain ⟨expr, lists, _⟩ := Expr.postorder_of_value answer
      rcases treeless with none | ⟨side, member⟩
      · exact absurd lists (none expr)
      · exact absurd (lists ▸ member) (expr.bracket_not_mem_postorder side)

theorem valueOfPostfix_tree_quotient :
    let store := Store.empty.set "x" (-7)
    let opposite := [.identifier "x", .integer 2, .operator ⟨"/", false⟩, .operator ⟨"-", true⟩]
    valueOfPostfix store opposite = .ok 3 ∧
      valueOfPostfix .empty opposite = .error (.unknownVariable "x") ∧
      valueOfPostfix store [.integer 5, .integer 0, .operator ⟨"/", false⟩] = .error .divisionByZero ∧
      valueOfPostfix store [.integer 5, .identifier "x", .operator ⟨"+-", false⟩] = .error (.unknownOperator "+-") ∧
      ∃ fault, valueOfPostfix store [.integer 5, .bracket .closing] = .error fault := by
  intro store opposite
  let expr : Expr := .unary "-" (.binary "/" (.variable "x") (.literal 2))
  refine ⟨?value, ?unbound, ?zero, ?unknown, ?bracket⟩
  case value =>
    have quotient : IsQuotient (-7) 2 (-3) := ⟨by decide, by decide⟩
    have yields : expr.Yields store (.ok 3) :=
      .negated (.combined (.bound (by decide)) (.literal 2) (.quotient quotient))
    exact ((valueOfPostfix_tree store opposite).1 3).mpr ⟨expr, rfl, yields⟩
  case unbound =>
    have yields : expr.Yields .empty (.error (.unknownVariable "x")) := .stopped (.stoppedLeft (.unbound (by decide)))
    exact (valueOfPostfix_tree .empty opposite).2.2.1 expr _ rfl yields
  case zero =>
    exact (valueOfPostfix_tree store _).2.2.1 (.binary "/" (.literal 5) (.literal 0)) _ rfl
      (.combined (.literal 5) (.literal 0) .zero)
  case unknown =>
    have held : Expr.Yields store (.variable "x") (.ok (-7)) := .bound (by decide)
    exact (valueOfPostfix_tree store _).2.2.1 (.binary "+-" (.literal 5) (.variable "x")) _ rfl
      (.combined (.literal 5) held (.meaningless (by decide)))
  case bracket => exact (valueOfPostfix_tree store _).2.2.2 (.inr ⟨.closing, by simp⟩)

example (store : Store) :
    valueOfPostfix store [.integer 1, .integer 2, .operator ⟨"-", true⟩] = .error (.leftoverValues 2) ∧
      valueOfPostfix store [.integer 1, .operator ⟨"?", false⟩] = .error (.missingOperand ⟨"?", false⟩) :=
  ⟨rfl, rfl⟩

end Calculator
