import Calculator.Expr
namespace Calculator

namespace Decimal

inductive Denotes : List Char → Nat → Prop
  | digit (small : d < 10) : Denotes [Nat.digitChar d] d
  | behind (front : Denotes run n) (small : d < 10) : Denotes (run ++ [Nat.digitChar d]) (10 * n + d)

inductive Shows : List Char → Int → Prop
  | natural (denotes : Denotes run n) (noZero : run.head? = some '0' → run = ['0']) : Shows run n
  | negative (denotes : Denotes run n) (noZero : run.head? ≠ some '0') : Shows ('-' :: run) (-n)

end Decimal

inductive Collapses : List Char → List Char → Prop
  | plus (count : Nat) : Collapses (List.replicate (count + 1) '+') ['+']
  | even (count : Nat) : Collapses (List.replicate (2 * count + 2) '-') ['+']
  | odd (count : Nat) : Collapses (List.replicate (2 * count + 1) '-') ['-']
  | other (noPlus : ∃ c ∈ run, c ≠ '+') (noMinus : ∃ c ∈ run, c ≠ '-') : Collapses run run

inductive Ranks : String → Nat → Prop
  | sum : Ranks "+" 1
  | difference : Ranks "-" 1
  | product : Ranks "*" 2
  | quotient : Ranks "/" 2
  | meaningless (unknown : symbol ∉ ["+", "-", "*", "/"]) : Ranks symbol 0

-- What is left of a dividend is smaller than the divisor, and on the side of zero where the
-- dividend is.
structure IsQuotient (dividend divisor quotient : Int) : Prop where
  small : (dividend - divisor * quotient).natAbs < divisor.natAbs
  side : dividend - divisor * quotient = 0 ∨ (dividend - divisor * quotient).sign = dividend.sign

inductive Combines : String → Int → Int → Except Fault Int → Prop
  | sum : Combines "+" left right (.ok (left + right))
  | difference : Combines "-" left right (.ok (left - right))
  | product : Combines "*" left right (.ok (left * right))
  | quotient (isQuotient : IsQuotient left right value) : Combines "/" left right (.ok value)
  | zero : Combines "/" left 0 (.error .divisionByZero)
  | meaningless (unknown : symbol ∉ ["+", "-", "*", "/"]) :
      Combines symbol left right (.error (.unknownOperator symbol))

inductive Expr.Yields (store : Store) : Expr → Except Fault Int → Prop
  | literal (value : Int) : Yields store (.literal value) (.ok value)
  | bound (held : store.get? name = some value) : Yields store (.variable name) (.ok value)
  | unbound (missing : store.get? name = none) : Yields store (.variable name) (.error (.unknownVariable name))
  | negated (operand : Yields store expr (.ok value)) : Yields store (.unary "-" expr) (.ok (-value))
  | passed (operand : Yields store expr (.ok value)) (noMinus : symbol ≠ "-") :
      Yields store (.unary symbol expr) (.ok value)
  | stopped (operand : Yields store expr (.error fault)) : Yields store (.unary symbol expr) (.error fault)
  | combined (left : Yields store leftExpr (.ok a)) (right : Yields store rightExpr (.ok b))
      (result : Combines symbol a b outcome) : Yields store (.binary symbol leftExpr rightExpr) outcome
  | stoppedLeft (left : Yields store leftExpr (.error fault)) :
      Yields store (.binary symbol leftExpr rightExpr) (.error fault)
  | stoppedRight (left : Yields store leftExpr (.ok a)) (right : Yields store rightExpr (.error fault)) :
      Yields store (.binary symbol leftExpr rightExpr) (.error fault)

end Calculator
