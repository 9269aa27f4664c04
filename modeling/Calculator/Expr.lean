import Calculator.Evaluation
namespace Calculator

inductive Expr where
  | literal (value : Int)
  | variable (name : String)
  | unary (symbol : String) (operand : Expr)
  | binary (symbol : String) (left right : Expr)
  deriving DecidableEq, Repr

namespace Expr

def eval (store : Store) : Expr → Except Fault Int
  | .literal value => .ok value
  | .variable name => store.require name
  | .unary symbol operand => do
    let value ← operand.eval store
    return applySign symbol value
  | .binary symbol left right => do
    let leftValue ← left.eval store
    let rightValue ← right.eval store
    combine symbol leftValue rightValue

def postorder : Expr → List Token
  | .literal value => [.integer value]
  | .variable name => [.identifier name]
  | .unary symbol operand => operand.postorder ++ [.operator ⟨symbol, true⟩]
  | .binary symbol left right => left.postorder ++ right.postorder ++ [.operator ⟨symbol, false⟩]

-- Performing a listing puts the value of its tree on what was there before.
theorem performAll_postorder (store : Store) (operands : Operands) (expr : Expr) :
    performAll store operands expr.postorder = (do
      let value ← expr.eval store
      return value :: operands) := by
  induction expr generalizing operands with
  | literal value => rfl
  | «variable» name =>
    simp only [performAll, postorder, List.foldlM_cons, List.foldlM_nil, Token.perform, eval]
    cases store.require name <;> rfl
  | unary symbol operand ih =>
    simp only [postorder, performAll_append, ih, eval]
    cases operand.eval store <;> rfl
  | binary symbol left right ihLeft ihRight =>
    simp only [postorder, performAll_append, ihLeft, eval]
    cases left.eval store with
    | error fault => rfl
    | ok leftValue =>
      simp only [bind, Except.bind, pure, Except.pure, ihRight]
      cases right.eval store with
      | error fault => rfl
      | ok rightValue =>
        simp only [performAll, List.foldlM_cons, List.foldlM_nil, Token.perform, Operator.reduce, bind, Except.bind]
        cases combine symbol leftValue rightValue <;> rfl

end Expr
end Calculator
