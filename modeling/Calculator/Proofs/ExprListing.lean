import Calculator.Expr
import Calculator.Proofs.Quotients
namespace Calculator.Expr

-- What a token makes of the trees read so far, last one first. It is the way values are
-- computed, with trees in their place.
def grow (trees : List Expr) : Token → Option (List Expr)
  | .integer value => some (.literal value :: trees)
  | .identifier name => some (.variable name :: trees)
  | .operator op =>
    if op.unary then
      match trees with
      | operand :: below => some (.unary op.symbol operand :: below)
      | _ => none
    else
      match trees with
      | right :: left :: below => some (.binary op.symbol left right :: below)
      | _ => none
  | .bracket _ => none

def assemble (trees : List Expr) (stream : List Token) : Option (List Expr) := stream.foldlM grow trees

theorem assemble_append (trees : List Expr) (left right : List Token) :
    assemble trees (left ++ right) = (assemble trees left).bind (assemble · right) := by
  simp [assemble, List.foldlM_append]

theorem assemble_postorder (trees : List Expr) (expr : Expr) :
    assemble trees expr.postorder = some (expr :: trees) := by
  induction expr generalizing trees with
  | literal value => rfl
  | «variable» name => rfl
  | unary symbol operand ih =>
    rw [postorder, assemble_append, ih]
    rfl
  | binary symbol left right ihLeft ihRight =>
    rw [postorder, assemble_append, assemble_append, ihLeft]
    simp only [Option.bind_some, ihRight]
    rfl

theorem postorder_injective {left right : Expr} (same : left.postorder = right.postorder) :
    left = right := by
  have rebuilt : assemble [] left.postorder = some [right] := by rw [same, assemble_postorder]
  simpa [assemble_postorder] using rebuilt

theorem valueOfPostfix_postorder (store : Store) (expr : Expr) :
    valueOfPostfix store expr.postorder = expr.eval store := by
  rw [valueOfPostfix, performAll_postorder]
  cases expr.eval store <;> rfl

inductive Cause (store : Store) : Fault → Prop
  | unbound (missing : store.get? name = none) : Cause store (.unknownVariable name)
  | zeroDivisor : Cause store .divisionByZero
  | meaningless (unknown : symbol ∉ ["+", "-", "*", "/"]) : Cause store (.unknownOperator symbol)

theorem combine_cause (store : Store) (failed : combine symbol left right = .error fault) :
    Cause store fault := by
  unfold combine at failed
  split at failed
  · cases failed
  · split at failed
    · cases failed
    · split at failed
      · cases failed
      · split at failed
        · obtain ⟨_, rfl⟩ := divide_error_iff.mp failed
          exact .zeroDivisor
        · rename_i plus minus times slash
          cases failed
          exact .meaningless (by simp [plus, minus, times, slash])

theorem require_cause (failed : Store.require store name = .error fault) : Cause store fault := by
  unfold Store.require at failed
  split at failed
  · cases failed
  · rename_i missing
    cases failed
    exact .unbound missing

theorem eval_cause (failed : eval store expr = .error fault) : Cause store fault := by
  induction expr with
  | literal value => cases failed
  | «variable» name => exact require_cause failed
  | unary symbol operand ih =>
    cases value : operand.eval store with
    | error earlier =>
      simp only [eval, value, error_bind] at failed
      exact ih (value.trans failed)
    | ok result => simp [eval, value] at failed
  | binary symbol left right ihLeft ihRight =>
    cases first : left.eval store with
    | error earlier =>
      simp only [eval, first, error_bind] at failed
      exact ihLeft (first.trans failed)
    | ok leftValue =>
      cases second : right.eval store with
      | error earlier =>
        simp only [eval, first, second, ok_bind, error_bind] at failed
        exact ihRight (second.trans failed)
      | ok rightValue =>
        simp only [eval, first, second, ok_bind] at failed
        exact combine_cause store failed

end Calculator.Expr
