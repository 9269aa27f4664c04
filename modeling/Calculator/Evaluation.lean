import Calculator.Fault
import Calculator.Store
namespace Calculator

-- The magnitudes are divided, which drops the fraction, and the quotient is negative where
-- one operand is and the other is not.
def divide (dividend divisor : Int) : Except Fault Int :=
  if divisor = 0 then .error .divisionByZero
  else
    let quotient : Int := (dividend.natAbs / divisor.natAbs : Nat)
    .ok (if dividend < 0 ↔ divisor < 0 then quotient else -quotient)

def combine (symbol : String) (left right : Int) : Except Fault Int :=
  if symbol = "+" then .ok (left + right)
  else if symbol = "-" then .ok (left - right)
  else if symbol = "*" then .ok (left * right)
  else if symbol = "/" then divide left right
  else .error (.unknownOperator symbol)

def applySign (symbol : String) (value : Int) : Int := if symbol = "-" then -value else value

abbrev Operands := List Int

def Operator.reduce (op : Operator) (operands : Operands) : Except Fault Operands :=
  if op.unary then
    match operands with
    | value :: below => .ok (applySign op.symbol value :: below)
    | _ => .error (.missingOperand op)
  else
    match operands with
    | right :: left :: below => do
      let value ← combine op.symbol left right
      return value :: below
    | _ => .error (.missingOperand op)

def Store.require (store : Store) (name : String) : Except Fault Int :=
  match store.get? name with
  | some value => .ok value
  | none => .error (.unknownVariable name)

theorem Store.require_ok_iff {store : Store} : store.require name = .ok value ↔ store.get? name = some value := by
  unfold require
  split <;> simp_all

theorem Store.require_unbound {store : Store} (unbound : store.get? name = none) :
    store.require name = .error (.unknownVariable name) := by
  rw [require, unbound]

def Token.perform (store : Store) (operands : Operands) : Token → Except Fault Operands
  | .integer value => .ok (value :: operands)
  | .identifier name => do
    let value ← store.require name
    return value :: operands
  | .operator op => op.reduce operands
  | .bracket side => .error (.strayBracket side)

def soleValue : Operands → Except Fault Int
  | [value] => .ok value
  | operands => .error (.leftoverValues operands.length)

def performAll (store : Store) (operands : Operands) (stream : List Token) : Except Fault Operands :=
  stream.foldlM (Token.perform store) operands

def valueOfPostfix (store : Store) (stream : List Token) : Except Fault Int := do
  let operands ← performAll store [] stream
  soleValue operands

theorem performAll_append (store : Store) (operands : Operands) (left right : List Token) :
    performAll store operands (left ++ right) = (do
      let between ← performAll store operands left
      performAll store between right) := by
  simp [performAll]

end Calculator
