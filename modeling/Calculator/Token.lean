import Calculator.Decimal
namespace Calculator

-- A run of operator signs in one place of an expression. Only `+ - * /` have a meaning
-- between two operands; any other run is kept as it stands, so that evaluating it can
-- name it. A run where an operand was due is unary.
structure Operator where
  symbol : String
  unary : Bool := false
  deriving DecidableEq, Repr

namespace Operator

def precedence (op : Operator) : Nat :=
  if op.symbol = "+" ∨ op.symbol = "-" then 1
  else if op.symbol = "*" ∨ op.symbol = "/" then 2
  else 0

def bindingPower (op : Operator) : Nat := if op.unary then 3 else op.precedence

def text (op : Operator) : String := if op.unary then "u" ++ op.symbol else op.symbol

theorem precedence_le_two (op : Operator) : op.precedence ≤ 2 := by
  unfold precedence; split <;> (try split) <;> omega

end Operator

inductive Bracket where
  | opening
  | closing
  deriving DecidableEq, Repr

def Bracket.text : Bracket → String
  | .opening => "("
  | .closing => ")"

inductive Token where
  | integer (value : Int)
  | identifier (name : String)
  | operator (op : Operator)
  | bracket (side : Bracket)
  deriving DecidableEq, Repr

namespace Token

def kind : Token → String
  | .integer _ => "integer"
  | .identifier _ => "identifier"
  | .operator _ => "operator"
  | .bracket _ => "bracket"

def print (limit : DigitLimit) : Token → Except DigitOverflow String
  | .integer value => limit.print value
  | .identifier name => .ok name
  | .operator op => .ok op.text
  | .bracket side => .ok side.text

def text : Token → String
  | .integer value => Decimal.text value
  | .identifier name => name
  | .operator op => op.text
  | .bracket side => side.text

def printAll (limit : DigitLimit) (tokens : List Token) : Except DigitOverflow String :=
  String.intercalate " " <$> tokens.mapM (print limit)

-- An operand or a closing bracket ends a phrase; after anything else, and at the start,
-- an operand is due, so that an operator found there is unary.
def expectsOperand : Option Token → Bool
  | none => true
  | some (.operator _) => true
  | some (.bracket .opening) => true
  | some _ => false

def isOperand : Token → Bool
  | .integer _ => true
  | .identifier _ => true
  | _ => false

end Token
end Calculator
