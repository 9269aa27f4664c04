import Calculator.Text.Quoted
import Calculator.Token
namespace Calculator

-- Every way a line can be refused, by cause. `kind` groups the causes for those who react
-- to them, `message` tells a log what went wrong, `notice` is what a person is shown.
inductive Fault where
  | unopenedBracket
  | unclosedBrackets (count : Nat)
  | unknownVariable (name : String)
  | unknownOperator (symbol : String)
  | divisionByZero
  | leftoverValues (count : Nat)
  | missingOperand (op : Operator)
  | strayBracket (side : Bracket)
  | literalTooLong (length : Nat) (overflow : DigitOverflow)
  | resultTooLong (overflow : DigitOverflow)
  | unrecognizedInput (rest : String)
  | invalidIdentifier (text : String)
  | notAnAssignment (line : String)
  | invalidSource (text : String)
  | sourceTooLong (length : Nat) (overflow : DigitOverflow)
  deriving DecidableEq, Repr

namespace Fault
open Text

def kind : Fault → String
  | .unopenedBracket | .unclosedBrackets _ => "UnmatchedBracket"
  | .unknownVariable _ => "UnknownVariable"
  | .unknownOperator _ => "UnknownOperator"
  | .divisionByZero => "DivisionByZero"
  | .leftoverValues _ | .missingOperand _ | .strayBracket _ => "MalformedPostfix"
  | .literalTooLong .. | .resultTooLong _ => "NumberTooLarge"
  | .unrecognizedInput _ => "UnrecognizedInput"
  | .invalidIdentifier _ => "InvalidIdentifier"
  | .notAnAssignment _ | .invalidSource _ | .sourceTooLong .. => "InvalidAssignmentValue"

def message : Fault → String
  | .unopenedBracket => "Closing bracket without a matching '('"
  | .unclosedBrackets count => Decimal.text count ++ " unclosed bracket(s)"
  | .unknownVariable name => "Unknown variable: " ++ quoted name
  | .unknownOperator symbol => "Unknown binary operator: " ++ quoted symbol
  | .divisionByZero => "Division by zero"
  | .leftoverValues count => Decimal.text count ++ " value(s) left on the operand stack"
  | .missingOperand op => "Operator " ++ quoted op.text ++ " is missing an operand"
  | .strayBracket side =>
    let name := match side with
      | .opening => "open"
      | .closing => "close"
    "Unexpected token in postfix stream: BracketToken(token_type='bracket', kind='" ++ name ++ "')"
  | .literalTooLong length overflow =>
    "Literal of " ++ Decimal.text length ++ " digits: " ++ overflow.message
  | .resultTooLong overflow => "Result too long to print: " ++ overflow.message
  | .unrecognizedInput rest => "Unrecognized input: " ++ quoted rest
  | .invalidIdentifier text => "Invalid identifier: " ++ quoted text
  | .notAnAssignment line => "Not an assignment: " ++ quoted line
  | .invalidSource text => "Invalid assignment: " ++ quoted text
  | .sourceTooLong length overflow =>
    "Literal of " ++ Decimal.text length ++ " chars: " ++ overflow.message

def notice : Fault → String
  | .unknownVariable _ => "Unknown variable"
  | .invalidIdentifier _ => "Invalid identifier"
  | .notAnAssignment _ | .invalidSource _ | .sourceTooLong .. => "Invalid assignment"
  | _ => "Invalid expression"

end Fault
end Calculator
