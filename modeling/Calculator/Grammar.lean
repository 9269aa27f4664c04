import Calculator.Meaning
namespace Calculator

inductive Phrase where
  | primary
  | operand
  | expression
  deriving DecidableEq, Repr

inductive Stream : Phrase → List Token → Prop
  | integer (value : Int) : Stream .primary [.integer value]
  | identifier (name : String) : Stream .primary [.identifier name]
  | group (inside : Stream .expression tokens) :
      Stream .primary (.bracket .opening :: tokens ++ [.bracket .closing])
  | plain (primary : Stream .primary tokens) : Stream .operand tokens
  | signed (unary : op.unary = true) (operand : Stream .operand tokens) :
      Stream .operand (.operator op :: tokens)
  | single (operand : Stream .operand tokens) : Stream .expression tokens
  | joined (before : Stream .expression left) (binary : op.unary = false)
      (last : Stream .operand right) : Stream .expression (left ++ .operator op :: right)

-- Streams as a line writes them: only the first operand of an expression may carry a
-- unary operator, and no more than one.
inductive Infix : Phrase → List Token → Prop
  | integer (value : Int) : Infix .primary [.integer value]
  | identifier (name : String) : Infix .primary [.identifier name]
  | group (inside : Infix .expression tokens) :
      Infix .primary (.bracket .opening :: tokens ++ [.bracket .closing])
  | plain (primary : Infix .primary tokens) : Infix .operand tokens
  | signed (unary : op.unary = true) (primary : Infix .primary tokens) :
      Infix .operand (.operator op :: tokens)
  | single (operand : Infix .operand tokens) : Infix .expression tokens
  | joined (before : Infix .expression left) (binary : op.unary = false)
      (last : Infix .primary right) : Infix .expression (left ++ .operator op :: right)

-- How a stream is read as a tree. At level `n` stand the operands and the binary operators
-- that hold with power `n` or more: a unary operator holds tighter than any of them, and
-- operators of one power group to the left.
inductive Reading : Nat → List Token → Expr → Prop
  | integer (value : Int) : Reading 3 [.integer value] (.literal value)
  | identifier (name : String) : Reading 3 [.identifier name] (.variable name)
  | group (inside : Reading 0 tokens expr) :
      Reading 3 (.bracket .opening :: tokens ++ [.bracket .closing]) expr
  | signed (unary : op.unary = true) (operand : Reading 3 tokens expr) :
      Reading 3 (.operator op :: tokens) (.unary op.symbol expr)
  | looser (tighter : Reading (level + 1) tokens expr) (bound : level < 3) : Reading level tokens expr
  | joined (before : Reading op.bindingPower left leftExpr) (binary : op.unary = false)
      (last : Reading (op.bindingPower + 1) right rightExpr) :
      Reading op.bindingPower (left ++ .operator op :: right) (.binary op.symbol leftExpr rightExpr)

inductive Written : Phrase → List Char → Prop
  | digits (someDigit : text ≠ []) (allDigits : ∀ c ∈ text, c.isDigit = true) : Written .primary text
  | letters (someLetter : text ≠ []) (allLetters : ∀ c ∈ text, c.isAlpha = true) : Written .primary text
  | group (inside : Written .expression text) : Written .primary ('(' :: text ++ [')'])
  | plain (primary : Written .primary text) : Written .operand text
  | signed (someSign : run ≠ []) (allSigns : ∀ c ∈ run, c ∈ ['+', '-', '*', '/'])
      (primary : Written .primary text) : Written .operand (run ++ text)
  | single (operand : Written .operand text) : Written .expression text
  | joined (before : Written .expression left) (someSign : run ≠ [])
      (allSigns : ∀ c ∈ run, c ∈ ['+', '-', '*', '/']) (last : Written .primary right) :
      Written .expression (left ++ run ++ right)

-- How the characters of a line without blanks are read as a tree. `leads` tells whether a
-- run may stand in front: it does at the start of a line and of a bracket, and it belongs
-- to the primary behind it alone.
inductive TextReading : Bool → Nat → List Char → Expr → Prop
  | digits (denotes : Decimal.Denotes text n) : TextReading leads 3 text (.literal n)
  | letters (someLetter : text ≠ []) (allLetters : ∀ c ∈ text, c.isAlpha = true) :
      TextReading leads 3 text (.variable (String.ofList text))
  | group (inside : TextReading true 0 text expr) :
      TextReading leads 3 ('(' :: text ++ [')']) expr
  | signed (allSigns : ∀ c ∈ run, c ∈ ['+', '-', '*', '/']) (collapses : Collapses run symbol)
      (primary : TextReading false 3 text expr) :
      TextReading true 3 (run ++ text) (.unary (String.ofList symbol) expr)
  | looser (tighter : TextReading leads (level + 1) text expr) (bound : level < 3) :
      TextReading leads level text expr
  | joined (allSigns : ∀ c ∈ run, c ∈ ['+', '-', '*', '/']) (collapses : Collapses run symbol)
      (ranks : Ranks (String.ofList symbol) level) (before : TextReading leads level left leftExpr)
      (last : TextReading false (level + 1) right rightExpr) :
      TextReading leads level (left ++ run ++ right) (.binary (String.ofList symbol) leftExpr rightExpr)

end Calculator
