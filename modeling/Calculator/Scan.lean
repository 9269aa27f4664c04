import Calculator.Fault
import Calculator.Lexeme
namespace Calculator

-- How lines are read: strict reading refuses a foreign character where lenient reading
-- stops before it, and `limit` bounds the numbers that pass between text and value.
structure Policy where
  strict : Bool := false
  limit : DigitLimit := .unlimited
  deriving DecidableEq, Repr

def Lexeme.token (limit : DigitLimit) (before : Option Token) : Lexeme → Except Fault Token
  | .bracket side => .ok (.bracket side)
  | .signs run => .ok (.operator ⟨String.ofList (collapse run), Token.expectsOperand before⟩)
  | .letters run => .ok (.identifier (String.ofList run))
  | .digits run =>
    match limit.read run with
    | .ok n => .ok (.integer n)
    | .error overflow => .error (.literalTooLong run.length overflow)

def Lexeme.tokensAfter (limit : DigitLimit) :
    Option Token → List Lexeme → Except Fault (List Token)
  | _, [] => .ok []
  | before, lexeme :: later => do
    let token ← lexeme.token limit before
    let tokens ← tokensAfter limit (some token) later
    return token :: tokens

structure Scan where
  tokens : List Token
  unread : List Char
  deriving DecidableEq, Repr

-- A literal that is too long is found before the foreign character behind it.
def Scan.ofLine (policy : Policy) (line : String) : Except Fault Scan := do
  let text := Text.removeBlanks line.toList
  let tokens ← Lexeme.tokensAfter policy.limit none (Lexeme.ofChars text)
  let unread := Lexeme.unread text
  if policy.strict ∧ unread ≠ [] then throw (.unrecognizedInput (String.ofList unread))
  return ⟨tokens, unread⟩

def tokensOfLine (policy : Policy) (line : String) : Except Fault (List Token) :=
  Scan.tokens <$> Scan.ofLine policy line

end Calculator
