import Calculator.Decimal
import Calculator.Text.Layout
namespace Calculator

-- Whole numbers as people write them into settings. White space around the number, zeros in
-- front, single underscores between digits and a fraction of zeros do not change it.
namespace WholeNumber

inductive Flaw where
  | malformed
  | tooLong
  deriving DecidableEq, Repr

def splitSign : List Char → Bool × List Char
  | '-' :: unsigned => (true, unsigned)
  | '+' :: unsigned => (false, unsigned)
  | unsigned => (false, unsigned)

def withoutZeroFraction (text : List Char) : List Char :=
  let whole := text.takeWhile (· ≠ '.')
  let fraction := text.drop (whole.length + 1)
  if fraction ≠ [] ∧ fraction.all (· = '0') then whole else text

-- Underscores among the zeros go with them. Where nothing else would be left the last
-- character is kept: the number is zero, or the text ends in an underscore and is spoilt.
def withoutLeadingZeros : List Char → List Char
  | '0' :: rest =>
    match rest.dropWhile fun c => c = '0' ∨ c = '_' with
    | [] => [rest.getLastD '0']
    | number => number
  | text => text

def WellGrouped (text : List Char) : Prop :=
  text.head? ≠ some '_' ∧ text.getLast? ≠ some '_' ∧ ('_', '_') ∉ text.zip text.tail

instance (text : List Char) : Decidable (WellGrouped text) :=
  inferInstanceAs (Decidable (_ ∧ _ ∧ _))

def withoutGrouping (text : List Char) : List Char :=
  if WellGrouped text then text.filter (· ≠ '_') else text

def plain (unsigned : List Char) : List Char :=
  withoutGrouping (withoutLeadingZeros (withoutZeroFraction unsigned))

def longest : Nat := 4300

def read (text : List Char) : Except Flaw Int :=
  let (negative, unsigned) := splitSign (Text.trimWhere Text.isWhiteSpace text)
  let number := plain unsigned
  let sign := if negative then 1 else 0
  if longest < sign + (number.takeWhile Char.isDigit).length then .error .tooLong
  else
    match Decimal.Literal.ofDigits? negative number with
    | some literal => .ok literal.value
    | none => .error .malformed

end WholeNumber
end Calculator
