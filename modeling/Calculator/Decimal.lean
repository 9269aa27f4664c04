namespace Calculator

namespace Decimal

def digits (n : Nat) : List Char := Nat.toDigits 10 n

def ofDigits (text : List Char) : Nat := Nat.ofDigitChars 10 text 0

def chars (value : Int) : List Char :=
  if value < 0 then '-' :: digits value.natAbs else digits value.natAbs

def text (value : Int) : String := String.ofList (chars value)

structure Literal where
  negative : Bool
  digits : List Char
  deriving DecidableEq, Repr

def Literal.ofDigits? (negative : Bool) (text : List Char) : Option Literal :=
  if text ≠ [] ∧ text.all Char.isDigit then some ⟨negative, text⟩ else none

def Literal.ofChars? : List Char → Option Literal
  | '+' :: rest => ofDigits? false rest
  | '-' :: rest => ofDigits? true rest
  | rest => ofDigits? false rest

def Literal.signed (literal : Literal) (magnitude : Nat) : Int :=
  if literal.negative then -magnitude else magnitude

def Literal.value (literal : Literal) : Int := literal.signed (ofDigits literal.digits)

theorem ofDigits_digits (n : Nat) : ofDigits (digits n) = n :=
  Nat.ofDigitChars_toDigits (by decide) (by decide)

theorem isDigit_of_mem_digits {c : Char} {n : Nat} (member : c ∈ digits n) : c.isDigit = true :=
  Nat.isDigit_of_mem_toDigits (by decide) (by decide) member

theorem digits_ne_nil (n : Nat) : digits n ≠ [] :=
  List.length_pos_iff.mp Nat.length_toDigits_pos

end Decimal

inductive DigitLimit where
  | unlimited
  | atMost (most : Nat)
  deriving DecidableEq, Repr

-- A conversion that a limit refused: reading reports how many digits it was given,
-- printing gives up before they are counted.
structure DigitOverflow where
  most : Nat
  found : Option Nat
  deriving DecidableEq, Repr

namespace DigitLimit

def ofNat (n : Nat) : DigitLimit := if n = 0 then .unlimited else .atMost n

def toNat : DigitLimit → Nat
  | .unlimited => 0
  | .atMost most => most

theorem toNat_ofNat (n : Nat) : (ofNat n).toNat = n := by
  unfold ofNat
  split
  · exact Eq.symm ‹n = 0›
  · rfl

def Allows (limit : DigitLimit) (count : Nat) : Prop :=
  match limit with
  | .unlimited => True
  | .atMost most => count ≤ most

instance (limit : DigitLimit) (count : Nat) : Decidable (limit.Allows count) :=
  match limit with
  | .unlimited => .isTrue trivial
  | .atMost most => inferInstanceAs (Decidable (count ≤ most))

-- Leading zeros count towards the limit: it bounds the text, not the number.
def read (limit : DigitLimit) (text : List Char) : Except DigitOverflow Nat :=
  if limit.Allows text.length then .ok (Decimal.ofDigits text)
  else .error ⟨limit.toNat, some text.length⟩

def print (limit : DigitLimit) (value : Int) : Except DigitOverflow String :=
  if limit.Allows (Decimal.digits value.natAbs).length then .ok (Decimal.text value)
  else .error ⟨limit.toNat, none⟩

end DigitLimit

def Decimal.Literal.read (literal : Literal) (limit : DigitLimit) : Except DigitOverflow Int :=
  literal.signed <$> limit.read literal.digits

namespace DigitLimit

theorem print_ok_iff {limit : DigitLimit} {value : Int} {text : String} :
    limit.print value = .ok text ↔
      limit.Allows (Decimal.digits value.natAbs).length ∧ Decimal.text value = text := by
  unfold print; split <;> simp_all

theorem read_ok_iff {limit : DigitLimit} {text : List Char} {n : Nat} :
    limit.read text = .ok n ↔ limit.Allows text.length ∧ Decimal.ofDigits text = n := by
  unfold read; split <;> simp_all

end DigitLimit

def DigitOverflow.message (overflow : DigitOverflow) : String :=
  let found := match overflow.found with
    | some count => ": value has " ++ Decimal.text count ++ " digits"
    | none => ""
  "Exceeds the limit (" ++ Decimal.text overflow.most ++ " digits) for integer string conversion" ++
    found ++ "; use sys.set_int_max_str_digits() to increase the limit"

end Calculator
