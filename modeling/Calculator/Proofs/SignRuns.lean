import Calculator.Line
import Calculator.Proofs.Conversion
import Calculator.Proofs.Quotients
import Calculator.Proofs.TokenOrder
namespace Calculator

namespace Lexeme

-- A run as it stands: its first sign where an operator is due, every further sign as a
-- unary operator of its own.
def spelled (limit : DigitLimit) (before : Option Token) : Lexeme → Except Fault (List Token)
  | .signs (sign :: others) =>
    .ok (.operator ⟨String.singleton sign, Token.expectsOperand before⟩ ::
      others.map fun other => .operator ⟨String.singleton other, true⟩)
  | lexeme => do
    let token ← lexeme.token limit before
    return [token]

def spelledAfter (limit : DigitLimit) : Option Token → List Lexeme → Except Fault (List Token)
  | _, [] => .ok []
  | before, lexeme :: later => do
    let tokens ← lexeme.spelled limit before
    let rest ← spelledAfter limit (tokens.getLast?.or before) later
    return tokens ++ rest

def Uniform : Lexeme → Prop
  | .signs run =>
    (∃ count, run = List.replicate (count + 1) '+') ∨ (∃ count, run = List.replicate (count + 1) '-') ∨
      run = ['*'] ∨ run = ['/']
  | _ => True

end Lexeme

def applySigns (signs : List Char) (value : Int) : Int :=
  signs.foldr (fun sign value => applySign (String.singleton sign) value) value

theorem applySigns_plus (count : Nat) (value : Int) : applySigns (List.replicate count '+') value = value := by
  induction count with
  | zero => rfl
  | succ count ih =>
    rw [List.replicate_succ, applySigns, List.foldr_cons]
    exact ih

theorem applySigns_minus (count : Nat) (value : Int) :
    applySigns (List.replicate count '-') value = if count % 2 = 0 then value else -value := by
  induction count with
  | zero => rfl
  | succ count ih =>
    have step : applySigns (List.replicate (count + 1) '-') value =
        -applySigns (List.replicate count '-') value := rfl
    rw [step, ih]
    rcases Nat.mod_two_eq_zero_or_one count with even | odd
    · have : (count + 1) % 2 ≠ 0 := by omega
      simp [even, this]
    · have : (count + 1) % 2 = 0 := by omega
      simp [odd, this]

theorem collapse_plus (count : Nat) : collapse (List.replicate (count + 1) '+') = ['+'] := by
  simp [collapse]

theorem collapse_minus (count : Nat) :
    collapse (List.replicate (count + 1) '-') = if (count + 1) % 2 = 0 then ['+'] else ['-'] := by
  simp [collapse]

namespace Lexeme.Uniform

theorem collapsed (uniform : Uniform (.signs (sign :: others))) :
    (collapse (sign :: others) = [sign] ∧ ∀ value, applySigns others value = value) ∨
      (sign = '-' ∧ collapse (sign :: others) = ['+'] ∧ ∀ value, applySigns others value = -value) := by
  rcases uniform with ⟨count, same⟩ | ⟨count, same⟩ | same | same
  · obtain ⟨rfl, rfl⟩ := List.cons.inj same
    exact .inl ⟨collapse_plus count, applySigns_plus count⟩
  · obtain ⟨rfl, rfl⟩ := List.cons.inj same
    have whole := collapse_minus count
    have rest := applySigns_minus count
    rcases Nat.mod_two_eq_zero_or_one count with even | odd
    · rw [if_neg (by omega)] at whole
      exact .inl ⟨whole, fun value => (rest value).trans (if_pos even)⟩
    · rw [if_pos (by omega)] at whole
      exact .inr ⟨rfl, whole, fun value => (rest value).trans (if_neg (by omega))⟩
  · cases same
    exact .inl ⟨rfl, fun _ => rfl⟩
  · cases same
    exact .inl ⟨rfl, fun _ => rfl⟩

theorem applySign_collapse (uniform : Uniform (.signs (sign :: others))) (value : Int) :
    applySign (String.ofList (collapse (sign :: others))) value = applySigns (sign :: others) value := by
  have first : applySigns (sign :: others) value =
      applySign (String.singleton sign) (applySigns others value) := rfl
  rw [first]
  rcases uniform.collapsed with ⟨whole, rest⟩ | ⟨rfl, whole, rest⟩
  · rw [whole, rest, String.singleton_eq_ofList]
  · rw [whole, rest]
    exact (Int.neg_neg value).symm

theorem combine_collapse (uniform : Uniform (.signs (sign :: others))) (left right : Int) :
    combine (String.ofList (collapse (sign :: others))) left right =
      combine (String.singleton sign) left (applySigns others right) := by
  rcases uniform.collapsed with ⟨whole, rest⟩ | ⟨rfl, whole, rest⟩
  · rw [whole, rest, String.singleton_eq_ofList]
  · rw [whole, rest]
    have turned : left + right = left - -right := (Int.sub_neg left right).symm
    exact congrArg Except.ok turned

theorem precedence_collapse (uniform : Uniform (.signs (sign :: others))) (unary : Bool) :
    Operator.precedence ⟨String.ofList (collapse (sign :: others)), unary⟩ =
      Operator.precedence ⟨String.singleton sign, unary⟩ := by
  rcases uniform.collapsed with ⟨whole, _⟩ | ⟨rfl, whole, _⟩
  · rw [whole, String.singleton_eq_ofList]
  · rw [whole]
    rfl

theorem precedence_pos (uniform : Uniform (.signs (sign :: others))) (unary : Bool) :
    1 ≤ Operator.precedence ⟨String.singleton sign, unary⟩ := by
  rcases uniform with ⟨count, same⟩ | ⟨count, same⟩ | same | same <;>
    obtain ⟨rfl, _⟩ := List.cons.inj same <;> simp [Operator.precedence]

end Lexeme.Uniform

-- A sign may move between the first factor of a product and the whole product, because a
-- quotient drops the same fraction on either side of zero.
theorem combine_applySign {op : Operator} (binary : op.unary = false) (tight : 2 ≤ op.bindingPower)
    (symbol : String) (left right : Int) :
    combine op.symbol (applySign symbol left) right = applySign symbol <$> combine op.symbol left right := by
  have factor : op.symbol = "*" ∨ op.symbol = "/" := by
    have power : op.bindingPower = op.precedence := by simp [Operator.bindingPower, binary]
    rw [power, Operator.precedence] at tight
    split at tight
    · omega
    · split at tight
      · assumption
      · omega
  unfold applySign
  split
  · rcases factor with times | slash
    · rw [times]
      exact congrArg Except.ok (Int.neg_mul left right)
    · rw [slash]
      exact divide_neg left right
  · cases combine op.symbol left right <;> rfl

namespace Expr

theorem eval_unary (symbol : String) (operand : Expr) (store : Store) :
    (Expr.unary symbol operand).eval store = applySign symbol <$> operand.eval store := by
  rw [eval]
  cases operand.eval store <;> rfl

-- A change of both operands is a change of the result where an operator turns the one into
-- the other, since faults are met in the same order.
theorem eval_binary_change {change before behind : Int → Int}
    (law : ∀ a b, combine symbol (before a) (behind b) = change <$> combine other a b)
    (leftSame : left.eval store = before <$> first.eval store)
    (rightSame : right.eval store = behind <$> second.eval store) :
    (Expr.binary symbol left right).eval store = change <$> (Expr.binary other first second).eval store := by
  rw [eval, eval, leftSame, rightSame]
  cases first.eval store with
  | error fault => rfl
  | ok leftValue =>
    cases second.eval store with
    | error fault => rfl
    | ok rightValue => exact law leftValue rightValue

end Expr

theorem Reading.sign (reading : Reading level tokens expr) (tight : 2 ≤ level) (symbol : String) :
    ∃ signed, Reading level (.operator ⟨symbol, true⟩ :: tokens) signed ∧
      ∀ store, signed.eval store = applySign symbol <$> expr.eval store := by
  have primary {tokens : List Token} {expr : Expr} (reading : Reading 3 tokens expr) :
      ∃ signed, Reading 3 (.operator ⟨symbol, true⟩ :: tokens) signed ∧
        ∀ store, signed.eval store = applySign symbol <$> expr.eval store :=
    ⟨.unary symbol expr, .signed rfl reading, Expr.eval_unary symbol expr⟩
  induction reading with
  | integer value => exact primary (.integer value)
  | identifier name => exact primary (.identifier name)
  | group inside ih => exact primary (.group inside)
  | signed unary operand ih => exact primary (.signed unary operand)
  | looser tighter bound ih =>
    obtain ⟨signed, reading, same⟩ := ih (by omega)
    exact ⟨signed, .looser reading bound, same⟩
  | @joined left leftExpr right rightExpr op before binary last ihLeft ihRight =>
    obtain ⟨signed, reading, same⟩ := ihLeft tight
    refine ⟨_, .joined reading binary last, fun store => ?_⟩
    exact Expr.eval_binary_change (combine_applySign binary tight symbol) (same store) (id_map _).symm

theorem Reading.signs (reading : Reading level tokens expr) (tight : 2 ≤ level) (signs : List Char) :
    ∃ signed, Reading level
        (signs.map (fun sign => .operator ⟨String.singleton sign, true⟩) ++ tokens) signed ∧
      ∀ store, signed.eval store = applySigns signs <$> expr.eval store := by
  induction signs with
  | nil => exact ⟨expr, reading, fun store => by cases expr.eval store <;> rfl⟩
  | cons sign others ih =>
    obtain ⟨inner, innerReading, innerSame⟩ := ih
    obtain ⟨signed, whole, same⟩ := innerReading.sign tight (String.singleton sign)
    refine ⟨signed, whole, fun store => ?_⟩
    rw [same, innerSame]
    cases expr.eval store <;> rfl

inductive Spells : List Token → List Token → Prop
  | nil : Spells [] []
  | other (noOperator : ∀ op, token ≠ .operator op) (rest : Spells tokens stream) :
      Spells (token :: tokens) (token :: stream)
  | run (uniform : Lexeme.Uniform (.signs (sign :: others))) (rest : Spells tokens stream) :
      Spells (.operator ⟨String.ofList (collapse (sign :: others)), unary⟩ :: tokens)
        (.operator ⟨String.singleton sign, unary⟩ ::
          (others.map (fun other => .operator ⟨String.singleton other, true⟩) ++ stream))

theorem Spells.split (spells : Spells (left ++ right) stream) :
    ∃ leftStream rightStream, stream = leftStream ++ rightStream ∧ Spells left leftStream ∧
      Spells right rightStream := by
  induction left generalizing stream with
  | nil => exact ⟨[], stream, rfl, .nil, spells⟩
  | cons token later ih =>
    cases spells with
    | other noOperator rest =>
      obtain ⟨leftStream, rightStream, rfl, before, behind⟩ := ih rest
      exact ⟨token :: leftStream, rightStream, rfl, .other noOperator before, behind⟩
    | run uniform rest =>
      obtain ⟨leftStream, rightStream, rfl, before, behind⟩ := ih rest
      exact ⟨_, rightStream, by simp, .run uniform before, behind⟩

theorem Reading.of_spells (reading : Reading level tokens expr) (spells : Spells tokens stream) :
    ∃ other, Reading level stream other ∧ ∀ store, other.eval store = expr.eval store := by
  induction reading generalizing stream with
  | integer value =>
    cases spells with
    | other _ rest =>
      cases rest
      exact ⟨_, .integer value, fun _ => rfl⟩
  | identifier name =>
    cases spells with
    | other _ rest =>
      cases rest
      exact ⟨_, .identifier name, fun _ => rfl⟩
  | @group tokens expr inside ih =>
    obtain ⟨front, close, rfl, opened, closed⟩ := Spells.split spells
    cases opened with
    | other _ inner =>
      cases closed with
      | other _ ended =>
        cases ended
        obtain ⟨other, reading, same⟩ := ih inner
        exact ⟨other, .group reading, same⟩
  | signed unary operand ih =>
    cases spells with
    | other noOperator => exact absurd rfl (noOperator _)
    | @run sign others _ _ _ uniform rest =>
      cases unary
      obtain ⟨other, reading, same⟩ := ih rest
      obtain ⟨signed, whole, signedSame⟩ := reading.signs (Nat.le_succ 2) (sign :: others)
      refine ⟨signed, whole, fun store => ?_⟩
      have worth : applySigns (sign :: others) = applySign (String.ofList (collapse (sign :: others))) :=
        funext fun value => (uniform.applySign_collapse value).symm
      rw [signedSame, same, Expr.eval_unary, worth]
  | looser tighter bound ih =>
    obtain ⟨other, reading, same⟩ := ih spells
    exact ⟨other, .looser reading bound, same⟩
  | @joined left leftExpr right rightExpr op before binary last ihLeft ihRight =>
    obtain ⟨leftStream, _, rfl, leftSpells, behind⟩ := spells.split
    cases behind with
    | other noOperator => exact absurd rfl (noOperator _)
    | @run sign others _ _ _ uniform rest =>
      cases binary
      obtain ⟨leftOther, leftReading, leftSame⟩ := ihLeft leftSpells
      obtain ⟨rightOther, rightReading, rightSame⟩ := ihRight rest
      have power : Operator.bindingPower ⟨String.ofList (collapse (sign :: others)), false⟩ =
          Operator.bindingPower ⟨String.singleton sign, false⟩ := uniform.precedence_collapse false
      rw [power] at leftReading rightReading ⊢
      have ranked : 1 ≤ Operator.bindingPower ⟨String.singleton sign, false⟩ := uniform.precedence_pos false
      obtain ⟨signed, signedReading, signedSame⟩ := rightReading.signs (Nat.succ_le_succ ranked) others
      have law (a b : Int) : combine (String.singleton sign) (id a) (applySigns others b) =
          id <$> combine (String.ofList (collapse (sign :: others))) a b := by
        rw [id_map, uniform.combine_collapse, id]
      refine ⟨_, .joined leftReading rfl signedReading, fun store => ?_⟩
      have changed := Expr.eval_binary_change law ((leftSame store).trans (id_map _).symm)
        ((signedSame store).trans (congrArg _ (rightSame store)))
      rwa [id_map] at changed

namespace Lexeme

theorem spelled_spells (uniform : lexeme.Uniform) (made : Lexeme.token limit before lexeme = .ok first)
    (same : Token.expectsOperand before = Token.expectsOperand spelledBefore) :
    ∃ tokens, spelled limit spelledBefore lexeme = .ok tokens ∧
      (∃ last, tokens.getLast? = some last ∧ Token.expectsOperand (some last) = Token.expectsOperand (some first)) ∧
      ∀ rest stream, Spells rest stream → Spells (first :: rest) (tokens ++ stream) := by
  cases lexeme with
  | bracket side =>
    cases made
    exact ⟨[.bracket side], rfl, ⟨_, rfl, rfl⟩, fun _ _ rest => .other (by simp) rest⟩
  | letters run =>
    cases made
    exact ⟨[.identifier (String.ofList run)], rfl, ⟨_, rfl, rfl⟩, fun _ _ rest => .other (by simp) rest⟩
  | digits run =>
    simp only [Lexeme.token] at made
    split at made
    · rename_i n literal
      cases made
      exact ⟨[.integer n], by simp [spelled, Lexeme.token, literal], ⟨_, rfl, rfl⟩,
        fun _ _ rest => .other (by simp) rest⟩
    · cases made
  | signs run =>
    cases run with
    | nil => simp [Uniform] at uniform
    | cons sign others =>
      cases made
      refine ⟨_, rfl, ?_, fun rest stream spells => ?_⟩
      · have due : ∀ token ∈ Token.operator ⟨String.singleton sign, Token.expectsOperand spelledBefore⟩ ::
            others.map (fun other => Token.operator ⟨String.singleton other, true⟩),
            Token.expectsOperand (some token) = true := by
          intro token member
          rcases List.mem_cons.mp member with rfl | later
          · rfl
          · obtain ⟨other, _, rfl⟩ := List.mem_map.mp later
            rfl
        exact ⟨_, List.getLast?_eq_some_getLast (by simp), due _ (List.getLast_mem _)⟩
      · rw [same]
        exact .run uniform spells

theorem spelledAfter_spells (uniform : ∀ lexeme ∈ lexemes, lexeme.Uniform)
    (read : tokensAfter limit before lexemes = .ok tokens)
    (same : Token.expectsOperand before = Token.expectsOperand spelledBefore) :
    ∃ stream, spelledAfter limit spelledBefore lexemes = .ok stream ∧ Spells tokens stream := by
  induction lexemes generalizing before spelledBefore tokens with
  | nil =>
    cases read
    exact ⟨[], rfl, .nil⟩
  | cons lexeme later ih =>
    obtain ⟨first, rest, made, readRest, rfl⟩ := tokensAfter_cons_inv read
    obtain ⟨written, spelt, ⟨last, ends, sameEnd⟩, spells⟩ :=
      spelled_spells (uniform lexeme List.mem_cons_self) made same
    have after : Token.expectsOperand (some first) = Token.expectsOperand (written.getLast?.or spelledBefore) := by
      simp [ends, sameEnd]
    obtain ⟨stream, speltRest, restSpells⟩ :=
      ih (fun other member => uniform other (List.mem_cons_of_mem _ member)) readRest after
    exact ⟨written ++ stream, by simp [spelledAfter, spelt, speltRest], spells rest stream restSpells⟩

end Lexeme

-- Writing the runs of signs of an infix line out, sign by sign, changes neither its value
-- nor the fault it ends with.
theorem spelled_value (read : tokensOfLine policy line = .ok tokens) (whole : Infix .expression tokens)
    (uniform : ∀ lexeme ∈ Lexeme.ofChars (Text.removeBlanks line.toList), lexeme.Uniform) :
    ∃ stream,
      Lexeme.spelledAfter policy.limit none (Lexeme.ofChars (Text.removeBlanks line.toList)) = .ok stream ∧
      ∀ store, (postfixOf stream >>= valueOfPostfix store) = (postfixOf tokens >>= valueOfPostfix store) := by
  obtain ⟨stream, spelt, spells⟩ := Lexeme.spelledAfter_spells uniform (tokensOfLine_inv read) rfl
  obtain ⟨expr, reading⟩ := whole.stream.reading
  obtain ⟨other, otherReading, same⟩ := reading.of_spells spells
  refine ⟨stream, spelt, fun store => ?_⟩
  rw [reading.postfixOf_eq, otherReading.postfixOf_eq, ok_bind, ok_bind, Expr.valueOfPostfix_postorder,
    Expr.valueOfPostfix_postorder, same]

theorem spelled_value_quotient :
    ∃ tokens stream, tokensOfLine {} "--7 ---x/2" = .ok tokens ∧ Infix .expression tokens ∧
      (∀ lexeme ∈ Lexeme.ofChars (Text.removeBlanks "--7 ---x/2".toList), lexeme.Uniform) ∧
      Lexeme.spelledAfter .unlimited none (Lexeme.ofChars (Text.removeBlanks "--7 ---x/2".toList)) =
        .ok stream ∧
      stream = [.operator ⟨"-", true⟩, .operator ⟨"-", true⟩, .integer 7, .operator ⟨"-", false⟩,
        .operator ⟨"-", true⟩, .operator ⟨"-", true⟩, .identifier "x", .operator ⟨"/", false⟩, .integer 2] ∧
      ∀ store, (postfixOf stream >>= valueOfPostfix store) = (postfixOf tokens >>= valueOfPostfix store) := by
  have read : tokensOfLine {} "--7 ---x/2" = .ok [.operator ⟨"+", true⟩, .integer 7,
    .operator ⟨"-", false⟩, .identifier "x", .operator ⟨"/", false⟩, .integer 2] := by rfl
  have whole : Infix .expression [.operator ⟨"+", true⟩, .integer 7,
      .operator ⟨"-", false⟩, .identifier "x", .operator ⟨"/", false⟩, .integer 2] :=
    .joined (.joined (.single (.signed rfl (.integer 7))) rfl (.identifier "x")) rfl (.integer 2)
  have lexemes : Lexeme.ofChars (Text.removeBlanks "--7 ---x/2".toList) = [.signs ['-', '-'], .digits ['7'],
    .signs ['-', '-', '-'], .letters ['x'], .signs ['/'], .digits ['2']] := by decide
  have uniform : ∀ lexeme ∈ Lexeme.ofChars (Text.removeBlanks "--7 ---x/2".toList), lexeme.Uniform := by
    rw [lexemes]
    intro lexeme member
    simp only [List.mem_cons, List.not_mem_nil, or_false] at member
    rcases member with rfl | rfl | rfl | rfl | rfl | rfl
    · exact .inr (.inl ⟨1, rfl⟩)
    · trivial
    · exact .inr (.inl ⟨2, rfl⟩)
    · trivial
    · exact .inr (.inr (.inr rfl))
    · trivial
  obtain ⟨stream, spelt, same⟩ := spelled_value read whole uniform
  have written : Lexeme.spelledAfter .unlimited none
      (Lexeme.ofChars (Text.removeBlanks "--7 ---x/2".toList)) = .ok [.operator ⟨"-", true⟩,
        .operator ⟨"-", true⟩, .integer 7, .operator ⟨"-", false⟩, .operator ⟨"-", true⟩,
        .operator ⟨"-", true⟩, .identifier "x", .operator ⟨"/", false⟩, .integer 2] := by rfl
  exact ⟨_, stream, read, whole, uniform, spelt, Except.ok.inj (spelt.symm.trans written), same⟩

end Calculator
