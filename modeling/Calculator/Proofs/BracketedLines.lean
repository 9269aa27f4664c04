import Calculator.Proofs.BracketedStreams
import Calculator.Proofs.DecimalText
import Calculator.Proofs.TokenOrder
import Calculator.Proofs.TreeRecovery
namespace Calculator

theorem postfixOf_negated (converted : postfixOf tokens = .ok (Expr.postorder expr)) (symbol : String) :
    postfixOf (.operator ⟨symbol, true⟩ :: .bracket .opening :: (tokens ++ [.bracket .closing])) =
      .ok (Expr.unary symbol expr).postorder := by
  have signed : Pending.step {} (.operator ⟨symbol, true⟩) = .ok ([], ⟨[⟨symbol, true⟩], []⟩) := rfl
  have ran := Pending.run_cons_ok signed (Pending.run_bracketed converted _)
  simp [postfixOf, ran, Pending.finish, Expr.postorder]

theorem postfixOf_joined (first : postfixOf left = .ok (Expr.postorder leftExpr))
    (second : postfixOf right = .ok (Expr.postorder rightExpr)) (symbol : String) :
    postfixOf (.bracket .opening :: (left ++ .bracket .closing :: .operator ⟨symbol, false⟩ ::
        .bracket .opening :: (right ++ [.bracket .closing]))) =
      .ok (Expr.binary symbol leftExpr rightExpr).postorder := by
  have joined : Pending.step {} (.operator ⟨symbol, false⟩) = .ok ([], ⟨[⟨symbol, false⟩], []⟩) := rfl
  have behind := Pending.run_cons_ok joined (Pending.run_bracketed second _)
  have ran := Pending.run_append_ok (Pending.run_bracketed first {}) behind
  simp only [List.cons_append, List.append_assoc, List.nil_append] at ran
  simp [postfixOf, ran, Pending.finish, Expr.postorder]

namespace Lexeme

theorem collapse_single (sign : Char) : collapse [sign] = [sign] := by
  rw [collapse, if_neg (List.cons_ne_nil sign [])]
  split
  · rename_i plus
    rw [show sign = '+' by simpa using plus]
  · split
    · rename_i minus
      rw [show sign = '-' by simpa using minus]
      rfl
    · rfl

-- What came before a text plays a part in it only by whether an operand is due.
theorem tokensAfter_congr (same : Token.expectsOperand before = Token.expectsOperand other)
    (limit : DigitLimit) (lexemes : List Lexeme) :
    tokensAfter limit before lexemes = tokensAfter limit other lexemes := by
  cases lexemes with
  | nil => rfl
  | cons lexeme later =>
    have first : lexeme.token limit before = lexeme.token limit other := by
      cases lexeme <;> simp only [Lexeme.token, same]
    rw [tokensAfter, tokensAfter, first]

theorem tokensAfter_bracketed (read : tokensAfter limit none lexemes = .ok tokens)
    (behind : tokensAfter limit (some (.bracket .closing)) later = .ok rest) (before : Option Token) :
    tokensAfter limit before (.bracket .opening :: (lexemes ++ .bracket .closing :: later)) =
      .ok (.bracket .opening :: (tokens ++ .bracket .closing :: rest)) := by
  have due : Token.expectsOperand (some (.bracket .opening)) = Token.expectsOperand none := rfl
  have inside : tokensAfter limit (some (.bracket .opening)) lexemes = .ok tokens :=
    (tokensAfter_congr due limit lexemes).trans read
  exact tokensAfter_cons_ok rfl (tokensAfter_append_ok inside (tokensAfter_cons_ok rfl behind))

theorem ofChars_sign_opening (sign : Char) (isSign : CharClass.of? sign = some .sign) (rest : List Char) :
    ofChars (sign :: '(' :: rest) = .signs [sign] :: ofChars ('(' :: rest) := by
  rw [ofChars_cons isSign]
  rfl

theorem token_sign (limit : DigitLimit) (before : Option Token) (sign : Char) :
    Lexeme.token limit before (.signs [sign]) =
      .ok (.operator ⟨String.singleton sign, Token.expectsOperand before⟩) := by
  rw [Lexeme.token, collapse_single, String.singleton_eq_ofList]

end Lexeme

theorem tokensOfLine_strict_iff : tokensOfLine ⟨true, limit⟩ line = .ok tokens ↔
    Lexeme.tokensAfter limit none (Lexeme.ofChars (Text.removeBlanks line.toList)) = .ok tokens ∧
      ∀ c ∈ Text.removeBlanks line.toList, (CharClass.of? c).isSome = true := by
  have all : Lexeme.unread (Text.removeBlanks line.toList) = [] ↔
      ∀ c ∈ Text.removeBlanks line.toList, (CharClass.of? c).isSome = true := List.dropWhile_eq_nil_iff
  rw [tokensOfLine_ok_iff, ← all]
  exact and_congr_right fun _ => forall_prop_of_true rfl

theorem tokensOfLine_negated (read : tokensOfLine ⟨true, limit⟩ s = .ok tokens) :
    tokensOfLine ⟨true, limit⟩ ("-(" ++ s ++ ")") =
      .ok (.operator ⟨"-", true⟩ :: .bracket .opening :: (tokens ++ [.bracket .closing])) := by
  obtain ⟨made, native⟩ := tokensOfLine_strict_iff.mp read
  have text : Text.removeBlanks ("-(" ++ s ++ ")").toList =
      '-' :: '(' :: (Text.removeBlanks s.toList ++ [')']) := by
    have opened : Text.removeBlanks "-(".toList = ['-', '('] := by rfl
    have closed : Text.removeBlanks ")".toList = [')'] := by rfl
    simp only [String.toList_append, Text.removeBlanks_append, opened, closed]
    simp
  rw [tokensOfLine_strict_iff, text, Lexeme.ofChars_sign_opening '-' rfl, Lexeme.ofChars_bracketed native]
  have ended : Lexeme.tokensAfter limit (some (.bracket .closing)) (Lexeme.ofChars []) = .ok [] := rfl
  refine ⟨Lexeme.tokensAfter_cons_ok rfl (Lexeme.tokensAfter_bracketed made ended _), ?_⟩
  simp only [List.forall_mem_cons, List.forall_mem_append]
  exact ⟨rfl, rfl, native, rfl, by simp⟩

theorem tokensOfLine_joined (first : tokensOfLine ⟨true, limit⟩ s = .ok left)
    (second : tokensOfLine ⟨true, limit⟩ t = .ok right) (isSign : CharClass.of? sign = some .sign)
    (noBlank : Text.isBlank sign = false) :
    tokensOfLine ⟨true, limit⟩ ("(" ++ s ++ ")" ++ String.singleton sign ++ "(" ++ t ++ ")") =
      .ok (.bracket .opening :: (left ++ .bracket .closing :: .operator ⟨String.singleton sign, false⟩ ::
        .bracket .opening :: (right ++ [.bracket .closing]))) := by
  obtain ⟨leftMade, leftNative⟩ := tokensOfLine_strict_iff.mp first
  obtain ⟨rightMade, rightNative⟩ := tokensOfLine_strict_iff.mp second
  have text : Text.removeBlanks ("(" ++ s ++ ")" ++ String.singleton sign ++ "(" ++ t ++ ")").toList =
      '(' :: (Text.removeBlanks s.toList ++ ')' :: sign :: '(' :: (Text.removeBlanks t.toList ++ [')'])) := by
    have opened : Text.removeBlanks "(".toList = ['('] := by rfl
    have closed : Text.removeBlanks ")".toList = [')'] := by rfl
    have between : Text.removeBlanks (String.singleton sign).toList = [sign] := by
      simp [Text.removeBlanks, noBlank]
    simp only [String.toList_append, Text.removeBlanks_append, opened, closed, between]
    simp
  rw [tokensOfLine_strict_iff, text, Lexeme.ofChars_bracketed leftNative,
    Lexeme.ofChars_sign_opening sign isSign, Lexeme.ofChars_bracketed rightNative]
  have ended : Lexeme.tokensAfter limit (some (.bracket .closing)) (Lexeme.ofChars []) = .ok [] := rfl
  have behind := Lexeme.tokensAfter_bracketed rightMade ended (some (.operator ⟨String.singleton sign, false⟩))
  refine ⟨Lexeme.tokensAfter_bracketed leftMade (Lexeme.tokensAfter_cons_ok ?_ behind) none, ?_⟩
  · exact Lexeme.token_sign limit _ sign
  · simp only [List.forall_mem_cons, List.forall_mem_append]
    exact ⟨rfl, leftNative, rfl, by simp [isSign], rfl, rightNative, rfl, by simp⟩

theorem tree_of_strict (answered : evaluate ⟨true, .unlimited⟩ store line = .ok (Decimal.text value)) :
    ∃ tokens expr, tokensOfLine ⟨true, .unlimited⟩ line = .ok tokens ∧
      postfixOf tokens = .ok (Expr.postorder expr) ∧ expr.eval store = .ok value := by
  obtain ⟨tokens, stream, result, read, converted, computed, printed⟩ := evaluate_inv answered
  obtain ⟨expr, lists, valued⟩ := Expr.postorder_of_value computed
  obtain rfl := Decimal.text_injective (DigitLimit.print_ok_iff.mp printed).2
  exact ⟨tokens, expr, read, lists ▸ converted, valued⟩

theorem operator_sign (known : op ∈ ["+", "-", "*", "/"]) :
    ∃ sign, op = String.singleton sign ∧ CharClass.of? sign = some .sign ∧ Text.isBlank sign = false := by
  simp only [List.mem_cons, List.not_mem_nil, or_false] at known
  rcases known with rfl | rfl | rfl | rfl
  · exact ⟨'+', rfl, rfl, rfl⟩
  · exact ⟨'-', rfl, rfl, rfl⟩
  · exact ⟨'*', rfl, rfl, rfl⟩
  · exact ⟨'/', rfl, rfl, rfl⟩

-- Two lines in brackets with an operator between them are answered with what the operator
-- makes of their answers, and one behind a minus with its negative, whatever they look like.
theorem evaluate_bracketed (first : evaluate ⟨true, .unlimited⟩ store s = .ok (Decimal.text a))
    (second : evaluate ⟨true, .unlimited⟩ store t = .ok (Decimal.text b)) (known : op ∈ ["+", "-", "*", "/"]) :
    evaluate ⟨true, .unlimited⟩ store ("(" ++ s ++ ")" ++ op ++ "(" ++ t ++ ")") =
        Decimal.text <$> combine op a b ∧
      evaluate ⟨true, .unlimited⟩ store ("-(" ++ s ++ ")") = .ok (Decimal.text (-a)) := by
  obtain ⟨left, leftExpr, leftRead, leftConverted, leftValue⟩ := tree_of_strict first
  obtain ⟨right, rightExpr, rightRead, rightConverted, rightValue⟩ := tree_of_strict second
  obtain ⟨sign, rfl, isSign, noBlank⟩ := operator_sign known
  constructor
  · have read := tokensOfLine_joined leftRead rightRead isSign noBlank
    rw [Expr.evaluate_of_postorder store read (postfixOf_joined leftConverted rightConverted _), Expr.eval,
      leftValue, rightValue]
    rfl
  · have read := tokensOfLine_negated leftRead
    rw [Expr.evaluate_of_postorder store read (postfixOf_negated leftConverted _), Expr.eval, leftValue]
    rfl

theorem evaluate_bracketed_quotient :
    evaluate ⟨true, .unlimited⟩ .empty "1 (2 0) +" = .ok (Decimal.text 21) ∧
      evaluate ⟨true, .unlimited⟩ .empty "2 - 6" = .ok (Decimal.text (-4)) ∧
      evaluate ⟨true, .unlimited⟩ .empty ("(" ++ "1 (2 0) +" ++ ")" ++ "/" ++ "(" ++ "2 - 6" ++ ")") =
        .ok (Decimal.text (-5)) ∧
      evaluate ⟨true, .unlimited⟩ .empty ("-(" ++ "1 (2 0) +" ++ ")") = .ok (Decimal.text (-21)) := by
  have first : evaluate ⟨true, .unlimited⟩ .empty "1 (2 0) +" = .ok (Decimal.text 21) := by rfl
  have second : evaluate ⟨true, .unlimited⟩ .empty "2 - 6" = .ok (Decimal.text (-4)) := by rfl
  obtain ⟨quotient, negative⟩ := evaluate_bracketed first second (by decide : "/" ∈ ["+", "-", "*", "/"])
  exact ⟨first, second, quotient, negative⟩

end Calculator
