import Calculator.Proofs.Conversion
import Calculator.Proofs.Meanings
import Calculator.Proofs.TokenOrder
import Calculator.Proofs.TreeRecovery
namespace Calculator

namespace TextReading
open Lexeme

theorem native (reading : TextReading leads level text expr) :
    ∀ c ∈ text, (CharClass.of? c).isSome := by
  induction reading with
  | digits denotes =>
    intro c member
    simp [CharClass.of?_digit (denotes.allDigits c member)]
  | letters someLetter allLetters =>
    intro c member
    simp [CharClass.of?_letter (allLetters c member)]
  | group inside ih =>
    intro c member
    rcases List.mem_append.mp member with front | last
    · rcases List.mem_cons.mp front with rfl | inner
      · rfl
      · exact ih c inner
    · rw [List.mem_singleton.mp last]
      rfl
  | signed allSigns collapses primary ih =>
    intro c member
    rcases List.mem_append.mp member with sign | inner
    · simp [CharClass.of?_sign (allSigns c sign)]
    · exact ih c inner
  | looser tighter bound ih => exact ih
  | joined allSigns collapses ranks before last ihLeft ihRight =>
    intro c member
    rcases List.mem_append.mp member with earlier | inner
    · rcases List.mem_append.mp earlier with inner | sign
      · exact ihLeft c inner
      · simp [CharClass.of?_sign (allSigns c sign)]
    · exact ihRight c inner

-- No sign ends a phrase, so that the run behind it stays apart.
theorem last_char (reading : TextReading leads level text expr) :
    ∃ c, text.getLast? = some c ∧ CharClass.of? c ≠ some .sign := by
  induction reading with
  | @digits text _ _ denotes =>
    refine ⟨text.getLast denotes.someDigit, List.getLast?_eq_some_getLast _, ?_⟩
    simp [CharClass.of?_digit (denotes.allDigits _ (List.getLast_mem _))]
  | @letters text _ someLetter allLetters =>
    refine ⟨text.getLast someLetter, List.getLast?_eq_some_getLast someLetter, ?_⟩
    simp [CharClass.of?_letter (allLetters _ (List.getLast_mem someLetter))]
  | group inside ih => exact ⟨')', List.getLast?_concat, by decide⟩
  | signed allSigns collapses primary ih =>
    obtain ⟨c, ends, noSign⟩ := ih
    exact ⟨c, by simp [List.getLast?_append, ends], noSign⟩
  | looser tighter bound ih => exact ih
  | joined allSigns collapses ranks before last ihLeft ihRight =>
    obtain ⟨c, ends, noSign⟩ := ihRight
    exact ⟨c, by simp [List.getLast?_append, ends], noSign⟩

theorem first_char (reading : TextReading false level text expr) :
    ∃ c, text.head? = some c ∧ CharClass.of? c ≠ some .sign := by
  generalize plain : false = leads at reading
  induction reading with
  | @digits text _ _ denotes =>
    refine ⟨text.head denotes.someDigit, List.head?_eq_some_head _, ?_⟩
    simp [CharClass.of?_digit (denotes.allDigits _ (List.head_mem _))]
  | @letters text _ someLetter allLetters =>
    refine ⟨text.head someLetter, List.head?_eq_some_head someLetter, ?_⟩
    simp [CharClass.of?_letter (allLetters _ (List.head_mem someLetter))]
  | group inside ih => exact ⟨'(', rfl, by decide⟩
  | signed allSigns collapses primary ih => cases plain
  | looser tighter bound ih => exact ih plain
  | joined allSigns collapses ranks before last ihLeft ihRight =>
    obtain ⟨c, starts, noSign⟩ := ihLeft plain
    exact ⟨c, by simp [List.head?_append, starts], noSign⟩

theorem signs_append (someSign : run ≠ []) (allSigns : ∀ c ∈ run, c ∈ ['+', '-', '*', '/'])
    (behind : TextReading false level text expr) : ofChars (run ++ text) = .signs run :: ofChars text := by
  have classed : ∀ c ∈ run, CharClass.of? c = some .sign := fun c member => CharClass.of?_sign (allSigns c member)
  have native : ∀ c ∈ run, (CharClass.of? c).isSome := by
    intro c member
    simp [classed c member]
  have seam : Seam run text := by
    obtain ⟨c, head, noSign⟩ := behind.first_char
    apply seam_of_ne
    intro last ends first starts
    rw [classed last (List.mem_of_getLast? ends), ← Option.some.inj (head.symm.trans starts)]
    exact noSign.symm
  have one : ofChars run = [ofRun .sign run] := ofChars_run rfl someSign classed
  rw [ofChars_append native seam, one]
  rfl

theorem tokens (reading : TextReading leads level text expr) (before : Option Token)
    (due : leads = true → Token.expectsOperand before = true) :
    ∃ tokens, tokensAfter .unlimited before (ofChars text) = .ok tokens ∧ Reading level tokens expr := by
  induction reading generalizing before with
  | @digits text _ _ denotes =>
    have one : ofChars text = [.digits text] :=
      ofChars_run rfl denotes.someDigit fun c member => CharClass.of?_digit (denotes.allDigits c member)
    rw [one, ← denotes.ofDigits_eq]
    exact ⟨_, rfl, .integer _⟩
  | @letters text _ someLetter allLetters =>
    have one : ofChars text = [.letters text] :=
      ofChars_run rfl someLetter fun c member => CharClass.of?_letter (allLetters c member)
    exact ⟨_, by rw [one]; rfl, .identifier _⟩
  | @group text expr _ inside ih =>
    obtain ⟨tokens, read, reading⟩ := ih (some (.bracket .opening)) fun _ => rfl
    rw [List.cons_append, ofChars_bracketed inside.native]
    exact ⟨_, tokensAfter_cons_ok rfl (tokensAfter_append_ok read rfl), .group reading⟩
  | @signed run symbol text expr allSigns collapses primary ih =>
    obtain ⟨someSign, rfl⟩ := collapses_iff.mp collapses
    obtain ⟨tokens, read, reading⟩ := ih (some (.operator ⟨String.ofList (collapse run), true⟩)) (by simp)
    rw [signs_append someSign allSigns primary]
    refine ⟨_, tokensAfter_cons_ok ?_ read, .signed rfl reading⟩
    rw [Lexeme.token, due rfl]
  | looser tighter bound ih =>
    obtain ⟨tokens, read, reading⟩ := ih before due
    exact ⟨tokens, read, .looser reading bound⟩
  | @joined run symbol level leads left leftExpr right rightExpr allSigns collapses ranks earlier later ihLeft ihRight =>
    obtain ⟨someSign, rfl⟩ := collapses_iff.mp collapses
    let op : Operator := ⟨String.ofList (collapse run), false⟩
    obtain ⟨leftTokens, leftRead, leftReading⟩ := ihLeft before due
    obtain ⟨rightTokens, rightRead, rightReading⟩ := ihRight (some (.operator op)) (by simp)
    obtain ⟨last, ends, complete⟩ := leftReading.last_token
    have seam : Seam left (run ++ right) := by
      obtain ⟨sign, others, rfl⟩ := List.exists_cons_of_ne_nil someSign
      obtain ⟨c, final, noSign⟩ := earlier.last_char
      apply seam_of_ne
      intro edge ends first starts
      cases starts
      rw [CharClass.of?_sign (allSigns sign List.mem_cons_self), ← Option.some.inj (final.symm.trans ends)]
      exact noSign
    rw [List.append_assoc, ofChars_append earlier.native seam, signs_append someSign allSigns later]
    have power : op.bindingPower = level := (ranks_iff false).mp ranks
    rw [← power] at leftReading rightReading ⊢
    refine ⟨leftTokens ++ .operator op :: rightTokens,
      tokensAfter_append_ok leftRead (tokensAfter_cons_ok ?_ rightRead), .joined leftReading rfl rightReading⟩
    simp [Lexeme.token, ends, complete, op]

theorem level_le (reading : TextReading leads level text expr) : level ≤ 3 := by
  cases reading with
  | looser tighter bound => exact Nat.le_of_lt bound
  | joined allSigns collapses ranks before last =>
    rw [← (ranks_iff false).mp ranks]
    exact Nat.le_succ_of_le (Operator.precedence_le_two _)
  | _ => exact Nat.le_refl 3

theorem loosen (reading : TextReading leads level text expr) (below : lower ≤ level) :
    TextReading leads lower text expr := by
  obtain ⟨gap, rfl⟩ := Nat.exists_eq_add_of_le below
  clear below
  induction gap with
  | zero => exact reading
  | succ gap ih => exact ih (.looser reading reading.level_le)

theorem leads_true (reading : TextReading leads level text expr) : TextReading true level text expr := by
  induction reading with
  | digits denotes => exact .digits denotes
  | letters someLetter allLetters => exact .letters someLetter allLetters
  | group inside ih => exact .group inside
  | signed allSigns collapses primary ih => exact .signed allSigns collapses primary
  | looser tighter bound ih => exact .looser ih bound
  | joined allSigns collapses ranks before last ihLeft ihRight => exact .joined allSigns collapses ranks ihLeft last

theorem extend (before : TextReading leads level left leftExpr) (allSigns : ∀ c ∈ run, c ∈ ['+', '-', '*', '/'])
    (collapses : Collapses run symbol) (ranks : Ranks (String.ofList symbol) power) (holds : level ≤ power)
    (last : TextReading false 3 right rightExpr) :
    ∃ expr, TextReading leads level (left ++ run ++ right) expr := by
  have low : power ≤ 2 := (ranks_iff false).mp ranks ▸ Operator.precedence_le_two _
  induction before with
  | digits | letters | group | signed => omega
  | @looser leads level text expr tighter bound ih =>
    by_cases same : level = power
    · subst same
      exact ⟨_, .joined allSigns collapses ranks (.looser tighter bound) (last.loosen (by omega))⟩
    · obtain ⟨whole, reading⟩ := ih (by omega)
      exact ⟨whole, .looser reading bound⟩
  | @joined first firstSymbol level leads left leftExpr behind behindExpr allFirst firstCollapses firstRanks before rest _ ihRight =>
    by_cases same : level = power
    · subst same
      have whole := TextReading.joined allFirst firstCollapses firstRanks before rest
      exact ⟨_, .joined allSigns collapses ranks whole (last.loosen (by omega))⟩
    · obtain ⟨whole, reading⟩ := ihRight (by omega)
      have placed := TextReading.joined allFirst firstCollapses firstRanks before reading
      exact ⟨_, by simpa using placed⟩

theorem exists_tokens (reading : TextReading true 0 (Text.removeBlanks line.toList) expr) (strict : Bool) :
    ∃ tokens, tokensOfLine ⟨strict, .unlimited⟩ line = .ok tokens ∧ Reading 0 tokens expr := by
  obtain ⟨tokens, read, tokensReading⟩ := reading.tokens none fun _ => rfl
  exact ⟨tokens, tokensOfLine_ok_iff.mpr ⟨read, fun _ => unread_eq_nil reading.native⟩, tokensReading⟩

theorem unique (reading : TextReading true 0 text expr) (other : TextReading true 0 text otherExpr) :
    otherExpr = expr := by
  -- A text has one tree because its tokens have one.
  obtain ⟨tokens, read, tokensReading⟩ := reading.tokens none fun _ => rfl
  obtain ⟨otherTokens, otherRead, otherReading⟩ := other.tokens none fun _ => rfl
  cases read.symm.trans otherRead
  exact tokensReading.unique otherReading

theorem valueOfLine_eq_eval (reading : TextReading true 0 (Text.removeBlanks line.toList) expr) (strict : Bool)
    (store : Store) : valueOfLine ⟨strict, .unlimited⟩ store line = expr.eval store := by
  obtain ⟨tokens, read, tokensReading⟩ := reading.exists_tokens strict
  rw [valueOfLine, postfixOfLine, read, ok_bind, tokensReading.postfixOf_eq, ok_bind, Expr.valueOfPostfix_postorder]

theorem evaluate_eq_eval (reading : TextReading true 0 (Text.removeBlanks line.toList) expr) (strict : Bool)
    (store : Store) : evaluate ⟨strict, .unlimited⟩ store line = Decimal.text <$> expr.eval store := by
  obtain ⟨tokens, read, tokensReading⟩ := reading.exists_tokens strict
  exact Expr.evaluate_of_postorder store read tokensReading.postfixOf_eq

theorem evaluate_ok_iff (reading : TextReading true 0 (Text.removeBlanks line.toList) expr) (strict : Bool) (store : Store) :
    evaluate ⟨strict, .unlimited⟩ store line = .ok text ↔
      ∃ value, expr.Yields store (.ok value) ∧ Decimal.Shows text.toList value := by
  rw [reading.evaluate_eq_eval, map_eq_ok]
  simp only [Expr.yields_iff, Decimal.shows_text]

theorem evaluate_error_iff (reading : TextReading true 0 (Text.removeBlanks line.toList) expr) (strict : Bool) (store : Store) :
    evaluate ⟨strict, .unlimited⟩ store line = .error fault ↔ expr.Yields store (.error fault) := by
  rw [reading.evaluate_eq_eval, Expr.yields_iff]
  cases expr.eval store <;> simp

end TextReading

theorem Written.reading (written : Written phrase text) :
    ∃ expr, match phrase with
      | .primary => TextReading false 3 text expr
      | .operand => TextReading true 3 text expr
      | .expression => TextReading true 0 text expr := by
  induction written with
  | digits someDigit allDigits => exact ⟨_, .digits (Decimal.denotes_ofDigits someDigit allDigits)⟩
  | letters someLetter allLetters => exact ⟨_, .letters someLetter allLetters⟩
  | group inside ih => exact ih.imp fun _ => .group
  | plain primary ih => exact ih.imp fun _ reading => reading.leads_true
  | signed someSign allSigns primary ih =>
    obtain ⟨expr, reading⟩ := ih
    exact ⟨_, .signed allSigns (collapses_iff.mpr ⟨someSign, rfl⟩) reading⟩
  | single operand ih => exact ih.imp fun _ reading => reading.loosen (Nat.zero_le 3)
  | joined before someSign allSigns last ihLeft ihRight =>
    obtain ⟨leftExpr, leftReading⟩ := ihLeft
    obtain ⟨rightExpr, rightReading⟩ := ihRight
    exact leftReading.extend allSigns (collapses_iff.mpr ⟨someSign, rfl⟩) ((ranks_iff false).mpr rfl) (Nat.zero_le _)
      rightReading

-- A line that holds an expression has one tree, and is answered with what the tree comes to:
-- its value in decimal, or the first fault that is met from left to right.
theorem evaluate_written (line : String) (written : Written .expression (Text.removeBlanks line.toList)) :
    ∃ expr, TextReading true 0 (Text.removeBlanks line.toList) expr ∧
      (∀ other, TextReading true 0 (Text.removeBlanks line.toList) other → other = expr) ∧
      ∀ strict store,
        let answer := evaluate ⟨strict, .unlimited⟩ store line
        (∀ text, answer = .ok text ↔ ∃ value, expr.Yields store (.ok value) ∧ Decimal.Shows text.toList value) ∧
        (∀ fault, answer = .error fault ↔ expr.Yields store (.error fault)) ∧
        ∀ fault, answer = .error fault → Expr.Cause store fault := by
  obtain ⟨expr, reading⟩ := written.reading
  refine ⟨expr, reading, fun _ other => reading.unique other, fun strict store => ?_⟩
  refine ⟨fun text => reading.evaluate_ok_iff strict store, fun fault => reading.evaluate_error_iff strict store, ?_⟩
  intro fault failed
  exact Expr.eval_cause ((reading.evaluate_error_iff strict store).mp failed).eval_eq

theorem evaluate_written_mixed_run :
    let line := "- 1 -- x/ y"
    let mixed := "- 1 -- x/ y *- 3"
    let store := (Store.empty.set "x" (-7)).set "y" 2
    Written .expression (Text.removeBlanks line.toList) ∧ Written .expression (Text.removeBlanks mixed.toList) ∧
      ∀ strict,
        evaluate ⟨strict, .unlimited⟩ store line = .ok "-4" ∧
        evaluate ⟨strict, .unlimited⟩ (store.set "y" 0) line = .error .divisionByZero ∧
        evaluate ⟨strict, .unlimited⟩ (Store.empty.set "x" 1) line = .error (.unknownVariable "y") ∧
        evaluate ⟨strict, .unlimited⟩ store mixed = .error (.unknownOperator "*-") := by
  intro line mixed store
  have text : Text.removeBlanks line.toList = ['-', '1', '-', '-', 'x', '/', 'y'] := by decide +revert
  have mixedText : Text.removeBlanks mixed.toList = ['-', '1', '-', '-', 'x', '/', 'y', '*', '-', '3'] := by
    decide +revert
  have sum : Written .expression ['-', '1', '-', '-', 'x', '/', 'y'] :=
    .joined (.joined (.single (.signed (List.cons_ne_nil '-' []) (by simp) (.digits (List.cons_ne_nil '1' []) (by simp))))
      (List.cons_ne_nil '-' ['-']) (by simp) (.letters (List.cons_ne_nil 'x' []) (by simp)))
      (List.cons_ne_nil '/' []) (by simp) (.letters (List.cons_ne_nil 'y' []) (by simp))
  have written : Written .expression (Text.removeBlanks line.toList) := text ▸ sum
  have mixedWritten : Written .expression (Text.removeBlanks mixed.toList) :=
    mixedText ▸ .joined sum (List.cons_ne_nil '*' ['-']) (by simp) (.digits (List.cons_ne_nil '3' []) (by simp))
  -- The quotient holds tighter than the sum, and the sum tighter than the mixed run.
  have x {leads : Bool} : TextReading leads 3 ['x'] (.variable "x") := .letters (List.cons_ne_nil _ _) (by simp)
  have y {leads : Bool} : TextReading leads 3 ['y'] (.variable "y") := .letters (List.cons_ne_nil _ _) (by simp)
  have minusOne : TextReading true 3 ['-', '1'] (.unary "-" (.literal 1)) :=
    .signed (by simp) (.odd 0) (.digits (Decimal.denotes_digits 1))
  have quotient : TextReading false 2 ['x', '/', 'y'] (.binary "/" (.variable "x") (.variable "y")) :=
    .joined (by simp) (collapses_iff.mpr ⟨List.cons_ne_nil '/' [], rfl⟩) .quotient (.looser x (by decide)) y
  have reading : TextReading true 1 ['-', '1', '-', '-', 'x', '/', 'y']
      (.binary "+" (.unary "-" (.literal 1)) (.binary "/" (.variable "x") (.variable "y"))) :=
    .joined (by simp) (.even 0) .sum (minusOne.loosen (by decide)) quotient
  have three : TextReading false 3 ['3'] (.literal 3) := .digits (Decimal.denotes_digits 3)
  have mixedReading : TextReading true 0 ['-', '1', '-', '-', 'x', '/', 'y', '*', '-', '3'] (.binary "*-"
      (.binary "+" (.unary "-" (.literal 1)) (.binary "/" (.variable "x") (.variable "y"))) (.literal 3)) :=
    .joined (by simp) (collapses_iff.mpr ⟨List.cons_ne_nil '*' ['-'], rfl⟩) (.meaningless (by decide))
      (reading.loosen (Nat.zero_le 1)) (three.loosen (by decide))
  obtain ⟨expr, _, unique, answers⟩ := evaluate_written line written
  obtain ⟨mixedExpr, _, mixedUnique, mixedAnswers⟩ := evaluate_written mixed mixedWritten
  obtain rfl := unique _ (text ▸ reading.loosen (Nat.zero_le 1))
  obtain rfl := mixedUnique _ (mixedText ▸ mixedReading)
  have opposite (store : Store) : Expr.Yields store (.unary "-" (.literal 1)) (.ok (-1)) := .negated (.literal 1)
  have total : Expr.Yields store (.binary "+" (.unary "-" (.literal 1)) (.binary "/" (.variable "x") (.variable "y")))
      (.ok (-4)) := by
    have divided : IsQuotient (-7) 2 (-3) := ⟨by decide, by decide⟩
    exact .combined (opposite store) (.combined (.bound (by decide)) (.bound (by decide)) (.quotient divided)) .sum
  refine ⟨written, mixedWritten, fun strict => ⟨?value, ?zero, ?unbound, ?unknown⟩⟩
  case value =>
    exact ((answers strict store).1 "-4").mpr ⟨-4, total, .negative (Decimal.denotes_digits 4) (by decide)⟩
  case zero =>
    have dividend : Expr.Yields (store.set "y" 0) (.variable "x") (.ok (-7)) := .bound (by decide)
    exact ((answers strict _).2.1 _).mpr (.stoppedRight (opposite _) (.combined dividend (.bound (by decide)) .zero))
  case unbound =>
    have dividend : Expr.Yields (Store.empty.set "x" 1) (.variable "x") (.ok 1) := .bound (by decide)
    exact ((answers strict _).2.1 _).mpr (.stoppedRight (opposite _) (.stoppedRight dividend (.unbound (by decide))))
  case unknown => exact ((mixedAnswers strict _).2.1 _).mpr (.combined total (.literal 3) (.meaningless (by decide)))

end Calculator
