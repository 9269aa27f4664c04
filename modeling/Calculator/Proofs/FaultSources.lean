import Calculator.Line
import Calculator.Proofs.BracketBalance
import Calculator.Proofs.ExprListing
namespace Calculator

inductive Fault.Lexical : Fault → Prop
  | literal (length : Nat) (overflow : DigitOverflow) : Lexical (.literalTooLong length overflow)
  | foreign (rest : String) : Lexical (.unrecognizedInput rest)

theorem Lexeme.token_error (failed : Lexeme.token limit before lexeme = .error fault) : fault.Lexical := by
  cases lexeme with
  | digits run =>
    simp only [Lexeme.token] at failed
    split at failed
    · cases failed
    · cases failed
      exact .literal _ _
  | bracket side => cases failed
  | signs run => cases failed
  | letters run => cases failed

theorem Lexeme.tokensAfter_error (failed : tokensAfter limit before lexemes = .error fault) : fault.Lexical := by
  induction lexemes generalizing before with
  | nil => cases failed
  | cons lexeme later ih =>
    rcases bind_eq_error failed with first | ⟨token, _, failed⟩
    · exact token_error first
    · rcases bind_eq_error failed with rest | ⟨tokens, _, failed⟩
      · exact ih rest
      · cases failed

theorem tokensOfLine_error (failed : tokensOfLine policy line = .error fault) : fault.Lexical := by
  rw [tokensOfLine, Scan.ofLine] at failed
  cases read : Lexeme.tokensAfter policy.limit none (Lexeme.ofChars (Text.removeBlanks line.toList)) with
  | error overlong =>
    rw [read] at failed
    cases failed
    exact Lexeme.tokensAfter_error read
  | ok tokens =>
    rw [read, ok_bind] at failed
    dsimp only at failed
    split at failed
    · cases failed
      exact .foreign _
    · cases failed

inductive Fault.OfBrackets : Fault → Prop
  | unopened : OfBrackets .unopenedBracket
  | unclosed (count : Nat) : OfBrackets (.unclosedBrackets count)

theorem Pending.run_error {pending : Pending} (stuck : pending.run tokens = .error fault) : fault = .unopenedBracket := by
  induction tokens generalizing pending with
  | nil => cases stuck
  | cons token later ih =>
    rcases bind_eq_error stuck with failed | ⟨⟨now, next⟩, _, stuck⟩
    · exact (step_error failed).2.2
    · rcases bind_eq_error stuck with failed | ⟨⟨rest, last⟩, _, stuck⟩
      · exact ih failed
      · cases stuck

theorem Pending.finish_error {pending : Pending} (stuck : pending.finish = .error fault) :
    fault = .unclosedBrackets pending.outer.length := by
  unfold finish at stuck
  split at stuck
  · cases stuck
  · cases stuck
    rfl

theorem postfixOf_error (failed : postfixOf tokens = .error fault) : fault.OfBrackets := by
  rcases bind_eq_error failed with stuck | ⟨⟨released, last⟩, _, failed⟩
  · rw [Pending.run_error stuck]
    exact .unopened
  · rcases bind_eq_error failed with unclosed | ⟨tail, _, failed⟩
    · rw [Pending.finish_error unclosed]
      exact .unclosed _
    · cases failed

inductive Obstacle (store : Store) (stream : List Token) : Fault → Prop
  | refused (cause : Expr.Cause store fault) : Obstacle store stream fault
  | missing (op : Operator) : Obstacle store stream (.missingOperand op)
  | stray (member : .bracket side ∈ stream) : Obstacle store stream (.strayBracket side)

theorem Obstacle.of_subset (obstacle : Obstacle store part fault) (within : part ⊆ stream) : Obstacle store stream fault := by
  cases obstacle with
  | refused cause => exact .refused cause
  | missing op => exact .missing op
  | stray member => exact .stray (within member)

theorem Operator.reduce_error {op : Operator} (failed : op.reduce operands = .error fault) (store : Store)
    (stream : List Token) : Obstacle store stream fault := by
  unfold reduce at failed
  split at failed
  · split at failed
    · cases failed
    · cases failed
      exact .missing op
  · split at failed
    · rcases bind_eq_error failed with stuck | ⟨value, _, failed⟩
      · exact .refused (Expr.combine_cause store stuck)
      · cases failed
    · cases failed
      exact .missing op

theorem perform_error (failed : Token.perform store operands token = .error fault) : Obstacle store [token] fault := by
  cases token with
  | integer value => cases failed
  | identifier name =>
    rcases bind_eq_error failed with unknown | ⟨value, _, failed⟩
    · exact .refused (Expr.require_cause unknown)
    · cases failed
  | operator op => exact Operator.reduce_error failed store _
  | bracket side =>
    cases failed
    exact .stray List.mem_cons_self

theorem performAll_error (failed : performAll store operands stream = .error fault) : Obstacle store stream fault := by
  induction stream generalizing operands with
  | nil => cases failed
  | cons token later ih =>
    rcases bind_eq_error failed with stuck | ⟨between, _, failed⟩
    · exact (perform_error stuck).of_subset (by simp)
    · exact (ih failed).of_subset (List.subset_cons_self token later)

theorem valueOfPostfix_error (failed : valueOfPostfix store stream = .error fault) :
    Obstacle store stream fault ∨
      ∃ operands, performAll store [] stream = .ok operands ∧ fault = .leftoverValues operands.length := by
  rcases bind_eq_error failed with stuck | ⟨operands, done, left⟩
  · exact .inl (performAll_error stuck)
  · unfold soleValue at left
    split at left
    · cases left
    · cases left
      exact .inr ⟨operands, done, rfl⟩

-- The stage at which the evaluation of a line ends without an answer.
inductive Stopped (policy : Policy) (store : Store) (line : String) (fault : Fault) : Prop
  | reading (failed : tokensOfLine policy line = .error fault)
  | converting (read : tokensOfLine policy line = .ok tokens) (failed : postfixOf tokens = .error fault)
  | evaluating (read : tokensOfLine policy line = .ok tokens) (converted : postfixOf tokens = .ok stream)
      (failed : valueOfPostfix store stream = .error fault)
  | printing (refused : policy.limit.print value = .error overflow) (named : fault = .resultTooLong overflow)

theorem evaluate_error (failed : evaluate policy store line = .error fault) : Stopped policy store line fault := by
  rcases bind_eq_error failed with failed | ⟨value, _, failed⟩
  · rcases bind_eq_error failed with failed | ⟨stream, converted, failed⟩
    · rcases bind_eq_error failed with failed | ⟨tokens, read, failed⟩
      · exact .reading failed
      · exact .converting read failed
    · obtain ⟨tokens, read, converted⟩ := bind_eq_ok.mp converted
      exact .evaluating read converted failed
  · split at failed
    · cases failed
    · rename_i refused
      cases failed
      exact .printing refused rfl

end Calculator
