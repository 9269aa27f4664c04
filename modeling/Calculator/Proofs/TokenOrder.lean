import Calculator.Line
import Calculator.Proofs.Lexing
import Mathlib.Data.List.Chain
namespace Calculator

namespace Lexeme

def Apart (first second : Lexeme) : Prop :=
  ∀ kind run next, first = ofRun kind run → second = ofRun kind next → kind.joins = false

theorem Apart.lengthen (apart : Apart (ofRun kind run) second) (c : Char) :
    Apart (ofRun kind (c :: run)) second := by
  intro other otherRun next same follows
  cases ofRun_kind same
  exact apart kind run next rfl follows

theorem ofChars_apart (text : List Char) : (ofChars text).IsChain Apart := by
  induction text with
  | nil => exact .nil
  | cons c rest ih =>
    cases found : CharClass.of? c with
    | none => simp [ofChars, found]
    | some kind =>
      rw [ofChars_cons found]
      rcases attach_cases c kind (ofChars rest) with ⟨run, later, _, heads, joined⟩ | ⟨fresh, started⟩
      · rw [joined]
        rw [heads] at ih
        cases later with
        | nil => exact .singleton _
        | cons next more =>
          obtain ⟨apart, tail⟩ := List.isChain_cons_cons.mp ih
          exact .cons_cons (apart.lengthen c) tail
      · rw [started]
        cases after : ofChars rest with
        | nil => exact .singleton _
        | cons next more =>
          refine .cons_cons ?_ (after ▸ ih)
          intro other run following same follows
          cases ofRun_kind same
          exact fresh following more (by rw [after, follows])

theorem tokensAfter_cons_inv (read : tokensAfter limit before (lexeme :: later) = .ok tokens) :
    ∃ first rest, Lexeme.token limit before lexeme = .ok first ∧
      tokensAfter limit (some first) later = .ok rest ∧ tokens = first :: rest := by
  rw [tokensAfter] at read
  obtain ⟨first, made, read⟩ := bind_eq_ok.mp read
  obtain ⟨rest, readRest, same⟩ := bind_eq_ok.mp read
  cases same
  exact ⟨first, rest, made, readRest, rfl⟩

theorem token_eq_operator (made : Lexeme.token limit before lexeme = .ok (.operator op)) :
    ∃ run, lexeme = .signs run ∧ op = ⟨String.ofList (collapse run), Token.expectsOperand before⟩ := by
  cases lexeme with
  | signs run =>
    cases made
    exact ⟨run, rfl, rfl⟩
  | digits run =>
    simp only [Lexeme.token] at made
    split at made <;> cases made
  | bracket side => cases made
  | letters run => cases made

end Lexeme

namespace Token

-- Operators as a line gives them: unary exactly where an operand is due, and never one
-- behind the other.
def Placed : Option Token → List Token → Prop
  | _, [] => True
  | before, .operator op :: later =>
    op.unary = expectsOperand before ∧ (∀ prior, before ≠ some (.operator prior)) ∧
      Placed (some (.operator op)) later
  | _, token :: later => Placed (some token) later

theorem Placed.tail (placed : Placed before (token :: later)) : Placed (some token) later := by
  cases token with
  | operator op => exact placed.2.2
  | _ => exact placed

end Token

theorem Lexeme.tokensAfter_placed (read : tokensAfter limit before lexemes = .ok tokens)
    (apart : lexemes.IsChain Apart)
    (fresh : ∀ prior run later, before = some (.operator prior) → lexemes ≠ .signs run :: later) :
    Token.Placed before tokens := by
  induction lexemes generalizing before tokens with
  | nil =>
    cases read
    trivial
  | cons lexeme later ih =>
    obtain ⟨first, rest, made, readRest, rfl⟩ := tokensAfter_cons_inv read
    have follows : ∀ prior run more, some first = some (.operator prior) → later ≠ .signs run :: more := by
      intro prior run more same heads
      cases same
      obtain ⟨own, rfl, _⟩ := token_eq_operator made
      subst heads
      have joins := (List.isChain_cons_cons.mp apart).1 .sign own run rfl rfl
      cases joins
    have tail := ih readRest apart.tail follows
    cases first with
    | operator op =>
      obtain ⟨run, rfl, rfl⟩ := token_eq_operator made
      exact ⟨rfl, fun prior same => fresh prior run later same rfl, tail⟩
    | integer value => exact tail
    | identifier name => exact tail
    | bracket side => exact tail

theorem tokensOfLine_ok_iff : tokensOfLine policy line = .ok tokens ↔
    Lexeme.tokensAfter policy.limit none (Lexeme.ofChars (Text.removeBlanks line.toList)) = .ok tokens ∧
      (policy.strict = true → Lexeme.unread (Text.removeBlanks line.toList) = []) := by
  rw [tokensOfLine, map_eq_ok, Scan.ofLine]
  constructor
  · rintro ⟨scan, scanned, rfl⟩
    obtain ⟨tokens, made, scanned⟩ := bind_eq_ok.mp scanned
    dsimp only at scanned
    split at scanned
    · cases scanned
    · rename_i complete
      cases scanned
      exact ⟨made, fun strict => not_not.mp fun rest => complete ⟨strict, rest⟩⟩
  · rintro ⟨made, complete⟩
    refine ⟨⟨tokens, Lexeme.unread (Text.removeBlanks line.toList)⟩, ?_, rfl⟩
    rw [made, ok_bind]
    exact if_neg fun refused => refused.2 (complete refused.1)

theorem tokensOfLine_inv (read : tokensOfLine policy line = .ok tokens) :
    Lexeme.tokensAfter policy.limit none (Lexeme.ofChars (Text.removeBlanks line.toList)) = .ok tokens :=
  (tokensOfLine_ok_iff.mp read).1

theorem tokensOfLine_placed (read : tokensOfLine policy line = .ok tokens) : Token.Placed none tokens :=
  Lexeme.tokensAfter_placed (tokensOfLine_inv read) (Lexeme.ofChars_apart _) (by simp)

theorem evaluate_inv (answered : evaluate policy store line = .ok text) :
    ∃ tokens stream value, tokensOfLine policy line = .ok tokens ∧ postfixOf tokens = .ok stream ∧
      valueOfPostfix store stream = .ok value ∧ policy.limit.print value = .ok text := by
  obtain ⟨value, valued, printed⟩ := bind_eq_ok.mp answered
  obtain ⟨stream, converted, computed⟩ := bind_eq_ok.mp valued
  obtain ⟨tokens, read, converted⟩ := bind_eq_ok.mp converted
  refine ⟨tokens, stream, value, read, converted, computed, ?_⟩
  split at printed
  · cases printed
    assumption
  · cases printed

end Calculator
