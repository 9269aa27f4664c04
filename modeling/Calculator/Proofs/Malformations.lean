import Calculator.Proofs.BracketBalance
import Calculator.Proofs.InfixShape
namespace Calculator

namespace Token

def endsOperand : Token → Bool
  | .integer _ | .identifier _ | .bracket .closing => true
  | _ => false

theorem expectsOperand_some (token : Token) : expectsOperand (some token) = !token.endsOperand := by
  cases token with
  | bracket side => cases side <;> rfl
  | _ => rfl

def Juxtaposed (tokens : List Token) : Prop :=
  ∃ first second, [first, second] <:+: tokens ∧ first.endsOperand = true ∧ second.startsOperand = true

theorem juxtaposed_of_juxtapositionsAfter (counted : juxtapositionsAfter before tokens ≠ 0) :
    Juxtaposed (before.toList ++ tokens) := by
  induction tokens generalizing before with
  | nil => exact absurd rfl counted
  | cons token later ih =>
    rw [juxtapositionsAfter] at counted
    by_cases here : startsOperand token = true ∧ expectsOperand before = false
    · obtain ⟨starts, complete⟩ := here
      cases before with
      | none => cases complete
      | some first =>
        rw [expectsOperand_some, Bool.not_eq_false'] at complete
        exact ⟨first, token, ⟨[], later, rfl⟩, complete, starts⟩
    · have rest : juxtapositionsAfter (some token) later ≠ 0 := by simpa [here] using counted
      obtain ⟨first, second, found, ends, starts⟩ := ih rest
      exact ⟨first, second, found.trans (List.suffix_append before.toList _).isInfix, ends, starts⟩

theorem juxtaposed_iff : Juxtaposed tokens ↔ juxtapositions tokens ≠ 0 := by
  constructor
  · rintro ⟨first, second, ⟨left, right, rfl⟩, ends, starts⟩
    have complete : expectsOperand (some first) = false := by simp [expectsOperand_some, ends]
    simp [juxtapositions, juxtapositionsAfter_append, juxtapositionsAfter, starts, complete]
  · exact juxtaposed_of_juxtapositionsAfter

instance (tokens : List Token) : Decidable (Juxtaposed tokens) := decidable_of_iff _ juxtaposed_iff.symm

-- What a stream can lack: an operand where one is due, or the other bracket of a pair. An
-- operator without an operand behind it may be of either kind.
inductive Malformed (tokens : List Token) : Prop
  | nothing (empty : tokens = [])
  | emptyBrackets (found : [.bracket .opening, .bracket .closing] <:+: tokens)
  | danglingAtEnd (last : tokens.getLast? = some (.operator op))
  | danglingInBrackets (found : [.operator op, .bracket .closing] <:+: tokens)
  | unbalanced (uneven : ¬ Balanced tokens)

theorem gapsAfter_eq_zero_iff : gapsAfter before tokens = 0 ↔
    (∀ left right, tokens = left ++ .bracket .closing :: right →
      expectsOperand (left.getLast?.or before) = false) ∧
    expectsOperand (tokens.getLast?.or before) = false := by
  induction tokens generalizing before with
  | nil => simp [gapsAfter]
  | cons token later ih =>
    rw [gapsAfter, Nat.add_eq_zero_iff, ih, getLast?_cons_or]
    constructor
    · rintro ⟨here, rest, ended⟩
      refine ⟨?_, ended⟩
      intro left right same
      rcases List.cons_eq_append_iff.mp same with ⟨rfl, heads⟩ | ⟨inner, rfl, tail⟩
      · cases heads
        simpa using here
      · rw [getLast?_cons_or]
        exact rest inner right tail
    · rintro ⟨closings, ended⟩
      refine ⟨?_, ?_, ended⟩
      · by_cases closing : token = .bracket .closing
        · have complete : expectsOperand before = false := closings [] later (congrArg (· :: later) closing)
          simp [complete]
        · simp [closing]
      · intro left right same
        rw [← getLast?_cons_or token left before]
        exact closings (token :: left) right (congrArg (token :: ·) same)

theorem malformed_of_gaps (balanced : Balanced tokens) (missing : gaps tokens ≠ 0) : Malformed tokens := by
  by_contra sound
  apply missing
  apply gapsAfter_eq_zero_iff.mpr
  constructor
  · intro left right same
    rcases List.eq_nil_or_concat' left with rfl | ⟨init, last, rfl⟩
    · have first := balanced.opened [.bracket .closing] ⟨right, same.symm⟩
      exact absurd first (by decide)
    · have pair : [last, .bracket .closing] <:+: tokens := ⟨init, right, by simp [same]⟩
      cases last with
      | operator op => exact absurd (.danglingInBrackets pair) sound
      | bracket side =>
        cases side with
        | opening => exact absurd (.emptyBrackets pair) sound
        | closing => simp [expectsOperand]
      | integer value => simp [expectsOperand]
      | identifier name => simp [expectsOperand]
  · rcases List.eq_nil_or_concat' tokens with rfl | ⟨init, last, rfl⟩
    · exact absurd (.nothing rfl) sound
    · cases last with
      | operator op => exact absurd (.danglingAtEnd List.getLast?_concat) sound
      | bracket side =>
        cases side with
        | opening =>
          -- One that opens at the very end is never closed.
          have even := balanced.closed
          have within := balanced.opened init (List.prefix_append init _)
          have one : bracketCount .opening [.bracket .opening] = 1 := rfl
          have none : bracketCount .closing [.bracket .opening] = 0 := rfl
          rw [bracketCount_append, bracketCount_append] at even
          omega
        | closing => simp [expectsOperand]
      | integer value => simp [expectsOperand]
      | identifier name => simp [expectsOperand]

theorem malformed_iff : Malformed tokens ↔ ¬ (Balanced tokens ∧ gaps tokens = 0) := by
  constructor
  · rintro malformed ⟨balanced, gapless⟩
    obtain ⟨closings, ended⟩ := gapsAfter_eq_zero_iff.mp gapless
    cases malformed with
    | nothing empty => simp [empty, expectsOperand] at ended
    | emptyBrackets found =>
      obtain ⟨left, right, rfl⟩ := found
      have complete := closings (left ++ [.bracket .opening]) right (by simp)
      simp [expectsOperand] at complete
    | danglingAtEnd last => simp [last, expectsOperand] at ended
    | @danglingInBrackets op found =>
      obtain ⟨left, right, rfl⟩ := found
      have complete := closings (left ++ [.operator op]) right (by simp)
      simp [expectsOperand] at complete
    | unbalanced uneven => exact uneven balanced
  · intro unsound
    by_cases balanced : Balanced tokens
    · exact malformed_of_gaps balanced fun gapless => unsound ⟨balanced, gapless⟩
    · exact .unbalanced balanced

theorem gapsAfter_append (complete : gapsAfter before left = 0) (right : List Token) :
    gapsAfter before (left ++ right) = gapsAfter (left.getLast?.or before) right := by
  induction left generalizing before with
  | nil => rfl
  | cons token later ih =>
    obtain ⟨here, rest⟩ := Nat.add_eq_zero_iff.mp complete
    rw [List.cons_append, gapsAfter, here, ih rest, getLast?_cons_or, Nat.zero_add]

end Token

theorem Infix.no_gap (whole : Infix phrase tokens) (due : Token.expectsOperand before = true) :
    Token.gapsAfter before tokens = 0 := by
  induction whole generalizing before with
  | integer value => simp [Token.gapsAfter, Token.expectsOperand]
  | identifier name => simp [Token.gapsAfter, Token.expectsOperand]
  | @group tokens inside ih =>
    have within : Token.gapsAfter (some (.bracket .opening)) tokens = 0 := ih rfl
    have ended := (Token.gapsAfter_eq_zero_iff.mp within).2
    have closed : Token.gapsAfter (some (.bracket .opening)) (tokens ++ [.bracket .closing]) = 0 := by
      rw [Token.gapsAfter_append within, Token.gapsAfter, ended]
      rfl
    simpa [Token.gapsAfter] using closed
  | plain primary ih => exact ih due
  | @signed tokens op unary primary ih =>
    have behind : Token.gapsAfter (some (.operator op)) tokens = 0 := ih rfl
    simp [Token.gapsAfter, behind]
  | single operand ih => exact ih due
  | @joined left right op before binary last ihLeft ihRight =>
    have behind : Token.gapsAfter (some (.operator op)) right = 0 := ihRight rfl
    rw [Token.gapsAfter_append (ihLeft due)]
    simp [Token.gapsAfter, behind]

theorem Infix.balanced (whole : Infix .expression tokens) : Token.Balanced tokens := by
  obtain ⟨expr, reading⟩ := whole.stream.reading
  exact postfixOf_ok_iff.mp ⟨expr.postorder, reading.postfixOf_eq⟩

theorem not_infix_iff_malformed (placed : Token.Placed none tokens) (apart : ¬ Token.Juxtaposed tokens) :
    ¬ Infix .expression tokens ↔ Token.Malformed tokens := by
  rw [Token.malformed_iff]
  apply not_congr
  constructor
  · intro whole
    exact ⟨whole.balanced, whole.no_gap rfl⟩
  · rintro ⟨balanced, gapless⟩
    -- With brackets in pairs the stream converts, and then only gaps and juxtapositions can spoil it.
    obtain ⟨stream, converted⟩ := postfixOf_ok_iff.mpr balanced
    have none : Token.juxtapositions tokens = 0 := not_not.mp (mt Token.juxtaposed_iff.mpr apart)
    exact infix_of_no_juxtaposition placed converted gapless none

theorem juxtaposed_of_evaluate (read : tokensOfLine policy line = .ok tokens)
    (answered : evaluate policy store line = .ok text) (broken : ¬ Infix .expression tokens) :
    Token.Juxtaposed tokens := by
  obtain ⟨_, stream, value, again, converted, computed, _⟩ := evaluate_inv answered
  cases read.symm.trans again
  have placed := tokensOfLine_placed read
  have even := gaps_eq_juxtapositions placed converted computed
  apply Token.juxtaposed_iff.mpr
  intro none
  apply broken
  exact infix_of_no_juxtaposition placed converted (even.trans none) none

-- Two operands that touch are the only way to an answer for a line that is no expression.
-- Without them a line is an expression or malformed in one of five ways, and then refused.
theorem evaluate_malformed (read : tokensOfLine policy line = .ok tokens) (store : Store) :
    (∀ text, evaluate policy store line = .ok text → ¬ Infix .expression tokens → Token.Juxtaposed tokens) ∧
    (¬ Token.Juxtaposed tokens →
      (¬ Infix .expression tokens ↔ Token.Malformed tokens) ∧
      (Token.Malformed tokens → ∃ fault, evaluate policy store line = .error fault)) := by
  constructor
  · intro text answered broken
    exact juxtaposed_of_evaluate read answered broken
  · intro apart
    have same := not_infix_iff_malformed (tokensOfLine_placed read) apart
    refine ⟨same, ?_⟩
    intro malformed
    cases answer : evaluate policy store line with
    | error fault => exact ⟨fault, rfl⟩
    | ok text => exact absurd (juxtaposed_of_evaluate read answer (same.mpr malformed)) apart

theorem evaluate_malformed_dangling_sign :
    let tokens : List Token := [.integer 7, .operator ⟨"*", false⟩, .bracket .opening,
      .operator ⟨"-", true⟩, .bracket .closing, .operator ⟨"+", false⟩, .identifier "x"]
    tokensOfLine {} "7*(-) + x" = .ok tokens ∧ ¬ Token.Juxtaposed tokens ∧ Token.Malformed tokens ∧
      ∀ store, ∃ fault, evaluate {} store "7*(-) + x" = .error fault := by
  intro tokens
  have read : tokensOfLine {} "7*(-) + x" = .ok tokens := by rfl
  have apart : ¬ Token.Juxtaposed tokens := by decide
  have malformed : Token.Malformed tokens :=
    .danglingInBrackets ⟨[.integer 7, .operator ⟨"*", false⟩, .bracket .opening],
      [.operator ⟨"+", false⟩, .identifier "x"], rfl⟩
  refine ⟨read, apart, malformed, ?_⟩
  intro store
  exact ((evaluate_malformed read store).2 apart).2 malformed

end Calculator
