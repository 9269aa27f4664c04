import Calculator.Line
import Calculator.Proofs.DecimalText
import Calculator.Proofs.DigitRuns
namespace Calculator

namespace Lexeme

def Fits (limit : DigitLimit) : Lexeme → Prop
  | .digits run => limit.Allows run.length
  | _ => True

instance (limit : DigitLimit) (lexeme : Lexeme) : Decidable (lexeme.Fits limit) :=
  match lexeme with
  | .digits run => inferInstanceAs (Decidable (limit.Allows run.length))
  | .bracket _ => .isTrue trivial
  | .signs _ => .isTrue trivial
  | .letters _ => .isTrue trivial

theorem token_fits (fits : Fits limit lexeme) (before : Option Token) :
    lexeme.token limit before = lexeme.token .unlimited before := by
  cases lexeme with
  | digits run =>
    have bound : limit.read run = .ok (Decimal.ofDigits run) := DigitLimit.read_ok_iff.mpr ⟨fits, rfl⟩
    have free : DigitLimit.unlimited.read run = .ok (Decimal.ofDigits run) := DigitLimit.read_ok_iff.mpr ⟨trivial, rfl⟩
    rw [Lexeme.token, Lexeme.token, bound, free]
  | bracket side => rfl
  | signs run => rfl
  | letters run => rfl

theorem token_overlong (long : ¬ limit.Allows run.length) (before : Option Token) :
    Lexeme.token limit before (.digits run) = .error (.literalTooLong run.length ⟨limit.toNat, some run.length⟩) := by
  simp [Lexeme.token, DigitLimit.read, long]

theorem token_unlimited (before : Option Token) (lexeme : Lexeme) :
    ∃ token, lexeme.token .unlimited before = .ok token := by
  cases lexeme with
  | digits run => exact ⟨.integer (Decimal.ofDigits run), by simp [Lexeme.token, DigitLimit.read, DigitLimit.Allows]⟩
  | bracket side => exact ⟨_, rfl⟩
  | signs run => exact ⟨_, rfl⟩
  | letters run => exact ⟨_, rfl⟩

theorem tokensAfter_fits (fits : ∀ lexeme ∈ lexemes, Fits limit lexeme) (before : Option Token) :
    tokensAfter limit before lexemes = tokensAfter .unlimited before lexemes := by
  induction lexemes generalizing before with
  | nil => rfl
  | cons lexeme later ih =>
    obtain ⟨token, made⟩ := token_unlimited before lexeme
    have behind := ih (fun other member => fits other (List.mem_cons_of_mem _ member)) (some token)
    rw [tokensAfter, tokensAfter, token_fits (fits lexeme List.mem_cons_self), made, ok_bind, ok_bind, behind]

theorem tokensAfter_unlimited (before : Option Token) (lexemes : List Lexeme) :
    ∃ tokens, tokensAfter .unlimited before lexemes = .ok tokens := by
  induction lexemes generalizing before with
  | nil => exact ⟨[], rfl⟩
  | cons lexeme later ih =>
    obtain ⟨token, made⟩ := token_unlimited before lexeme
    obtain ⟨tokens, read⟩ := ih (some token)
    exact ⟨token :: tokens, tokensAfter_cons_ok made read⟩

-- The first run that does not fit ends the reading, since all before it were read.
theorem tokensAfter_overlong (fits : ∀ lexeme ∈ earlier, Fits limit lexeme) (long : ¬ limit.Allows run.length)
    (before : Option Token) (later : List Lexeme) :
    tokensAfter limit before (earlier ++ .digits run :: later) =
      .error (.literalTooLong run.length ⟨limit.toNat, some run.length⟩) := by
  obtain ⟨tokens, read⟩ := tokensAfter_unlimited before earlier
  rw [tokensAfter_append, tokensAfter_fits fits, read, ok_bind, tokensAfter, token_overlong long]
  rfl

theorem all_fit_or_first (limit : DigitLimit) (lexemes : List Lexeme) :
    (∀ lexeme ∈ lexemes, Fits limit lexeme) ∨
      ∃ earlier run later, lexemes = earlier ++ .digits run :: later ∧
        (∀ lexeme ∈ earlier, Fits limit lexeme) ∧ ¬ limit.Allows run.length := by
  induction lexemes with
  | nil => exact .inl (by simp)
  | cons lexeme later ih =>
    by_cases here : Fits limit lexeme
    · rcases ih with all | ⟨earlier, run, rest, rfl, before, long⟩
      · exact .inl (List.forall_mem_cons.mpr ⟨here, all⟩)
      · exact .inr ⟨lexeme :: earlier, run, rest, rfl, List.forall_mem_cons.mpr ⟨here, before⟩, long⟩
    · cases lexeme with
      | digits run => exact .inr ⟨[], run, later, rfl, by simp, here⟩
      | bracket side => exact absurd trivial here
      | signs run => exact absurd trivial here
      | letters run => exact absurd trivial here

end Lexeme

structure FirstOverlong (limit : Nat) (text before run after : List Char) : Prop
    extends DigitRun text before run after where
  long : limit < run.length
  first : ∀ earlier other later, DigitRun text earlier other later → limit < other.length →
    before.length ≤ earlier.length

namespace Lexeme

theorem firstOverlong_of_ofChars (split : ofChars text = earlier ++ .digits run :: later)
    (fits : ∀ lexeme ∈ earlier, Fits (.atMost limit) lexeme) (long : limit < run.length) :
    FirstOverlong limit text (earlier.flatMap chars) run (later.flatMap chars ++ unread text) := by
  refine { digitRun_of_ofChars split with long := long, first := ?_ }
  intro before other after found longer
  have again := ofChars_digitRun found
  rw [split] at again
  -- The other run is one of the lexemes, and none before the given one is too long.
  have within : ∃ between, ofChars before = earlier ++ between := by
    rcases List.append_eq_append_iff.mp again with ⟨between, reached, _⟩ | ⟨between, reached, rest⟩
    · exact ⟨between, reached⟩
    · cases between with
      | nil => exact ⟨[], by simpa using reached.symm⟩
      | cons head more =>
        obtain rfl : .digits other = head := (List.cons.inj rest).1
        have fit : other.length ≤ limit := fits (.digits other) (by simp [reached])
        omega
  obtain ⟨between, reached⟩ := within
  have spelled := congrArg List.length (ofChars_append_unread before)
  rw [reached, List.flatMap_append, List.append_assoc, List.length_append] at spelled
  omega

theorem all_fit_of_digitRun (short : ∀ before run after, DigitRun text before run after → run.length ≤ limit) :
    ∀ lexeme ∈ ofChars text, Fits (.atMost limit) lexeme := by
  intro lexeme member
  cases lexeme with
  | digits run =>
    obtain ⟨earlier, later, split⟩ := List.append_of_mem member
    exact short _ run _ (digitRun_of_ofChars split)
  | bracket side => trivial
  | signs run => trivial
  | letters run => trivial

theorem all_fit_of_digitless (digitless : ∀ c ∈ text, CharClass.of? c ≠ some .digit) (limit : DigitLimit) :
    ∀ lexeme ∈ ofChars text, Fits limit lexeme := by
  intro lexeme member
  cases lexeme with
  | digits run =>
    obtain ⟨earlier, later, split⟩ := List.append_of_mem member
    have found := digitRun_of_ofChars split
    obtain ⟨c, digit⟩ := List.exists_mem_of_ne_nil run found.someDigit
    have within : c ∈ text := by
      rw [found.whole]
      exact List.mem_append_right _ (List.mem_append_left _ digit)
    exact absurd (CharClass.of?_digit (found.allDigits c digit)) (digitless c within)
  | bracket side => trivial
  | signs run => trivial
  | letters run => trivial

theorem firstOverlong_exists (found : DigitRun text before run after) (long : limit < run.length) :
    ∃ earlier first later, ofChars text = earlier ++ .digits first :: later ∧
      (∀ lexeme ∈ earlier, Fits (.atMost limit) lexeme) ∧ limit < first.length := by
  rcases all_fit_or_first (.atMost limit) (ofChars text) with all | ⟨earlier, first, later, split, fits, longer⟩
  · have fit : run.length ≤ limit := all (.digits run) (by simp [ofChars_digitRun found])
    omega
  · exact ⟨earlier, first, later, split, fits, Nat.lt_of_not_le longer⟩

end Lexeme

theorem tokensOfLine_overlong
    (split : Lexeme.ofChars (Text.removeBlanks line.toList) = earlier ++ .digits run :: later)
    (fits : ∀ lexeme ∈ earlier, Lexeme.Fits policy.limit lexeme) (long : ¬ policy.limit.Allows run.length) :
    tokensOfLine policy line = .error (.literalTooLong run.length ⟨policy.limit.toNat, some run.length⟩) := by
  rw [tokensOfLine, Scan.ofLine, split, Lexeme.tokensAfter_overlong fits long]
  rfl

theorem evaluate_overlong (limit : DigitLimit) (store : Store)
    (split : Lexeme.ofChars (Text.removeBlanks line.toList) = earlier ++ .digits run :: later)
    (fits : ∀ lexeme ∈ earlier, Lexeme.Fits limit lexeme) (long : ¬ limit.Allows run.length) (strict : Bool) :
    evaluate ⟨strict, limit⟩ store line =
      .error (.literalTooLong run.length ⟨limit.toNat, some run.length⟩) := by
  rw [evaluate, valueOfLine, postfixOfLine, tokensOfLine_overlong split fits long]
  rfl

theorem valueOfLine_fits (limit : DigitLimit) (store : Store)
    (fits : ∀ lexeme ∈ Lexeme.ofChars (Text.removeBlanks line.toList), Lexeme.Fits limit lexeme) (strict : Bool) :
    valueOfLine ⟨strict, limit⟩ store line = valueOfLine ⟨strict, .unlimited⟩ store line := by
  simp only [valueOfLine, postfixOfLine, tokensOfLine, Scan.ofLine, Lexeme.tokensAfter_fits fits none]

theorem evaluate_failed (failed : valueOfLine policy store line = .error fault) :
    evaluate policy store line = .error fault := by
  simp [evaluate, failed]

theorem evaluate_valued (valued : valueOfLine policy store line = .ok value) :
    evaluate policy store line =
      if policy.limit.Allows (Decimal.digits value.natAbs).length then .ok (Decimal.text value)
      else .error (.resultTooLong ⟨policy.limit.toNat, none⟩) := by
  rw [evaluate, valued, ok_bind, DigitLimit.print]
  by_cases short : policy.limit.Allows (Decimal.digits value.natAbs).length
  · rw [if_pos short, if_pos short]
  · rw [if_neg short, if_neg short]

theorem evaluate_printed (valued : valueOfLine policy store line = .ok value)
    (fits : policy.limit.Allows (Decimal.digits value.natAbs).length) :
    evaluate policy store line = .ok (Decimal.text value) := by
  rw [evaluate_valued valued, if_pos fits]

theorem evaluate_too_long (valued : valueOfLine policy store line = .ok value)
    (long : ¬ policy.limit.Allows (Decimal.digits value.natAbs).length) :
    evaluate policy store line = .error (.resultTooLong ⟨policy.limit.toNat, none⟩) := by
  rw [evaluate_valued valued, if_neg long]

-- A limit acts where text becomes a number and where the answer becomes text, in this
-- order, and nowhere between: not on stored values and not on what is computed on the way.
theorem evaluate_limited (strict : Bool) (limit : Nat) (store : Store) (line : String) :
    let text := Text.removeBlanks line.toList
    let answer := evaluate ⟨strict, .unlimited⟩ store line
    let limited := evaluate ⟨strict, .atMost limit⟩ store line
    ((∃ before run after, DigitRun text before run after ∧ limit < run.length) →
      ∃ before run after, FirstOverlong limit text before run after ∧
        limited = .error (.literalTooLong run.length ⟨limit, some run.length⟩)) ∧
    ((∀ before run after, DigitRun text before run after → run.length ≤ limit) →
      (∀ printed, answer = .ok printed → limit < printed.toList.countP Char.isDigit →
        limited = .error (.resultTooLong ⟨limit, none⟩)) ∧
      (∀ printed, answer = .ok printed → printed.toList.countP Char.isDigit ≤ limit → limited = .ok printed) ∧
      (∀ fault, answer = .error fault → limited = .error fault)) := by
  intro text answer limited
  constructor
  · rintro ⟨before, run, after, found, long⟩
    obtain ⟨earlier, first, later, split, fits, longer⟩ := Lexeme.firstOverlong_exists found long
    refine ⟨_, first, _, Lexeme.firstOverlong_of_ofChars split fits longer, ?_⟩
    exact evaluate_overlong (.atMost limit) store split fits (Nat.not_le_of_lt longer) strict
  · intro short
    have same := valueOfLine_fits (.atMost limit) store (Lexeme.all_fit_of_digitRun short) strict
    cases valued : valueOfLine ⟨strict, .unlimited⟩ store line with
    | error fault =>
      have free : answer = .error fault := evaluate_failed valued
      have bound : limited = .error fault := evaluate_failed (same.trans valued)
      simp [free, bound]
    | ok value =>
      have free : answer = .ok (Decimal.text value) := evaluate_printed valued trivial
      have counted := Decimal.countP_text value
      refine ⟨?_, ?_, ?_⟩
      · intro printed answered long
        cases free.symm.trans answered
        exact evaluate_too_long (same.trans valued) (Nat.not_le_of_lt (counted ▸ long))
      · intro printed answered short
        cases free.symm.trans answered
        exact evaluate_printed (same.trans valued) (counted ▸ short)
      · intro fault failed
        cases free.symm.trans failed

example : evaluate ⟨true, .atMost 3⟩ .empty "7 / 0 + 0012 ?" = .error (.literalTooLong 4 ⟨3, some 4⟩) := by rfl

end Calculator
