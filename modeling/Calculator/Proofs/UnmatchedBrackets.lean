import Calculator.Proofs.FaultSources
namespace Calculator

theorem Fault.ofBrackets_iff {fault : Fault} : fault.OfBrackets ↔ fault.kind = "UnmatchedBracket" := by
  constructor
  · intro ofBrackets
    cases ofBrackets <;> rfl
  · intro kind
    cases fault with
    | unopenedBracket => exact .unopened
    | unclosedBrackets count => exact .unclosed count
    | _ => simp [Fault.kind] at kind

namespace Token

theorem not_opened_iff : ¬ Opened 0 tokens ↔
    ∃ left, left <+: tokens ∧ bracketCount .opening left < bracketCount .closing left := by
  simp [Opened]

end Token
open Token

theorem Pending.run_unopened_iff (pending : Pending) (tokens : List Token) :
    pending.run tokens = .error .unopenedBracket ↔ ¬ Opened pending.outer.length tokens := by
  rw [← run_ok_iff]
  constructor
  · rintro stuck ⟨released, last, ran⟩
    cases stuck.symm.trans ran
  · intro never
    cases ran : pending.run tokens with
    | ok reached => exact absurd ⟨reached.1, reached.2, ran⟩ never
    | error fault => rw [run_error ran]

theorem postfixOf_opened (opened : Opened 0 tokens) : ∃ released last,
    last.outer.length + bracketCount .closing tokens = bracketCount .opening tokens ∧
      postfixOf tokens = (released ++ ·) <$> Pending.finish last := by
  obtain ⟨released, last, ran⟩ := (Pending.run_ok_iff {} tokens).mpr opened
  -- Every bracket that closes was opened, so only the end can still refuse.
  refine ⟨released, last, by simpa using Pending.run_depth ran, ?_⟩
  rw [postfixOf, ran, ok_bind]
  dsimp only
  cases last.finish <;> rfl

theorem postfixOf_unopened_iff : postfixOf tokens = .error .unopenedBracket ↔ ¬ Opened 0 tokens := by
  constructor
  · intro failed opened
    obtain ⟨released, last, _, converted⟩ := postfixOf_opened opened
    rw [converted] at failed
    cases finished : last.finish with
    | ok tail => simp [finished] at failed
    | error fault => simp [finished, Pending.finish_error finished] at failed
  · intro unopened
    rw [postfixOf, (Pending.run_unopened_iff {} tokens).mpr unopened]
    rfl

theorem postfixOf_unclosed_iff : postfixOf tokens = .error (.unclosedBrackets count) ↔
    Opened 0 tokens ∧ 0 < count ∧ bracketCount .closing tokens + count = bracketCount .opening tokens := by
  by_cases opened : Opened 0 tokens
  · obtain ⟨released, last, depth, converted⟩ := postfixOf_opened opened
    rw [converted, Pending.finish]
    split
    · rename_i closed
      rw [closed] at depth
      simp only [Except.map_ok, reduceCtorEq, false_iff]
      rintro ⟨_, some, counted⟩
      simp only [List.length_nil] at depth
      omega
    · rename_i unclosed
      have some := List.length_pos_iff.mpr unclosed
      simp only [Except.map_error, Except.error.injEq, Fault.unclosedBrackets.injEq]
      constructor
      · intro same
        exact ⟨opened, by omega, by omega⟩
      · rintro ⟨_, _, counted⟩
        omega
  · have unopened := postfixOf_unopened_iff.mpr opened
    simp [unopened, opened]

theorem evaluate_ofBrackets_iff (ofBrackets : fault.OfBrackets) : evaluate policy store line = .error fault ↔
    ∃ tokens, tokensOfLine policy line = .ok tokens ∧ postfixOf tokens = .error fault := by
  constructor
  · intro failed
    cases evaluate_error failed with
    | reading failed =>
      cases tokensOfLine_error failed <;> cases ofBrackets
    | converting read failed => exact ⟨_, read, failed⟩
    | evaluating read converted failed =>
      rcases valueOfPostfix_error failed with obstacle | ⟨operands, _, named⟩
      · cases obstacle with
        | refused cause => cases cause <;> cases ofBrackets
        | missing op => cases ofBrackets
        | stray member => cases ofBrackets
      · subst named
        cases ofBrackets
    | printing refused named =>
      subst named
      cases ofBrackets
  · rintro ⟨tokens, read, failed⟩
    rw [evaluate, valueOfLine, postfixOfLine, read, ok_bind, failed]
    rfl

-- A stream is refused for its brackets alone: for one that closes before it was opened, else
-- for those that are never closed, which are counted. A line is refused for brackets exactly
-- when it can be read and they do not match, whatever else is wrong with it.
theorem postfixOf_unmatched :
    (∀ tokens,
      (postfixOf tokens = .error .unopenedBracket ↔
        ∃ left, left <+: tokens ∧ bracketCount .opening left < bracketCount .closing left) ∧
      (∀ count, postfixOf tokens = .error (.unclosedBrackets count) ↔
        (¬ ∃ left, left <+: tokens ∧ bracketCount .opening left < bracketCount .closing left) ∧ 0 < count ∧
          bracketCount .closing tokens + count = bracketCount .opening tokens) ∧
      ((∃ stream, postfixOf tokens = .ok stream) ↔ Balanced tokens) ∧
      ∀ fault, postfixOf tokens = .error fault →
        fault = .unopenedBracket ∨ ∃ count, fault = .unclosedBrackets count) ∧
    ∀ policy store line,
      (∃ fault, evaluate policy store line = .error fault ∧ fault.kind = "UnmatchedBracket") ↔
        ∃ tokens, tokensOfLine policy line = .ok tokens ∧ ¬ Balanced tokens := by
  constructor
  · intro tokens
    refine ⟨?unopened, ?unclosed, postfixOf_ok_iff, ?nothingElse⟩
    case unopened => rw [postfixOf_unopened_iff, not_opened_iff]
    case unclosed =>
      intro count
      rw [postfixOf_unclosed_iff, ← not_opened_iff, Classical.not_not]
    case nothingElse =>
      intro fault failed
      cases postfixOf_error failed with
      | unopened => exact .inl rfl
      | unclosed count => exact .inr ⟨count, rfl⟩
  · intro policy store line
    constructor
    · rintro ⟨fault, failed, kind⟩
      obtain ⟨tokens, read, refused⟩ := (evaluate_ofBrackets_iff (Fault.ofBrackets_iff.mpr kind)).mp failed
      refine ⟨tokens, read, fun balanced => ?_⟩
      obtain ⟨stream, converted⟩ := postfixOf_ok_iff.mpr balanced
      cases refused.symm.trans converted
    · rintro ⟨tokens, read, unbalanced⟩
      cases refused : postfixOf tokens with
      | ok stream => exact absurd (postfixOf_ok_iff.mp ⟨stream, refused⟩) unbalanced
      | error fault =>
        have ofBrackets := postfixOf_error refused
        exact ⟨fault, (evaluate_ofBrackets_iff ofBrackets).mpr ⟨tokens, read, refused⟩,
          Fault.ofBrackets_iff.mp ofBrackets⟩

example : evaluate {} .empty "((x / 0) + " = .error (.unclosedBrackets 1) := by rfl

end Calculator
