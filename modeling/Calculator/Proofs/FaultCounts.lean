import Calculator.Proofs.DecimalText
import Calculator.Proofs.FaultSources
import Calculator.Proofs.InfixShape
import Calculator.Proofs.LinePieces
import Calculator.Proofs.Conversions
namespace Calculator

def Fault.counts : Fault → List Nat
  | .unclosedBrackets count | .leftoverValues count => [count]
  | .literalTooLong length overflow | .sourceTooLong length overflow => length :: overflow.found.toList
  | .resultTooLong overflow => overflow.found.toList
  | _ => []

-- Nothing that was counted is more than a line of this length holds.
def Fault.Within (length : Nat) (fault : Fault) : Prop := ∀ count ∈ fault.counts, count ≤ length

theorem Fault.Within.longer {fault : Fault} (within : fault.Within length) (bound : length ≤ more) :
    fault.Within more :=
  fun count counted => Nat.le_trans (within count counted) bound

theorem DigitLimit.Allows.within {limit : DigitLimit} (allowed : limit.Allows room) (someRoom : 0 < room)
    (short : length < 10 ^ room) (bound : count ≤ length) : limit.Allows (Decimal.digits count).length :=
  allowed.fewer ((Nat.length_toDigits_le_iff (by decide) someRoom).mpr (Nat.lt_of_le_of_lt bound short))

theorem Text.length_removeBlanks_le (line : String) : (removeBlanks line.toList).length ≤ line.length := by
  rw [← String.length_toList]
  exact List.length_filter_le _ _

theorem Text.length_trim_le (text : List Char) : (trim text).length ≤ text.length := by
  have front := (List.dropWhile_suffix isBlank (l := text)).length_le
  have back := (List.dropWhile_suffix isBlank (l := (text.dropWhile isBlank).reverse)).length_le
  rw [List.length_reverse] at back
  rw [trim, trimWhere, List.length_reverse]
  exact Nat.le_trans back front

namespace Lexeme

theorem length_chars_le (member : lexeme ∈ ofChars text) : lexeme.chars.length ≤ text.length := by
  obtain ⟨earlier, later, split⟩ := List.append_of_mem member
  have spelled := congrArg List.length (ofChars_append_unread text)
  simp only [split, List.flatMap_append, List.flatMap_cons, List.length_append] at spelled
  omega

theorem length_le_flatMap {lexemes : List Lexeme} (proper : ∀ lexeme ∈ lexemes, Proper lexeme) :
    lexemes.length ≤ (lexemes.flatMap chars).length := by
  induction lexemes with
  | nil => exact Nat.zero_le _
  | cons lexeme later ih =>
    have own := List.length_pos_iff.mpr (proper lexeme List.mem_cons_self).chars_ne_nil
    have others := ih fun other member => proper other (List.mem_cons_of_mem _ member)
    rw [List.flatMap_cons, List.length_append, List.length_cons]
    omega

theorem length_ofChars_le (text : List Char) : (ofChars text).length ≤ text.length := by
  have spelled := congrArg List.length (ofChars_append_unread text)
  rw [List.length_append] at spelled
  exact Nat.le_trans (length_le_flatMap (ofChars_proper text)) (by omega)

end Lexeme

theorem tokensOfLine_length (read : tokensOfLine policy line = .ok tokens) : tokens.length ≤ line.length := by
  have pieces := (Lexeme.tokensAfter_standsFor (tokensOfLine_inv read) (Lexeme.ofChars_proper _)).length_eq
  calc
    tokens.length = (Lexeme.ofChars (Text.removeBlanks line.toList)).length := pieces.symm
    _ ≤ (Text.removeBlanks line.toList).length := Lexeme.length_ofChars_le _
    _ ≤ line.length := Text.length_removeBlanks_le line

theorem tokensOfLine_within (failed : tokensOfLine policy line = .error fault) : fault.Within line.length := by
  rcases Lexeme.all_fit_or_first policy.limit (Lexeme.ofChars (Text.removeBlanks line.toList)) with
    fits | ⟨earlier, run, later, split, fits, long⟩
  · obtain ⟨tokens, read⟩ := Lexeme.tokensAfter_unlimited none (Lexeme.ofChars (Text.removeBlanks line.toList))
    rw [tokensOfLine_read ((Lexeme.tokensAfter_fits fits none).trans read)] at failed
    split at failed
    · cases failed
      simp [Fault.Within, Fault.counts]
    · cases failed
  · cases failed.symm.trans (tokensOfLine_overlong split fits long)
    have member : .digits run ∈ Lexeme.ofChars (Text.removeBlanks line.toList) := by simp [split]
    have bound : run.length ≤ line.length :=
      Nat.le_trans (Lexeme.length_chars_le member) (Text.length_removeBlanks_le line)
    simpa [Fault.Within, Fault.counts] using bound

theorem Expr.Cause.uncounted (cause : Expr.Cause store fault) : fault.counts = [] := by
  cases cause with
  | unbound missing => rfl
  | zeroDivisor => rfl
  | meaningless unknown => rfl

theorem Obstacle.uncounted (obstacle : Obstacle store stream fault) : fault.counts = [] := by
  cases obstacle with
  | refused cause => exact cause.uncounted
  | missing op => rfl
  | stray member => rfl

theorem Fault.within_of_uncounted {fault : Fault} (uncounted : fault.counts = []) (length : Nat) :
    fault.Within length := by
  simp [Within, uncounted]

theorem postfixOf_within (failed : postfixOf tokens = .error fault) : fault.Within tokens.length := by
  rcases bind_eq_error failed with stuck | ⟨⟨released, last⟩, ran, failed⟩
  · rw [Pending.run_error stuck]
    exact Fault.within_of_uncounted rfl _
  · have depth := Pending.run_depth ran
    have opened : Token.bracketCount .opening tokens ≤ tokens.length := List.count_le_length
    rcases bind_eq_error failed with unclosed | ⟨tail, _, failed⟩
    · rw [Pending.finish_error unclosed]
      simp [Fault.Within, Fault.counts] at depth ⊢
      omega
    · cases failed

theorem postfixOf_length (converted : postfixOf tokens = .ok stream) : stream.length ≤ tokens.length := by
  rw [(postfixOf_perm converted).length_eq]
  exact List.length_filter_le _ _

theorem valueOfPostfix_within (failed : valueOfPostfix store stream = .error fault) : fault.Within stream.length := by
  rcases valueOfPostfix_error failed with obstacle | ⟨operands, done, rfl⟩
  · exact Fault.within_of_uncounted obstacle.uncounted _
  · have counts := performAll_length done
    have operandsOfStream : stream.countP Token.isOperand ≤ stream.length := List.countP_le_length
    simp [Fault.Within, Fault.counts] at counts ⊢
    omega

theorem evaluate_within (failed : evaluate policy store line = .error fault) : fault.Within line.length := by
  cases evaluate_error failed with
  | reading failed => exact tokensOfLine_within failed
  | converting read failed => exact (postfixOf_within failed).longer (tokensOfLine_length read)
  | evaluating read converted failed =>
    exact (valueOfPostfix_within failed).longer (Nat.le_trans (postfixOf_length converted) (tokensOfLine_length read))
  | printing refused named =>
    unfold DigitLimit.print at refused
    split at refused
    · cases refused
    · cases refused
      simp [Fault.Within, Fault.counts, named]

theorem Assignment.ofLine?_length (parsed : ofLine? line = some assignment) :
    assignment.source.length ≤ line.length := by
  unfold ofLine? at parsed
  split at parsed
  · cases parsed
    rw [String.length_ofList]
    calc
      _ ≤ ((line.toList.dropWhile (· ≠ '=')).drop 1).length := Text.length_trim_le _
      _ ≤ (line.toList.dropWhile (· ≠ '=')).length := (List.drop_suffix 1 _).length_le
      _ ≤ line.toList.length := (List.dropWhile_suffix _).length_le
      _ = line.length := String.length_toList
  · cases parsed

theorem Source.ofText?_length (parsed : ofText? text = some (.literal number)) :
    number.digits.length ≤ text.length := by
  unfold ofText? at parsed
  split at parsed
  · cases parsed
  · obtain ⟨number, parsed, same⟩ := Option.map_eq_some_iff.mp parsed
    cases same
    rw [← String.length_toList]
    exact (literalText_iff.mpr parsed).length_le

theorem Assignment.value_within {assignment : Assignment} (failed : assignment.value limit store = .error fault) :
    fault.Within assignment.source.length := by
  unfold value at failed
  split at failed
  · exact Fault.within_of_uncounted (Expr.require_cause failed).uncounted _
  · rename_i literal parsed
    have digits := Source.ofText?_length parsed
    unfold Decimal.Literal.read DigitLimit.read at failed
    split at failed
    · cases failed
    · rename_i overflow refused
      split at refused
      · cases refused
      · cases refused
        cases failed
        simpa [Fault.Within, Fault.counts] using digits
  · cases failed
    exact Fault.within_of_uncounted rfl _

theorem assign_within (failed : assign limit store line = .error fault) : fault.Within line.length := by
  rw [assign_eq] at failed
  split at failed
  · cases failed
    exact Fault.within_of_uncounted rfl _
  · rename_i assignment parsed
    split at failed
    · rcases bind_eq_error failed with failed | ⟨value, _, failed⟩
      · exact (Assignment.value_within failed).longer (Assignment.ofLine?_length parsed)
      · cases failed
    · cases failed
      exact Fault.within_of_uncounted rfl _

theorem respond_within (rejected : (respond policy store line).1 = .rejected task fault) :
    fault.Within line.length := by
  rw [respond_eq] at rejected
  split at rejected
  · cases rejected
  · split at rejected
    · split at rejected
      · cases rejected
      · rename_i failed
        cases rejected
        exact assign_within failed
    · split at rejected
      · cases rejected
      · rename_i failed
        cases rejected
        exact evaluate_within failed

end Calculator
