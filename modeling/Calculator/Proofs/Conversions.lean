import Calculator.Program
import Calculator.Proofs.Conservation
import Calculator.Proofs.LinePieces
import Mathlib.Algebra.Group.Nat.Defs
namespace Calculator

namespace Decimal

theorem ofDigitChars_lt (all : ∀ c ∈ run, c.isDigit = true) (init : Nat) :
    Nat.ofDigitChars 10 run init < 10 ^ run.length * (init + 1) := by
  induction run generalizing init with
  | nil => simp
  | cons c rest ih =>
    obtain ⟨_, last⟩ := Char.isDigit_iff_toNat.mp (all c List.mem_cons_self)
    have digit : c.toNat - '0'.toNat ≤ 9 := Nat.sub_le_of_le_add last
    rw [Nat.ofDigitChars_cons]
    calc
      _ < 10 ^ rest.length * (10 * init + (c.toNat - '0'.toNat) + 1) :=
        ih (fun d member => all d (List.mem_cons_of_mem _ member)) _
      _ ≤ 10 ^ rest.length * (10 * (init + 1)) := Nat.mul_le_mul_left _ (by omega)
      _ = 10 ^ (c :: rest).length * (init + 1) := by rw [List.length_cons, Nat.pow_succ, Nat.mul_assoc]

theorem length_digits_ofDigits (someDigit : run ≠ []) (all : ∀ c ∈ run, c.isDigit = true) :
    (digits (ofDigits run)).length ≤ run.length := by
  have bound : ofDigits run < 10 ^ run.length * (0 + 1) := ofDigitChars_lt all 0
  rw [Nat.zero_add, Nat.mul_one] at bound
  exact (Nat.length_toDigits_le_iff (by decide) (List.length_pos_iff.mpr someDigit)).mpr bound

end Decimal

theorem DigitLimit.Allows.fewer {limit : DigitLimit} (allowed : limit.Allows count) (fewer : less ≤ count) :
    limit.Allows less := by
  cases limit with
  | unlimited => trivial
  | atMost most => exact Nat.le_trans fewer allowed

namespace Token

def Fits (limit : DigitLimit) : Token → Prop
  | .integer value => limit.Allows (Decimal.digits value.natAbs).length
  | _ => True

theorem Fits.print_eq {token : Token} (fits : token.Fits limit) : token.print limit = .ok token.text := by
  cases token with
  | integer value => exact DigitLimit.print_ok_iff.mpr ⟨fits, rfl⟩
  | _ => rfl

theorem printAll_eq {tokens : List Token} (fits : ∀ token ∈ tokens, token.Fits limit) :
    printAll limit tokens = .ok (String.intercalate " " (tokens.map text)) := by
  rw [printAll, mapM_of_forall fun token member => (fits token member).print_eq]
  rfl

theorem printAll_fits {tokens : List Token} (fits : ∀ token ∈ tokens, token.Fits limit) :
    ∃ text, printAll limit tokens = .ok text := ⟨_, printAll_eq fits⟩

end Token

namespace TokenTable

theorem row_fits (fits : Token.Fits limit token) (index : Nat) : ∃ first, row limit index token = .ok first := by
  rw [row, fits.print_eq]
  exact ⟨_, rfl⟩

theorem rowsFrom_fits {tokens : List Token} (fits : ∀ token ∈ tokens, token.Fits limit) (index : Nat) :
    ∃ rows, rowsFrom limit index tokens = .ok rows := by
  induction tokens generalizing index with
  | nil => exact ⟨[], rfl⟩
  | cons token later ih =>
    obtain ⟨first, written⟩ := row_fits (fits token List.mem_cons_self) index
    obtain ⟨rest, behind⟩ := ih (fun other member => fits other (List.mem_cons_of_mem _ member)) (index + 1)
    exact ⟨first :: rest, by simp [rowsFrom, written, behind]⟩

theorem ofTokens_fits {tokens : List Token} (fits : ∀ token ∈ tokens, token.Fits limit) :
    ∃ table, ofTokens limit tokens = .ok table := by
  obtain ⟨rows, written⟩ := rowsFrom_fits fits 0
  exact ⟨_, by rw [ofTokens, written, Except.map_ok]⟩

end TokenTable

theorem Lexeme.StandsFor.fits (standsFor : Lexeme.StandsFor lexeme made) (fits : Lexeme.Fits limit lexeme) :
    made.Fits limit := by
  cases standsFor with
  | digits denotes =>
    rw [← denotes.ofDigits_eq]
    exact fits.fewer (Decimal.length_digits_ofDigits denotes.someDigit denotes.allDigits)
  | bracket side => trivial
  | signs collapses unary => trivial
  | letters run => trivial

theorem exists_of_forall₂ {R : α → β → Prop} (related : List.Forall₂ R lefts rights) (member : right ∈ rights) :
    ∃ left ∈ lefts, R left right := by
  induction related with
  | nil => cases member
  | cons here rest ih =>
    rcases List.mem_cons.mp member with rfl | later
    · exact ⟨_, List.mem_cons_self, here⟩
    · obtain ⟨left, within, both⟩ := ih later
      exact ⟨left, List.mem_cons_of_mem _ within, both⟩

theorem tokensOfLine_fits (read : tokensOfLine policy line = .ok tokens) :
    ∀ token ∈ tokens, token.Fits policy.limit := by
  intro token member
  have pieces := Lexeme.tokensAfter_standsFor (tokensOfLine_inv read) (Lexeme.ofChars_proper _)
  obtain ⟨lexeme, _, standsFor, fits⟩ := exists_of_forall₂ pieces member
  exact standsFor.fits fits

theorem postfixOf_fits (converted : postfixOf tokens = .ok stream) (fits : ∀ token ∈ tokens, Token.Fits limit token) :
    ∀ token ∈ stream, token.Fits limit := fun token member => fits token (postfixOf_subset converted member)

theorem postfixOfLine_fits (converted : postfixOfLine policy line = .ok stream) :
    ∀ token ∈ stream, token.Fits policy.limit := by
  obtain ⟨tokens, read, converted⟩ := bind_eq_ok.mp converted
  exact postfixOf_fits converted (tokensOfLine_fits read)

-- A limit changes an answer only into one kind of refusal, and the same for assignments.
theorem evaluate_limit (policy : Policy) (store : Store) (line : String) :
    evaluate policy store line = evaluate { policy with limit := .unlimited } store line ∨
      ∃ fault, evaluate policy store line = .error fault ∧ fault.kind = "NumberTooLarge" := by
  obtain ⟨strict, limit⟩ := policy
  rcases Lexeme.all_fit_or_first limit (Lexeme.ofChars (Text.removeBlanks line.toList)) with
    fits | ⟨earlier, run, later, split, fits, long⟩
  · have same := valueOfLine_fits limit store fits strict
    cases valued : valueOfLine ⟨strict, .unlimited⟩ store line with
    | error fault => exact .inl ((evaluate_failed (same.trans valued)).trans (evaluate_failed valued).symm)
    | ok value =>
      by_cases short : limit.Allows (Decimal.digits value.natAbs).length
      · exact .inl ((evaluate_printed (same.trans valued) short).trans (evaluate_printed valued trivial).symm)
      · exact .inr ⟨_, evaluate_too_long (same.trans valued) short, rfl⟩
  · exact .inr ⟨_, evaluate_overlong limit store split fits long strict, rfl⟩

theorem Assignment.value_limit (limit : DigitLimit) (store : Store) (assignment : Assignment) :
    assignment.value limit store = assignment.value .unlimited store ∨
      ∃ fault, assignment.value limit store = .error fault ∧ fault.kind = "InvalidAssignmentValue" := by
  unfold value
  split
  · exact .inl rfl
  · rename_i literal _
    by_cases short : limit.Allows literal.digits.length
    · have bound : limit.read literal.digits = .ok (Decimal.ofDigits literal.digits) :=
        DigitLimit.read_ok_iff.mpr ⟨short, rfl⟩
      have free : DigitLimit.unlimited.read literal.digits = .ok (Decimal.ofDigits literal.digits) :=
        DigitLimit.read_ok_iff.mpr ⟨trivial, rfl⟩
      rw [Decimal.Literal.read, Decimal.Literal.read, bound, free]
      exact .inl rfl
    · have refused : limit.read literal.digits = .error ⟨limit.toNat, some literal.digits.length⟩ := if_neg short
      rw [Decimal.Literal.read, refused]
      exact .inr ⟨_, rfl, rfl⟩
  · exact .inl rfl

theorem assign_limit (limit : DigitLimit) (store : Store) (line : String) :
    assign limit store line = assign .unlimited store line ∨
      ∃ fault, assign limit store line = .error fault ∧ fault.kind = "InvalidAssignmentValue" := by
  rw [assign_eq, assign_eq]
  split
  · exact .inl rfl
  · rename_i assignment _
    split
    · rcases assignment.value_limit limit store with same | ⟨fault, failed, kind⟩
      · rw [same]
        exact .inl rfl
      · rw [failed]
        exact .inr ⟨fault, rfl, kind⟩
    · exact .inl rfl

theorem respond_limit (policy : Policy) (store : Store) (line : String) :
    respond policy store line = respond { policy with limit := .unlimited } store line ∨
      ∃ task fault, respond policy store line = (.rejected task fault, store) ∧
        (fault.kind = "NumberTooLarge" ∨ fault.kind = "InvalidAssignmentValue") := by
  rw [respond_eq, respond_eq]
  split
  · exact .inl rfl
  · cases Task.ofLine line with
    | assignment =>
      rcases assign_limit policy.limit store line with same | ⟨fault, failed, kind⟩
      · rw [same]
        exact .inl rfl
      · rw [failed]
        exact .inr ⟨.assignment, fault, rfl, .inr kind⟩
    | expression =>
      rcases evaluate_limit policy store line with same | ⟨fault, failed, kind⟩
      · rw [same]
        exact .inl rfl
      · rw [failed]
        exact .inr ⟨.expression, fault, rfl, .inl kind⟩

def Event.Fits (limit : DigitLimit) : Event → Prop
  | .scanned tokens => ∀ token ∈ tokens, token.Fits limit
  | .converted stream => ∀ token ∈ stream, token.Fits limit
  | _ => True

namespace Event

theorem Fits.exists_record {event : Event} (fits : event.Fits limit) : ∃ record, event.record limit = .ok record := by
  suffices written : ∃ message, event.message limit = .ok message by
    obtain ⟨message, written⟩ := written
    exact ⟨_, by rw [Event.record, written, Except.map_ok]⟩
  cases event with
  | scanned tokens =>
    obtain ⟨text, printed⟩ := Token.printAll_fits fits
    exact ⟨_, by rw [message, printed, Except.map_ok]⟩
  | converted stream =>
    obtain ⟨text, printed⟩ := Token.printAll_fits fits
    exact ⟨_, by rw [message, printed, Except.map_ok]⟩
  | _ => exact ⟨_, rfl⟩

theorem ofTokens_fits (policy : Policy) (line : String) : ∀ event ∈ ofTokens policy line, event.Fits policy.limit := by
  unfold ofTokens
  cases scanned : Scan.ofLine policy line with
  | error fault => simp
  | ok scan =>
    have read : tokensOfLine policy line = .ok scan.tokens := by rw [tokensOfLine, scanned, Except.map_ok]
    intro event member
    rcases List.mem_append.mp member with dropped | last
    · split at dropped
      · cases dropped
      · rw [List.mem_singleton.mp dropped]
        trivial
    · rw [List.mem_singleton.mp last]
      exact tokensOfLine_fits read

theorem ofPostfix_fits (policy : Policy) (line : String) : ∀ event ∈ ofPostfix policy line, event.Fits policy.limit := by
  unfold ofPostfix
  cases converted : postfixOfLine policy line with
  | error fault => exact ofTokens_fits policy line
  | ok stream =>
    intro event member
    rcases List.mem_append.mp member with earlier | last
    · exact ofTokens_fits policy line event earlier
    · rw [List.mem_singleton.mp last]
      exact postfixOfLine_fits converted

theorem ofAssignment_fits (limit : DigitLimit) (store : Store) (line : String) :
    ∀ event ∈ ofAssignment limit store line, event.Fits limit := by
  unfold ofAssignment
  split
  · simp [Fits]
  · simp

theorem ofLine_cases (member : event ∈ ofLine policy store line) :
    event ∈ ofAssignment policy.limit store line ∨ event ∈ ofPostfix policy line ∨
      ∃ task fault, event = .rejected task line fault := by
  unfold ofLine at member
  dsimp only at member
  split at member
  · cases member
  · rcases List.mem_append.mp member with reached | last
    · split at reached
      · exact .inl reached
      · exact .inr (.inl reached)
    · exact .inr (.inr ⟨_, _, List.mem_singleton.mp last⟩)
  · split at member
    · exact .inl member
    · exact .inr (.inl member)

theorem ofLine_fits (policy : Policy) (store : Store) (line : String) :
    ∀ event ∈ ofLine policy store line, event.Fits policy.limit := by
  intro event member
  rcases ofLine_cases member with assigned | converted | ⟨task, fault, rfl⟩
  · exact ofAssignment_fits policy.limit store line event assigned
  · exact ofPostfix_fits policy line event converted
  · trivial

end Event

theorem records_fits (fits : ∀ event ∈ events, Event.Fits limit event) (level : Level) :
    ∃ log, records level limit events = .ok log :=
  mapM_ok fun event member => (fits event (List.mem_of_mem_filter member)).exists_record

def Ending.Orderly (ending : Ending) : Prop :=
  ∃ status output log, ending = .exited status output log ∧ (status = 0 ∨ status = 1)

theorem Ending.Orderly.exits {ending : Ending} (orderly : ending.Orderly) :
    ∃ status output log, ending = .exited status output log := by
  obtain ⟨status, output, log, ends, _⟩ := orderly
  exact ⟨status, output, log, ends⟩

namespace Settings

theorem exit_fits (settings : Settings) (fits : ∀ event ∈ events, Event.Fits settings.digitLimit event) :
    ∃ log, ∀ status output, settings.exit status output events = .exited status output log := by
  obtain ⟨log, recorded⟩ := records_fits fits settings.logLevel
  exact ⟨log, fun status output => by rw [exit, Settings.recorded, recorded]⟩

theorem exitPrinting_orderly (settings : Settings) (fits : ∀ event ∈ events, Event.Fits settings.digitLimit event)
    (printed : output = .ok text) : (settings.exitPrinting output events).Orderly := by
  obtain ⟨log, ends⟩ := settings.exit_fits fits
  rw [printed]
  exact ⟨0, text, log, ends 0 text, .inl rfl⟩

theorem showTokens_orderly (settings : Settings) (console : Console) (text : String) :
    (settings.showTokens console text).Orderly := by
  have events := Event.ofTokens_fits settings.policy (Text.trimmed text)
  unfold showTokens
  dsimp only
  cases read : tokensOfLine settings.policy (Text.trimmed text) with
  | error fault =>
    obtain ⟨log, ends⟩ := settings.exit_fits events
    exact ⟨1, console.line fault.notice, log, ends 1 _, .inr rfl⟩
  | ok tokens =>
    obtain ⟨table, written⟩ := TokenTable.ofTokens_fits (tokensOfLine_fits read)
    have shown : console.table <$> TokenTable.ofTokens settings.digitLimit tokens = .ok (console.table table) :=
      map_eq_ok.mpr ⟨table, written, rfl⟩
    exact settings.exitPrinting_orderly events shown

theorem showPostfix_orderly (settings : Settings) (console : Console) (text : String) :
    (settings.showPostfix console text).Orderly := by
  have events := Event.ofPostfix_fits settings.policy (Text.trimmed text)
  unfold showPostfix
  dsimp only
  cases converted : postfixOfLine settings.policy (Text.trimmed text) with
  | error fault =>
    obtain ⟨log, ends⟩ := settings.exit_fits events
    exact ⟨1, console.line fault.notice, log, ends 1 _, .inr rfl⟩
  | ok stream =>
    obtain ⟨listing, printed⟩ := Token.printAll_fits (postfixOfLine_fits converted)
    have shown : console.line <$> Token.printAll settings.digitLimit stream = .ok (console.line listing) :=
      map_eq_ok.mpr ⟨listing, printed, rfl⟩
    exact settings.exitPrinting_orderly events shown

end Settings
end Calculator
