import Calculator.Proofs.Assignments
import Calculator.Proofs.Conversions
import Calculator.Proofs.WrittenLines
namespace Calculator

namespace TextReading

section
variable (isSign : sign ∈ ['+', '-', '*', '/'])
include isSign

theorem behind_sign (primary : TextReading false 3 text expr) :
    TextReading true 0 (sign :: text) (.unary (String.ofList (collapse [sign])) expr) := by
  have signed := TextReading.signed (by simpa using isSign) (collapses_iff.mpr ⟨List.cons_ne_nil sign [], rfl⟩) primary
  exact signed.loosen (Nat.zero_le 3)

theorem ofChars_behind_sign (behind : TextReading false level text expr) :
    Lexeme.ofChars (sign :: text) = .signs [sign] :: Lexeme.ofChars text :=
  signs_append (List.cons_ne_nil sign []) (by simpa using isSign) behind

end

theorem valueOfLine_fits (reading : TextReading true 0 (Text.removeBlanks line.toList) expr)
    (fits : ∀ lexeme ∈ Lexeme.ofChars (Text.removeBlanks line.toList), lexeme.Fits limit) (strict : Bool) (store : Store) :
    Calculator.valueOfLine ⟨strict, limit⟩ store line = expr.eval store :=
  (Calculator.valueOfLine_fits limit store fits strict).trans (reading.valueOfLine_eq_eval strict store)

theorem of_name (named : isName name = true) : TextReading leads 3 name.toList (.variable name) := by
  obtain ⟨someLetter, letters⟩ := isName_iff.mp named
  have reading : TextReading leads 3 name.toList (.variable (String.ofList name.toList)) := .letters someLetter letters
  rwa [String.ofList_toList] at reading

end TextReading

theorem isName_digitless (named : isName name = true) : ∀ c ∈ name.toList, CharClass.of? c ≠ some .digit := by
  obtain ⟨_, letters⟩ := isName_iff.mp named
  intro c member found
  cases (CharClass.of?_letter (letters c member)).symm.trans found

namespace LiteralText

theorem length_value_le (written : LiteralText text literal) :
    (Decimal.digits literal.value.natAbs).length ≤ literal.digits.length := by
  rw [Decimal.Literal.natAbs_value]
  exact Decimal.length_digits_ofDigits written.someDigit written.allDigits

-- To an expression the sign of a literal is an operator in front of a number.
theorem reading (written : LiteralText text literal) :
    ∃ expr, TextReading true 0 text expr ∧ ∀ store, expr.eval store = .ok literal.value := by
  have number {leads : Bool} : TextReading leads 3 literal.digits (.literal (Decimal.ofDigits literal.digits)) :=
    .digits (Decimal.denotes_ofDigits written.someDigit written.allDigits)
  cases written with
  | unsigned => exact ⟨_, number.loosen (Nat.zero_le 3), fun _ => rfl⟩
  | plus => exact ⟨_, .behind_sign (by decide) number, fun _ => rfl⟩
  | minus => exact ⟨_, .behind_sign (by decide) number, fun _ => rfl⟩

theorem ofChars_eq (written : LiteralText text literal) :
    ∃ front, Lexeme.ofChars text = front ++ [.digits literal.digits] ∧
      ∀ limit, ∀ lexeme ∈ front, Lexeme.Fits limit lexeme := by
  have number : TextReading false 3 literal.digits (.literal (Decimal.ofDigits literal.digits)) :=
    .digits (Decimal.denotes_ofDigits written.someDigit written.allDigits)
  have one : Lexeme.ofChars literal.digits = [.digits literal.digits] :=
    Lexeme.ofChars_run rfl written.someDigit fun c member => CharClass.of?_digit (written.allDigits c member)
  cases written with
  | unsigned => exact ⟨[], one, by simp⟩
  | plus => exact ⟨[.signs ['+']], one ▸ number.ofChars_behind_sign (by decide), by simp [Lexeme.Fits]⟩
  | minus => exact ⟨[.signs ['-']], one ▸ number.ofChars_behind_sign (by decide), by simp [Lexeme.Fits]⟩

end LiteralText

theorem evaluate_literal (written : LiteralText line.toList literal) (policy : Policy) (store : Store) :
    evaluate policy store line =
      if policy.limit.Allows literal.digits.length then .ok (Decimal.text literal.value)
      else .error (.literalTooLong literal.digits.length ⟨policy.limit.toNat, some literal.digits.length⟩) := by
  obtain ⟨strict, limit⟩ := policy
  obtain ⟨front, split, signs⟩ := written.ofChars_eq
  have text := Text.removeBlanks_eq_self written.solid
  rw [← text] at split
  split
  · rename_i short
    obtain ⟨expr, reading, valued⟩ := written.reading
    rw [← text] at reading
    have fits : ∀ lexeme ∈ Lexeme.ofChars (Text.removeBlanks line.toList), lexeme.Fits limit := by
      rw [split]
      intro lexeme member
      rcases List.mem_append.mp member with sign | number
      · exact signs limit lexeme sign
      · exact List.mem_singleton.mp number ▸ short
    have value := (reading.valueOfLine_fits fits strict store).trans (valued store)
    exact evaluate_printed value (short.fewer written.length_value_le)
  · rename_i long
    exact evaluate_overlong limit store split (signs limit) long strict

theorem assign_literal (target : isName name = true) (written : LiteralText text.toList literal) (limit : Nat)
    (store : Store) : assign (.ofNat limit) store (name ++ "=" ++ text) =
      if limit = 0 ∨ literal.digits.length ≤ limit then .ok (store.set name literal.value)
      else .error (.sourceTooLong text.length ⟨(DigitLimit.ofNat limit).toNat, some literal.digits.length⟩) := by
  have solid := isName_solid target
  have first : '=' ∉ name.toList := fun member => (solid _ member).2 rfl
  have split : (name ++ "=" ++ text).toList = name.toList ++ '=' :: text.toList := by simp
  have left : Text.trim name.toList = name.toList := Text.trim_eq_self fun c member => (solid c member).1
  have right : Text.trim text.toList = text.toList := Text.trim_eq_self written.solid
  rw [assign_split first split, left, right, String.ofList_toList, String.ofList_toList, if_pos target,
    Assignment.value_of_literal written]
  split
  · rfl
  · rfl

-- A literal means the same on the right of an equals sign and on a line of its own. Both
-- readers count leading zeros, and a literal that is too long for one is too long for the other.
theorem assign_literal_evaluate (target : isName name = true) (written : LiteralText text.toList literal)
    (limit : Nat) (store other : Store) (strict : Bool) :
    let assigned := assign (.ofNat limit) store (name ++ "=" ++ text)
    let answer := evaluate ⟨strict, .ofNat limit⟩ other text
    (∀ value, assigned = .ok (store.set name value) ↔ answer = .ok (Decimal.text value)) ∧
    ((∃ fault, assigned = .error fault ∧ fault.kind = "InvalidAssignmentValue") ↔
      ∃ fault, answer = .error fault ∧ fault.kind = "NumberTooLarge") ∧
    (limit = 0 ∨ literal.digits.length ≤ limit →
      assigned = .ok (store.set name literal.value) ∧ answer = .ok (Decimal.text literal.value)) ∧
    (¬ (limit = 0 ∨ literal.digits.length ≤ limit) →
      (∃ fault, assigned = .error fault ∧ fault.kind = "InvalidAssignmentValue") ∧
        ∃ fault, answer = .error fault ∧ fault.kind = "NumberTooLarge") := by
  intro assigned answer
  have stored : assigned = _ := assign_literal target written limit store
  have printed : answer = _ := evaluate_literal written ⟨strict, .ofNat limit⟩ other
  simp only [DigitLimit.allows_ofNat] at printed
  by_cases short : limit = 0 ∨ literal.digits.length ≤ limit
  · rw [if_pos short] at stored printed
    refine ⟨fun value => ?_, ?_, fun _ => ⟨stored, printed⟩, fun long => absurd short long⟩
    · rw [stored, printed, Except.ok.injEq, Except.ok.injEq]
      constructor
      · intro same
        have held := congrArg (Store.get? · name) same
        simp only [Store.get?_set_self] at held
        rw [Option.some.inj held]
      · intro same
        rw [Decimal.text_injective same]
    · simp [stored, printed]
  · rw [if_neg short] at stored printed
    refine ⟨fun value => ?_, ?_, fun fits => absurd fits short, fun _ => ?_⟩
    · simp [stored, printed]
    · simp [stored, printed, Fault.kind]
    · exact ⟨⟨_, stored, rfl⟩, ⟨_, printed, rfl⟩⟩

theorem assign_literal_evaluate_zeros :
    let literal : Decimal.Literal := ⟨true, List.replicate 641 '0'⟩
    let text := String.ofList ('-' :: literal.digits)
    isName "n" = true ∧ LiteralText text.toList literal ∧
      (∃ fault, assign (.ofNat 640) .empty ("n" ++ "=" ++ text) = .error fault ∧ fault.kind = "InvalidAssignmentValue") ∧
      (∃ fault, evaluate ⟨true, .ofNat 640⟩ .empty text = .error fault ∧ fault.kind = "NumberTooLarge") ∧
      assign (.ofNat 641) .empty ("n" ++ "=" ++ text) = .ok (Store.empty.set "n" 0) ∧
      evaluate ⟨true, .ofNat 641⟩ .empty text = .ok "0" := by
  intro literal text
  have target : isName "n" = true := by decide
  have zeros : ∀ c ∈ literal.digits, c.isDigit = true := fun c member => by rw [List.eq_of_mem_replicate member]; rfl
  have written : LiteralText text.toList literal := by
    rw [String.toList_ofList]
    exact .minus (List.cons_ne_nil _ _) zeros
  have zero : literal.value = 0 := by decide +kernel
  have count : literal.digits.length = 641 := List.length_replicate
  obtain ⟨_, _, _, refused⟩ := assign_literal_evaluate target written 640 .empty .empty true
  obtain ⟨_, _, accepted, _⟩ := assign_literal_evaluate target written 641 .empty .empty true
  obtain ⟨assigned, answered⟩ := refused (by rw [count]; decide)
  obtain ⟨stored, printed⟩ := accepted (by rw [count]; decide)
  rw [zero] at stored printed
  exact ⟨target, written, assigned, answered, stored, printed⟩

section
variable {name line : String} (named : isName name = true) (text : Text.removeBlanks line.toList = name.toList)
include named text

theorem blank_or_alpha_of_name : ∀ c ∈ line.toList, Text.isBlank c = true ∨ c.isAlpha = true := by
  intro c member
  by_cases blank : Text.isBlank c = true
  · exact .inl blank
  · have kept : c ∈ Text.removeBlanks line.toList := List.mem_filter.mpr ⟨member, by simp [blank]⟩
    rw [text] at kept
    exact .inr ((isName_iff.mp named).2 c kept)

theorem not_allBlank_of_name : ¬ Text.AllBlank line.toList := by
  intro blank
  have none : Text.removeBlanks line.toList = [] := List.filter_eq_nil_iff.mpr fun c member => by simp [blank c member]
  exact (isName_iff.mp named).1 (text.symm.trans none)

theorem Command.ofLine?_of_name : Command.ofLine? line = none := by
  apply if_pos
  intro slash
  obtain ⟨front, back, _, _, whole⟩ := Text.trim_frame line.toList
  have member : '/' ∈ line.toList := by
    rw [whole]
    rw [Text.trimmed, String.toList_ofList] at slash
    simp [List.mem_of_head? slash]
  rcases blank_or_alpha_of_name named text '/' member with blank | letter
  · cases blank
  · cases letter

theorem Task.ofLine_of_name : Task.ofLine line = .expression := by
  have noEquals : '=' ∉ line.toList := by
    intro member
    rcases blank_or_alpha_of_name named text '=' member with blank | letter
    · cases blank
    · cases letter
  simp [Task.ofLine, Assignment.hasEquals, noEquals]

theorem valueOfLine_of_name (policy : Policy) (store : Store) : valueOfLine policy store line = store.require name := by
  obtain ⟨strict, limit⟩ := policy
  have reading : TextReading true 0 (Text.removeBlanks line.toList) (.variable name) :=
    text ▸ (TextReading.of_name named).loosen (Nat.zero_le 3)
  have digitless : ∀ c ∈ Text.removeBlanks line.toList, CharClass.of? c ≠ some .digit :=
    text ▸ isName_digitless named
  exact reading.valueOfLine_fits (Lexeme.all_fit_of_digitless digitless limit) strict store

theorem evaluate_of_name {policy : Policy} {store : Store} (bound : store.get? name = some value)
    (short : policy.limit.Allows (Decimal.digits value.natAbs).length) :
    evaluate policy store line = .ok (Decimal.text value) := by
  have asked := valueOfLine_of_name named text policy store
  exact evaluate_printed (asked.trans (Store.require_ok_iff.mpr bound)) short

theorem Session.answer_of_name {session : Session} (bound : session.store.get? name = some value)
    (short : session.policy.limit.Allows (Decimal.digits value.natAbs).length) :
    (session.answer line).outcome.reply = .value (Decimal.text value) ∧ (session.answer line).session = session := by
  have printed := evaluate_of_name named text bound short
  have replied : respond session.policy session.store line = (.value (Decimal.text value), session.store) := by
    rw [respond_eq, if_neg (not_allBlank_of_name named text), Task.ofLine_of_name named text]
    simp [printed]
  rw [answer, Command.ofLine?_of_name named text]
  simp [replied]

end

-- What a line was answered with is a literal that is short enough to be given back.
theorem evaluate_fed_back (answered : evaluate ⟨strict, .ofNat limit⟩ store line = .ok printed) :
    (∀ mode other, evaluate ⟨mode, .ofNat limit⟩ other printed = .ok printed) ∧
    ∀ name, isName name = true → ∀ held : Store, ∃ next,
      assign (.ofNat limit) held (name ++ "=" ++ printed) = .ok next ∧
      (∀ mode, evaluate ⟨mode, .ofNat limit⟩ next name = .ok printed) ∧
      ∀ other, other ≠ name → next.get? other = held.get? other := by
  obtain ⟨_, _, value, _, _, _, shown⟩ := evaluate_inv answered
  obtain ⟨short, rfl⟩ := DigitLimit.print_ok_iff.mp shown
  have written := Decimal.literalText_text value
  refine ⟨fun mode other => ?_, fun name named held => ⟨held.set name value, ?_, fun mode => ?_, ?_⟩⟩
  · rw [evaluate_literal written, if_pos short, Decimal.value_of_chars]
  · rw [assign_literal named written, if_pos (DigitLimit.allows_ofNat.mp short), Decimal.value_of_chars]
  · have asked : Text.removeBlanks name.toList = name.toList :=
      Text.removeBlanks_eq_self fun c member => (isName_solid named c member).1
    exact evaluate_of_name named asked (Store.get?_set_self held name value) short
  · exact (Store.eq_set_iff.mp rfl).2

theorem evaluate_fed_back_negative :
    let store := Store.empty.set "x" 5
    evaluate ⟨true, .ofNat 640⟩ store "(3 - x) * 06" = .ok "-12" ∧
      (∀ mode other, evaluate ⟨mode, .ofNat 640⟩ other "-12" = .ok "-12") ∧
      ∃ next, assign (.ofNat 640) store ("y" ++ "=" ++ "-12") = .ok next ∧
        (∀ mode, evaluate ⟨mode, .ofNat 640⟩ next "y" = .ok "-12") ∧
        ∀ other, other ≠ "y" → next.get? other = store.get? other := by
  intro store
  have answered : evaluate ⟨true, .ofNat 640⟩ store "(3 - x) * 06" = .ok "-12" := by rfl
  obtain ⟨again, assigned⟩ := evaluate_fed_back answered
  exact ⟨answered, again, assigned "y" (by decide) store⟩

end Calculator
