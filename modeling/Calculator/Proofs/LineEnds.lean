import Calculator.Proofs.SessionHistories
import Mathlib.Data.List.Forall2
import Mathlib.Data.List.TakeWhile
namespace Calculator

namespace Text

theorem trim_append_blank (blank : AllBlank tail) (text : List Char) : trim (text ++ tail) = trim text := by
  have none : tail.dropWhile isBlank = [] := List.dropWhile_eq_nil_iff.mpr blank
  have reversed : ∀ c ∈ tail.reverse, isBlank c = true := fun c member => blank c (List.mem_reverse.mp member)
  rw [trim, trim, trimWhere, trimWhere, List.dropWhile_append]
  cases rest : text.dropWhile isBlank with
  | nil => simp [none]
  | cons c more =>
    rw [if_neg (by simp), List.reverse_append, List.dropWhile_append_of_pos reversed]

theorem removeBlanks_append_blank (blank : AllBlank tail) (text : List Char) :
    removeBlanks (text ++ tail) = removeBlanks text := by
  have none : removeBlanks tail = [] := List.filter_eq_nil_iff.mpr fun c member => by simp [blank c member]
  rw [removeBlanks_append, none, List.append_nil]

theorem allBlank_append_blank (blank : AllBlank tail) (text : List Char) : AllBlank (text ++ tail) ↔ AllBlank text := by
  simp only [AllBlank, List.forall_mem_append]
  exact and_iff_left blank

end Text

theorem Assignment.ofLine?_split (first : '=' ∉ front) (split : line.toList = front ++ '=' :: back) :
    ofLine? line = some ⟨String.ofList (Text.trim front), String.ofList (Text.trim back)⟩ := by
  have equals : hasEquals line = true := by simp [hasEquals, split]
  have before : ∀ c ∈ front, decide (c ≠ '=') = true := fun c member =>
    decide_eq_true fun same => first (same ▸ member)
  rw [ofLine?, if_pos equals, split]
  simp only [List.takeWhile_append_of_pos before, List.dropWhile_append_of_pos before]
  simp

def Padded (line padded : String) : Prop := ∃ tail, Text.AllBlank tail ∧ padded.toList = line.toList ++ tail

namespace Padded

theorem trimmed_eq (padded : Padded line other) : Text.trimmed other = Text.trimmed line := by
  obtain ⟨tail, blank, longer⟩ := padded
  rw [Text.trimmed, Text.trimmed, longer, Text.trim_append_blank blank]

theorem hasEquals_eq (padded : Padded line other) : Assignment.hasEquals other = Assignment.hasEquals line := by
  obtain ⟨tail, blank, longer⟩ := padded
  have none : '=' ∉ tail := fun member => by cases blank _ member
  simp [Assignment.hasEquals, longer, none]

theorem ofLine?_eq (padded : Padded line other) : Assignment.ofLine? other = Assignment.ofLine? line := by
  -- The blanks are behind the equals sign, and the right side is trimmed.
  cases equals : Assignment.hasEquals line with
  | true =>
    obtain ⟨tail, blank, longer⟩ := padded
    obtain ⟨front, back, split, first⟩ := List.eq_append_cons_of_mem (of_decide_eq_true equals)
    have padded : other.toList = front ++ '=' :: (back ++ tail) := by simp [longer, split]
    rw [Assignment.ofLine?_split first split, Assignment.ofLine?_split first padded, Text.trim_append_blank blank]
  | false => simp [Assignment.ofLine?, padded.hasEquals_eq, equals]

theorem removeBlanks_eq (padded : Padded line other) :
    Text.removeBlanks other.toList = Text.removeBlanks line.toList := by
  obtain ⟨tail, blank, longer⟩ := padded
  rw [longer, Text.removeBlanks_append_blank blank]

theorem allBlank_iff (padded : Padded line other) : Text.AllBlank other.toList ↔ Text.AllBlank line.toList := by
  obtain ⟨tail, blank, longer⟩ := padded
  rw [longer, Text.allBlank_append_blank blank]

theorem evaluate_eq (padded : Padded line other) (policy : Policy) (store : Store) :
    evaluate policy store other = evaluate policy store line := by
  have scanned : Scan.ofLine policy other = Scan.ofLine policy line := by
    rw [Scan.ofLine, Scan.ofLine, padded.removeBlanks_eq]
  rw [evaluate, valueOfLine, postfixOfLine, tokensOfLine, scanned]
  rfl

-- The one fault that would name the line as it stands is that of a line without an equals
-- sign, which no assignment is.
theorem assign_eq (padded : Padded line other) (equals : Assignment.hasEquals line = true) (limit : DigitLimit)
    (store : Store) : assign limit store other = assign limit store line := by
  rw [Calculator.assign_eq, Calculator.assign_eq, padded.ofLine?_eq]
  rw [Assignment.ofLine?, if_pos equals]

theorem respond_eq (padded : Padded line other) (policy : Policy) (store : Store) :
    respond policy store other = respond policy store line := by
  rw [Calculator.respond_eq, Calculator.respond_eq, Task.ofLine, Task.ofLine, padded.hasEquals_eq]
  simp only [padded.allBlank_iff, padded.evaluate_eq]
  split
  · rfl
  · cases equals : Assignment.hasEquals line with
    | true => rw [padded.assign_eq equals]
    | false => rfl

theorem command_eq (padded : Padded line other) : Command.ofLine? other = Command.ofLine? line := by
  rw [Command.ofLine?, Command.ofLine?, padded.trimmed_eq]

theorem answer_eq (padded : Padded line other) (session : Session) :
    (session.answer other).outcome.reply = (session.answer line).outcome.reply ∧
      (session.answer other).session = (session.answer line).session := by
  rw [Session.answer, Session.answer, padded.command_eq, padded.respond_eq]
  split <;> exact ⟨rfl, rfl⟩

end Padded

theorem Session.answerAll_padded (padded : List.Forall₂ Padded lines others) (session : Session) :
    (session.answerAll others).1.map (·.outcome.reply) = (session.answerAll lines).1.map (·.outcome.reply) ∧
      (session.answerAll others).2 = (session.answerAll lines).2 := by
  induction padded generalizing session with
  | nil => exact ⟨rfl, rfl⟩
  | @cons line other lines others here later ih =>
    obtain ⟨reply, after⟩ := here.answer_eq session
    obtain ⟨replies, last⟩ := ih (session.answer line).session
    simp only [answerAll, after]
    split
    · exact ⟨by simp only [List.map_singleton, reply], rfl⟩
    · exact ⟨by simp only [List.map_cons, reply, replies], last⟩

namespace Text

def NewlineEnds (text : List Char) : Prop :=
  ∀ c rest, c :: rest <:+ text → isLineBreak c = true → c = '\n' ∨ c = '\r' ∧ rest.head? = some '\n'

theorem newlineEnds_cons {c : Char} {rest : List Char} : NewlineEnds (c :: rest) ↔
    (isLineBreak c = true → c = '\n' ∨ c = '\r' ∧ rest.head? = some '\n') ∧ NewlineEnds rest := by
  constructor
  · intro ends
    exact ⟨ends c rest List.suffix_rfl, fun d later within => ends d later (within.trans (List.suffix_cons c rest))⟩
  · rintro ⟨here, ends⟩ d later within
    rcases List.suffix_cons_iff.mp within with same | behind
    · cases same
      exact here
    · exact ends d later behind

instance decidableNewlineEnds : (text : List Char) → Decidable (NewlineEnds text)
  | [] => .isTrue fun _ _ within => by cases List.suffix_nil.mp within
  | _ :: rest =>
    have := decidableNewlineEnds rest
    decidable_of_iff _ newlineEnds_cons.symm

-- A line of a document and the line that is typed for it, which may keep the carriage return.
def Returned (line typed : List Char) : Prop := typed = line ∨ typed = line ++ ['\r']

theorem openLine_returned (c : Char) (returned : List.Forall₂ Returned lines typed) :
    List.Forall₂ Returned (openLine c lines) (openLine c typed) := by
  cases returned with
  | nil => exact .cons (.inl rfl) .nil
  | cons here later =>
    refine .cons ?_ later
    rcases here with rfl | rfl
    · exact .inl rfl
    · exact .inr rfl

theorem typedLines_returned (ends : NewlineEnds text) :
    List.Forall₂ Returned (documentLines text) (typedLines text) := by
  induction text using documentLines.induct with
  | case1 => exact .nil
  | case2 rest ih =>
    have behind := (newlineEnds_cons.mp (newlineEnds_cons.mp ends).2).2
    exact .cons (.inr rfl) (ih behind)
  | case3 c rest single isBreak ih =>
    obtain ⟨here, behind⟩ := newlineEnds_cons.mp ends
    rcases here isBreak with rfl | ⟨rfl, newline⟩
    · exact .cons (.inl rfl) (ih behind)
    · obtain ⟨later, rfl⟩ := List.head?_eq_some_iff.mp newline
      exact absurd rfl (single later rfl)
  | case4 c rest single noBreak ih =>
    have other : c ≠ '\n' := fun same => noBreak (same ▸ rfl)
    rw [documentLines, if_neg noBreak, typedLines, if_neg other]
    · exact openLine_returned c (ih (newlineEnds_cons.mp ends).2)
    · exact single

end Text

theorem Padded.of_returned (returned : Text.Returned line typed) :
    Padded (String.ofList line) (String.ofList typed) := by
  rcases returned with rfl | rfl
  · exact ⟨[], by simp [Text.AllBlank], by simp⟩
  · exact ⟨['\r'], by decide, by simp⟩

end Calculator
