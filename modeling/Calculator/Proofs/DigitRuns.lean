import Calculator.Proofs.TokenOrder
namespace Calculator

structure DigitRun (text before run after : List Char) : Prop where
  whole : text = before ++ (run ++ after)
  native : ∀ c ∈ before, (CharClass.of? c).isSome = true
  someDigit : run ≠ []
  allDigits : ∀ c ∈ run, c.isDigit = true
  starts : ∀ c ∈ before.getLast?, c.isDigit = false
  ends : ∀ c ∈ after.head?, c.isDigit = false

namespace Lexeme

def Proper (lexeme : Lexeme) : Prop :=
  ∃ kind, lexeme = ofRun kind lexeme.chars ∧ lexeme.chars ≠ [] ∧
    ∀ c ∈ lexeme.chars, CharClass.of? c = some kind

theorem Proper.chars_ne_nil (proper : Proper lexeme) : lexeme.chars ≠ [] := by
  obtain ⟨_, _, someChar, _⟩ := proper
  exact someChar

theorem ofRun_chars (joins : kind.joins = true) (run : List Char) : (ofRun kind run).chars = run := by
  cases kind with
  | bracket side => cases joins
  | sign | letter | digit => rfl

theorem proper_single (found : CharClass.of? c = some kind) : (ofRun kind [c]).Proper := by
  have spelled : (ofRun kind [c]).chars = [c] := by
    cases kind with
    | bracket side => exact bracket_chars found
    | sign | letter | digit => rfl
  refine ⟨kind, by rw [spelled], by simp [spelled], ?_⟩
  intro d member
  rw [spelled, List.mem_singleton] at member
  exact member ▸ found

theorem Proper.lengthen (proper : (ofRun kind run).Proper) (joins : kind.joins = true)
    (found : CharClass.of? c = some kind) : (ofRun kind (c :: run)).Proper := by
  obtain ⟨other, same, _, all⟩ := proper
  obtain rfl := ofRun_kind same
  rw [ofRun_chars joins] at all
  refine ⟨kind, by rw [ofRun_chars joins], by simp [ofRun_chars joins], ?_⟩
  intro d member
  rw [ofRun_chars joins] at member
  rcases List.mem_cons.mp member with rfl | later
  · exact found
  · exact all d later

theorem ofChars_proper (text : List Char) : ∀ lexeme ∈ ofChars text, lexeme.Proper := by
  induction text with
  | nil => simp [ofChars]
  | cons c rest ih =>
    cases found : CharClass.of? c with
    | none => simp [ofChars, found]
    | some kind =>
      intro lexeme member
      rw [ofChars_cons found] at member
      rcases attach_cases c kind (ofChars rest) with ⟨run, later, joins, heads, joined⟩ | ⟨_, started⟩
      · rw [joined] at member
        rw [heads] at ih
        rcases List.mem_cons.mp member with rfl | behind
        · exact (ih _ List.mem_cons_self).lengthen joins found
        · exact ih lexeme (List.mem_cons_of_mem _ behind)
      · rw [started] at member
        rcases List.mem_cons.mp member with rfl | behind
        · exact proper_single found
        · exact ih lexeme behind

theorem Proper.eq_digits (proper : Proper lexeme) (member : c ∈ lexeme.chars) (digit : c.isDigit = true) :
    lexeme = .digits lexeme.chars := by
  obtain ⟨kind, same, _, all⟩ := proper
  cases (all c member).symm.trans (CharClass.of?_digit digit)
  exact same

theorem not_apart_digits (run next : List Char) : ¬ Apart (.digits run) (.digits next) := fun apart =>
  absurd (apart .digit run next rfl rfl) (by decide)

theorem ofChars_digitRun (found : DigitRun text before run after) :
    ofChars text = ofChars before ++ .digits run :: ofChars after := by
  have classed (c : Char) (member : c ∈ run) : CharClass.of? c = some .digit :=
    CharClass.of?_digit (found.allDigits c member)
  have other {c : Char} (noDigit : c.isDigit = false) : CharClass.of? c ≠ some .digit := fun same =>
    absurd (noDigit.symm.trans (CharClass.isDigit_of_of? same)) (by decide)
  have front : Seam before (run ++ after) := by
    obtain ⟨first, others, rfl⟩ := List.exists_cons_of_ne_nil found.someDigit
    apply seam_of_ne
    intro last ends head starts
    cases starts
    rw [classed first List.mem_cons_self]
    exact other (found.starts last ends)
  have back : Seam run after := by
    apply seam_of_ne
    intro last ends head starts
    rw [classed last (List.mem_of_getLast? ends)]
    exact (other (found.ends head starts)).symm
  have one : ofChars run = [.digits run] := ofChars_run rfl found.someDigit classed
  rw [found.whole, ofChars_append found.native front,
    ofChars_append (fun c member => by simp [classed c member]) back, one]
  rfl

theorem unread_head (text : List Char) : ∀ c ∈ (unread text).head?, CharClass.of? c = none := by
  intro c heads
  have dropped := List.head?_dropWhile_not (fun c => (CharClass.of? c).isSome) text
  rw [unread] at heads
  rw [heads] at dropped
  simpa using dropped

theorem Proper.classed (proper : (ofRun kind run).Proper) (joins : kind.joins = true) :
    run ≠ [] ∧ ∀ c ∈ run, CharClass.of? c = some kind := by
  obtain ⟨other, same, someChar, all⟩ := proper
  cases ofRun_kind same
  rw [ofRun_chars joins] at someChar all
  exact ⟨someChar, all⟩

theorem Proper.digits_run (proper : Proper (.digits run)) : run ≠ [] ∧ ∀ c ∈ run, c.isDigit = true := by
  obtain ⟨someDigit, all⟩ := Proper.classed (show (ofRun .digit run).Proper from proper) rfl
  exact ⟨someDigit, fun c member => CharClass.isDigit_of_of? (all c member)⟩

-- The lexemes beside a run of digits are of other classes, so that no digit is next to it.
theorem digitRun_of_ofChars (split : ofChars text = earlier ++ .digits run :: later) :
    DigitRun text (earlier.flatMap chars) run (later.flatMap chars ++ unread text) := by
  have proper := ofChars_proper text
  have apart := ofChars_apart text
  rw [split] at proper apart
  obtain ⟨_, behind, boundary⟩ := List.isChain_append.mp apart
  obtain ⟨someDigit, allDigits⟩ := (proper (.digits run) (by simp)).digits_run
  refine ⟨?whole, ?native, someDigit, allDigits, ?starts, ?ends⟩
  case whole =>
    calc
      text = (ofChars text).flatMap chars ++ unread text := (ofChars_append_unread text).symm
      _ = earlier.flatMap chars ++ (run ++ (later.flatMap chars ++ unread text)) := by simp [split, chars]
  case native =>
    intro c member
    obtain ⟨lexeme, within, spelled⟩ := List.mem_flatMap.mp member
    obtain ⟨kind, _, _, classed⟩ := proper lexeme (List.mem_append_left _ within)
    simp [classed c spelled]
  case starts =>
    intro c ends
    rcases List.eq_nil_or_concat' earlier with rfl | ⟨init, last, rfl⟩
    · cases ends
    · have own : Proper last := proper last (by simp)
      rw [List.flatMap_append, List.flatMap_singleton, List.getLast?_append_of_ne_nil _ own.chars_ne_nil] at ends
      apply Bool.eq_false_iff.mpr
      intro digit
      apply not_apart_digits last.chars run
      rw [← own.eq_digits (List.mem_of_getLast? ends) digit]
      exact boundary last List.getLast?_concat (.digits run) rfl
  case ends =>
    intro c starts
    apply Bool.eq_false_iff.mpr
    intro digit
    cases later with
    | nil => exact absurd ((unread_head text c starts).symm.trans (CharClass.of?_digit digit)) (by simp)
    | cons first more =>
      have own : Proper first := proper first (by simp)
      rw [List.flatMap_cons, List.append_assoc, List.head?_append_of_ne_nil _ own.chars_ne_nil] at starts
      apply not_apart_digits run first.chars
      rw [← own.eq_digits (List.mem_of_head? starts) digit]
      exact (List.isChain_cons_cons.mp behind).1

end Lexeme
end Calculator
