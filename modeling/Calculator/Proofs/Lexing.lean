import Calculator.Proofs.ExceptLaws
import Calculator.Scan
import Mathlib.Data.List.TakeWhile
namespace Calculator

theorem getLast?_cons_or (first : α) (later : List α) (before : Option α) :
    (first :: later).getLast?.or before = later.getLast?.or (some first) := by
  cases later <;> simp [List.getLast?_cons]

namespace CharClass

theorem letter_toNat {c : Char} (letter : c.isAlpha = true) : 'A'.toNat ≤ c.toNat ∧ c.toNat ≤ 'z'.toNat := by
  rcases (Bool.or_eq_true _ _).mp letter with upper | lower
  · obtain ⟨first, last⟩ := of_decide_eq_true upper
    exact ⟨UInt32.le_iff_toNat_le.mp first, Nat.le_trans (UInt32.le_iff_toNat_le.mp last) (by decide)⟩
  · obtain ⟨first, last⟩ := (Bool.and_eq_true _ _).mp lower
    have first := UInt32.le_iff_toNat_le.mp (of_decide_eq_true first)
    exact ⟨Nat.le_trans (by decide) first, UInt32.le_iff_toNat_le.mp (of_decide_eq_true last)⟩

theorem of?_digit (digit : c.isDigit = true) : of? c = some .digit := by
  have noLetter : c.isAlpha = false := by
    obtain ⟨_, last⟩ := Char.isDigit_iff_toNat.mp digit
    rw [Bool.eq_false_iff]
    intro letter
    exact absurd (Nat.le_trans (letter_toNat letter).1 last) (by decide)
  have other : c ≠ '(' ∧ c ≠ ')' ∧ c ≠ '+' ∧ c ≠ '-' ∧ c ≠ '*' ∧ c ≠ '/' := by
    refine ⟨?_, ?_, ?_, ?_, ?_, ?_⟩ <;> rintro rfl <;> revert digit <;> decide
  simp [of?, other, noLetter, digit]

theorem isDigit_of_of? (found : of? c = some .digit) : c.isDigit = true := by
  unfold of? at found
  split_ifs at found <;> cases found
  assumption

theorem of?_sign (sign : c ∈ ['+', '-', '*', '/']) : of? c = some .sign := by
  simp only [List.mem_cons, List.not_mem_nil, or_false] at sign
  rcases sign with rfl | rfl | rfl | rfl <;> rfl

theorem sign_cases (found : of? c = some .sign) : c ∈ ['+', '-', '*', '/'] := by
  unfold of? at found
  split_ifs at found with opening closing sign <;> cases found
  simpa using sign

theorem of?_letter (letter : c.isAlpha = true) : of? c = some .letter := by
  have other : c ≠ '(' ∧ c ≠ ')' ∧ c ≠ '+' ∧ c ≠ '-' ∧ c ≠ '*' ∧ c ≠ '/' := by
    refine ⟨?_, ?_, ?_, ?_, ?_, ?_⟩ <;> rintro rfl <;> revert letter <;> decide
  simp [of?, other, letter]

theorem isAlpha_of_of? (found : of? c = some .letter) : c.isAlpha = true := by
  unfold of? at found
  split_ifs at found <;> cases found
  assumption

def joins : CharClass → Bool
  | .bracket _ => false
  | _ => true

end CharClass

namespace Lexeme

def ofRun : CharClass → List Char → Lexeme
  | .bracket side, _ => .bracket side
  | .sign, run => .signs run
  | .letter, run => .letters run
  | .digit, run => .digits run

theorem ofChars_cons (found : CharClass.of? c = some kind) (rest : List Char) :
    ofChars (c :: rest) = attach c kind (ofChars rest) := by
  simp [ofChars, found]

theorem attach_ofRun (joins : kind.joins = true) (c : Char) (run : List Char) (later : List Lexeme) :
    attach c kind (ofRun kind run :: later) = ofRun kind (c :: run) :: later := by
  cases kind with
  | bracket side => cases joins
  | sign | letter | digit => rfl

theorem attach_start (c : Char) (fresh : ∀ run rest, later = ofRun kind run :: rest → kind.joins = false) :
    attach c kind later = ofRun kind [c] :: later := by
  cases later with
  | nil => cases kind <;> rfl
  | cons first rest =>
    cases kind with
    | bracket side => rfl
    | sign | letter | digit =>
      cases first with
      | bracket side => rfl
      | signs run | letters run | digits run =>
        first
        | rfl
        | cases fresh run rest rfl

theorem attach_append (someLexeme : earlier ≠ []) (c : Char) (kind : CharClass) (later : List Lexeme) :
    attach c kind (earlier ++ later) = attach c kind earlier ++ later := by
  cases earlier with
  | nil => exact absurd rfl someLexeme
  | cons first rest => cases kind <;> cases first <;> rfl

theorem attach_cases (c : Char) (kind : CharClass) (later : List Lexeme) :
    (∃ run rest, kind.joins = true ∧ later = ofRun kind run :: rest ∧
        attach c kind later = ofRun kind (c :: run) :: rest) ∨
      ((∀ run rest, later = ofRun kind run :: rest → kind.joins = false) ∧
        attach c kind later = ofRun kind [c] :: later) := by
  by_cases goesOn : ∃ run rest, later = ofRun kind run :: rest ∧ kind.joins = true
  · obtain ⟨run, rest, rfl, joins⟩ := goesOn
    exact .inl ⟨run, rest, joins, rfl, attach_ofRun joins c run rest⟩
  · have fresh : ∀ run rest, later = ofRun kind run :: rest → kind.joins = false := by
      intro run rest same
      exact Bool.eq_false_iff.mpr fun joins => goesOn ⟨run, rest, same, joins⟩
    exact .inr ⟨fresh, attach_start c fresh⟩

theorem attach_eq (c : Char) (kind : CharClass) (later : List Lexeme) :
    ∃ run rest, attach c kind later = ofRun kind run :: rest := by
  rcases attach_cases c kind later with ⟨run, rest, _, _, joined⟩ | ⟨_, started⟩
  · exact ⟨c :: run, rest, joined⟩
  · exact ⟨[c], later, started⟩

theorem ofRun_kind (same : ofRun kind run = ofRun other otherRun) : kind = other := by
  cases kind <;> cases other <;> simp_all [ofRun]

theorem class_of_head (heads : ofChars text = ofRun kind run :: later) :
    ∃ c rest, text = c :: rest ∧ CharClass.of? c = some kind := by
  cases text with
  | nil => cases heads
  | cons c rest =>
    cases found : CharClass.of? c with
    | none => simp [ofChars, found] at heads
    | some first =>
      obtain ⟨firstRun, after, attached⟩ := attach_eq c first (ofChars rest)
      rw [ofChars_cons found, attached] at heads
      exact ⟨c, rest, rfl, found.trans (congrArg some (ofRun_kind (List.cons.inj heads).1))⟩

-- No lexeme goes on from the end of one text into the next.
def Seam (left right : List Char) : Prop :=
  ∀ last ∈ left.getLast?, ∀ first ∈ right.head?, ∀ kind,
    CharClass.of? last = some kind → CharClass.of? first = some kind → kind.joins = false

theorem seam_of_ne (different : ∀ last ∈ left.getLast?, ∀ first ∈ right.head?,
    CharClass.of? last ≠ CharClass.of? first) : Seam left right := by
  intro last ends first starts kind lastKind firstKind
  exact absurd (lastKind.trans firstKind.symm) (different last ends first starts)

theorem attach_ofChars (found : CharClass.of? c = some kind) (seam : Seam [c] rest) :
    attach c kind (ofChars rest) = ofRun kind [c] :: ofChars rest := by
  apply attach_start
  intro run later heads
  obtain ⟨first, after, rfl, same⟩ := class_of_head heads
  exact seam c rfl first rfl kind found same

theorem ofChars_ne_nil (found : CharClass.of? c = some kind) (rest : List Char) : ofChars (c :: rest) ≠ [] := by
  obtain ⟨run, later, attached⟩ := attach_eq c kind (ofChars rest)
  simp [ofChars_cons found, attached]

theorem ofChars_append (native : ∀ c ∈ left, (CharClass.of? c).isSome) (seam : Seam left right) :
    ofChars (left ++ right) = ofChars left ++ ofChars right := by
  induction left with
  | nil => rfl
  | cons c rest ih =>
    obtain ⟨kind, found⟩ := Option.isSome_iff_exists.mp (native c List.mem_cons_self)
    rw [List.cons_append, ofChars_cons found, ofChars_cons found]
    cases rest with
    | nil =>
      have alone : attach c kind [] = [ofRun kind [c]] := attach_start c (by simp)
      simpa [ofChars, alone] using attach_ofChars found seam
    | cons d more =>
      have tail := ih (fun e member => native e (List.mem_cons_of_mem c member))
        (by simpa [Seam, List.getLast?_cons_cons] using seam)
      obtain ⟨next, nextFound⟩ := Option.isSome_iff_exists.mp (native d (by simp))
      rw [tail, attach_append (ofChars_ne_nil nextFound more)]

theorem ofChars_run (joins : kind.joins = true) (someChar : run ≠ [])
    (all : ∀ c ∈ run, CharClass.of? c = some kind) : ofChars run = [ofRun kind run] := by
  induction run with
  | nil => exact absurd rfl someChar
  | cons c rest ih =>
    rw [ofChars_cons (all c List.mem_cons_self)]
    cases rest with
    | nil => exact attach_start c (by simp [ofChars])
    | cons d more =>
      rw [ih (by simp) fun e member => all e (List.mem_cons_of_mem c member)]
      exact attach_ofRun joins c _ _

theorem ofChars_bracketed (native : ∀ c ∈ text, (CharClass.of? c).isSome) (rest : List Char) :
    ofChars ('(' :: (text ++ ')' :: rest)) =
      .bracket .opening :: (ofChars text ++ .bracket .closing :: ofChars rest) := by
  have seam : Seam text (')' :: rest) := by
    intro last _ first starts kind _ found
    cases starts
    cases found
    rfl
  have opened : ofChars ('(' :: (text ++ ')' :: rest)) = .bracket .opening :: ofChars (text ++ ')' :: rest) := rfl
  rw [opened, ofChars_append native seam]
  rfl

theorem unread_eq_nil (native : ∀ c ∈ text, (CharClass.of? c).isSome) : unread text = [] :=
  List.dropWhile_eq_nil_iff.mpr native

theorem tokensAfter_append (limit : DigitLimit) (before : Option Token) (left right : List Lexeme) :
    tokensAfter limit before (left ++ right) = (do
      let tokens ← tokensAfter limit before left
      let rest ← tokensAfter limit (tokens.getLast?.or before) right
      return tokens ++ rest) := by
  induction left generalizing before with
  | nil => cases read : tokensAfter limit before right <;> simp [tokensAfter, read]
  | cons lexeme later ih =>
    rw [List.cons_append, tokensAfter, tokensAfter]
    cases lexeme.token limit before with
    | error fault => rfl
    | ok first =>
      simp only [ok_bind, ih]
      cases tokensAfter limit (some first) later with
      | error fault => rfl
      | ok tokens =>
        simp only [ok_bind, pure_eq_ok, getLast?_cons_or]
        cases tokensAfter limit (tokens.getLast?.or (some first)) right <;> rfl

theorem tokensAfter_append_ok (first : tokensAfter limit before left = .ok tokens)
    (second : tokensAfter limit (tokens.getLast?.or before) right = .ok rest) :
    tokensAfter limit before (left ++ right) = .ok (tokens ++ rest) := by
  simp [tokensAfter_append, first, second]

theorem tokensAfter_cons_ok (first : Lexeme.token limit before lexeme = .ok made)
    (second : tokensAfter limit (some made) later = .ok rest) :
    tokensAfter limit before (lexeme :: later) = .ok (made :: rest) := by
  simp [tokensAfter, first, second]

end Lexeme
end Calculator
