import Calculator.Proofs.Lexing
namespace Calculator

namespace Lexeme

def first? : List Char → Option Lexeme
  | [] => none
  | c :: rest =>
    (CharClass.of? c).map fun kind => ofRun kind (c :: rest.takeWhile (CharClass.of? · = some kind))

theorem ofChars_of_first?_none (none : first? text = none) : ofChars text = [] ∧ unread text = text := by
  cases text with
  | nil => exact ⟨rfl, rfl⟩
  | cons c rest =>
    have foreign : CharClass.of? c = .none := Option.map_eq_none_iff.mp none
    simp [ofChars, unread, foreign]

theorem ofChars_takeWhile (found : CharClass.of? c = some kind) (joins : kind.joins = true) (rest : List Char) :
    let run := c :: rest.takeWhile (CharClass.of? · = some kind)
    let later := rest.dropWhile (CharClass.of? · = some kind)
    ofChars (c :: rest) = ofRun kind run :: ofChars later ∧ unread (c :: rest) = unread later := by
  intro run later
  have whole : c :: rest = run ++ later := by rw [List.cons_append, List.takeWhile_append_dropWhile]
  have classed : ∀ d ∈ run, CharClass.of? d = some kind := by
    refine List.forall_mem_cons.mpr ⟨found, fun d member => ?_⟩
    simpa using List.mem_takeWhile_imp member
  have native : ∀ d ∈ run, (CharClass.of? d).isSome := fun d member => by simp [classed d member]
  -- The run is followed by another class, so that what is behind is read afresh.
  have seam : Seam run later := by
    apply seam_of_ne
    intro last ends first starts same
    have stops := List.head?_dropWhile_not (CharClass.of? · = some kind) rest
    rw [show (rest.dropWhile (CharClass.of? · = some kind)).head? = some first from starts] at stops
    simp [← same, classed last (List.mem_of_getLast? ends)] at stops
  constructor
  · rw [whole, ofChars_append native seam, ofChars_run joins (List.cons_ne_nil _ _) classed, List.singleton_append]
  · rw [whole, unread, List.dropWhile_append_of_pos native, unread]

theorem ofChars_of_first? (found : first? text = some lexeme) :
    ∃ later, text = lexeme.chars ++ later ∧ 0 < lexeme.chars.length ∧ ofChars text = lexeme :: ofChars later ∧
      unread text = unread later := by
  cases text with
  | nil => cases found
  | cons c rest =>
    obtain ⟨kind, classed, rfl⟩ := Option.map_eq_some_iff.mp found
    cases kind with
    | bracket side =>
      refine ⟨rest, ?_, ?_, ofChars_cons classed rest, ?_⟩
      · simp [ofRun, chars, bracket_chars classed]
      · simp [ofRun, chars, bracket_chars classed]
      · simp [unread, classed]
    | sign | letter | digit =>
      obtain ⟨read, left⟩ := ofChars_takeWhile classed rfl rest
      exact ⟨_, by simp [ofRun, chars], by simp [ofRun, chars], read, left⟩

end Lexeme

def Scan.ended (policy : Policy) (tokens : List Token) (unread : List Char) : Except Fault Scan :=
  if policy.strict ∧ unread ≠ [] then .error (.unrecognizedInput (String.ofList unread)) else .ok ⟨tokens, unread⟩

-- Reading from the left: what stands at the position becomes a token, which is told what came
-- before it, and the position moves behind it.
def readFrom (policy : Policy) (text : List Char) (position : Nat) (tokens : List Token) : Except Fault Scan :=
  match _found : Lexeme.first? (text.drop position) with
  | none => Scan.ended policy tokens (text.drop position)
  | some lexeme => do
    let token ← lexeme.token policy.limit tokens.getLast?
    readFrom policy text (position + lexeme.chars.length) (tokens ++ [token])
termination_by text.length - position
decreasing_by
  obtain ⟨later, split, some, _⟩ := Lexeme.ofChars_of_first? _found
  have size := congrArg List.length split
  rw [List.length_drop, List.length_append] at size
  omega

theorem readFrom_ended (none : Lexeme.first? (text.drop position) = none) :
    readFrom policy text position tokens = Scan.ended policy tokens (text.drop position) := by
  rw [readFrom]
  split
  · rfl
  · rename_i same
    cases none.symm.trans same

theorem readFrom_found (found : Lexeme.first? (text.drop position) = some lexeme) :
    readFrom policy text position tokens = (do
      let token ← lexeme.token policy.limit tokens.getLast?
      readFrom policy text (position + lexeme.chars.length) (tokens ++ [token])) := by
  rw [readFrom]
  split
  · rename_i none
    cases none.symm.trans found
  · rename_i other same
    cases same.symm.trans found
    rfl

theorem readFrom_step (found : Lexeme.first? (text.drop position) = some lexeme)
    (made : lexeme.token policy.limit tokens.getLast? = .ok token) :
    let next := position + lexeme.chars.length
    readFrom policy text position tokens = readFrom policy text next (tokens ++ [token]) ∧
      position < next ∧ next ≤ text.length ∧ text.drop position = lexeme.chars ++ text.drop next := by
  intro next
  obtain ⟨later, split, someChar, _⟩ := Lexeme.ofChars_of_first? found
  have size := congrArg List.length split
  rw [List.length_drop, List.length_append] at size
  have behind : text.drop next = later := by rw [← List.drop_drop, split, List.drop_left]
  refine ⟨?_, by omega, by omega, by rw [behind, split]⟩
  rw [readFrom_found found, made, ok_bind]

-- Reading to the end comes to the tokens of all lexemes behind the position, by induction on
-- the steps that are left.
theorem readFrom_eq (policy : Policy) (text : List Char) (position : Nat) (tokens : List Token) :
    readFrom policy text position tokens = (do
      let rest ← Lexeme.tokensAfter policy.limit tokens.getLast? (Lexeme.ofChars (text.drop position))
      Scan.ended policy (tokens ++ rest) (Lexeme.unread (text.drop position))) := by
  induction position, tokens using readFrom.induct text with
  | case1 position tokens none =>
    obtain ⟨pieces, unread⟩ := Lexeme.ofChars_of_first?_none none
    rw [readFrom_ended none, pieces, unread, Lexeme.tokensAfter, ok_bind, List.append_nil]
  | case2 position tokens lexeme found ih =>
    obtain ⟨later, split, _, pieces, unread⟩ := Lexeme.ofChars_of_first? found
    have behind : text.drop (position + lexeme.chars.length) = later := by
      rw [← List.drop_drop, split, List.drop_left]
    rw [readFrom_found found, pieces, unread, Lexeme.tokensAfter]
    cases lexeme.token policy.limit tokens.getLast? with
    | error fault => rfl
    | ok token =>
      simp only [ok_bind, ih token, behind, List.getLast?_append, List.getLast?_singleton, Option.some_or]
      cases Lexeme.tokensAfter policy.limit (some token) (Lexeme.ofChars later) with
      | error fault => rfl
      | ok rest => simp

theorem scan_eq_readFrom (policy : Policy) (line : String) :
    Scan.ofLine policy line = readFrom policy (Text.removeBlanks line.toList) 0 [] := by
  rw [readFrom_eq]
  rfl

end Calculator
