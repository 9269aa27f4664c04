import Calculator.Proofs.LimitedLines
import Calculator.Proofs.Meanings
import Mathlib.Data.List.Forall2
namespace Calculator

-- What can be read of a text stands before its first foreign character and falls into
-- brackets and runs, each as long as it can be.
structure Cut (text known rest : List Char) (pieces : List Lexeme) : Prop where
  whole : text = known ++ rest
  native : ∀ c ∈ known, (CharClass.of? c).isSome = true
  foreign : ∀ c ∈ rest.head?, CharClass.of? c = none
  spelled : pieces.flatMap Lexeme.chars = known
  proper : ∀ piece ∈ pieces, piece.Proper
  maximal : pieces.IsChain Lexeme.Apart

namespace Lexeme

theorem Proper.native (proper : Proper lexeme) : ∀ c ∈ lexeme.chars, (CharClass.of? c).isSome = true := by
  obtain ⟨kind, _, _, all⟩ := proper
  intro c member
  simp [all c member]

theorem Proper.ofChars_chars (proper : Proper lexeme) : ofChars lexeme.chars = [lexeme] := by
  obtain ⟨kind, same, someChar, all⟩ := proper
  cases kind with
  | bracket side =>
    rw [same]
    cases side <;> rfl
  | sign | letter | digit => rw [ofChars_run rfl someChar all, ← same]

theorem Apart.seam (apart : Apart first second) (firstProper : first.Proper) (secondProper : second.Proper)
    (rest : List Char) : Seam first.chars (second.chars ++ rest) := by
  obtain ⟨kind, firstSame, _, firstAll⟩ := firstProper
  obtain ⟨next, secondSame, someChar, secondAll⟩ := secondProper
  intro last ends head starts shared lastKind headKind
  rw [List.head?_append_of_ne_nil _ someChar] at starts
  cases lastKind.symm.trans (firstAll last (List.mem_of_getLast? ends))
  cases headKind.symm.trans (secondAll head (List.mem_of_head? starts))
  exact apart kind _ _ firstSame secondSame

theorem ofChars_flatMap (proper : ∀ piece ∈ pieces, piece.Proper) (maximal : pieces.IsChain Apart)
    (foreign : ∀ c ∈ rest.head?, CharClass.of? c = none) : ofChars (pieces.flatMap chars ++ rest) = pieces := by
  induction pieces with
  | nil =>
    cases rest with
    | nil => rfl
    | cons c more => simp [ofChars, foreign c rfl]
  | cons piece later ih =>
    have own : piece.Proper := proper piece List.mem_cons_self
    have others : ∀ other ∈ later, other.Proper := fun other member => proper other (List.mem_cons_of_mem _ member)
    have seam : Seam piece.chars (later.flatMap chars ++ rest) := by
      cases later with
      | nil =>
        intro last _ first starts kind _ found
        cases found.symm.trans (foreign first starts)
      | cons next more =>
        rw [List.flatMap_cons, List.append_assoc]
        exact (List.isChain_cons_cons.mp maximal).1.seam own (others next List.mem_cons_self) _
    rw [List.flatMap_cons, List.append_assoc, ofChars_append own.native seam, own.ofChars_chars,
      ih others maximal.tail, List.singleton_append]

theorem cut (text : List Char) : Cut text ((ofChars text).flatMap chars) (unread text) (ofChars text) where
  whole := (ofChars_append_unread text).symm
  native := by
    intro c member
    obtain ⟨piece, within, spelled⟩ := List.mem_flatMap.mp member
    exact (ofChars_proper text piece within).native c spelled
  foreign := unread_head text
  spelled := rfl
  proper := ofChars_proper text
  maximal := ofChars_apart text

end Lexeme

theorem Cut.unique (cut : Cut text known rest pieces) :
    known = (Lexeme.ofChars text).flatMap Lexeme.chars ∧ rest = Lexeme.unread text ∧ pieces = Lexeme.ofChars text := by
  have read : Lexeme.ofChars text = pieces := by
    rw [cut.whole, ← cut.spelled]
    exact Lexeme.ofChars_flatMap cut.proper cut.maximal cut.foreign
  have front : (Lexeme.ofChars text).flatMap Lexeme.chars = known := by rw [read, cut.spelled]
  have whole : known ++ Lexeme.unread text = known ++ rest := by
    rw [← cut.whole, ← front, Lexeme.ofChars_append_unread]
  exact ⟨front.symm, (List.append_cancel_left whole).symm, read.symm⟩

namespace Lexeme

inductive StandsFor : Lexeme → Token → Prop
  | bracket (side : Bracket) : StandsFor (.bracket side) (.bracket side)
  | signs (collapses : Collapses run symbol) (unary : Bool) :
      StandsFor (.signs run) (.operator ⟨String.ofList symbol, unary⟩)
  | letters (run : List Char) : StandsFor (.letters run) (.identifier (String.ofList run))
  | digits (denotes : Decimal.Denotes run n) : StandsFor (.digits run) (.integer n)

theorem token_standsFor (made : token limit before lexeme = .ok first) (proper : lexeme.Proper) :
    StandsFor lexeme first ∧ Fits limit lexeme := by
  cases lexeme with
  | bracket side =>
    cases made
    exact ⟨.bracket side, trivial⟩
  | signs run =>
    cases made
    obtain ⟨someSign, _⟩ := Proper.classed (show (ofRun .sign run).Proper from proper) rfl
    exact ⟨.signs (collapses_iff.mpr ⟨someSign, rfl⟩) _, trivial⟩
  | letters run =>
    cases made
    exact ⟨.letters run, trivial⟩
  | digits run =>
    simp only [token] at made
    split at made
    · rename_i n literal
      cases made
      obtain ⟨allowed, rfl⟩ := DigitLimit.read_ok_iff.mp literal
      obtain ⟨someDigit, allDigits⟩ := proper.digits_run
      exact ⟨.digits (Decimal.denotes_ofDigits someDigit allDigits), allowed⟩
    · cases made

theorem tokensAfter_standsFor (read : tokensAfter limit before lexemes = .ok tokens)
    (proper : ∀ lexeme ∈ lexemes, lexeme.Proper) :
    List.Forall₂ (fun lexeme token => StandsFor lexeme token ∧ Fits limit lexeme) lexemes tokens := by
  induction lexemes generalizing before tokens with
  | nil =>
    cases read
    exact .nil
  | cons lexeme later ih =>
    obtain ⟨first, rest, made, readRest, rfl⟩ := tokensAfter_cons_inv read
    exact .cons (token_standsFor made (proper lexeme List.mem_cons_self))
      (ih readRest fun other member => proper other (List.mem_cons_of_mem _ member))

end Lexeme

theorem DigitLimit.allows_ofNat {limit count : Nat} : (ofNat limit).Allows count ↔ limit = 0 ∨ count ≤ limit := by
  unfold ofNat
  split
  · rename_i none
    exact iff_of_true trivial (.inl none)
  · rename_i some
    simp [Allows, some]

theorem tokensOfLine_read (read : Lexeme.tokensAfter policy.limit none (Lexeme.ofChars (Text.removeBlanks line.toList)) =
    .ok tokens) : tokensOfLine policy line =
      if policy.strict = true ∧ Lexeme.unread (Text.removeBlanks line.toList) ≠ [] then
        .error (.unrecognizedInput (String.ofList (Lexeme.unread (Text.removeBlanks line.toList))))
      else .ok tokens := by
  rw [tokensOfLine, Scan.ofLine, read, ok_bind]
  dsimp only
  split <;> rfl

-- A line is cut in one way, and each piece is one token. The first run of digits that is
-- too long is reported before anything foreign, and what is foreign only in strict reading.
theorem tokensOfLine_pieces (line : String) :
    let text := Text.removeBlanks line.toList
    ∃ known rest pieces tokens, Cut text known rest pieces ∧
      (∀ otherKnown otherRest other, Cut text otherKnown otherRest other →
        otherKnown = known ∧ otherRest = rest ∧ other = pieces) ∧
      List.Forall₂ Lexeme.StandsFor pieces tokens ∧ Token.Placed none tokens ∧
      ∀ strict limit,
        ((∃ run, .digits run ∈ pieces ∧ limit ≠ 0 ∧ limit < run.length) →
          ∃ earlier run later, pieces = earlier ++ .digits run :: later ∧ limit < run.length ∧
            (∀ other, .digits other ∈ earlier → other.length ≤ limit) ∧
            tokensOfLine ⟨strict, .ofNat limit⟩ line =
              .error (.literalTooLong run.length ⟨limit, some run.length⟩)) ∧
        ((∀ run, .digits run ∈ pieces → limit = 0 ∨ run.length ≤ limit) →
          tokensOfLine ⟨strict, .ofNat limit⟩ line =
            if strict = true ∧ rest ≠ [] then .error (.unrecognizedInput (String.ofList rest)) else .ok tokens) := by
  intro text
  obtain ⟨tokens, read⟩ := Lexeme.tokensAfter_unlimited none (Lexeme.ofChars text)
  refine ⟨_, _, _, tokens, Lexeme.cut text, fun _ _ _ other => other.unique, ?standsFor, ?placed, ?read⟩
  case standsFor => exact (Lexeme.tokensAfter_standsFor read (Lexeme.ofChars_proper text)).imp fun _ _ both => both.1
  case placed => exact Lexeme.tokensAfter_placed read (Lexeme.ofChars_apart text) (by simp)
  case read =>
    intro strict limit
    constructor
    · rintro ⟨run, member, limited, long⟩
      obtain ⟨before, after, split⟩ := List.append_of_mem member
      obtain ⟨earlier, first, later, parts, fits, longer⟩ :=
        Lexeme.firstOverlong_exists (Lexeme.digitRun_of_ofChars split) long
      have bound : DigitLimit.ofNat limit = .atMost limit := if_neg limited
      refine ⟨earlier, first, later, parts, longer, fun other within => fits _ within, ?_⟩
      rw [bound]
      exact tokensOfLine_overlong parts fits (Nat.not_le_of_lt longer)
    · intro short
      have fits : ∀ lexeme ∈ Lexeme.ofChars text, Lexeme.Fits (.ofNat limit) lexeme := by
        intro lexeme member
        cases lexeme with
        | digits run => exact DigitLimit.allows_ofNat.mpr (short run member)
        | bracket side => trivial
        | signs run => trivial
        | letters run => trivial
      exact tokensOfLine_read ((Lexeme.tokensAfter_fits fits none).trans read)

theorem tokensOfLine_pieces_foreign :
    let line := "(1 2x--+003$4"
    let pieces : List Lexeme := [.bracket .opening, .digits ['1', '2'], .letters ['x'], .signs ['-', '-', '+'],
      .digits ['0', '0', '3']]
    let tokens : List Token := [.bracket .opening, .integer 12, .identifier "x", .operator ⟨"--+", false⟩, .integer 3]
    Cut (Text.removeBlanks line.toList) "(12x--+003".toList "$4".toList pieces ∧
      List.Forall₂ Lexeme.StandsFor pieces tokens ∧
      tokensOfLine ⟨false, .unlimited⟩ line = .ok tokens ∧
      tokensOfLine ⟨true, .unlimited⟩ line = .error (.unrecognizedInput "$4") ∧
      ∀ strict, tokensOfLine ⟨strict, .ofNat 2⟩ line = .error (.literalTooLong 3 ⟨2, some 3⟩) := by
  intro line pieces tokens
  have cut : Cut (Text.removeBlanks "(1 2x--+003$4".toList) "(12x--+003".toList "$4".toList pieces := Lexeme.cut _
  obtain ⟨known, rest, found, read, _, unique, standsFor, _, answers⟩ := tokensOfLine_pieces line
  obtain ⟨rfl, rfl, rfl⟩ := unique _ _ _ cut
  have lenient : tokensOfLine ⟨false, .unlimited⟩ line = .ok read := (answers false 0).2 fun _ _ => .inl rfl
  have strict : tokensOfLine ⟨true, .unlimited⟩ line = .error (.unrecognizedInput "$4") :=
    (answers true 0).2 fun _ _ => .inl rfl
  have same : tokensOfLine ⟨false, .unlimited⟩ "(1 2x--+003$4" = .ok tokens := by rfl
  obtain rfl : tokens = read := Except.ok.inj (same.symm.trans lenient)
  refine ⟨cut, standsFor, lenient, strict, fun strict => ?_⟩
  obtain ⟨earlier, run, later, split, long, _, refused⟩ :=
    (answers strict 2).1 ⟨['0', '0', '3'], by simp [pieces], by decide, by decide⟩
  have member : .digits run ∈ pieces := by simp [split]
  obtain rfl | rfl : run = ['1', '2'] ∨ run = ['0', '0', '3'] := by simpa [pieces] using member
  · exact absurd long (by decide)
  · exact refused

end Calculator
