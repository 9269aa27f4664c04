import Calculator.Proofs.LinePieces
namespace Calculator

namespace Text

inductive Spread : List Char → List Char → Prop
  | done : Spread [] []
  | char (c : Char) (rest : Spread text line) : Spread (c :: text) (c :: line)
  | gap (blank : isBlank c = true) (rest : Spread text line) : Spread text (c :: line)

theorem Spread.removeBlanks_eq (spread : Spread text line) : removeBlanks line = removeBlanks text := by
  induction spread with
  | done => rfl
  | @char text line c rest ih =>
    have split (later : List Char) : removeBlanks (c :: later) = removeBlanks [c] ++ removeBlanks later :=
      removeBlanks_append [c] later
    rw [split line, split text, ih]
  | gap blank rest ih => simpa [removeBlanks, blank] using ih

theorem spread_removeBlanks (line : List Char) : Spread (removeBlanks line) line := by
  induction line with
  | nil => exact .done
  | cons c rest ih =>
    by_cases blank : isBlank c = true
    · simpa [removeBlanks, blank] using Spread.gap blank ih
    · simpa [removeBlanks, blank] using Spread.char c ih

end Text

theorem isName_iff : isName text = true ↔ text.toList ≠ [] ∧ ∀ c ∈ text.toList, c.isAlpha = true := by
  simp [isName]

theorem CharClass.visible (found : of? c = some kind) : 0x21 ≤ c.toNat ∧ c.toNat ≤ 0x7E := by
  unfold of? at found
  split_ifs at found with opening closing sign letter digit
  · simp [opening]
  · simp [closing]
  · rcases sign with rfl | rfl | rfl | rfl <;> decide
  · obtain ⟨first, last⟩ := letter_toNat letter
    exact ⟨Nat.le_trans (by decide) first, Nat.le_trans last (by decide)⟩
  · obtain ⟨first, last⟩ := Char.isDigit_iff_toNat.mp digit
    exact ⟨Nat.le_trans (by decide) first, Nat.le_trans last (by decide)⟩

theorem CharClass.not_blank (found : of? c = some kind) : Text.isBlank c = false := by
  obtain ⟨first, last⟩ := visible found
  simp [Text.isBlank, Text.isWhiteSpace]
  omega

namespace Token

-- How a line writes a token: of an operator only the symbol, since its place tells the rest.
def source : Token → String
  | .operator op => op.symbol
  | token => token.text

def Writable : Token → Prop
  | .integer value => 0 ≤ value
  | .identifier name => isName name = true
  | .operator op => op.symbol ≠ "" ∧ (∀ c ∈ op.symbol.toList, c ∈ ['+', '-', '*', '/']) ∧
      collapse op.symbol.toList = op.symbol.toList
  | .bracket _ => True

def Apart : Token → Token → Prop
  | .integer _, .integer _ => False
  | .identifier _, .identifier _ => False
  | .operator _, .operator _ => False
  | _, _ => True

structure Canonical (tokens : List Token) : Prop where
  writable : ∀ token ∈ tokens, token.Writable
  apart : tokens.IsChain Apart
  prefixed : ∀ left op right, tokens = left ++ .operator op :: right →
    (op.unary = true ↔ left = [] ∨ left.getLast? = some (.bracket .opening))

theorem placed_iff : Placed before tokens ↔ ∀ left op right, tokens = left ++ .operator op :: right →
    op.unary = expectsOperand (left.getLast?.or before) ∧
      ∀ prior, left.getLast?.or before ≠ some (.operator prior) := by
  induction tokens generalizing before with
  | nil => exact iff_of_true trivial (by simp)
  | cons token later ih =>
    constructor
    · intro placed left op right same
      rcases List.cons_eq_append_iff.mp same with ⟨rfl, heads⟩ | ⟨inner, rfl, tail⟩
      · cases heads
        exact ⟨placed.1, placed.2.1⟩
      · rw [getLast?_cons_or]
        exact ih.mp placed.tail inner op right tail
    · intro all
      have rest : Placed (some token) later := ih.mpr fun left op right same => by
        rw [← getLast?_cons_or token left before]
        exact all (token :: left) op right (congrArg (token :: ·) same)
      cases token with
      | operator op => exact ⟨(all [] op later rfl).1, (all [] op later rfl).2, rest⟩
      | _ => exact rest

theorem expectsOperand_getLast? (noOperator : ∀ prior, left.getLast? ≠ some (.operator prior)) :
    expectsOperand left.getLast? = true ↔ left = [] ∨ left.getLast? = some (.bracket .opening) := by
  rw [← List.getLast?_eq_none_iff]
  cases last : left.getLast? with
  | none => simp [expectsOperand]
  | some token =>
    cases token with
    | operator op => exact absurd last (noOperator op)
    | bracket side => cases side <;> simp [expectsOperand]
    | integer value => simp [expectsOperand]
    | identifier name => simp [expectsOperand]

theorem Placed.prefixed (placed : Placed none tokens) (left : List Token) (op : Operator) (right : List Token)
    (split : tokens = left ++ .operator op :: right) :
    op.unary = true ↔ left = [] ∨ left.getLast? = some (.bracket .opening) := by
  obtain ⟨unary, noOperator⟩ := placed_iff.mp placed left op right split
  rw [Option.or_none] at unary noOperator
  rw [unary, expectsOperand_getLast? noOperator]

theorem Canonical.placed (canonical : Canonical tokens) : Placed none tokens := by
  apply placed_iff.mpr
  intro left op right split
  rw [Option.or_none]
  have noOperator : ∀ prior, left.getLast? ≠ some (.operator prior) := by
    intro prior ends
    have apart := canonical.apart
    rw [split] at apart
    exact (List.isChain_append.mp apart).2.2 _ ends (.operator op) rfl
  refine ⟨?_, noOperator⟩
  rw [Bool.eq_iff_iff, expectsOperand_getLast? noOperator]
  exact canonical.prefixed left op right split

theorem canonical_iff : Canonical tokens ↔
    (∀ token ∈ tokens, token.Writable) ∧ tokens.IsChain Apart ∧ Placed none tokens := by
  constructor
  · intro canonical
    exact ⟨canonical.writable, canonical.apart, canonical.placed⟩
  · rintro ⟨writable, apart, placed⟩
    exact ⟨writable, apart, placed.prefixed⟩

def piece : Token → Lexeme
  | .integer value => .digits (Decimal.digits value.natAbs)
  | .identifier name => .letters name.toList
  | .operator op => .signs op.symbol.toList
  | .bracket side => .bracket side

theorem Writable.source_eq (writable : Writable token) : token.source.toList = token.piece.chars := by
  cases token with
  | integer value =>
    have positive : ¬ value < 0 := Int.not_lt.mpr writable
    simp [source, text, Decimal.text, Decimal.chars, positive, piece, Lexeme.chars]
  | _ => rfl

theorem Writable.proper (writable : Writable token) : token.piece.Proper := by
  cases token with
  | integer value =>
    exact ⟨.digit, rfl, Decimal.digits_ne_nil _, fun c member =>
      CharClass.of?_digit (Decimal.isDigit_of_mem_digits member)⟩
  | identifier name =>
    obtain ⟨someLetter, letters⟩ := isName_iff.mp writable
    exact ⟨.letter, rfl, someLetter, fun c member => CharClass.of?_letter (letters c member)⟩
  | operator op =>
    obtain ⟨someSign, signs, _⟩ := writable
    refine ⟨.sign, rfl, by simpa [piece, Lexeme.chars] using someSign, fun c member => ?_⟩
    have known := signs c member
    simp only [List.mem_cons, List.not_mem_nil, or_false] at known
    rcases known with rfl | rfl | rfl | rfl <;> rfl
  | bracket side =>
    cases side with
    | opening => exact Lexeme.proper_single (show CharClass.of? '(' = some (.bracket .opening) from rfl)
    | closing => exact Lexeme.proper_single (show CharClass.of? ')' = some (.bracket .closing) from rfl)

theorem Apart.pieces (apart : Apart first second) : Lexeme.Apart first.piece second.piece := by
  intro kind run next firstSame secondSame
  cases kind with
  | bracket side => rfl
  | sign | letter | digit =>
    cases first <;> cases second <;>
      first
      | exact apart.elim
      | cases firstSame <;> cases secondSame

theorem token_piece (writable : Writable token)
    (placed : ∀ op, token = .operator op → op.unary = expectsOperand before) :
    token.piece.token .unlimited before = .ok token := by
  cases token with
  | integer value =>
    have literal : DigitLimit.unlimited.read (Decimal.digits value.natAbs) = .ok value.natAbs :=
      DigitLimit.read_ok_iff.mpr ⟨trivial, Decimal.ofDigits_digits _⟩
    simp only [piece, Lexeme.token, literal]
    rw [Int.natAbs_of_nonneg writable]
  | identifier name => simp [piece, Lexeme.token]
  | operator op =>
    obtain ⟨_, _, collapsed⟩ := writable
    simp [piece, Lexeme.token, collapsed, ← placed op rfl]
  | bracket side => rfl

theorem tokensAfter_pieces (writable : ∀ token ∈ tokens, token.Writable) (placed : Placed before tokens) :
    Lexeme.tokensAfter .unlimited before (tokens.map piece) = .ok tokens := by
  induction tokens generalizing before with
  | nil => rfl
  | cons token later ih =>
    have here : ∀ op, token = .operator op → op.unary = expectsOperand before := by
      rintro op rfl
      exact placed.1
    have rest := ih (fun other member => writable other (List.mem_cons_of_mem _ member)) placed.tail
    exact Lexeme.tokensAfter_cons_ok (token_piece (writable token List.mem_cons_self) here) rest

theorem Canonical.cut (canonical : Canonical tokens) :
    Cut (tokens.flatMap fun token => token.source.toList) (tokens.flatMap fun token => token.source.toList) []
      (tokens.map piece) where
  whole := (List.append_nil _).symm
  native := by
    intro c member
    obtain ⟨token, within, spelled⟩ := List.mem_flatMap.mp member
    have writable := canonical.writable token within
    rw [writable.source_eq] at spelled
    exact writable.proper.native c spelled
  foreign := by simp
  spelled := by
    rw [List.flatMap_map]
    exact List.flatMap_congr fun token member => (canonical.writable token member).source_eq.symm
  proper := by
    intro piece member
    obtain ⟨token, within, rfl⟩ := List.mem_map.mp member
    exact (canonical.writable token within).proper
  maximal := List.isChain_map_of_isChain piece (fun _ _ => Apart.pieces) canonical.apart

end Token

-- Tokens that a line can hold are read back from the line that holds them, wherever blanks
-- were put into it and whether reading is strict or not.
theorem tokensOfLine_canonical (canonical : Token.Canonical tokens)
    (spread : Text.Spread (tokens.flatMap fun token => token.source.toList) line.toList) (strict : Bool) :
    tokensOfLine ⟨strict, .unlimited⟩ line = .ok tokens := by
  have cut := canonical.cut
  obtain ⟨_, unread, pieces⟩ := cut.unique
  have text : Text.removeBlanks line.toList = tokens.flatMap fun token => token.source.toList := by
    rw [spread.removeBlanks_eq]
    apply Text.removeBlanks_eq_self
    intro c member
    obtain ⟨kind, found⟩ := Option.isSome_iff_exists.mp (cut.native c member)
    exact CharClass.not_blank found
  rw [tokensOfLine_ok_iff, text, ← unread, ← pieces]
  exact ⟨Token.tokensAfter_pieces canonical.writable canonical.placed, fun _ => rfl⟩

theorem tokensOfLine_canonical_spread :
    let tokens : List Token := [.operator ⟨"-", true⟩, .bracket .opening, .operator ⟨"*-", true⟩, .identifier "x",
      .integer 120, .bracket .closing, .operator ⟨"/", false⟩, .integer 7, .identifier "ab"]
    Token.Canonical tokens ∧
      Text.Spread (tokens.flatMap fun token => token.source.toList) " - ( * -x 1 20)\t/7a b".toList ∧
      ∀ strict, tokensOfLine ⟨strict, .unlimited⟩ " - ( * -x 1 20)\t/7a b" = .ok tokens := by
  intro tokens
  have canonical : Token.Canonical tokens := by
    refine Token.canonical_iff.mpr ⟨?_, ?_, ?_⟩
    · simp [tokens, Token.Writable, isName, collapse]
    · simp [tokens, Token.Apart]
    · simp [tokens, Token.Placed, Token.expectsOperand]
  have text : Text.removeBlanks " - ( * -x 1 20)\t/7a b".toList =
      tokens.flatMap fun token => token.source.toList := by decide
  have spread := text ▸ Text.spread_removeBlanks " - ( * -x 1 20)\t/7a b".toList
  exact ⟨canonical, spread, tokensOfLine_canonical canonical spread⟩

end Calculator
