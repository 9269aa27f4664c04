import Calculator.Proofs.CanonicalTokens
import Calculator.Proofs.Conversions
namespace Calculator

theorem isChain_of_forall₂ {R : α → β → Prop} {P : α → α → Prop} {Q : β → β → Prop}
    (related : List.Forall₂ R lefts rights) (chain : lefts.IsChain P)
    (step : ∀ {first second image next}, R first image → R second next → P first second → Q image next) :
    rights.IsChain Q := by
  induction related with
  | nil => exact .nil
  | cons here rest ih =>
    have behind := ih chain.tail
    cases rest with
    | nil => exact .singleton _
    | cons next more => exact .cons_cons (step here next (List.isChain_cons_cons.mp chain).1) behind

theorem collapse_ne_nil (someSign : run ≠ []) : collapse run ≠ [] := by
  rw [collapse, if_neg someSign]
  split_ifs <;> simp [someSign]

-- An even number of minus signs becomes a plus, which the run need not hold.
theorem collapse_cases (member : c ∈ collapse run) : c ∈ run ∨ c = '+' := by
  unfold collapse at member
  split_ifs at member with empty plus minus even
  · exact .inl (empty ▸ member)
  · exact .inr (List.mem_singleton.mp member)
  · exact .inr (List.mem_singleton.mp member)
  · obtain ⟨sign, others, rfl⟩ := List.exists_cons_of_ne_nil empty
    have first : sign = '-' := by simpa using List.all_eq_true.mp minus sign List.mem_cons_self
    rw [List.mem_singleton.mp member, first]
    exact .inl List.mem_cons_self
  · exact .inl member

namespace Lexeme

namespace StandsFor

theorem writable (standsFor : StandsFor lexeme made) (proper : lexeme.Proper) : made.Writable := by
  cases standsFor with
  | bracket side => trivial
  | @signs run symbol collapses unary =>
    obtain ⟨_, rfl⟩ := collapses_iff.mp collapses
    obtain ⟨someSign, signs⟩ := Proper.classed (show (ofRun .sign run).Proper from proper) rfl
    refine ⟨by simpa using collapse_ne_nil someSign, fun c member => ?_, by simp [collapse_idem]⟩
    rw [String.toList_ofList] at member
    rcases collapse_cases member with within | rfl
    · exact CharClass.sign_cases (signs c within)
    · exact List.mem_cons_self
  | letters run =>
    obtain ⟨someLetter, letters⟩ := Proper.classed (show (ofRun .letter run).Proper from proper) rfl
    have alphabetic : ∀ c ∈ run, c.isAlpha = true := fun c member => CharClass.isAlpha_of_of? (letters c member)
    simpa [Token.Writable, isName, someLetter] using alphabetic
  | digits denotes => exact Int.natCast_nonneg _

theorem apart (first : StandsFor piece made) (second : StandsFor next follower) (apart : Apart piece next) :
    made.Apart follower := by
  -- Tokens of one kind would be runs of one class.
  cases first <;> cases second <;>
    first
    | trivial
    | exact absurd (apart .sign _ _ rfl rfl) (by decide)
    | exact absurd (apart .letter _ _ rfl rfl) (by decide)
    | exact absurd (apart .digit _ _ rfl rfl) (by decide)

end StandsFor
end Lexeme

theorem tokensOfLine_standsFor (read : tokensOfLine policy line = .ok tokens) :
    List.Forall₂ Lexeme.StandsFor (Lexeme.ofChars (Text.removeBlanks line.toList)) tokens :=
  (Lexeme.tokensAfter_standsFor (tokensOfLine_inv read) (Lexeme.ofChars_proper _)).imp fun _ _ both => both.1

theorem Token.Canonical.of_line (read : tokensOfLine policy line = .ok tokens) : Token.Canonical tokens := by
  have pieces := tokensOfLine_standsFor read
  refine Token.canonical_iff.mpr ⟨?writable, ?apart, tokensOfLine_placed read⟩
  case writable =>
    intro token member
    obtain ⟨lexeme, within, standsFor⟩ := exists_of_forall₂ pieces member
    exact standsFor.writable (Lexeme.ofChars_proper _ lexeme within)
  case apart => exact isChain_of_forall₂ pieces (Lexeme.ofChars_apart _) Lexeme.StandsFor.apart

namespace Token

theorem Fits.piece_fits {token : Token} (fits : token.Fits limit) : token.piece.Fits limit := by
  cases token with
  | integer value => exact fits
  | _ => trivial

theorem Fits.looser {token : Token} (fits : token.Fits limit)
    (looser : ∀ count, limit.Allows count → other.Allows count) : token.Fits other := by
  cases token with
  | integer value => exact looser _ fits
  | _ => trivial

theorem Canonical.reread (canonical : Canonical tokens) (fits : ∀ token ∈ tokens, token.Fits policy.limit) :
    tokensOfLine policy (String.ofList (tokens.flatMap fun token => token.source.toList)) = .ok tokens := by
  have cut := canonical.cut
  obtain ⟨_, unread, pieces⟩ := cut.unique
  -- No token is written with a blank, so that none is dropped from the line.
  have blankless : ∀ c ∈ tokens.flatMap fun token => token.source.toList, Text.isBlank c = false := by
    intro c member
    obtain ⟨kind, found⟩ := Option.isSome_iff_exists.mp (cut.native c member)
    exact CharClass.not_blank found
  have short : ∀ lexeme ∈ tokens.map piece, lexeme.Fits policy.limit :=
    List.forall_mem_map.mpr fun token member => (fits token member).piece_fits
  rw [tokensOfLine_ok_iff, String.toList_ofList, Text.removeBlanks_eq_self blankless, ← unread, ← pieces,
    Lexeme.tokensAfter_fits short]
  exact ⟨tokensAfter_pieces canonical.writable canonical.placed, fun _ => rfl⟩

end Token

-- Whatever line they come from, tokens are such as a line can hold, and what they are written
-- as is read as the same tokens, under the same limit or a looser one. A literal may have
-- lost its leading zeros in between, so that it is no longer than before.
theorem tokensOfLine_reread (read : tokensOfLine policy line = .ok tokens) :
    Token.Canonical tokens ∧
      ∀ again : Policy, (∀ count, policy.limit.Allows count → again.limit.Allows count) →
        tokensOfLine again (String.ofList (tokens.flatMap fun token => token.source.toList)) = .ok tokens := by
  have canonical := Token.Canonical.of_line read
  refine ⟨canonical, fun again looser => canonical.reread fun token member => ?_⟩
  exact (tokensOfLine_fits read token member).looser looser

theorem tokensOfLine_reread_foreign :
    let policy : Policy := ⟨false, .atMost 3⟩
    let tokens : List Token := [.bracket .opening, .operator ⟨"+", true⟩, .integer 70, .operator ⟨"-+*", false⟩,
      .identifier "ab", .integer 0, .bracket .closing, .operator ⟨"-", false⟩]
    tokensOfLine policy "( --0 70 -+ *a b 0)-\t--# 2" = .ok tokens ∧ Token.Canonical tokens ∧
      String.ofList (tokens.flatMap fun token => token.source.toList) = "(+70-+*ab0)-" ∧
      ∀ again : Policy, (∀ count, policy.limit.Allows count → again.limit.Allows count) →
        tokensOfLine again (String.ofList (tokens.flatMap fun token => token.source.toList)) = .ok tokens := by
  intro policy tokens
  have read : tokensOfLine policy "( --0 70 -+ *a b 0)-\t--# 2" = .ok tokens := by rfl
  obtain ⟨canonical, again⟩ := tokensOfLine_reread read
  exact ⟨read, canonical, by rfl, again⟩

end Calculator
