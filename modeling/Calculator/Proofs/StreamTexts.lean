import Calculator.Proofs.ReadTokens
namespace Calculator

namespace Token

def shown : Token → List Lexeme
  | .operator ⟨symbol, true⟩ => [.letters ['u'], .signs symbol.toList]
  | token => [token.piece]

-- The letter is a mark only in front of signs; by itself it is a name.
def ofPieces? : List Lexeme → Option Token
  | [.letters ['u'], .signs run] => some (.operator ⟨String.ofList run, true⟩)
  | [.signs run] => some (.operator ⟨String.ofList run, false⟩)
  | [.letters run] => some (.identifier (String.ofList run))
  | [.digits run] => some (.integer (Decimal.ofDigits run))
  | [.bracket side] => some (.bracket side)
  | _ => none

def readAll? (text : String) : Option (List Token) :=
  ((text.toList.splitOn ' ').filter (· ≠ [])).mapM fun word => ofPieces? (Lexeme.ofChars word)

theorem shown_ne_nil (token : Token) : token.shown ≠ [] := by
  rcases token with _ | _ | ⟨_, _ | _⟩ | _ <;> exact List.cons_ne_nil _ _

theorem shown_apart (token : Token) : token.shown.IsChain Lexeme.Apart := by
  rcases token with value | name | ⟨symbol, _ | _⟩ | side
  case operator.true =>
    refine .cons_cons ?_ (.singleton _)
    intro kind run next letters signs
    cases kind with
    | bracket side => rfl
    | sign | letter | digit => cases letters <;> cases signs
  all_goals exact .singleton _

namespace Writable

theorem shown_proper (writable : Writable token) : ∀ piece ∈ token.shown, piece.Proper := by
  have own := writable.proper
  rcases token with value | name | ⟨symbol, _ | _⟩ | side
  case operator.true =>
    have mark : (Lexeme.letters ['u']).Proper := Lexeme.proper_single (show CharClass.of? 'u' = some .letter from rfl)
    exact List.forall_mem_cons.mpr ⟨mark, List.forall_mem_singleton.mpr own⟩
  all_goals exact List.forall_mem_singleton.mpr own

theorem shown_chars (writable : Writable token) : token.shown.flatMap Lexeme.chars = token.text.toList := by
  have own := writable.source_eq
  rcases token with value | name | ⟨symbol, _ | _⟩ | side
  case operator.true => simp [shown, Lexeme.chars, text, Operator.text]
  all_goals simpa [shown, text, source, Operator.text] using own.symm

theorem ofChars_text (writable : Writable token) : Lexeme.ofChars token.text.toList = token.shown := by
  have ended : ∀ c ∈ ([] : List Char).head?, CharClass.of? c = none := nofun
  have read := Lexeme.ofChars_flatMap writable.shown_proper (shown_apart token) ended
  rwa [List.append_nil, writable.shown_chars] at read

theorem ofPieces?_shown (writable : Writable token) : ofPieces? token.shown = some token := by
  rcases token with value | name | ⟨symbol, _ | _⟩ | side
  case integer =>
    have magnitude : (value.natAbs : Int) = value := Int.natAbs_of_nonneg writable
    simp [shown, piece, ofPieces?, Decimal.ofDigits_digits, magnitude]
  all_goals simp [shown, piece, ofPieces?]

theorem text_ne_nil (writable : Writable token) : token.text.toList ≠ [] := by
  intro empty
  have none := writable.ofChars_text
  rw [empty] at none
  exact shown_ne_nil token none.symm

theorem not_space_mem_text (writable : Writable token) : ' ' ∉ token.text.toList := by
  rw [← writable.shown_chars]
  intro space
  obtain ⟨piece, within, spelled⟩ := List.mem_flatMap.mp space
  exact absurd ((writable.shown_proper piece within).native ' ' spelled) (by decide)

end Writable

theorem words_intercalate {tokens : List Token} (writable : ∀ token ∈ tokens, token.Writable) :
    ((String.intercalate " " (tokens.map text)).toList.splitOn ' ').filter (· ≠ []) =
      tokens.map fun token => token.text.toList := by
  have joined : (String.intercalate " " (tokens.map text)).toList =
      [' '].intercalate (tokens.map fun token => token.text.toList) := by
    simp [String.toList_intercalate, Function.comp_def]
  have solid : ∀ word ∈ tokens.map fun token => token.text.toList, ' ' ∉ word :=
    List.forall_mem_map.mpr fun token member => (writable token member).not_space_mem_text
  have filled : ∀ word ∈ tokens.map fun token => token.text.toList, decide (word ≠ []) = true :=
    List.forall_mem_map.mpr fun token member => decide_eq_true (writable token member).text_ne_nil
  rw [joined]
  cases tokens with
  | nil => rfl
  | cons token later => rw [List.splitOn_intercalate ' ' solid (List.cons_ne_nil _ _), List.filter_eq_self.mpr filled]

theorem readAll?_intercalate {tokens : List Token} (writable : ∀ token ∈ tokens, token.Writable) :
    readAll? (String.intercalate " " (tokens.map text)) = some tokens := by
  have back : ∀ token ∈ tokens, ofPieces? (Lexeme.ofChars token.text.toList) = some token := by
    intro token member
    rw [(writable token member).ofChars_text, (writable token member).ofPieces?_shown]
  rw [readAll?, words_intercalate writable, List.mapM_map]
  exact (mapM_of_forall back).trans (congrArg some (List.map_id tokens))

end Token

theorem postfixOfLine_writable (converted : postfixOfLine policy line = .ok stream) :
    ∀ token ∈ stream, token.Writable := by
  obtain ⟨tokens, read, converted⟩ := bind_eq_ok.mp converted
  exact fun token member => (Token.Canonical.of_line read).writable token (postfixOf_subset converted member)

theorem postfixOfLine_readAll (converted : postfixOfLine policy line = .ok stream) :
    ∃ text, Token.printAll policy.limit stream = .ok text ∧ Token.readAll? text = some stream :=
  ⟨_, Token.printAll_eq (postfixOfLine_fits converted), Token.readAll?_intercalate (postfixOfLine_writable converted)⟩

-- The postfix stream of a line can be listed, and the listing tells every token of it: two
-- lines with one listing have one stream, and so one value or one fault in every store.
theorem printAll_postfixOfLine_inj (first : postfixOfLine policy line = .ok stream)
    (second : postfixOfLine other another = .ok found) :
    ∃ text foundText, Token.printAll policy.limit stream = .ok text ∧ Token.printAll other.limit found = .ok foundText ∧
      (text = foundText ↔ stream = found) ∧
      (text = foundText → ∀ store, valueOfLine policy store line = valueOfLine other store another ∧
        (policy.limit = other.limit → evaluate policy store line = evaluate other store another)) := by
  obtain ⟨text, printed, read⟩ := postfixOfLine_readAll first
  obtain ⟨foundText, foundPrinted, foundRead⟩ := postfixOfLine_readAll second
  have same : text = foundText → stream = found := by
    rintro rfl
    exact Option.some.inj (read.symm.trans foundRead)
  refine ⟨text, foundText, printed, foundPrinted, ⟨same, ?_⟩, ?_⟩
  · rintro rfl
    rw [Token.printAll_eq (postfixOfLine_fits first)] at printed
    rw [Token.printAll_eq (postfixOfLine_fits second)] at foundPrinted
    exact Except.ok.inj (printed.symm.trans foundPrinted)
  · intro texts store
    obtain rfl := same texts
    have values : valueOfLine policy store line = valueOfLine other store another := by
      rw [valueOfLine, valueOfLine, first, second]
    exact ⟨values, fun limits => by rw [evaluate, evaluate, values, limits]⟩

theorem printAll_postfixOfLine_inj_marked :
    let policy : Policy := ⟨true, .atMost 640⟩
    let other : Policy := ⟨false, .atMost 640⟩
    let stream : List Token := [.identifier "u", .integer 3, .operator ⟨"+", false⟩, .operator ⟨"-", true⟩]
    postfixOfLine policy "-(u ++ 3)" = .ok stream ∧ postfixOfLine other "---\t(u + 0 3)# 7" = .ok stream ∧
      Token.printAll policy.limit stream = .ok "u 3 + u-" ∧
      ∀ store, evaluate policy store "-(u ++ 3)" = evaluate other store "---\t(u + 0 3)# 7" := by
  intro policy other stream
  have first : postfixOfLine policy "-(u ++ 3)" = .ok stream := by rfl
  have second : postfixOfLine other "---\t(u + 0 3)# 7" = .ok stream := by rfl
  have shown : Token.printAll policy.limit stream = .ok "u 3 + u-" := by rfl
  obtain ⟨text, foundText, printed, foundPrinted, _, alike⟩ := printAll_postfixOfLine_inj first second
  have same : text = foundText := Except.ok.inj (printed.symm.trans foundPrinted)
  exact ⟨first, second, shown, fun store => (alike same store).2 rfl⟩

example : Token.printAll .unlimited [.identifier "u-"] = Token.printAll .unlimited [.operator ⟨"-", true⟩] := by rfl

end Calculator
