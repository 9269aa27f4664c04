import Calculator.Proofs.Conservation
import Calculator.Proofs.Conversion
import Calculator.Proofs.TokenOrder
namespace Calculator

namespace Token

def isBinary : Token → Bool
  | .operator op => !op.unary
  | _ => false

def startsOperand : Token → Bool
  | .integer _ | .identifier _ | .bracket .opening => true
  | _ => false

def juxtapositionsAfter : Option Token → List Token → Nat
  | _, [] => 0
  | before, token :: later =>
    (if startsOperand token && !expectsOperand before then 1 else 0) +
      juxtapositionsAfter (some token) later

def juxtapositions (tokens : List Token) : Nat := juxtapositionsAfter none tokens

def gapsAfter : Option Token → List Token → Nat
  | before, [] => if expectsOperand before then 1 else 0
  | before, token :: later =>
    (if token = .bracket .closing && expectsOperand before then 1 else 0) + gapsAfter (some token) later

def gaps (tokens : List Token) : Nat := gapsAfter none tokens

-- Operands and binary operators in turn: each juxtaposition is an operand too many, each
-- gap one too few.
theorem Placed.balance (placed : Placed before tokens) :
    tokens.countP isOperand + gapsAfter before tokens =
      tokens.countP isBinary + juxtapositionsAfter before tokens + (if expectsOperand before then 1 else 0) := by
  induction tokens generalizing before with
  | nil => simp [gapsAfter, juxtapositionsAfter]
  | cons token later ih =>
    have rest := ih placed.tail
    simp only [List.countP_cons, gapsAfter, juxtapositionsAfter]
    cases token with
    | integer value | identifier name =>
      cases due : expectsOperand before <;>
        simp [isOperand, isBinary, startsOperand, expectsOperand] at rest ⊢ <;> omega
    | operator op =>
      obtain ⟨unary, _⟩ := placed
      cases due : expectsOperand before <;> rw [due] at unary <;>
        simp [isOperand, isBinary, startsOperand, expectsOperand, unary] at rest ⊢ <;> omega
    | bracket side =>
      cases side <;> cases due : expectsOperand before <;>
        simp [isOperand, isBinary, startsOperand, expectsOperand] at rest ⊢ <;> omega

end Token

theorem perform_length (done : Token.perform store operands token = .ok result) :
    result.length + (if token.isBinary then 1 else 0) =
      operands.length + (if token.isOperand then 1 else 0) := by
  cases token with
  | integer value =>
    cases done
    rfl
  | identifier name =>
    obtain ⟨value, _, same⟩ := bind_eq_ok.mp done
    cases same
    rfl
  | operator op =>
    simp only [Token.perform, Operator.reduce] at done
    split at done
    · rename_i unary
      split at done
      · cases done
        simp [Token.isBinary, Token.isOperand, unary]
      · cases done
    · rename_i binary
      split at done
      · obtain ⟨value, _, same⟩ := bind_eq_ok.mp done
        cases same
        simp [Token.isBinary, Token.isOperand, binary]
      · cases done
  | bracket side => cases done

theorem performAll_length (done : performAll store operands stream = .ok result) :
    result.length + stream.countP Token.isBinary = operands.length + stream.countP Token.isOperand := by
  induction stream generalizing operands with
  | nil =>
    cases done
    rfl
  | cons token later ih =>
    obtain ⟨between, first, rest⟩ := bind_eq_ok.mp done
    have one := perform_length first
    have others := ih rest
    simp only [List.countP_cons]
    omega

theorem valueOfPostfix_count (answered : valueOfPostfix store stream = .ok value) :
    stream.countP Token.isOperand = stream.countP Token.isBinary + 1 := by
  obtain ⟨operands, done, sole⟩ := bind_eq_ok.mp answered
  have counts := performAll_length done
  unfold soleValue at sole
  split at sole
  · simp at counts
    omega
  · cases sole

theorem postfixOf_countP (counted : ∀ token, p token = true → token.isBracket = false)
    (converted : postfixOf tokens = .ok stream) : stream.countP p = tokens.countP p := by
  rw [(postfixOf_perm converted).countP_eq p, Token.plain, List.countP_filter]
  refine List.countP_congr fun token _ => ?_
  cases held : p token with
  | false => simp
  | true => simp [counted token held]

theorem gaps_eq_juxtapositions (placed : Token.Placed none tokens) (converted : postfixOf tokens = .ok stream)
    (answered : valueOfPostfix store stream = .ok value) : Token.gaps tokens = Token.juxtapositions tokens := by
  have operands : stream.countP Token.isOperand = tokens.countP Token.isOperand :=
    postfixOf_countP (fun token counted => by cases token <;> simp_all [Token.isOperand, Token.isBracket])
      converted
  have binaries : stream.countP Token.isBinary = tokens.countP Token.isBinary :=
    postfixOf_countP (fun token counted => by cases token <;> simp_all [Token.isBinary, Token.isBracket])
      converted
  have counts := valueOfPostfix_count answered
  have balance := placed.balance
  simp only [Token.expectsOperand, if_true] at balance
  unfold Token.gaps Token.juxtapositions
  omega

inductive Begun : List Token → Prop
  | start : Begun []
  | sign (unary : op.unary = true) : Begun [.operator op]
  | joined (before : Infix .expression left) (binary : op.unary = false) : Begun (left ++ [.operator op])

theorem Begun.complete (begun : Begun left) (primary : Infix .primary right) :
    Infix .expression (left ++ right) := by
  cases begun with
  | start => exact .single (.plain primary)
  | sign unary => exact .single (.signed unary primary)
  | joined before binary =>
    rw [List.append_assoc, List.singleton_append]
    exact .joined before binary primary

-- What was read within the innermost open bracket, by the last token that was read.
def Part : Option Token → List Token → Prop
  | none, inmost | some (.bracket .opening), inmost => inmost = []
  | some (.operator _), inmost => Begun inmost
  | some _, inmost => Infix .expression inmost

def nest : List (List Token) → List Token → List Token
  | [], inmost => inmost
  | group :: outer, inmost => nest outer (group ++ .bracket .opening :: inmost)

theorem nest_append (outer : List (List Token)) (inmost tokens : List Token) :
    nest outer inmost ++ tokens = nest outer (inmost ++ tokens) := by
  induction outer generalizing inmost with
  | nil => rfl
  | cons group outer ih => simp [nest, ih]

theorem Part.begun (part : Part before inmost) (due : Token.expectsOperand before = true) : Begun inmost := by
  cases before with
  | none => exact part ▸ .start
  | some token =>
    cases token with
    | operator op => exact part
    | bracket side =>
      cases side with
      | opening => exact part ▸ .start
      | closing => cases due
    | integer value => cases due
    | identifier name => cases due

theorem Part.whole (part : Part before inmost) (complete : Token.expectsOperand before = false) :
    Infix .expression inmost := by
  cases before with
  | none => cases complete
  | some token =>
    cases token with
    | operator op => cases complete
    | bracket side =>
      cases side with
      | opening => cases complete
      | closing => exact part
    | integer value => exact part
    | identifier name => exact part

theorem Part.sign (part : Part before inmost) (due : Token.expectsOperand before = true)
    (fresh : ∀ prior, before ≠ some (.operator prior)) (unary : op.unary = true) :
    Begun (inmost ++ [.operator op]) := by
  have alone : Begun ([] ++ [.operator op]) := .sign unary
  cases before with
  | none => exact (show inmost = [] from part) ▸ alone
  | some token =>
    cases token with
    | operator prior => exact absurd rfl (fresh prior)
    | bracket side =>
      cases side with
      | opening => exact (show inmost = [] from part) ▸ alone
      | closing => cases due
    | integer value => cases due
    | identifier name => cases due

namespace Pending

-- The tokens seen so far, cut at the brackets that are still open.
def Mirrors (pending : Pending) (before : Option Token) (seen : List Token) : Prop :=
  ∃ outer inmost, seen = nest outer inmost ∧ Part before inmost ∧ (∀ group ∈ outer, Begun group) ∧
    pending.outer.length = outer.length

theorem Mirrors.extend {pending next : Pending} {outer : List (List Token)}
    (same : next.outer.length = pending.outer.length)
    (begun : ∀ group ∈ outer, Begun group) (depth : pending.outer.length = outer.length)
    (part : Part (some token) (inmost ++ [token])) :
    next.Mirrors (some token) (nest outer inmost ++ [token]) :=
  ⟨outer, inmost ++ [token], nest_append outer inmost [token], part, begun, same.trans depth⟩

theorem Mirrors.after_step {pending next : Pending} (mirrors : pending.Mirrors before seen)
    (moved : pending.step token = .ok (released, next)) (placed : Token.Placed before (token :: later))
    (closes : token = .bracket .closing → Token.expectsOperand before = false)
    (starts : Token.startsOperand token = true → Token.expectsOperand before = true) :
    next.Mirrors (some token) (seen ++ [token]) := by
  obtain ⟨outer, inmost, rfl, part, begun, depth⟩ := mirrors
  cases token with
  | integer value =>
    have whole := (part.begun (starts rfl)).complete (.integer value)
    cases moved
    exact .extend rfl begun depth whole
  | identifier name =>
    have whole := (part.begun (starts rfl)).complete (.identifier name)
    cases moved
    exact .extend rfl begun depth whole
  | operator op =>
    obtain ⟨unary, fresh, _⟩ := placed
    have same := congrArg List.length (step_operator_outer moved)
    cases due : Token.expectsOperand before with
    | true => exact .extend same begun depth (part.sign due fresh (unary.trans due))
    | false => exact .extend same begun depth (Begun.joined (part.whole due) (unary.trans due))
  | bracket side =>
    cases side with
    | opening =>
      have deeper : ∀ group ∈ inmost :: outer, Begun group := by
        intro group member
        rcases List.mem_cons.mp member with rfl | enclosing
        · exact part.begun (starts rfl)
        · exact begun group enclosing
      cases moved
      refine ⟨inmost :: outer, [], ?_, rfl, deeper, congrArg (· + 1) depth⟩
      exact nest_append outer inmost [.bracket .opening]
    | closing =>
      obtain ⟨_, groups, enclosing, same⟩ := step_closing_inv moved
      cases outer with
      | nil => simp [enclosing] at depth
      | cons group outer =>
        have wrapped := (begun group List.mem_cons_self).complete (.group (part.whole (closes rfl)))
        have shallower : next.outer.length = outer.length := by simpa [enclosing, same] using depth
        refine ⟨outer, _, ?_, wrapped, ?_, shallower⟩
        · simp [nest, nest_append]
        · intro other member
          exact begun other (List.mem_cons_of_mem group member)

theorem Mirrors.after_run {pending last : Pending} (mirrors : pending.Mirrors before seen)
    (ran : pending.run later = .ok (released, last)) (placed : Token.Placed before later)
    (gapless : Token.gapsAfter before later = 0) (apart : Token.juxtapositionsAfter before later = 0) :
    ∃ final, last.Mirrors final (seen ++ later) ∧ Token.expectsOperand final = false := by
  induction later generalizing before seen pending released with
  | nil =>
    cases ran
    rw [List.append_nil]
    exact ⟨before, mirrors, by simpa [Token.gapsAfter] using gapless⟩
  | cons token later ih =>
    obtain ⟨now, next, rest, moved, ranRest, rfl⟩ := run_cons_inv ran
    obtain ⟨noGap, gapless⟩ := Nat.add_eq_zero_iff.mp gapless
    obtain ⟨alone, apart⟩ := Nat.add_eq_zero_iff.mp apart
    have closes : token = .bracket .closing → Token.expectsOperand before = false := by
      intro closing
      simpa [closing] using noGap
    have starts : Token.startsOperand token = true → Token.expectsOperand before = true := by
      intro start
      simpa [start] using alone
    have after := ih (mirrors.after_step moved placed closes starts) ranRest placed.tail gapless apart
    rwa [List.append_assoc] at after

theorem Mirrors.whole {pending : Pending} (mirrors : pending.Mirrors before seen) (closed : pending.outer = [])
    (complete : Token.expectsOperand before = false) : Infix .expression seen := by
  obtain ⟨outer, inmost, rfl, part, _, depth⟩ := mirrors
  rw [closed] at depth
  rw [List.eq_nil_of_length_eq_zero depth.symm]
  exact part.whole complete

end Pending

theorem infix_of_no_juxtaposition (placed : Token.Placed none tokens)
    (converted : postfixOf tokens = .ok stream) (gapless : Token.gaps tokens = 0)
    (apart : Token.juxtapositions tokens = 0) : Infix .expression tokens := by
  obtain ⟨released, last, ran, closed, _⟩ := postfixOf_inv converted
  have start : Pending.Mirrors {} none [] := ⟨[], [], rfl, rfl, by simp, rfl⟩
  obtain ⟨final, mirrors, complete⟩ := start.after_run ran placed gapless apart
  exact mirrors.whole closed complete

theorem Token.juxtapositionsAfter_append (before : Option Token) (left right : List Token) :
    juxtapositionsAfter before (left ++ right) =
      juxtapositionsAfter before left + juxtapositionsAfter (left.getLast?.or before) right := by
  induction left generalizing before with
  | nil => simp [juxtapositionsAfter]
  | cons token later ih =>
    rw [List.cons_append, juxtapositionsAfter, juxtapositionsAfter, ih, getLast?_cons_or, Nat.add_assoc]

theorem Infix.no_juxtaposition (whole : Infix phrase tokens)
    (due : Token.expectsOperand before = true) : Token.juxtapositionsAfter before tokens = 0 := by
  induction whole generalizing before with
  | integer value => simp [Token.juxtapositionsAfter, due]
  | identifier name => simp [Token.juxtapositionsAfter, due]
  | @group tokens inside ih =>
    have within : Token.juxtapositionsAfter (some (.bracket .opening)) tokens = 0 := ih rfl
    simp [Token.juxtapositionsAfter, Token.juxtapositionsAfter_append, Token.startsOperand, due, within]
  | plain primary ih => exact ih due
  | @signed tokens op unary primary ih =>
    have behind : Token.juxtapositionsAfter (some (.operator op)) tokens = 0 := ih rfl
    simp [Token.juxtapositionsAfter, Token.startsOperand, behind]
  | single operand ih => exact ih due
  | @joined left right op before binary last ihLeft ihRight =>
    have behind : Token.juxtapositionsAfter (some (.operator op)) right = 0 := ihRight rfl
    simp [Token.juxtapositionsAfter, Token.juxtapositionsAfter_append, Token.startsOperand, ihLeft due, behind]

-- A line with an answer makes up for every operand too many by one too few, and it is an
-- infix expression exactly when it holds neither.
theorem evaluate_juxtapositions (answered : evaluate policy store line = .ok text) :
    ∃ tokens, tokensOfLine policy line = .ok tokens ∧ Token.gaps tokens = Token.juxtapositions tokens ∧
      (Infix .expression tokens ↔ Token.juxtapositions tokens = 0) := by
  obtain ⟨tokens, stream, value, read, converted, computed, _⟩ := evaluate_inv answered
  have placed := tokensOfLine_placed read
  have even := gaps_eq_juxtapositions placed converted computed
  refine ⟨tokens, read, even, fun whole => whole.no_juxtaposition rfl, fun apart => ?_⟩
  exact infix_of_no_juxtaposition placed converted (even.trans apart) apart

theorem evaluate_juxtapositions_product :
    evaluate {} .empty "4 - (7)(2)*" = .ok "-10" ∧
      ∃ tokens, tokensOfLine {} "4 - (7)(2)*" = .ok tokens ∧ Token.gaps tokens = Token.juxtapositions tokens ∧
        (Infix .expression tokens ↔ Token.juxtapositions tokens = 0) := by
  have answered : evaluate {} .empty "4 - (7)(2)*" = .ok "-10" := by rfl
  exact ⟨answered, evaluate_juxtapositions answered⟩

-- An answer alone does not make a line an infix expression: the bracket beside the number
-- supplies what the operator at the end lacks.
theorem evaluate_not_infix :
    evaluate {} .empty "1(2)+" = .ok "3" ∧
      ∀ tokens, tokensOfLine {} "1(2)+" = .ok tokens → ¬ Infix .expression tokens := by
  refine ⟨by rfl, fun tokens read whole => ?_⟩
  have known : tokensOfLine {} "1(2)+" = .ok [.integer 1, .bracket .opening, .integer 2,
    .bracket .closing, .operator ⟨"+", false⟩] := by rfl
  cases known.symm.trans read
  have apart : Token.juxtapositionsAfter none _ = 0 := whole.no_juxtaposition rfl
  revert apart
  decide

end Calculator
