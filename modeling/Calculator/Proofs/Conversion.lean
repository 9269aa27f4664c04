import Calculator.Grammar
import Calculator.Postfix
import Calculator.Proofs.ExprListing
namespace Calculator

theorem Operator.bindingPower_lt_three {op : Operator} (binary : op.unary = false) :
    op.bindingPower < 3 := by
  have := op.precedence_le_two
  simp [bindingPower, binary]
  omega

theorem Operator.bindingPower_unary {op : Operator} (unary : op.unary = true) : op.bindingPower = 3 := by
  simp [bindingPower, unary]

theorem Operator.eq_unary {op : Operator} (unary : op.unary = true) : op = ⟨op.symbol, true⟩ := by
  cases op; simp_all

theorem Operator.eq_binary {op : Operator} (binary : op.unary = false) : op = ⟨op.symbol, false⟩ := by
  cases op; simp_all

namespace Pending

theorem run_cons_ok {pending next last : Pending} (moved : pending.step token = .ok (released, next))
    (rest : next.run later = .ok (tail, last)) :
    pending.run (token :: later) = .ok (released ++ tail, last) := by
  simp [run, moved, rest]

theorem run_append_ok {pending next last : Pending} (first : pending.run left = .ok (released, next))
    (second : next.run right = .ok (tail, last)) :
    pending.run (left ++ right) = .ok (released ++ tail, last) := by
  simp [run_append, first, second]

def Looser (power : Nat) (group : List Operator) : Prop :=
  ∀ top ∈ group.head?, top.bindingPower < power

theorem step_binary (binary : op.unary = false) (waiting group : List Operator)
    (outer : List (List Operator)) (held : ∀ waits ∈ waiting, op.bindingPower ≤ waits.bindingPower)
    (looser : Looser op.bindingPower group) :
    step ⟨waiting ++ group, outer⟩ (.operator op) =
      .ok (waiting.map .operator, ⟨op :: group, outer⟩) := by
  -- What an operand left waiting is released; what stood below is not reached.
  have stops : ∀ top ∈ group.head?, decide (op.bindingPower ≤ top.bindingPower) = false := by
    intro top member
    simpa using looser top member
  have taken : group.takeWhile (fun top => decide (op.bindingPower ≤ top.bindingPower)) = [] := by
    cases group with
    | nil => rfl
    | cons top below => simp [stops top rfl]
  have left : group.dropWhile (fun top => decide (op.bindingPower ≤ top.bindingPower)) = group := by
    cases group with
    | nil => rfl
    | cons top below => simp [stops top rfl]
  have all : ∀ waits ∈ waiting, decide (op.bindingPower ≤ waits.bindingPower) = true := by
    intro waits member
    simpa using held waits member
  simp only [step, binary, Bool.false_eq_true, if_false, List.takeWhile_append_of_pos all,
    List.dropWhile_append_of_pos all, taken, left, List.append_nil]

theorem step_unary (unary : op.unary = true) (pending : Pending) :
    pending.step (.operator op) = .ok ([], { pending with inner := op :: pending.inner }) := by
  simp [step, unary]

-- Reading a stream of one tree from any state: it releases a first part of the listing and
-- leaves the rest waiting on top of its group. Only at level 3 may the group already hold
-- operators that bind as tightly, since no binary operator is read there.
theorem run_reading (reading : Reading level tokens expr) (pending : Pending)
    (looser : level < 3 → Looser level pending.inner) :
    ∃ released waiting,
      pending.run tokens = .ok (released, { pending with inner := waiting ++ pending.inner }) ∧
      released ++ waiting.map .operator = expr.postorder ∧
      ∀ waits ∈ waiting, level ≤ waits.bindingPower := by
  induction reading generalizing pending with
  | integer value => exact ⟨[.integer value], [], rfl, rfl, by simp⟩
  | identifier name => exact ⟨[.identifier name], [], rfl, rfl, by simp⟩
  | @group tokens expr inside ih =>
    obtain ⟨released, waiting, ran, listing, _⟩ :=
      ih ⟨[], pending.inner :: pending.outer⟩ (by simp [Looser])
    have closed : run ⟨waiting, pending.inner :: pending.outer⟩ [.bracket .closing] =
        .ok (waiting.map .operator, pending) := by simp [run, step]
    have read : run ⟨[], pending.inner :: pending.outer⟩ (tokens ++ [.bracket .closing]) =
        .ok (expr.postorder, pending) := by
      rw [← listing]
      exact run_append_ok (by simpa using ran) closed
    have opened : pending.step (.bracket .opening) = .ok ([], ⟨[], pending.inner :: pending.outer⟩) := rfl
    exact ⟨expr.postorder, [], run_cons_ok opened read, by simp, by simp⟩
  | @signed tokens expr op unary operand ih =>
    obtain ⟨released, waiting, ran, listing, tight⟩ :=
      ih { pending with inner := op :: pending.inner } (by simp)
    refine ⟨released, waiting ++ [op], ?_, ?_, ?_⟩
    · have read := run_cons_ok (step_unary unary pending) ran
      simpa using read
    · rw [Expr.postorder, ← listing, ← Operator.eq_unary unary]
      simp
    · intro waits member
      rcases List.mem_append.mp member with inner | last
      · exact tight waits inner
      · obtain rfl := List.mem_singleton.mp last
        exact Nat.le_of_eq (Operator.bindingPower_unary unary).symm
  | looser tighter bound ih =>
    obtain ⟨released, waiting, ran, listing, tight⟩ :=
      ih pending fun _ top member => Nat.lt_succ_of_lt (looser bound top member)
    exact ⟨released, waiting, ran, listing, fun waits member => Nat.le_of_succ_le (tight waits member)⟩
  | @joined left leftExpr right rightExpr op before binary last ihLeft ihRight =>
    have low := Operator.bindingPower_lt_three binary
    obtain ⟨released, waiting, ran, listing, tight⟩ := ihLeft pending looser
    obtain ⟨tail, rest, ranRest, listingRest, tightRest⟩ :=
      ihRight { pending with inner := op :: pending.inner } fun _ => by simp [Looser]
    refine ⟨released ++ (waiting.map .operator ++ tail), rest ++ [op], ?_, ?_, ?_⟩
    · have moved := step_binary binary waiting pending.inner pending.outer tight (looser low)
      have read := run_append_ok ran (run_cons_ok moved ranRest)
      simpa using read
    · rw [Expr.postorder, ← listing, ← listingRest, ← Operator.eq_binary binary]
      simp
    · intro waits member
      rcases List.mem_append.mp member with inner | top
      · exact Nat.le_of_succ_le (tightRest waits inner)
      · obtain rfl := List.mem_singleton.mp top
        exact Nat.le_refl _

end Pending

namespace Reading

theorem postfixOf_eq (reading : Reading 0 tokens expr) : postfixOf tokens = .ok expr.postorder := by
  obtain ⟨released, waiting, ran, listing, _⟩ := Pending.run_reading reading {} (by simp [Pending.Looser])
  simp only [postfixOf, ran, ok_bind, Pending.finish]
  simpa using listing

theorem last_token (reading : Reading level tokens expr) :
    ∃ last, tokens.getLast? = some last ∧ Token.expectsOperand (some last) = false := by
  induction reading with
  | integer value => exact ⟨_, rfl, rfl⟩
  | identifier name => exact ⟨_, rfl, rfl⟩
  | group inside ih => exact ⟨.bracket .closing, List.getLast?_concat, rfl⟩
  | signed unary operand ih =>
    obtain ⟨last, ends, complete⟩ := ih
    exact ⟨last, by simp [List.getLast?_cons, ends], complete⟩
  | looser tighter bound ih => exact ih
  | joined before binary last ihLeft ihRight =>
    obtain ⟨last, ends, complete⟩ := ihRight
    exact ⟨last, by simp [List.getLast?_append, List.getLast?_cons, ends], complete⟩

theorem unique (reading : Reading 0 tokens expr) (other : Reading 0 tokens otherExpr) :
    otherExpr = expr := by
  -- A stream has one tree because its listing has one.
  have same := other.postfixOf_eq.symm.trans reading.postfixOf_eq
  exact Expr.postorder_injective (Except.ok.inj same)

theorem level_le (reading : Reading level tokens expr) : level ≤ 3 := by
  cases reading with
  | looser tighter bound => exact Nat.le_of_lt bound
  | joined before binary last => exact Nat.le_of_lt (Operator.bindingPower_lt_three binary)
  | _ => exact Nat.le_refl 3

theorem loosen (reading : Reading level tokens expr) (below : lower ≤ level) : Reading lower tokens expr := by
  obtain ⟨gap, rfl⟩ := Nat.exists_eq_add_of_le below
  clear below
  induction gap with
  | zero => exact reading
  | succ gap ih => exact ih (.looser reading reading.level_le)

-- A binary operator with an operand behind it goes into a tree at the place that its power
-- gives it: over the whole, or on the right of looser operators.
theorem extend (before : Reading level left leftExpr) (binary : op.unary = false)
    (holds : level ≤ op.bindingPower) (last : Reading 3 right rightExpr) :
    ∃ expr, Reading level (left ++ .operator op :: right) expr := by
  have low := Operator.bindingPower_lt_three binary
  induction before with
  | integer | identifier | group | signed => omega
  | @looser level tokens expr tighter bound ih =>
    by_cases same : level = op.bindingPower
    · subst same
      exact ⟨_, .joined (.looser tighter bound) binary (last.loosen (by omega))⟩
    · obtain ⟨whole, reading⟩ := ih (by omega)
      exact ⟨whole, .looser reading bound⟩
  | @joined left leftExpr right rightExpr first before firstBinary behind _ ihRight =>
    by_cases same : first.bindingPower = op.bindingPower
    · have whole := Reading.joined before firstBinary behind
      rw [same] at whole ⊢
      exact ⟨_, .joined whole binary (last.loosen (by omega))⟩
    · obtain ⟨whole, reading⟩ := ihRight (by omega)
      rw [List.append_assoc, List.cons_append]
      exact ⟨_, .joined before firstBinary reading⟩

end Reading

theorem Stream.reading (stream : Stream phrase tokens) :
    ∃ expr, Reading (match phrase with | .expression => 0 | _ => 3) tokens expr := by
  induction stream with
  | integer value => exact ⟨_, .integer value⟩
  | identifier name => exact ⟨_, .identifier name⟩
  | group inside ih => exact ih.imp fun _ => .group
  | plain primary ih => exact ih
  | signed unary operand ih =>
    obtain ⟨expr, reading⟩ := ih
    exact ⟨_, .signed unary reading⟩
  | single operand ih =>
    obtain ⟨expr, reading⟩ := ih
    exact ⟨expr, reading.loosen (Nat.zero_le 3)⟩
  | joined before binary last ihLeft ihRight =>
    obtain ⟨leftExpr, leftReading⟩ := ihLeft
    obtain ⟨rightExpr, rightReading⟩ := ihRight
    exact leftReading.extend binary (Nat.zero_le _) rightReading

theorem Infix.stream (whole : Infix phrase tokens) : Stream phrase tokens := by
  induction whole with
  | integer value => exact .integer value
  | identifier name => exact .identifier name
  | group inside ih => exact .group ih
  | plain primary ih => exact .plain ih
  | signed unary primary ih => exact .signed unary (.plain ih)
  | single operand ih => exact .single ih
  | joined before binary last ihLeft ihRight => exact .joined ihLeft binary (.plain ihRight)

end Calculator
