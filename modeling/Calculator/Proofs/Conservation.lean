import Calculator.Postfix
import Calculator.Proofs.ExceptLaws
namespace Calculator

def Token.isBracket : Token → Bool
  | .bracket _ => true
  | _ => false

def Token.plain (tokens : List Token) : List Token := tokens.filter (!·.isBracket)

namespace Pending

def waiting (pending : Pending) : List Token := pending.groups.flatten.map .operator

theorem run_cons_inv {pending last : Pending} (ran : pending.run (token :: later) = .ok (released, last)) :
    ∃ now next rest, pending.step token = .ok (now, next) ∧ next.run later = .ok (rest, last) ∧
      released = now ++ rest := by
  rw [run] at ran
  obtain ⟨⟨now, next⟩, moved, ran⟩ := bind_eq_ok.mp ran
  obtain ⟨⟨rest, ended⟩, ranRest, same⟩ := bind_eq_ok.mp ran
  cases same
  exact ⟨now, next, rest, moved, ranRest, rfl⟩

theorem step_operator_outer {pending next : Pending}
    (moved : pending.step (.operator op) = .ok (released, next)) : next.outer = pending.outer := by
  simp only [step] at moved
  split at moved <;> cases moved <;> rfl

theorem step_closing_inv {pending next : Pending}
    (moved : pending.step (.bracket .closing) = .ok (released, next)) :
    ∃ group outer, pending.outer = group :: outer ∧ next = ⟨group, outer⟩ := by
  simp only [step] at moved
  split at moved
  · cases moved
  · rename_i group outer enclosing
    cases moved
    exact ⟨group, outer, enclosing, rfl⟩

-- A step neither loses nor invents: what it released and what waits after it are what
-- waited before and the token itself.
theorem step_perm {pending next : Pending} (moved : pending.step token = .ok (released, next)) :
    (released ++ next.waiting).Perm (pending.waiting ++ Token.plain [token]) := by
  cases token with
  | integer value =>
    cases moved
    exact List.perm_append_comm
  | identifier name =>
    cases moved
    exact List.perm_append_comm
  | operator op =>
    simp only [step] at moved
    split at moved
    · cases moved
      exact (List.perm_append_singleton (.operator op) pending.waiting).symm
    · cases moved
      let tighter := fun waits : Operator => decide (op.bindingPower ≤ waits.bindingPower)
      let freed : List Token := (pending.inner.takeWhile tighter).map .operator
      let held : List Token :=
        (pending.inner.dropWhile tighter).map .operator ++ pending.outer.flatten.map .operator
      have halves : pending.waiting = freed ++ held := by
        simp only [waiting, groups, List.flatten_cons, freed, held]
        rw [← List.append_assoc, ← List.map_append, ← List.map_append, List.takeWhile_append_dropWhile]
      have after : freed ++ Token.operator op :: held =
          freed ++ waiting ⟨op :: pending.inner.dropWhile tighter, pending.outer⟩ := by
        simp [waiting, groups, held]
      rw [halves, ← after]
      exact List.perm_middle.trans (List.perm_append_singleton (.operator op) (freed ++ held)).symm
  | bracket side =>
    cases side with
    | opening =>
      cases moved
      simp [waiting, groups, Token.plain, Token.isBracket]
    | closing =>
      simp only [step] at moved
      split at moved
      · cases moved
      · rename_i group outer enclosing
        cases moved
        simp [waiting, groups, Token.plain, Token.isBracket, enclosing]

theorem run_perm {pending last : Pending} (ran : pending.run tokens = .ok (released, last)) :
    (released ++ last.waiting).Perm (pending.waiting ++ Token.plain tokens) := by
  induction tokens generalizing pending released with
  | nil =>
    cases ran
    simp [Token.plain]
  | cons token later ih =>
    obtain ⟨now, next, rest, moved, ranRest, rfl⟩ := run_cons_inv ran
    have first := step_perm moved
    have second := ih ranRest
    have joined : Token.plain (token :: later) = Token.plain [token] ++ Token.plain later := by
      rw [Token.plain, Token.plain, Token.plain, ← List.filter_append]
      rfl
    rw [joined, List.append_assoc, ← List.append_assoc pending.waiting]
    refine (second.append_left now).trans ?_
    rw [← List.append_assoc]
    exact first.append_right _

theorem no_operand_waits (waiting : List Operator) : (waiting.map Token.operator).filter Token.isOperand = [] :=
  List.filter_eq_nil_iff.mpr fun token member => by
    obtain ⟨op, _, rfl⟩ := List.mem_map.mp member
    exact Bool.false_ne_true

theorem step_operands {pending next : Pending} (moved : pending.step token = .ok (released, next)) :
    released.filter Token.isOperand = [token].filter Token.isOperand := by
  cases token with
  | integer value =>
    cases moved
    rfl
  | identifier name =>
    cases moved
    rfl
  | operator op =>
    simp only [step] at moved
    split at moved
    · cases moved
      rfl
    · cases moved
      exact no_operand_waits _
  | bracket side =>
    cases side with
    | opening =>
      cases moved
      rfl
    | closing =>
      simp only [step] at moved
      split at moved
      · cases moved
      · cases moved
        exact no_operand_waits _

theorem run_operands {pending last : Pending} (ran : pending.run tokens = .ok (released, last)) :
    released.filter Token.isOperand = tokens.filter Token.isOperand := by
  induction tokens generalizing pending released with
  | nil =>
    cases ran
    rfl
  | cons token later ih =>
    obtain ⟨now, next, rest, moved, ranRest, rfl⟩ := run_cons_inv ran
    rw [List.filter_append, step_operands moved, ih ranRest, ← List.filter_append, List.singleton_append]

end Pending

theorem postfixOf_inv (converted : postfixOf tokens = .ok stream) :
    ∃ released last, Pending.run {} tokens = .ok (released, last) ∧ last.outer = [] ∧
      stream = released ++ last.inner.map .operator := by
  unfold postfixOf at converted
  obtain ⟨⟨released, last⟩, ran, converted⟩ := bind_eq_ok.mp converted
  obtain ⟨tail, finished, same⟩ := bind_eq_ok.mp converted
  cases same
  unfold Pending.finish at finished
  split at finished
  · rename_i closed
    cases finished
    exact ⟨released, last, ran, closed, rfl⟩
  · cases finished

theorem postfixOf_perm (converted : postfixOf tokens = .ok stream) : stream.Perm (Token.plain tokens) := by
  obtain ⟨released, last, ran, closed, rfl⟩ := postfixOf_inv converted
  simpa [Pending.waiting, Pending.groups, closed] using Pending.run_perm ran

theorem postfixOf_subset (converted : postfixOf tokens = .ok stream) : stream ⊆ tokens := fun _ member =>
  (List.mem_filter.mp ((postfixOf_perm converted).mem_iff.mp member)).1

end Calculator
