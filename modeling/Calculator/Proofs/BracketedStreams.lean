import Calculator.Proofs.Conservation
import Calculator.Proofs.Conversion
namespace Calculator

namespace Pending

def within (pending : Pending) (around : List (List Operator)) : Pending :=
  ⟨pending.inner, pending.outer ++ around⟩

theorem step_within {pending next : Pending} (moved : pending.step token = .ok (released, next))
    (around : List (List Operator)) :
    (pending.within around).step token = .ok (released, next.within around) := by
  cases token with
  | integer value =>
    cases moved
    rfl
  | identifier name =>
    cases moved
    rfl
  | operator op =>
    simp only [step] at moved ⊢
    split at moved
    · rename_i unary
      cases moved
      rw [if_pos unary]
      rfl
    · rename_i binary
      cases moved
      rw [if_neg binary]
      rfl
  | bracket side =>
    cases side with
    | opening =>
      cases moved
      rfl
    | closing =>
      simp only [step] at moved
      split at moved
      · cases moved
      · rename_i group outer enclosing
        cases moved
        simp [step, within, enclosing]

theorem run_within {pending last : Pending} (ran : pending.run tokens = .ok (released, last))
    (around : List (List Operator)) :
    (pending.within around).run tokens = .ok (released, last.within around) := by
  induction tokens generalizing pending released with
  | nil =>
    cases ran
    rfl
  | cons token later ih =>
    obtain ⟨now, next, rest, moved, ranRest, rfl⟩ := run_cons_inv ran
    exact run_cons_ok (step_within moved around) (ih ranRest)

theorem run_bracketed (converted : postfixOf tokens = .ok stream) (pending : Pending) :
    pending.run (.bracket .opening :: (tokens ++ [.bracket .closing])) = .ok (stream, pending) := by
  obtain ⟨released, last, ran, closed, rfl⟩ := postfixOf_inv converted
  have inside := run_within ran pending.groups
  have ended : (last.within pending.groups).run [.bracket .closing] =
      .ok (last.inner.map .operator, pending) := by
    simp [run, step, within, groups, closed]
  have opened : pending.step (.bracket .opening) = .ok ([], within {} pending.groups) := rfl
  have read := run_cons_ok opened (run_append_ok inside ended)
  rwa [List.nil_append] at read

end Pending

def postfixAround (before after : List Token) : Except Fault (List Token × List Token) := do
  let (front, pending) ← Pending.run {} before
  let (back, last) ← pending.run after
  let tail ← last.finish
  return (front, back ++ tail)

-- What releases the same from any state and leaves the state alone does not matter to the
-- conversion around it.
theorem postfixOf_around {middle released : List Token}
    (alone : ∀ pending : Pending, pending.run middle = .ok (released, pending)) (before after : List Token) :
    postfixOf (before ++ (middle ++ after)) =
      (fun halves => halves.1 ++ (released ++ halves.2)) <$> postfixAround before after := by
  rw [postfixOf, postfixAround, Pending.run_append]
  cases Pending.run {} before with
  | error fault => rfl
  | ok reached =>
    obtain ⟨front, pending⟩ := reached
    simp only [ok_bind, Pending.run_append, alone pending, pure_eq_ok]
    cases pending.run after with
    | error fault => rfl
    | ok ended =>
      obtain ⟨back, last⟩ := ended
      simp only [ok_bind]
      cases last.finish with
      | error fault => rfl
      | ok tail => simp only [ok_bind, Except.map_ok, List.append_assoc]

theorem postfixAround_operands (around : postfixAround before after = .ok halves) :
    halves.1.filter Token.isOperand = before.filter Token.isOperand := by
  obtain ⟨⟨front, pending⟩, ran, around⟩ := bind_eq_ok.mp around
  obtain ⟨⟨back, last⟩, _, around⟩ := bind_eq_ok.mp around
  obtain ⟨tail, _, same⟩ := bind_eq_ok.mp around
  cases same
  exact Pending.run_operands ran

theorem Pending.run_operand (operand : token.isOperand = true) (pending : Pending) :
    pending.run [token] = .ok ([token], pending) := by
  cases token with
  | integer value => rfl
  | identifier name => rfl
  | operator op => cases operand
  | bracket side => cases operand

-- A stream in brackets and an operand in its place are refused alike. Otherwise the one
-- conversion is the other with the converted stream for the operand, which is found by the
-- operands that stand in front of it.
theorem postfixOf_substituted (converted : postfixOf inside = .ok stream) (operand : x.isOperand = true)
    (before after : List Token) :
    (∀ fault, postfixOf (before ++ .bracket .opening :: (inside ++ .bracket .closing :: after)) = .error fault ↔
      postfixOf (before ++ x :: after) = .error fault) ∧
    ∀ result, postfixOf (before ++ x :: after) = .ok result → ∃ front back, result = front ++ x :: back ∧
      front.filter Token.isOperand = before.filter Token.isOperand ∧
      postfixOf (before ++ .bracket .opening :: (inside ++ .bracket .closing :: after)) =
        .ok (front ++ (stream ++ back)) := by
  have single := postfixOf_around (Pending.run_operand operand) before after
  have bracketed := postfixOf_around (Pending.run_bracketed converted) before after
  rw [List.singleton_append] at single
  rw [List.cons_append, List.append_assoc, List.singleton_append] at bracketed
  rw [single, bracketed]
  cases around : postfixAround before after with
  | error fault => exact ⟨fun other => Iff.rfl, nofun⟩
  | ok halves =>
    refine ⟨fun other => ⟨nofun, nofun⟩, ?_⟩
    intro result same
    cases same
    exact ⟨halves.1, halves.2, rfl, postfixAround_operands around, rfl⟩

theorem postfixOf_substituted_repeated :
    let inside := [.operator ⟨"-", true⟩, .integer 2, .integer 3, .operator ⟨"*", false⟩]
    let stream := [.integer 2, .integer 3, .operator ⟨"-", true⟩, .operator ⟨"*", false⟩]
    let x := Token.identifier "x"
    let before := [x, .operator ⟨"-", false⟩, .bracket .opening, .operator ⟨"+", true⟩]
    let after := [.operator ⟨"/", false⟩, x, .bracket .closing, .operator ⟨"+", false⟩]
    let result := [x, x, .operator ⟨"+", true⟩, x, .operator ⟨"/", false⟩, .operator ⟨"-", false⟩, .operator ⟨"+", false⟩]
    postfixOf inside = .ok stream ∧ x.isOperand = true ∧ postfixOf (before ++ x :: after) = .ok result ∧
      ∃ front back, result = front ++ x :: back ∧ front.filter Token.isOperand = before.filter Token.isOperand ∧
        postfixOf (before ++ .bracket .opening :: (inside ++ .bracket .closing :: after)) =
          .ok (front ++ (stream ++ back)) := by
  intro inside stream x before after result
  have converted : postfixOf inside = .ok stream := rfl
  have single : postfixOf (before ++ x :: after) = .ok result := rfl
  exact ⟨converted, rfl, single, (postfixOf_substituted converted rfl before after).2 result single⟩

end Calculator
