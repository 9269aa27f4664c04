import Calculator.Fault
namespace Calculator

-- Operators that wait for their right operand while an infix stream is read: those of the
-- innermost open bracket, last one first, then those of every bracket around it.
structure Pending where
  inner : List Operator := []
  outer : List (List Operator) := []
  deriving DecidableEq, Repr

namespace Pending

def groups (pending : Pending) : List (List Operator) := pending.inner :: pending.outer

-- A binary operator releases the waiting operators that hold at least as tightly, so that
-- equal ranks group to the left; a unary operator releases none. A bracket opens a group of
-- its own, and closing it releases that group alone.
def step (pending : Pending) : Token → Except Fault (List Token × Pending)
  | .integer value => .ok ([.integer value], pending)
  | .identifier name => .ok ([.identifier name], pending)
  | .operator op =>
    if op.unary then .ok ([], { pending with inner := op :: pending.inner })
    else
      let tighter := fun waiting : Operator => decide (op.bindingPower ≤ waiting.bindingPower)
      .ok ((pending.inner.takeWhile tighter).map .operator,
        { pending with inner := op :: pending.inner.dropWhile tighter })
  | .bracket .opening => .ok ([], ⟨[], pending.inner :: pending.outer⟩)
  | .bracket .closing =>
    match pending.outer with
    | [] => .error .unopenedBracket
    | group :: outer => .ok (pending.inner.map .operator, ⟨group, outer⟩)

def run : Pending → List Token → Except Fault (List Token × Pending)
  | pending, [] => .ok ([], pending)
  | pending, token :: later => do
    let (released, next) ← pending.step token
    let (tail, last) ← run next later
    return (released ++ tail, last)

def finish (pending : Pending) : Except Fault (List Token) :=
  if pending.outer = [] then .ok (pending.inner.map .operator)
  else .error (.unclosedBrackets pending.outer.length)

end Pending

def postfixOf (tokens : List Token) : Except Fault (List Token) := do
  let (released, last) ← Pending.run {} tokens
  let tail ← last.finish
  return released ++ tail

theorem Pending.run_append (pending : Pending) (left right : List Token) :
    pending.run (left ++ right) = (do
      let (released, next) ← pending.run left
      let (tail, last) ← next.run right
      return (released ++ tail, last)) := by
  induction left generalizing pending with
  | nil => simp [run, bind, Except.bind, pure, Except.pure]; cases pending.run right <;> rfl
  | cons token later ih =>
    simp only [List.cons_append, run, ih]
    cases pending.step token with
    | error fault => rfl
    | ok moved =>
      simp only [bind, Except.bind, pure, Except.pure]
      cases Pending.run moved.2 later with
      | error fault => rfl
      | ok reached =>
        simp only []
        cases Pending.run reached.2 right with
        | error fault => rfl
        | ok ended => simp

end Calculator
