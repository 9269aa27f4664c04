import Calculator.Lexeme
import Calculator.Evaluation
namespace Calculator

def isName (text : String) : Bool := text ≠ "" ∧ text.toList.all Char.isAlpha

structure Assignment where
  target : String
  source : String
  deriving DecidableEq, Repr

namespace Assignment

def hasEquals (line : String) : Bool := '=' ∈ line.toList

def ofLine? (line : String) : Option Assignment :=
  if hasEquals line then
    let chars := line.toList
    some ⟨String.ofList (Text.trim (chars.takeWhile (· ≠ '='))),
      String.ofList (Text.trim ((chars.dropWhile (· ≠ '=')).drop 1))⟩
  else none

end Assignment

inductive Source where
  | name (name : String)
  | literal (literal : Decimal.Literal)
  deriving DecidableEq, Repr

def Source.ofText? (text : String) : Option Source :=
  if isName text then some (.name text)
  else .literal <$> Decimal.Literal.ofChars? text.toList

def Assignment.value (limit : DigitLimit) (store : Store) (assignment : Assignment) :
    Except Fault Int :=
  match Source.ofText? assignment.source with
  | some (.name name) => store.require name
  | some (.literal literal) =>
    match literal.read limit with
    | .ok value => .ok value
    | .error overflow => .error (.sourceTooLong assignment.source.length overflow)
  | none => .error (.invalidSource assignment.source)

-- Work on the variables of a session. What it writes stays written when a fault follows.
abbrev Storing := ExceptT Fault (StateM Store)

def assigning (limit : DigitLimit) (line : String) : Storing Unit :=
  match Assignment.ofLine? line with
  | none => throw (.notAnAssignment line)
  | some assignment =>
    if isName assignment.target then do
      let value ← assignment.value limit (← get)
      modify (·.set assignment.target value)
    else throw (.invalidIdentifier assignment.target)

def assign (limit : DigitLimit) (store : Store) (line : String) : Except Fault Store :=
  match (assigning limit line).run store with
  | (.ok (), next) => .ok next
  | (.error fault, _) => .error fault

theorem Assignment.run_write (assignment : Assignment) (limit : DigitLimit) (store : Store) :
    (do
      let value ← assignment.value limit (← get)
      modify (·.set assignment.target value) : Storing Unit).run store =
      match assignment.value limit store with
      | .ok value => (.ok (), store.set assignment.target value)
      | .error fault => (.error fault, store) := by
  change (do
    let value ← assignment.value limit store
    modify (·.set assignment.target value) : Storing Unit).run store = _
  cases assignment.value limit store <;> rfl

theorem assigning_eq (limit : DigitLimit) (store : Store) (line : String) :
    (assigning limit line).run store =
      match Assignment.ofLine? line with
      | none => (.error (.notAnAssignment line), store)
      | some assignment =>
        if isName assignment.target then
          match assignment.value limit store with
          | .ok value => (.ok (), store.set assignment.target value)
          | .error fault => (.error fault, store)
        else (.error (.invalidIdentifier assignment.target), store) := by
  unfold assigning
  cases Assignment.ofLine? line with
  | none => rfl
  | some assignment =>
    by_cases named : isName assignment.target = true
    · simp only [if_pos named, assignment.run_write]
    · simp only [if_neg named]
      rfl

theorem assign_eq (limit : DigitLimit) (store : Store) (line : String) :
    assign limit store line =
      match Assignment.ofLine? line with
      | none => .error (.notAnAssignment line)
      | some assignment =>
        if isName assignment.target then do
          let value ← assignment.value limit store
          return store.set assignment.target value
        else .error (.invalidIdentifier assignment.target) := by
  rw [assign, assigning_eq]
  cases Assignment.ofLine? line with
  | none => rfl
  | some assignment =>
    by_cases named : isName assignment.target = true
    · simp only [if_pos named]
      cases assignment.value limit store <;> rfl
    · simp only [if_neg named]

theorem assigning_run (limit : DigitLimit) (store : Store) (line : String) :
    (assigning limit line).run store =
      match assign limit store line with
      | .ok next => (.ok (), next)
      | .error fault => (.error fault, store) := by
  rw [assign, assigning_eq]
  cases Assignment.ofLine? line with
  | none => rfl
  | some assignment =>
    by_cases named : isName assignment.target = true
    · simp only [if_pos named]
      cases assignment.value limit store <;> rfl
    · simp only [if_neg named]

end Calculator
