import Calculator.Assignment
import Calculator.Postfix
import Calculator.Scan
namespace Calculator

def postfixOfLine (policy : Policy) (line : String) : Except Fault (List Token) := do
  let tokens ← tokensOfLine policy line
  postfixOf tokens

def valueOfLine (policy : Policy) (store : Store) (line : String) : Except Fault Int := do
  let stream ← postfixOfLine policy line
  valueOfPostfix store stream

def evaluate (policy : Policy) (store : Store) (line : String) : Except Fault String := do
  let value ← valueOfLine policy store line
  match policy.limit.print value with
  | .ok text => .ok text
  | .error overflow => .error (.resultTooLong overflow)

inductive Task where
  | assignment
  | expression
  deriving DecidableEq, Repr

def Task.ofLine (line : String) : Task :=
  if Assignment.hasEquals line then .assignment else .expression

def Task.name : Task → String
  | .assignment => "assignment"
  | .expression => "expression"

inductive Reply where
  | blank
  | assigned
  | value (text : String)
  | rejected (task : Task) (fault : Fault)
  | help (text : String)
  | farewell (text : String)
  | unknownCommand
  deriving DecidableEq, Repr

namespace Reply

def kind : Reply → String
  | .blank => "blank"
  | .assigned => Task.assignment.name
  | .value _ => Task.expression.name
  | .rejected task _ => task.name
  | .help _ | .farewell _ | .unknownCommand => "command"

def output : Reply → Option String
  | .blank | .assigned => none
  | .value text => some text
  | .rejected _ fault => some fault.notice
  | .help text => some text
  | .farewell text => some text
  | .unknownCommand => some "Unknown command"

def error : Reply → Option String
  | .rejected _ fault => some fault.kind
  | .unknownCommand => some "UnknownCommand"
  | _ => none

def finished : Reply → Bool
  | .farewell _ => true
  | _ => false

def accepted (reply : Reply) : Bool := reply.error.isNone

end Reply

-- Handles a line that is no command. A fault is reported in the reply, beside whatever store
-- the work left behind.
def respond (policy : Policy) (store : Store) (line : String) : Reply × Store :=
  if Text.AllBlank line.toList then (.blank, store)
  else
    match Task.ofLine line with
    | .assignment =>
      match (assigning policy.limit line).run store with
      | (.ok (), next) => (.assigned, next)
      | (.error fault, next) => (.rejected .assignment fault, next)
    | .expression =>
      match evaluate policy store line with
      | .ok text => (.value text, store)
      | .error fault => (.rejected .expression fault, store)

theorem respond_eq (policy : Policy) (store : Store) (line : String) :
    respond policy store line =
      if Text.AllBlank line.toList then (.blank, store)
      else
        match Task.ofLine line with
        | .assignment =>
          match assign policy.limit store line with
          | .ok next => (.assigned, next)
          | .error fault => (.rejected .assignment fault, store)
        | .expression =>
          match evaluate policy store line with
          | .ok text => (.value text, store)
          | .error fault => (.rejected .expression fault, store) := by
  rw [respond, assigning_run]
  cases assign policy.limit store line <;> rfl

end Calculator
