import Calculator.Line
namespace Calculator

inductive Level where
  | debug
  | info
  | warning
  | error
  | critical
  deriving DecidableEq, Repr

namespace Level

def name : Level → String
  | .debug => "DEBUG"
  | .info => "INFO"
  | .warning => "WARNING"
  | .error => "ERROR"
  | .critical => "CRITICAL"

def all : List Level := [.debug, .info, .warning, .error, .critical]

def rank : Level → Nat
  | .debug => 0
  | .info => 1
  | .warning => 2
  | .error => 3
  | .critical => 4

end Level

-- What is worth recording while lines are handled. An event holds values; it becomes text
-- only where a record is wanted.
inductive Event where
  | restDropped (rest : String)
  | scanned (tokens : List Token)
  | converted (stream : List Token)
  | assigned (name : String)
  | rejected (task : Task) (line : String) (fault : Fault)
  | unknownCommand (text : String)
  | sessionStarted
  | sessionFinished (count : Nat)
  deriving DecidableEq, Repr

namespace Event
open Text

def level : Event → Level
  | .sessionStarted | .sessionFinished _ => .info
  | _ => .debug

def logger : Event → String
  | .restDropped _ | .scanned _ => "bigcalc.tokenizer"
  | .converted _ => "bigcalc.converter"
  | .assigned _ | .rejected .. => "bigcalc.engine"
  | .unknownCommand _ | .sessionStarted | .sessionFinished _ => "bigcalc.repl"

def message (limit : DigitLimit) : Event → Except DigitOverflow String
  | .restDropped rest => .ok ("Dropping unrecognized remainder " ++ quoted rest)
  | .scanned tokens => ("Tokens: " ++ ·) <$> Token.printAll limit tokens
  | .converted stream => ("Postfix: " ++ ·) <$> Token.printAll limit stream
  | .assigned name => .ok ("Assigned " ++ name)
  | .rejected task line fault =>
    .ok ("Rejected " ++ task.name ++ " " ++ quoted line ++ ": " ++ fault.message)
  | .unknownCommand text => .ok ("Unknown command " ++ quoted text)
  | .sessionStarted => .ok "Session started"
  | .sessionFinished count =>
    .ok ("Session finished (" ++ Decimal.text count ++ " variable(s))")

def record (limit : DigitLimit) (event : Event) : Except DigitOverflow String :=
  (event.level.name ++ ":" ++ event.logger ++ ":" ++ ·) <$> event.message limit

def ofTokens (policy : Policy) (line : String) : List Event :=
  match Scan.ofLine policy line with
  | .error _ => []
  | .ok scan =>
    let dropped := if scan.unread = [] then [] else [.restDropped (String.ofList scan.unread)]
    dropped ++ [.scanned scan.tokens]

def ofPostfix (policy : Policy) (line : String) : List Event :=
  match postfixOfLine policy line with
  | .error _ => ofTokens policy line
  | .ok stream => ofTokens policy line ++ [.converted stream]

def ofAssignment (limit : DigitLimit) (store : Store) (line : String) : List Event :=
  match Assignment.ofLine? line, assign limit store line with
  | some assignment, .ok _ => [.assigned assignment.target]
  | _, _ => []

def ofLine (policy : Policy) (store : Store) (line : String) : List Event :=
  let reached := match Task.ofLine line with
    | .assignment => ofAssignment policy.limit store line
    | .expression => ofPostfix policy line
  match (respond policy store line).1 with
  | .blank => []
  | .rejected task fault => reached ++ [.rejected task line fault]
  | _ => reached

end Event

def records (level : Level) (limit : DigitLimit) (events : List Event) :
    Except DigitOverflow (List String) :=
  (events.filter fun event => decide (level.rank ≤ event.level.rank)).mapM (Event.record limit)

end Calculator
