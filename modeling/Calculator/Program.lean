import Calculator.Arguments
import Calculator.Settings
namespace Calculator

-- How a run of the program ends. Only with a status is anything printed.
inductive Ending where
  | exited (status : Nat) (output : String) (log : List String)
  | invalidSettings (issues : List Issue)
  | limitRefused
  | limitOverflow
  | noConsole
  | conversionFailed (overflow : DigitOverflow)
  deriving DecidableEq, Repr

namespace Settings

def recorded (settings : Settings) (events : List Event) : Except DigitOverflow (List String) :=
  records settings.logLevel settings.digitLimit events

def exit (settings : Settings) (status : Nat) (output : String) (events : List Event) : Ending :=
  match settings.recorded events with
  | .ok log => .exited status output log
  | .error overflow => .conversionFailed overflow

def exitPrinting (settings : Settings) (output : Except DigitOverflow String) (events : List Event) : Ending :=
  match output with
  | .ok output => settings.exit 0 output events
  | .error overflow => .conversionFailed overflow

def converse (settings : Settings) (console : Console) (input : String) : Ending :=
  let typed := (Text.typedLines input.toList).map fun line => Input.line (String.ofList line)
  let conversation := settings.session.converse typed
  settings.exit 0 (transcript console conversation.prompts conversation.turns) conversation.events

def batch (settings : Settings) (console : Console) (check : Bool) (text : String) : Ending :=
  let (turns, _) := settings.session.answerAll ((Text.documentLines text.toList).map String.ofList)
  let refused := turns.any fun turn => !turn.outcome.reply.accepted
  settings.exit (if check && refused then 1 else 0) (printedBy console turns) (turns.flatMap Turn.events)

def showTokens (settings : Settings) (console : Console) (text : String) : Ending :=
  let line := Text.trimmed text
  let events := Event.ofTokens settings.policy line
  match tokensOfLine settings.policy line with
  | .ok tokens => settings.exitPrinting (console.table <$> TokenTable.ofTokens settings.digitLimit tokens) events
  | .error fault => settings.exit 1 (console.line fault.notice) events

def showPostfix (settings : Settings) (console : Console) (text : String) : Ending :=
  let line := Text.trimmed text
  let events := Event.ofPostfix settings.policy line
  match postfixOfLine settings.policy line with
  | .ok stream => settings.exitPrinting (console.line <$> Token.printAll settings.digitLimit stream) events
  | .error fault => settings.exit 1 (console.line fault.notice) events

end Settings

structure Launch where
  request : Request
  settings : Settings
  console : Console

namespace Launch

-- Arguments are looked at before settings, and the limit before a console is opened, which
-- may fail.
def prepare (words : List String) (settings : Except (List Issue) Settings) (console? : Option Console) :
    Except Ending Launch :=
  match Request.ofArguments words with
  | .error .help => .error (.exited 0 "" [])
  | .error .misuse => .error (.exited 2 "" [])
  | .ok request =>
    match settings with
    | .error issues => .error (.invalidSettings issues)
    | .ok settings =>
      match settings.limitAnswer, console? with
      | .taken, some console => .ok ⟨request, settings, console⟩
      | .taken, none => .error .noConsole
      | .refused, _ => .error .limitRefused
      | .overflow, _ => .error .limitOverflow

def run (launch : Launch) (input : String) : Ending :=
  let { request, settings, console } := launch
  let text := request.text?.getD input
  match request with
  | .converse => settings.converse console input
  | .batch _ check => settings.batch console check text
  | .showTokens _ => settings.showTokens console text
  | .showPostfix _ => settings.showPostfix console text

end Launch

def runProgram (words : List String) (settings : Except (List Issue) Settings) (console? : Option Console)
    (input : String) : Ending :=
  match Launch.prepare words settings console? with
  | .ok launch => launch.run input
  | .error ending => ending

end Calculator
