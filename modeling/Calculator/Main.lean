import Calculator.Program
namespace Calculator.Terminal

def environment : IO (List (String × String)) :=
  Field.all.filterMapM fun field => do
    let name := field.variable.map Char.toUpper
    return (← IO.getEnv name).map fun value => (name, value)

-- Entries of the form `NAME=value`, one to a line. Nothing in a value is expanded.
def entries (text : String) : List (String × String) :=
  (Text.documentLines text.toList).filterMap fun line =>
    (Assignment.ofLine? (String.ofList line)).map fun entry => (entry.target, entry.source)

def settingsFile (name : String) : IO (List (String × String)) := do
  try return entries (← IO.FS.readFile name)
  catch _ => return []

partial def readAll (input : IO.FS.Stream) (before : String) : IO String := do
  let line ← input.getLine
  if line.isEmpty then return before else readAll input (before ++ line)

def write (output : String) (log : List String) : IO Unit := do
  for entry in log do IO.eprintln entry
  IO.print output
  (← IO.getStdout).flush

def close (ending : Ending) : IO UInt32 := do
  match ending with
  | .exited status output log =>
    write output log
    return status.toUInt32
  | .invalidSettings issues =>
    for issue in issues do IO.eprintln (issue.field.name ++ ": " ++ issue.problem.name)
    return 1
  | .limitRefused | .limitOverflow =>
    IO.eprintln (Field.digitLimit.name ++ ": out of reach")
    return 1
  | .noConsole => return 1
  | .conversionFailed overflow =>
    IO.eprintln overflow.message
    return 1

partial def answerLines (settings : Settings) (console : Console) (session : Session) (input : IO.FS.Stream) :
    IO UInt32 := do
  if session.finished then close (settings.exit 0 "" [.sessionFinished session.store.size])
  else
    write session.phrases.prompt []
    let line ← input.getLine
    if line.isEmpty then close (settings.exit 0 "" [.sessionFinished session.store.size])
    else
      let text := if line.endsWith "\n" then String.ofList line.toList.dropLast else line
      let turn := session.answer text
      match settings.recorded turn.events with
      | .ok log =>
        write (turn.printed console) log
        answerLines settings console turn.session input
      | .error overflow => close (.conversionFailed overflow)

end Calculator.Terminal

open Calculator in
def main (words : List String) : IO UInt32 := do
  let settings := Settings.ofSources
    { environment := ← Terminal.environment, file := ← Terminal.settingsFile ".env" }
  match Launch.prepare words settings (some .plain) with
  | .error ending => Terminal.close ending
  | .ok launch =>
    let input ← IO.getStdin
    match launch.request, launch.request.text? with
    | .converse, _ =>
      let _ ← Terminal.close (launch.settings.exit 0 "" [.sessionStarted])
      Terminal.answerLines launch.settings launch.console launch.settings.session input
    | _, some _ => Terminal.close (launch.run "")
    | _, none => Terminal.close (launch.run (← Terminal.readAll input ""))
