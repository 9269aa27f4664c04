import Calculator.Console
import Calculator.Journal
namespace Calculator

structure Phrases where
  prompt : String := ""
  helpText : String := "The program evaluates basic arithmetic expressions"
  farewell : String := "Bye!"
  deriving DecidableEq, Repr

inductive Command where
  | exit
  | help
  | unknown (text : String)
  deriving DecidableEq, Repr

def Command.ofLine? (line : String) : Option Command :=
  let text := Text.trimmed line
  if text.toList.head? ≠ some '/' then none
  else if text = "/exit" then some .exit
  else if text = "/help" then some .help
  else some (.unknown text)

structure Session where
  policy : Policy := {}
  phrases : Phrases := {}
  store : Store := .empty
  finished : Bool := false
  deriving DecidableEq

structure Outcome where
  line : String
  reply : Reply
  deriving DecidableEq, Repr

structure Turn where
  outcome : Outcome
  session : Session
  events : List Event

namespace Session

def answer (session : Session) (line : String) : Turn :=
  match Command.ofLine? line with
  | some .exit => ⟨⟨line, .farewell session.phrases.farewell⟩, { session with finished := true }, []⟩
  | some .help => ⟨⟨line, .help session.phrases.helpText⟩, session, []⟩
  | some (.unknown text) => ⟨⟨line, .unknownCommand⟩, session, [.unknownCommand text]⟩
  | none =>
    let (reply, store) := respond session.policy session.store line
    ⟨⟨line, reply⟩, { session with store }, Event.ofLine session.policy session.store line⟩

def answerAll (session : Session) : List String → List Turn × Session
  | [] => ([], session)
  | line :: later =>
    let turn := session.answer line
    if turn.session.finished then ([turn], turn.session)
    else
      let (turns, last) := answerAll turn.session later
      (turn :: turns, last)

end Session

inductive Input where
  | line (text : String)
  | interrupt
  deriving DecidableEq, Repr

-- A conversation asks for every line it handles, and once more when the input ends before
-- the session does.
structure Conversation where
  turns : List Turn
  session : Session
  prompts : List String

namespace Session

def converse (session : Session) (inputs : List Input) : Conversation :=
  if session.finished then ⟨[], session, []⟩
  else
    match inputs with
    | .line text :: later =>
      let turn := session.answer text
      let rest := converse turn.session later
      ⟨turn :: rest.turns, rest.session, session.phrases.prompt :: rest.prompts⟩
    | _ => ⟨[], session, [session.phrases.prompt]⟩

end Session

def Turn.printed (turn : Turn) (console : Console) : String := console.reply turn.outcome.reply

def printedBy (console : Console) (turns : List Turn) : String := String.join (turns.map (·.printed console))

def Conversation.events (conversation : Conversation) : List Event :=
  .sessionStarted :: conversation.turns.flatMap Turn.events ++
    [.sessionFinished conversation.session.store.size]

def transcript (console : Console) : List String → List Turn → String
  | [], _ => ""
  | prompt :: prompts, [] => prompt ++ transcript console prompts []
  | prompt :: prompts, turn :: turns =>
    prompt ++ turn.printed console ++ transcript console prompts turns

end Calculator
