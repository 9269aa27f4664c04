import Calculator.Proofs.SessionHistories
namespace Calculator

def untilExit (lines : List String) : List String :=
  lines.takeWhile (fun line => Text.trimmed line ≠ "/exit") ++
    (lines.dropWhile fun line => Text.trimmed line ≠ "/exit").take 1

theorem untilExit_exit (exit : Text.trimmed line = "/exit") (later : List String) :
    untilExit (line :: later) = [line] := by
  simp [untilExit, exit]

theorem untilExit_stays (stays : Text.trimmed line ≠ "/exit") (later : List String) :
    untilExit (line :: later) = line :: untilExit later := by
  simp [untilExit, stays]

namespace Session

theorem answer_keeps (session : Session) (line : String) :
    (session.answer line).session.policy = session.policy ∧
      (session.answer line).session.phrases = session.phrases := by
  rcases session.answer_cases line with ⟨_, after⟩ | ⟨_, _, _, after⟩ | ⟨_, after⟩
  all_goals
    rw [after]
    exact ⟨rfl, rfl⟩

theorem answer_exit (session : Session) (exit : Text.trimmed line = "/exit") :
    (session.answer line).session.finished = true := by
  have command : Command.ofLine? line = some .exit := Command.ofLine?_exit_iff.mpr exit
  rw [answer, command]

theorem answerAll_exit (session : Session) (exit : Text.trimmed line = "/exit") (later : List String) :
    session.answerAll (line :: later) = ([session.answer line], (session.answer line).session) := by
  simp [answerAll, session.answer_exit exit]

theorem answerAll_lines {session : Session} (unfinished : session.finished = false) (lines : List String) :
    (session.answerAll lines).1.map (·.outcome.line) = untilExit lines := by
  induction lines generalizing session with
  | nil => rfl
  | cons line later ih =>
    by_cases exit : Text.trimmed line = "/exit"
    · rw [answerAll_exit session exit, untilExit_exit exit, List.map_singleton, answer_line]
    · rw [answerAll_cons unfinished exit, untilExit_stays exit, List.map_cons, answer_line,
        ih (answer_unfinished unfinished exit)]

theorem answerAll_finished_iff {session : Session} (unfinished : session.finished = false) (lines : List String) :
    (session.answerAll lines).2.finished = true ↔ ∃ line ∈ untilExit lines, Text.trimmed line = "/exit" := by
  induction lines generalizing session with
  | nil => simp [answerAll, untilExit, unfinished]
  | cons line later ih =>
    by_cases exit : Text.trimmed line = "/exit"
    · rw [answerAll_exit session exit, untilExit_exit exit]
      simp [session.answer_exit exit, exit]
    · rw [answerAll_cons unfinished exit, untilExit_stays exit, ih (answer_unfinished unfinished exit)]
      simp [exit]

theorem converse_finished {session : Session} (finished : session.finished = true) (inputs : List Input) :
    session.converse inputs = ⟨[], session, []⟩ := by
  unfold converse
  exact if_pos finished

theorem converse_line {session : Session} (unfinished : session.finished = false) (line : String) (later : List Input) :
    session.converse (.line line :: later) =
      ⟨session.answer line :: ((session.answer line).session.converse later).turns,
        ((session.answer line).session.converse later).session,
        session.phrases.prompt :: ((session.answer line).session.converse later).prompts⟩ := by
  simp [converse, unfinished]

theorem converse_ended {session : Session} (unfinished : session.finished = false)
    (ended : ending = [] ∨ ending.head? = some .interrupt) :
    session.converse ending = ⟨[], session, [session.phrases.prompt]⟩ := by
  rcases ended with rfl | interrupted
  · simp [converse, unfinished]
  · obtain ⟨later, rfl⟩ := List.head?_eq_some_iff.mp interrupted
    simp [converse, unfinished]

theorem converse_answerAll {session : Session} (unfinished : session.finished = false) (lines : List String)
    (ended : ending = [] ∨ ending.head? = some .interrupt) :
    session.converse (lines.map .line ++ ending) =
      ⟨(session.answerAll lines).1, (session.answerAll lines).2,
        List.replicate ((untilExit lines).length + if (session.answerAll lines).2.finished then 0 else 1)
          session.phrases.prompt⟩ := by
  induction lines generalizing session with
  | nil => simpa [answerAll, untilExit, unfinished] using converse_ended unfinished ended
  | cons line later ih =>
    rw [List.map_cons, List.cons_append, converse_line unfinished]
    by_cases exit : Text.trimmed line = "/exit"
    · rw [converse_finished (session.answer_exit exit), answerAll_exit session exit, untilExit_exit exit]
      simp [session.answer_exit exit]
    · rw [ih (answer_unfinished unfinished exit), answerAll_cons unfinished exit, untilExit_stays exit,
        (session.answer_keeps line).2]
      simp only [List.length_cons, Nat.add_right_comm _ 1, List.replicate_succ]

end Session

-- Asking for lines and being given them is the same session: the same turns, each with what
-- it printed, and the same state at the end. A conversation asks once for every line it
-- handles, and once in vain when the input ends first.
theorem Session.converse_handles {session : Session} (unfinished : session.finished = false) (lines : List String)
    (ended : ending = [] ∨ ending.head? = some .interrupt) :
    let conversation := session.converse (lines.map .line ++ ending)
    let handled := session.answerAll lines
    conversation.turns = handled.1 ∧
      (∀ console, printedBy console conversation.turns = printedBy console handled.1) ∧
      conversation.session = handled.2 ∧ handled.1.map (·.outcome.line) = untilExit lines ∧
      (handled.2.finished = true ↔ ∃ line ∈ untilExit lines, Text.trimmed line = "/exit") ∧
      conversation.prompts = List.replicate ((untilExit lines).length + if handled.2.finished then 0 else 1)
        session.phrases.prompt := by
  intro conversation handled
  have same : conversation = _ := converse_answerAll unfinished lines ended
  rw [same]
  exact ⟨rfl, fun _ => rfl, rfl, answerAll_lines unfinished lines, answerAll_finished_iff unfinished lines, rfl⟩

theorem Session.converse_handles_interrupted :
    let session : Session := { phrases := { prompt := "> " }, store := Store.empty.set "x" 7 }
    let lines := ["y = x", "/exit now", "y / 0", " /help"]
    let ending := [.interrupt, .line "/exit"]
    session.finished = false ∧ (ending = [] ∨ ending.head? = some .interrupt) ∧
      (session.converse (lines.map .line ++ ending)).turns = (session.answerAll lines).1 ∧
      (session.converse (lines.map .line ++ ending)).session = (session.answerAll lines).2 ∧
      (session.answerAll lines).1.map (·.outcome.line) = untilExit lines ∧
      (session.converse (lines.map .line ++ ending)).prompts = ["> ", "> ", "> ", "> ", "> "] := by
  intro session lines ending
  have unfinished : session.finished = false := rfl
  have ended : ending = [] ∨ ending.head? = some .interrupt := .inr rfl
  obtain ⟨turns, _, last, handled, _, prompts⟩ := Session.converse_handles unfinished lines ended
  have waits : (untilExit lines).length = 4 ∧ (session.answerAll lines).2.finished = false := by decide
  rw [waits.1, waits.2] at prompts
  exact ⟨unfinished, ended, turns, last, handled, prompts⟩

example : untilExit ["1 +", "\t/exit \r", "/exit"] = ["1 +", "\t/exit \r"] := by decide

end Calculator
