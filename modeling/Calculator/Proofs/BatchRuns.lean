import Calculator.Proofs.Conversations
import Calculator.Proofs.Conversions
import Calculator.Proofs.LineEnds
namespace Calculator

namespace Session

theorem answer_fits (session : Session) (line : String) :
    ∀ event ∈ (session.answer line).events, event.Fits session.policy.limit := by
  unfold answer
  split
  · simp
  · simp
  · simp [Event.Fits]
  · exact Event.ofLine_fits session.policy session.store line

theorem answerAll_fits (session : Session) (lines : List String) :
    ∀ event ∈ (session.answerAll lines).1.flatMap Turn.events, event.Fits session.policy.limit := by
  induction lines generalizing session with
  | nil => simp [answerAll]
  | cons line later ih =>
    have here := session.answer_fits line
    have behind := ih (session.answer line).session
    rw [(session.answer_keeps line).1] at behind
    simp only [answerAll]
    split
    · simpa using here
    · rw [List.flatMap_cons, List.forall_mem_append]
      exact ⟨here, behind⟩

end Session

section
variable (console : Console)

theorem printedBy_replies (turns : List Turn) :
    printedBy console turns = String.join ((turns.map (·.outcome.reply)).map console.reply) := by
  rw [printedBy, List.map_map]
  rfl

theorem transcript_silent (turns : List Turn) (more : Nat) :
    transcript console (List.replicate (turns.length + more) "") turns = printedBy console turns := by
  induction turns with
  | nil =>
    -- The prompts that are left were asked in vain.
    induction more with
    | zero => rfl
    | succ more ih => simpa [List.replicate_succ, transcript] using ih
  | cons turn turns ih =>
    rw [List.length_cons, Nat.add_right_comm, List.replicate_succ, transcript, ih]
    simp [printedBy, String.join_cons]

namespace Session

theorem converse_lines {session : Session} (unfinished : session.finished = false) (lines : List String) :
    session.converse (lines.map .line) =
      ⟨(session.answerAll lines).1, (session.answerAll lines).2,
        List.replicate ((session.answerAll lines).1.length + if (session.answerAll lines).2.finished then 0 else 1)
          session.phrases.prompt⟩ := by
  have handled : (session.answerAll lines).1.length = (untilExit lines).length := by
    rw [← answerAll_lines unfinished lines, List.length_map]
  have same := converse_answerAll unfinished lines (.inl rfl)
  rwa [List.append_nil, ← handled] at same

theorem transcript_converse {session : Session} (unfinished : session.finished = false)
    (silent : session.phrases.prompt = "") (lines : List String) :
    let conversation := session.converse (lines.map .line)
    transcript console conversation.prompts conversation.turns = printedBy console (session.answerAll lines).1 := by
  intro conversation
  have same : conversation = _ := converse_lines unfinished lines
  rw [same, silent]
  exact transcript_silent console _ _

theorem converse_fits {session : Session} (unfinished : session.finished = false) (lines : List String) :
    ∀ event ∈ (session.converse (lines.map .line)).events, event.Fits session.policy.limit := by
  rw [converse_lines unfinished, Conversation.events, List.cons_append, List.forall_mem_cons, List.forall_mem_append]
  exact ⟨trivial, session.answerAll_fits lines, by simp [Event.Fits]⟩

end Session

namespace Settings

theorem batch_exits (settings : Settings) (text : String) :
    let turns := (settings.session.answerAll ((Text.documentLines text.toList).map String.ofList)).1
    ∃ log, ∀ check, settings.batch console check text =
      .exited (if check && turns.any (fun turn => !turn.outcome.reply.accepted) then 1 else 0)
        (printedBy console turns) log := by
  intro turns
  obtain ⟨log, ends⟩ := settings.exit_fits (settings.session.answerAll_fits _)
  exact ⟨log, fun check => ends _ _⟩

theorem map_line_typedLines (text : String) : (Text.typedLines text.toList).map (fun line => Input.line (String.ofList line)) =
    ((Text.typedLines text.toList).map String.ofList).map .line := by
  rw [List.map_map]
  rfl

theorem converse_exits (settings : Settings) (text : String) :
    let lines := (Text.typedLines text.toList).map String.ofList
    let conversation := settings.session.converse (lines.map .line)
    ∃ log, settings.converse console text =
      .exited 0 (transcript console conversation.prompts conversation.turns) log := by
  intro lines conversation
  have unfinished : settings.session.finished = false := rfl
  obtain ⟨log, ends⟩ := settings.exit_fits (Session.converse_fits unfinished lines)
  rw [converse, map_line_typedLines]
  exact ⟨log, ends 0 _⟩

-- What a carriage return leaves at the end of a typed line is not seen in any answer.
theorem printedBy_typedLines (settings : Settings) (ends : Text.NewlineEnds text) :
    printedBy console (settings.session.answerAll ((Text.typedLines text).map String.ofList)).1 =
      printedBy console (settings.session.answerAll ((Text.documentLines text).map String.ofList)).1 := by
  have padded : List.Forall₂ Padded ((Text.documentLines text).map String.ofList)
      ((Text.typedLines text).map String.ofList) := by
    rw [List.forall₂_map_left_iff, List.forall₂_map_right_iff]
    exact (Text.typedLines_returned ends).imp fun _ _ returned => .of_returned returned
  rw [printedBy_replies, printedBy_replies, (Session.answerAll_padded padded settings.session).1]

end Settings

end

theorem runProgram_eq (asked : Request.ofArguments words = .ok request) (settings : Settings)
    (console? : Option Console) (input : String) :
    runProgram words (.ok settings) console? input =
      match settings.limitAnswer, console? with
      | .taken, some console => Launch.run ⟨request, settings, console⟩ input
      | .taken, none => .noConsole
      | .refused, _ => .limitRefused
      | .overflow, _ => .limitOverflow := by
  rw [runProgram, Launch.prepare, asked]
  dsimp only
  cases settings.limitAnswer <;> cases console? <;> rfl

theorem runProgram_request (asked : Request.ofArguments words = .ok request)
    (taken : Settings.limitAnswer settings = .taken) (console : Console) (input : String) :
    runProgram words (.ok settings) (some console) input = Launch.run ⟨request, settings, console⟩ input := by
  rw [runProgram_eq asked, taken]

-- The lines of a text print the same whether they are handed over together or typed one
-- after the other, wherever nothing but newlines breaks lines.
theorem runProgram_batch_converse (batch : Request.ofArguments words = .ok (.batch given false))
    (typed : Request.ofArguments others = .ok .converse) {settings : Settings} (taken : settings.limitAnswer = .taken)
    (silent : settings.phrases.prompt = "") (ends : Text.NewlineEnds (given.getD input).toList) (console : Console) :
    ∃ output log otherLog,
      runProgram words (.ok settings) (some console) input = .exited 0 output log ∧
        runProgram others (.ok settings) (some console) (given.getD input) = .exited 0 output otherLog := by
  obtain ⟨log, together⟩ := settings.batch_exits console (given.getD input)
  obtain ⟨otherLog, apart⟩ := settings.converse_exits console (given.getD input)
  have unfinished : settings.session.finished = false := rfl
  rw [Session.transcript_converse console unfinished silent, settings.printedBy_typedLines console ends] at apart
  rw [runProgram_request batch taken, runProgram_request typed taken]
  exact ⟨_, log, otherLog, together false, apart⟩

theorem runProgram_batch_converse_typed :
    let settings : Settings := { phrases := { prompt := "" }, digitLimit := .atMost 640 }
    let input := "x = 7\r\n\r\nx ** 2\n /exit \r\nx /\n-x"
    Request.ofArguments ["eval"] = .ok (.batch none false) ∧ Request.ofArguments ["repl"] = .ok .converse ∧
      settings.limitAnswer = .taken ∧ settings.phrases.prompt = "" ∧ Text.NewlineEnds input.toList ∧
      ∀ console, ∃ output log otherLog,
        runProgram ["eval"] (.ok settings) (some console) input = .exited 0 output log ∧
          runProgram ["repl"] (.ok settings) (some console) input = .exited 0 output otherLog := by
  intro settings input
  have batch : Request.ofArguments ["eval"] = .ok (.batch none false) := by decide +kernel
  have typed : Request.ofArguments ["repl"] = .ok .converse := by decide +kernel
  have taken : settings.limitAnswer = .taken := by decide
  have ends : Text.NewlineEnds ((none : Option String).getD input).toList := by decide +kernel
  exact ⟨batch, typed, taken, rfl, ends, runProgram_batch_converse batch typed taken rfl ends⟩

end Calculator
