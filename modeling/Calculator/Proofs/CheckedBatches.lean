import Calculator.Proofs.BatchRuns
namespace Calculator

namespace Command

theorem ofLine?_none_iff : ofLine? line = none ↔ (Text.trimmed line).toList.head? ≠ some '/' := by
  by_cases slash : (Text.trimmed line).toList.head? = some '/'
  · by_cases exit : Text.trimmed line = "/exit" <;> by_cases help : Text.trimmed line = "/help" <;>
      simp [ofLine?, slash, exit, help]
  · simp [ofLine?, slash]

theorem ofLine?_unknown_iff : ofLine? line = some (.unknown text) ↔
    text = Text.trimmed line ∧ (Text.trimmed line).toList.head? = some '/' ∧ Text.trimmed line ∉ ["/exit", "/help"] := by
  by_cases slash : (Text.trimmed line).toList.head? = some '/'
  · by_cases exit : Text.trimmed line = "/exit" <;> by_cases help : Text.trimmed line = "/help" <;>
      simp [ofLine?, slash, exit, help, eq_comm]
  · simp [ofLine?, slash]

end Command

-- A session refuses a line that starts like a command and is none, a line with an equals
-- sign that cannot be assigned, and any other line that is not blank and has no value.
inductive Session.Refuses (session : Session) (line : String) : Prop
  | command (slash : (Text.trimmed line).toList.head? = some '/') (unknown : Text.trimmed line ∉ ["/exit", "/help"])
  | assignment (plain : (Text.trimmed line).toList.head? ≠ some '/') (equals : '=' ∈ line.toList)
      (failed : assign session.policy.limit session.store line = .error fault)
  | expression (plain : (Text.trimmed line).toList.head? ≠ some '/') (noEquals : '=' ∉ line.toList)
      (filled : ¬ Text.AllBlank line.toList) (failed : evaluate session.policy session.store line = .error fault)

theorem not_allBlank_of_equals {line : String} (equals : '=' ∈ line.toList) : ¬ Text.AllBlank line.toList :=
  fun blank => absurd (blank '=' equals) (by decide)

theorem respond_refused_iff : (respond policy store line).1.accepted = false ↔
    ('=' ∈ line.toList ∧ ∃ fault, assign policy.limit store line = .error fault) ∨
      ('=' ∉ line.toList ∧ ¬ Text.AllBlank line.toList ∧ ∃ fault, evaluate policy store line = .error fault) := by
  rw [respond_eq]
  by_cases blank : Text.AllBlank line.toList
  · have noEquals : '=' ∉ line.toList := fun equals => not_allBlank_of_equals equals blank
    simp [blank, noEquals, Reply.accepted, Reply.error]
  · rw [if_neg blank]
    by_cases equals : '=' ∈ line.toList
    · have task : Task.ofLine line = .assignment := by simp [Task.ofLine, Assignment.hasEquals, equals]
      rw [task]
      cases answer : assign policy.limit store line <;> simp [equals, Reply.accepted, Reply.error]
    · have task : Task.ofLine line = .expression := by simp [Task.ofLine, Assignment.hasEquals, equals]
      rw [task]
      cases answer : evaluate policy store line <;> simp [equals, blank, Reply.accepted, Reply.error]

namespace Session

theorem refuses_iff (session : Session) (line : String) :
    session.Refuses line ↔ (session.answer line).outcome.reply.accepted = false := by
  unfold answer
  constructor
  · rintro (⟨slash, unknown⟩ | ⟨plain, equals, failed⟩ | ⟨plain, noEquals, filled, failed⟩)
    · rw [Command.ofLine?_unknown_iff.mpr ⟨rfl, slash, unknown⟩]
      rfl
    · rw [Command.ofLine?_none_iff.mpr plain]
      exact respond_refused_iff.mpr (.inl ⟨equals, _, failed⟩)
    · rw [Command.ofLine?_none_iff.mpr plain]
      exact respond_refused_iff.mpr (.inr ⟨noEquals, filled, _, failed⟩)
  · cases command : Command.ofLine? line with
    | none =>
      have plain := Command.ofLine?_none_iff.mp command
      intro refused
      rcases respond_refused_iff.mp refused with ⟨equals, _, failed⟩ | ⟨noEquals, filled, _, failed⟩
      · exact .assignment plain equals failed
      · exact .expression plain noEquals filled failed
    | some known =>
      cases known with
      | exit => exact nofun
      | help => exact nofun
      | unknown text =>
        obtain ⟨_, slash, unknown⟩ := Command.ofLine?_unknown_iff.mp command
        exact fun _ => .command slash unknown

instance (session : Session) (line : String) : Decidable (session.Refuses line) :=
  decidable_of_iff _ (session.refuses_iff line).symm

example : ({} : Session).Refuses "/exit now" ∧ ¬ ({} : Session).Refuses " /help\t" := by decide

def RefusesOne (session : Session) (lines : List String) : Prop :=
  ∃ before line later, lines = before ++ line :: later ∧ (session.answerAll before).2.Refuses line

theorem refusesOne_nil (session : Session) : ¬ session.RefusesOne [] := by
  rintro ⟨before, line, later, split, _⟩
  cases before <;> cases split

theorem refusesOne_singleton {session : Session} : session.RefusesOne [line] ↔ session.Refuses line := by
  constructor
  · rintro ⟨before, refused, later, split, refuses⟩
    rcases List.singleton_eq_append_iff.mp split with ⟨rfl, same⟩ | ⟨_, none⟩
    · cases same
      exact refuses
    · cases none
  · exact fun refuses => ⟨[], line, [], rfl, refuses⟩

theorem refusesOne_cons {session : Session} (unfinished : session.finished = false)
    (stays : Text.trimmed line ≠ "/exit") : session.RefusesOne (line :: later) ↔
      session.Refuses line ∨ (session.answer line).session.RefusesOne later := by
  constructor
  · rintro ⟨before, refused, behind, split, refuses⟩
    cases before with
    | nil =>
      cases split
      exact .inl refuses
    | cons first between =>
      cases split
      rw [answerAll_cons unfinished stays] at refuses
      exact .inr ⟨between, refused, behind, rfl, refuses⟩
  · rintro (refuses | ⟨between, refused, behind, rfl, refuses⟩)
    · exact ⟨[], line, later, rfl, refuses⟩
    · refine ⟨line :: between, refused, behind, rfl, ?_⟩
      rwa [answerAll_cons unfinished stays]

theorem answerAll_refused_iff {session : Session} (unfinished : session.finished = false) (lines : List String) :
    (session.answerAll lines).1.any (fun turn => !turn.outcome.reply.accepted) = true ↔
      session.RefusesOne (untilExit lines) := by
  induction lines generalizing session with
  | nil => simpa [answerAll, untilExit] using session.refusesOne_nil
  | cons line later ih =>
    by_cases exit : Text.trimmed line = "/exit"
    · rw [answerAll_exit session exit, untilExit_exit exit, refusesOne_singleton, refuses_iff]
      simp
    · rw [answerAll_cons unfinished exit, untilExit_stays exit, refusesOne_cons unfinished exit, refuses_iff,
        ← ih (answer_unfinished unfinished exit)]
      simp

theorem answerAll_untilExit {session : Session} (unfinished : session.finished = false) (lines : List String) :
    session.answerAll (untilExit lines) = session.answerAll lines := by
  induction lines generalizing session with
  | nil => rfl
  | cons line later ih =>
    by_cases exit : Text.trimmed line = "/exit"
    · rw [untilExit_exit exit, answerAll_exit session exit, answerAll_exit session exit]
    · rw [untilExit_stays exit, answerAll_cons unfinished exit, answerAll_cons unfinished exit,
        ih (answer_unfinished unfinished exit)]

end Session

def handledLines (text : String) : List String := untilExit ((Text.documentLines text.toList).map String.ofList)

namespace Settings

theorem batch_congr (settings : Settings) (console : Console) (same : handledLines text = handledLines other)
    (check : Bool) : settings.batch console check text = settings.batch console check other := by
  have unfinished : settings.session.finished = false := rfl
  have handled : settings.session.answerAll ((Text.documentLines text.toList).map String.ofList) =
      settings.session.answerAll ((Text.documentLines other.toList).map String.ofList) := by
    calc
      _ = settings.session.answerAll (handledLines text) := (Session.answerAll_untilExit unfinished _).symm
      _ = settings.session.answerAll (handledLines other) := by rw [same]
      _ = _ := Session.answerAll_untilExit unfinished _
  rw [batch, batch, handled]

theorem batch_check (settings : Settings) (console : Console) (text : String) :
    ∃ status output log, settings.batch console true text = .exited status output log ∧
      settings.batch console false text = .exited 0 output log ∧
      (status = 1 ↔ settings.session.RefusesOne (handledLines text)) ∧
      (status = 0 ↔ ¬ settings.session.RefusesOne (handledLines text)) := by
  have unfinished : settings.session.finished = false := rfl
  obtain ⟨log, ends⟩ := settings.batch_exits console text
  refine ⟨_, _, log, ends true, ends false, ?_, ?_⟩
  all_goals
    rw [handledLines, ← Session.answerAll_refused_iff unfinished]
    simp

end Settings

-- Where two texts have the lines to be handled in common, a check of the one prints what a
-- batch of the other prints. Its status is one if one of these lines is refused by the
-- session that those before it lead to, from an empty store, and else zero.
theorem runProgram_batch_check (checked : Request.ofArguments words = .ok (.batch given true))
    (plain : Request.ofArguments others = .ok (.batch otherGiven false))
    {settings : Settings} (taken : settings.limitAnswer = .taken) (console : Console)
    (same : handledLines (given.getD input) = handledLines (otherGiven.getD otherInput)) :
    ∃ status output log,
      runProgram words (.ok settings) (some console) input = .exited status output log ∧
        runProgram others (.ok settings) (some console) otherInput = .exited 0 output log ∧
        (status = 1 ↔ settings.session.RefusesOne (handledLines (given.getD input))) ∧
        (status = 0 ↔ ¬ settings.session.RefusesOne (handledLines (given.getD input))) := by
  obtain ⟨status, output, log, one, other, failed, passed⟩ := settings.batch_check console (given.getD input)
  rw [settings.batch_congr console same] at other
  rw [runProgram_request checked taken, runProgram_request plain taken]
  exact ⟨status, output, log, one, other, failed, passed⟩

theorem runProgram_batch_check_unbound :
    let settings : Settings := { strictTokens := true, digitLimit := .atMost 640 }
    let input := "x = 7\r\n/help\x0bx / y\u2028\t/exit\ny ="
    let text := "x = 7\n/help\rx / y\n\t/exit\rx"
    let lines := ["x = 7", "/help", "x / y", "\t/exit"]
    Request.ofArguments ["eval", "--check"] = .ok (.batch none true) ∧
      Request.ofArguments ["eval", "--text=" ++ text] = .ok (.batch (some text) false) ∧
      handledLines input = lines ∧ handledLines text = lines ∧
      settings.limitAnswer = .taken ∧ settings.session.RefusesOne lines ∧
      ∀ console, ∃ output log,
        runProgram ["eval", "--check"] (.ok settings) (some console) input = .exited 1 output log ∧
          runProgram ["eval", "--text=" ++ text] (.ok settings) (some console) "" = .exited 0 output log := by
  intro settings input text lines
  have checked : Request.ofArguments ["eval", "--check"] = .ok (.batch none true) := by decide +kernel
  have plain : Request.ofArguments ["eval", "--text=" ++ text] = .ok (.batch (some text) false) := by decide +kernel
  have taken : settings.limitAnswer = .taken := by decide
  have typed : handledLines input = lines := by decide +kernel
  have written : handledLines text = lines := by decide +kernel
  -- The first line gives `x` a value, and nothing gives `y` one.
  let between : Session := (settings.session.answerAll ["x = 7", "/help"]).2
  have failed : evaluate between.policy between.store "x / y" = .error (.unknownVariable "y") := by decide
  have unbound : between.Refuses "x / y" := .expression (by decide) (by decide) (by decide) failed
  have refuses : settings.session.RefusesOne lines := ⟨["x = 7", "/help"], "x / y", ["\t/exit"], rfl, unbound⟩
  have same : handledLines ((none : Option String).getD input) = handledLines ((some text).getD "") :=
    typed.trans written.symm
  refine ⟨checked, plain, typed, written, taken, refuses, fun console => ?_⟩
  obtain ⟨status, output, log, one, other, one_iff, _⟩ := runProgram_batch_check checked plain taken console same
  obtain rfl : status = 1 := one_iff.mpr (by rw [Option.getD_none, typed]; exact refuses)
  exact ⟨output, log, one, other⟩

end Calculator
