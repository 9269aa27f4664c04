import Calculator.Proofs.FaultCounts
namespace Calculator

-- Work that writes its records at once. A fault is answered by whoever asked for the work;
-- nobody on the way answers a record that cannot be written.
abbrev Journaled := StateT (List String) (Except DigitOverflow)

namespace Journaled

def note (level : Level) (limit : DigitLimit) (event : Event) : Journaled Unit := do
  if level.rank ≤ event.level.rank then
    let record ← event.record limit
    modify (· ++ [record])

def tokensOfLine (level : Level) (policy : Policy) (line : String) : ExceptT Fault Journaled (List Token) := do
  let scan ← Scan.ofLine policy line
  if scan.unread ≠ [] then
    note level policy.limit (.restDropped (String.ofList scan.unread))
  note level policy.limit (.scanned scan.tokens)
  return scan.tokens

def postfixOfLine (level : Level) (policy : Policy) (line : String) : ExceptT Fault Journaled (List Token) := do
  let tokens ← tokensOfLine level policy line
  let stream ← postfixOf tokens
  note level policy.limit (.converted stream)
  return stream

def evaluate (level : Level) (policy : Policy) (store : Store) (line : String) : ExceptT Fault Journaled String := do
  let stream ← postfixOfLine level policy line
  let value ← valueOfPostfix store stream
  match policy.limit.print value with
  | .ok text => return text
  | .error overflow => throw (.resultTooLong overflow)

def assign (level : Level) (limit : DigitLimit) (store : Store) (line : String) : ExceptT Fault Journaled Store :=
  match Assignment.ofLine? line with
  | none => throw (.notAnAssignment line)
  | some assignment =>
    if isName assignment.target then do
      let value ← assignment.value limit store
      note level limit (.assigned assignment.target)
      return store.set assignment.target value
    else throw (.invalidIdentifier assignment.target)

def respond (level : Level) (policy : Policy) (store : Store) (line : String) : Journaled (Reply × Store) :=
  if Text.AllBlank line.toList then return (.blank, store)
  else
    match Task.ofLine line with
    | .assignment => do
      match ← (assign level policy.limit store line).run with
      | .ok next => return (.assigned, next)
      | .error fault =>
        note level policy.limit (.rejected .assignment line fault)
        return (.rejected .assignment fault, store)
    | .expression => do
      match ← (evaluate level policy store line).run with
      | .ok text => return (.value text, store)
      | .error fault =>
        note level policy.limit (.rejected .expression line fault)
        return (.rejected .expression fault, store)

def Writes (level : Level) (limit : DigitLimit) (work : Journaled α) (events : List Event) (result : α) : Prop :=
  ∀ journal, work journal = (fun log => (result, journal ++ log)) <$> records level limit events

end Journaled

theorem records_append (level : Level) (limit : DigitLimit) (left right : List Event) :
    records level limit (left ++ right) = (do
      let first ← records level limit left
      let second ← records level limit right
      return first ++ second) := by
  simp [records]

namespace Journaled

variable {level : Level} {limit : DigitLimit}

theorem writes_pure (result : α) : Writes level limit (pure result) [] result := by
  intro journal
  have none : records level limit [] = .ok [] := rfl
  rw [none, Except.map_ok, List.append_nil]
  rfl

theorem writes_note (event : Event) : Writes level limit (note level limit event) [event] () := by
  intro journal
  unfold note records
  split
  · rename_i wanted
    cases recorded : event.record limit <;> simp [wanted, recorded] <;> rfl
  · rename_i unwanted
    simp [unwanted]
    rfl

theorem Writes.bind {work : Journaled α} {next : α → Journaled β} (first : Writes level limit work events value)
    (second : Writes level limit (next value) later result) :
    Writes level limit (work >>= next) (events ++ later) result := by
  intro journal
  have unfolded : (work >>= next) journal = work journal >>= fun reached => next reached.1 reached.2 := rfl
  rw [unfolded, first journal, records_append]
  cases records level limit events with
  | error overflow => rfl
  | ok log =>
    rw [Except.map_ok, ok_bind, ok_bind, second]
    cases records level limit later with
    | error overflow => rfl
    | ok rest => simp

theorem Writes.andThen {work : ExceptT Fault Journaled α} {next : α → ExceptT Fault Journaled β}
    (first : Writes level limit work.run events (.ok value)) (second : Writes level limit (next value).run later result) :
    Writes level limit (work >>= next).run (events ++ later) result := by
  rw [ExceptT.run_bind]
  exact first.bind second

theorem Writes.stop {work : ExceptT Fault Journaled α} (first : Writes level limit work.run events (.error fault))
    (next : α → ExceptT Fault Journaled β) : Writes level limit (work >>= next).run events (.error fault) := by
  rw [ExceptT.run_bind, ← List.append_nil events]
  exact first.bind (writes_pure _)

theorem writes_success {next : α → ExceptT Fault Journaled β} (second : Writes level limit (next value).run events result) :
    Writes level limit (liftM (Except.ok value : Except Fault α) >>= next : ExceptT Fault Journaled β).run events result :=
  second

theorem writes_failure (fault : Fault) (next : α → ExceptT Fault Journaled β) :
    Writes level limit (liftM (.error fault : Except Fault α) >>= next : ExceptT Fault Journaled β).run [] (.error fault) :=
  writes_pure _

theorem writes_noted (event : Event) :
    Writes level limit (liftM (note level limit event) : ExceptT Fault Journaled Unit).run [event] (.ok ()) := by
  intro journal
  have unfolded : (liftM (note level limit event) : ExceptT Fault Journaled Unit).run journal =
    (fun reached : Unit × List String => (Except.ok reached.1, reached.2)) <$> note level limit event journal := rfl
  rw [unfolded, writes_note]
  cases records level limit [event] <;> rfl

theorem writes_last (event : Event) (result : α) :
    Writes level limit (do
      liftM (note level limit event)
      return result : ExceptT Fault Journaled α).run [event] (.ok result) :=
  (writes_noted event).andThen (writes_pure _)

theorem tokensOfLine_writes (level : Level) (policy : Policy) (line : String) :
    Writes level policy.limit (tokensOfLine level policy line).run (Event.ofTokens policy line)
      (Calculator.tokensOfLine policy line) := by
  unfold tokensOfLine Event.ofTokens Calculator.tokensOfLine
  cases Scan.ofLine policy line with
  | error fault => exact writes_failure fault _
  | ok scan =>
    apply writes_success
    dsimp only
    by_cases complete : scan.unread = []
    · rw [if_neg (not_not.mpr complete), if_pos complete]
      exact writes_last _ _
    · rw [if_pos complete, if_neg complete]
      exact (writes_noted _).andThen (writes_last _ _)

theorem postfixOfLine_writes (level : Level) (policy : Policy) (line : String) :
    Writes level policy.limit (postfixOfLine level policy line).run (Event.ofPostfix policy line)
      (Calculator.postfixOfLine policy line) := by
  have read := tokensOfLine_writes level policy line
  unfold postfixOfLine Event.ofPostfix Calculator.postfixOfLine
  cases scanned : Calculator.tokensOfLine policy line with
  | error fault =>
    rw [scanned] at read
    exact read.stop _
  | ok tokens =>
    rw [scanned] at read
    rw [ok_bind]
    cases converted : postfixOf tokens with
    | error fault =>
      dsimp only
      rw [← List.append_nil (Event.ofTokens policy line)]
      apply read.andThen
      rw [converted]
      exact writes_failure fault _
    | ok stream =>
      apply read.andThen
      rw [converted]
      exact writes_success (writes_last _ _)

theorem evaluate_writes (level : Level) (policy : Policy) (store : Store) (line : String) :
    Writes level policy.limit (evaluate level policy store line).run (Event.ofPostfix policy line)
      (Calculator.evaluate policy store line) := by
  have read := postfixOfLine_writes level policy line
  unfold evaluate Calculator.evaluate valueOfLine
  cases converted : Calculator.postfixOfLine policy line with
  | error fault =>
    rw [converted] at read
    exact read.stop _
  | ok stream =>
    rw [converted] at read
    rw [ok_bind, ← List.append_nil (Event.ofPostfix policy line)]
    apply read.andThen
    cases valueOfPostfix store stream with
    | error fault => exact writes_failure fault _
    | ok value =>
      apply writes_success
      rw [ok_bind]
      cases policy.limit.print value with
      | error overflow => exact writes_pure _
      | ok text => exact writes_pure _

theorem assign_writes (level : Level) (limit : DigitLimit) (store : Store) (line : String) :
    Writes level limit (assign level limit store line).run (Event.ofAssignment limit store line)
      (Calculator.assign limit store line) := by
  rw [assign, Event.ofAssignment, assign_eq]
  cases Assignment.ofLine? line with
  | none => exact writes_pure _
  | some assignment =>
    dsimp only
    split
    · cases assignment.value limit store with
      | error fault => exact writes_failure fault _
      | ok value => exact writes_success (writes_last _ _)
    · exact writes_pure _

-- Handling a line step by step, with every record written on the way, comes to the reply and
-- the store of handling it in silence, and to the records of the events of the line.
theorem respond_writes (level : Level) (policy : Policy) (store : Store) (line : String) :
    Writes level policy.limit (respond level policy store line) (Event.ofLine policy store line)
      (Calculator.respond policy store line) := by
  rw [respond, Event.ofLine, respond_eq]
  split
  · exact writes_pure _
  · cases Task.ofLine line with
    | assignment =>
      have assigned := assign_writes level policy.limit store line
      dsimp only
      cases result : Calculator.assign policy.limit store line with
      | ok next =>
        rw [result] at assigned
        dsimp only
        rw [← List.append_nil (Event.ofAssignment policy.limit store line)]
        exact assigned.bind (writes_pure _)
      | error fault =>
        rw [result] at assigned
        exact assigned.bind ((writes_note _).bind (writes_pure _))
    | expression =>
      have evaluated := evaluate_writes level policy store line
      dsimp only
      cases result : Calculator.evaluate policy store line with
      | ok text =>
        rw [result] at evaluated
        dsimp only
        rw [← List.append_nil (Event.ofPostfix policy line)]
        exact evaluated.bind (writes_pure _)
      | error fault =>
        rw [result] at evaluated
        exact evaluated.bind ((writes_note _).bind (writes_pure _))

-- Whatever is recorded, a line gets the reply it gets in silence. A limit turns up in a
-- reply as a refusal or not at all, and nothing else that is printed is too long for it:
-- what a message counts stands on the line, and no line has 10 ^ 640 characters.
theorem respond_conversions (settings : Settings) (store : Store) (line : String) :
    let reply := Calculator.respond settings.policy store line
    (∀ level, ∃ log, records level settings.digitLimit (Event.ofLine settings.policy store line) = .ok log ∧
      ∀ journal, respond level settings.policy store line journal = .ok (reply, journal ++ log)) ∧
    (reply = Calculator.respond { settings.policy with limit := .unlimited } store line ∨
      ∃ task fault, reply = (.rejected task fault, store) ∧
        (fault.kind = "NumberTooLarge" ∨ fault.kind = "InvalidAssignmentValue")) ∧
    (∀ tokens, Calculator.tokensOfLine settings.policy line = .ok tokens →
      (∀ value, .integer value ∈ tokens → settings.digitLimit.Allows (Decimal.digits value.natAbs).length) ∧
      ∃ text, Token.printAll settings.digitLimit tokens = .ok text) ∧
    (∀ stream, Calculator.postfixOfLine settings.policy line = .ok stream →
      ∃ text, Token.printAll settings.digitLimit stream = .ok text) ∧
    (∀ console, ∃ status output log, settings.showTokens console line = .exited status output log) ∧
    (∀ console, ∃ status output log, settings.showPostfix console line = .exited status output log) ∧
    (∀ task fault, reply.1 = .rejected task fault → ∀ count ∈ fault.counts,
      count ≤ line.length ∧ (settings.digitLimit.Allows 640 → line.length < 10 ^ 640 →
        settings.digitLimit.Allows (Decimal.digits count).length)) := by
  intro reply
  refine ⟨?recorded, respond_limit _ _ _, ?scanned, ?converted,
    fun console => (settings.showTokens_orderly console line).exits,
    fun console => (settings.showPostfix_orderly console line).exits, ?counted⟩
  case recorded =>
    intro level
    obtain ⟨log, written⟩ : ∃ log, records level settings.policy.limit (Event.ofLine settings.policy store line) = .ok log :=
      records_fits (Event.ofLine_fits settings.policy store line) level
    refine ⟨log, written, ?_⟩
    intro journal
    rw [respond_writes level settings.policy store line journal, written]
    rfl
  case scanned =>
    intro tokens read
    have fits := tokensOfLine_fits read
    exact ⟨fun value member => fits _ member, Token.printAll_fits fits⟩
  case converted =>
    intro stream converted
    exact Token.printAll_fits (postfixOfLine_fits converted)
  case counted =>
    intro task fault rejected count counted
    have within := respond_within rejected count counted
    exact ⟨within, fun roomy short => roomy.within (by decide) short within⟩

end Journaled
end Calculator
