import Calculator.Session
namespace Calculator

theorem respond_cases (policy : Policy) (store : Store) (line : String) :
    (∃ next, assign policy.limit store line = .ok next ∧ respond policy store line = (.assigned, next)) ∨
      ((respond policy store line).1 ≠ .assigned ∧ (respond policy store line).2 = store) := by
  rw [respond_eq]
  split
  · exact .inr ⟨nofun, rfl⟩
  · split
    · split
      · rename_i next assigned
        exact .inl ⟨next, assigned, rfl⟩
      · exact .inr ⟨nofun, rfl⟩
    · split
      · exact .inr ⟨nofun, rfl⟩
      · exact .inr ⟨nofun, rfl⟩

theorem Command.ofLine?_exit_iff : Command.ofLine? line = some .exit ↔ Text.trimmed line = "/exit" := by
  unfold Command.ofLine?
  constructor
  · intro found
    dsimp only at found
    split at found
    · cases found
    · split at found
      · assumption
      · split at found <;> cases found
  · intro exit
    simp [exit]

namespace Session

theorem answer_line (session : Session) (line : String) : (session.answer line).outcome.line = line := by
  unfold answer
  split <;> rfl

theorem answer_cases (session : Session) (line : String) :
    (Text.trimmed line = "/exit" ∧ (session.answer line).session = { session with finished := true }) ∨
      (∃ next, assign session.policy.limit session.store line = .ok next ∧
        (session.answer line).outcome.reply = .assigned ∧ (session.answer line).session = { session with store := next }) ∨
      ((session.answer line).outcome.reply ≠ .assigned ∧ (session.answer line).session = session) := by
  unfold answer
  split
  · rename_i exit
    exact .inl ⟨Command.ofLine?_exit_iff.mp exit, rfl⟩
  · exact .inr (.inr ⟨nofun, rfl⟩)
  · exact .inr (.inr ⟨nofun, rfl⟩)
  · rcases respond_cases session.policy session.store line with ⟨next, assigned, replied⟩ | ⟨idle, kept⟩
    · exact .inr (.inl ⟨next, assigned, by simp [replied]⟩)
    · exact .inr (.inr ⟨idle, by simp [kept]⟩)

theorem answer_unfinished {session : Session} (unfinished : session.finished = false) (stays : Text.trimmed line ≠ "/exit") :
    (session.answer line).session.finished = false := by
  rcases session.answer_cases line with ⟨exit, _⟩ | ⟨next, _, _, after⟩ | ⟨_, after⟩
  · exact absurd exit stays
  · rw [after]
    exact unfinished
  · rw [after]
    exact unfinished

theorem answer_idle {session : Session} (stays : Text.trimmed line ≠ "/exit")
    (idle : (session.answer line).outcome.reply ≠ .assigned) : (session.answer line).session = session := by
  rcases session.answer_cases line with ⟨exit, _⟩ | ⟨_, _, assigned, _⟩ | ⟨_, after⟩
  · exact absurd exit stays
  · exact absurd assigned idle
  · exact after

theorem answerAll_cons {session : Session} (unfinished : session.finished = false) (stays : Text.trimmed line ≠ "/exit")
    (later : List String) : session.answerAll (line :: later) =
      (session.answer line :: ((session.answer line).session.answerAll later).1,
        ((session.answer line).session.answerAll later).2) := by
  simp [answerAll, answer_unfinished unfinished stays]

end Session

-- A history with some of its turns left out, none of which stored anything.
inductive Abridged : List Turn → List Turn → Prop
  | done : Abridged [] []
  | kept (turn : Turn) (rest : Abridged turns remaining) : Abridged (turn :: turns) (turn :: remaining)
  | dropped (idle : turn.outcome.reply ≠ .assigned) (rest : Abridged turns remaining) :
      Abridged (turn :: turns) remaining

-- A session of the lines that are left goes through the turns that are left, one by one,
-- and ends where the whole session ends.
theorem Session.answerAll_abridged {session : Session} (unfinished : session.finished = false)
    (stays : ∀ line ∈ lines, Text.trimmed line ≠ "/exit") (abridged : Abridged (session.answerAll lines).1 remaining) :
    (session.answerAll lines).1.map (·.outcome.line) = lines ∧
      session.answerAll (remaining.map (·.outcome.line)) = (remaining, (session.answerAll lines).2) := by
  induction lines generalizing session remaining with
  | nil =>
    cases abridged
    exact ⟨rfl, rfl⟩
  | cons line later ih =>
    have here := stays line List.mem_cons_self
    have behind : ∀ other ∈ later, Text.trimmed other ≠ "/exit" := fun other member =>
      stays other (List.mem_cons_of_mem _ member)
    rw [answerAll_cons unfinished here] at abridged ⊢
    cases abridged with
    | @kept _ remaining _ rest =>
      obtain ⟨lines, ran⟩ := ih (answer_unfinished unfinished here) behind rest
      refine ⟨by rw [List.map_cons, answer_line, lines], ?_⟩
      rw [List.map_cons, answer_line, answerAll_cons unfinished here, ran]
    | dropped idle rest =>
      have same := answer_idle here idle
      obtain ⟨lines, ran⟩ := ih (answer_unfinished unfinished here) behind rest
      refine ⟨by rw [List.map_cons, answer_line, lines], ?_⟩
      rw [same] at ran ⊢
      exact ran

theorem Session.answerAll_abridged_mixed :
    let session : Session := { policy := ⟨true, .atMost 640⟩, store := Store.empty.set "x" 7 }
    let lines := ["y = x", "/help", "x = 3", " ", "z = y + 1", "y / 0", "y - x"]
    session.finished = false ∧ (∀ line ∈ lines, Text.trimmed line ≠ "/exit") ∧
      ∃ remaining, Abridged (session.answerAll lines).1 remaining ∧
        remaining.map (fun turn => (turn.outcome.line, turn.outcome.reply)) =
          [("y = x", .assigned), ("x = 3", .assigned), ("y - x", .value "4")] ∧
        (session.answerAll lines).1.map (·.outcome.line) = lines ∧
        session.answerAll (remaining.map (·.outcome.line)) = (remaining, (session.answerAll lines).2) := by
  intro session lines
  have unfinished : session.finished = false := rfl
  have stays : ∀ line ∈ lines, Text.trimmed line ≠ "/exit" := by decide
  have left : ∃ remaining, Abridged (session.answerAll lines).1 remaining ∧
      remaining.map (fun turn => (turn.outcome.line, turn.outcome.reply)) =
        [("y = x", .assigned), ("x = 3", .assigned), ("y - x", .value "4")] := by
    refine ⟨_, .kept _ (.dropped ?_ (.kept _ (.dropped ?_ (.dropped ?_ (.dropped ?_ (.kept _ .done)))))), by rfl⟩ <;> decide
  obtain ⟨remaining, abridged, replies⟩ := left
  exact ⟨unfinished, stays, remaining, abridged, replies, answerAll_abridged unfinished stays abridged⟩

end Calculator
