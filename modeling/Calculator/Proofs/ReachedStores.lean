import Calculator.Proofs.Conversations
import Calculator.Proofs.OperandLines
import Mathlib.Logic.Relation
namespace Calculator

-- What holds of the variables of a session: every name is a name, and no value is longer
-- than a number may be. Zero stands for no limit.
structure Store.Kept (limit : Nat) (store : Store) : Prop where
  named : ∀ name value, store.get? name = some value → isName name = true
  short : ∀ name value, store.get? name = some value → limit = 0 ∨ (Decimal.digits value.natAbs).length ≤ limit

theorem Assigns.parts (assigns : Assigns limit store text name value) :
    isName name = true ∧ ∃ source, SourceText limit store source value := by
  cases assigns with
  | written _ _ _ _ target source => exact ⟨lettered_iff.mp target, _, source⟩

theorem Store.kept_empty (limit : Nat) : Kept limit .empty := ⟨nofun, nofun⟩

namespace Store.Kept

theorem after_set (kept : Kept limit store) (named : isName name = true)
    (short : limit = 0 ∨ (Decimal.digits value.natAbs).length ≤ limit) : Kept limit (store.set name value) := by
  refine ⟨fun other held found => ?_, fun other held found => ?_⟩
  · rcases get?_set_cases found with ⟨rfl, _⟩ | old
    · exact named
    · exact kept.named other held old
  · rcases get?_set_cases found with ⟨_, rfl⟩ | old
    · exact short
    · exact kept.short other held old

-- A value is copied from a variable or read from a literal; no computed value is stored.
theorem source_short (kept : Kept limit store) (source : SourceText limit store text value) :
    limit = 0 ∨ (Decimal.digits value.natAbs).length ≤ limit := by
  rcases sourceText_iff.mp source with ⟨name, _, bound, _⟩ | ⟨literal, written, short, rfl⟩
  · exact kept.short _ _ bound
  · exact short.imp_right (Nat.le_trans written.length_value_le)

theorem after_assign (kept : Kept limit store) (assigned : assign (.ofNat limit) store line = .ok next) : Kept limit next := by
  obtain ⟨name, value, assigns, rfl⟩ := assign_ok_iff.mp assigned
  obtain ⟨target, _, source⟩ := assigns.parts
  exact kept.after_set target (kept.source_short source)

end Store.Kept

def Store.Grows (before after : Store) : Prop :=
  ∀ name, (before.get? name).isSome = true → (after.get? name).isSome = true

theorem Store.grows_set (store : Store) (name : String) (value : Int) : store.Grows (store.set name value) := by
  intro other bound
  rw [get?_set]
  split
  · rfl
  · exact bound

namespace Session

def Step (session next : Session) : Prop := ∃ line, (session.answer line).session = next

def Reaches : Session → Session → Prop := Relation.ReflTransGen Step

theorem answerAll_reaches (session : Session) (lines : List String) :
    session.Reaches (session.answerAll lines).2 ∧
      ∀ turn ∈ (session.answerAll lines).1, session.Reaches turn.session := by
  induction lines generalizing session with
  | nil => exact ⟨.refl, fun _ member => absurd member List.not_mem_nil⟩
  | cons line later ih =>
    have first : session.Reaches (session.answer line).session := .single ⟨line, rfl⟩
    obtain ⟨last, turns⟩ := ih (session.answer line).session
    rw [answerAll]
    dsimp only
    split
    · refine ⟨first, fun turn member => ?_⟩
      rw [List.mem_singleton.mp member]
      exact first
    · refine ⟨first.trans last, fun turn member => ?_⟩
      rcases List.mem_cons.mp member with rfl | behind
      · exact first
      · exact first.trans (turns turn behind)

structure Sound (limit : Nat) (session : Session) : Prop where
  limited : session.policy.limit = .ofNat limit
  kept : session.store.Kept limit

theorem Sound.after_step {session next : Session} (sound : session.Sound limit) (step : session.Step next) :
    next.Sound limit ∧ session.store.Grows next.store := by
  obtain ⟨line, rfl⟩ := step
  have limited : (session.answer line).session.policy.limit = .ofNat limit := by
    rw [(session.answer_keeps line).1, sound.limited]
  suffices kept : (session.answer line).session.store.Kept limit ∧
      session.store.Grows (session.answer line).session.store from ⟨⟨limited, kept.1⟩, kept.2⟩
  rcases session.answer_cases line with ⟨_, after⟩ | ⟨next, assigned, _, after⟩ | ⟨_, after⟩
  · rw [after]
    exact ⟨sound.kept, fun _ => id⟩
  · rw [after]
    rw [sound.limited] at assigned
    refine ⟨sound.kept.after_assign assigned, ?_⟩
    obtain ⟨name, value, _, rfl⟩ := assign_ok_iff.mp assigned
    exact session.store.grows_set name value
  · rw [after]
    exact ⟨sound.kept, fun _ => id⟩

theorem Sound.after_reaches {session later : Session} (sound : session.Sound limit) (reached : session.Reaches later) :
    later.Sound limit ∧ session.store.Grows later.store := by
  induction reached with
  | refl => exact ⟨sound, fun _ => id⟩
  | tail _ step ih =>
    obtain ⟨between, grown⟩ := ih
    obtain ⟨after, grows⟩ := between.after_step step
    exact ⟨after, fun name bound => grows name (grown name bound)⟩

end Session

-- Whatever lines a session is given from its start on, its variables have names, and values
-- no longer than a number may be. It forgets none of them, and a line with the name of one
-- is answered with its value.
theorem Session.reaches_kept {phrases : Phrases} (reached : Session.Reaches { policy := ⟨strict, .ofNat limit⟩, phrases } state) :
    (∀ name value, state.store.get? name = some value →
      isName name = true ∧ (limit ≠ 0 → (Decimal.digits value.natAbs).length ≤ limit)) ∧
    (∀ later, state.Reaches later → ∀ name, (state.store.get? name).isSome = true →
      (later.store.get? name).isSome = true) ∧
    (∀ name value line, state.store.get? name = some value → Text.removeBlanks line.toList = name.toList →
      (state.answer line).outcome.reply = .value (Decimal.text value) ∧
        (∀ console, (state.answer line).printed console = console.line (Decimal.text value)) ∧
        (state.answer line).session = state) ∧
    ∀ lines, state.Reaches (state.answerAll lines).2 ∧
      ∀ turn ∈ (state.answerAll lines).1, state.Reaches turn.session := by
  have start : Sound limit { policy := ⟨strict, .ofNat limit⟩, phrases } := ⟨rfl, Store.kept_empty limit⟩
  obtain ⟨sound, _⟩ := start.after_reaches reached
  refine ⟨fun name value bound => ?_, fun later further => (sound.after_reaches further).2, fun name value line bound text => ?_,
    state.answerAll_reaches⟩
  · exact ⟨sound.kept.named name value bound, fun limited => (sound.kept.short name value bound).resolve_left limited⟩
  · have short : state.policy.limit.Allows (Decimal.digits value.natAbs).length := by
      rw [sound.limited]
      exact DigitLimit.allows_ofNat.mpr (sound.kept.short name value bound)
    obtain ⟨reply, same⟩ := answer_of_name (sound.kept.named name value bound) text bound short
    exact ⟨reply, fun console => by rw [Turn.printed, reply]; rfl, same⟩

theorem Session.reaches_kept_copied :
    let start : Session := { policy := ⟨true, .ofNat 640⟩ }
    let state := (start.answerAll ["x = -0012", "y\t= x", "1 2 = x", "z = y * y", "y / 0", "/exit"]).2
    start.Reaches state ∧ state.store.get? "y" = some (-12) ∧ (Decimal.digits 12).length ≤ 640 ∧
      (∀ later, state.Reaches later → (later.store.get? "y").isSome = true) ∧
      (state.answer " y").outcome.reply = .value "-12" ∧ (state.answer " y").printed .plain = "-12\n" := by
  intro start state
  have reached : start.Reaches state := (start.answerAll_reaches _).1
  have bound : state.store.get? "y" = some (-12) := by rfl
  obtain ⟨kept, grows, answered, _⟩ := Session.reaches_kept reached
  obtain ⟨reply, printed, _⟩ := answered "y" (-12) " y" bound (by rfl)
  exact ⟨reached, bound, (kept "y" (-12) bound).2 (by decide), fun later further => grows later further "y" (by rw [bound]; rfl),
    reply, printed .plain⟩

end Calculator
