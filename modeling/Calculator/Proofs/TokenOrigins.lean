import Calculator.Proofs.FaultSources
import Mathlib.Data.List.Perm.Basic
namespace Calculator

abbrev Occurrence := Token × Nat

namespace Token

def occurrences (first : Nat) (tokens : List Token) : List Occurrence :=
  (tokens.zipIdx first).filter (!·.1.isBracket)

theorem occurrences_cons (first : Nat) (token : Token) (later : List Token) :
    occurrences first (token :: later) = occurrences first [token] ++ occurrences (first + 1) later := by
  rw [occurrences, occurrences, occurrences, ← List.filter_append]
  rfl

theorem occurrences_tokens (first : Nat) (tokens : List Token) :
    (occurrences first tokens).map Prod.fst = plain tokens := by
  induction tokens generalizing first with
  | nil => rfl
  | cons token later ih =>
    rw [occurrences_cons, List.map_append, ih]
    cases token <;> rfl

theorem le_of_mem_occurrences (member : entry ∈ occurrences first tokens) : first ≤ entry.2 :=
  List.le_snd_of_mem_zipIdx (List.mem_of_mem_filter member)

theorem lt_of_mem_occurrences_single (member : entry ∈ occurrences first [token]) : entry.2 < first + 1 := by
  have here := List.mem_of_mem_filter member
  rw [List.mem_singleton.mp here]
  exact Nat.lt_succ_self first

end Token

def Timely (earlier later : Occurrence) : Prop := later.1.isOperand = true → earlier.2 < later.2

theorem exists_occurrences {front back : List Token} {entries : List Occurrence}
    (same : (front ++ back).Perm (entries.map Prod.fst)) :
    ∃ gone kept : List Occurrence, gone.map Prod.fst = front ∧ kept.map Prod.fst = back ∧
      (gone ++ kept).Perm entries := by
  obtain ⟨whole, named, moved⟩ := (congrFun₂ (List.eq_map_comp_perm Prod.fst) (front ++ back) entries).mpr same
  obtain ⟨gone, kept, rfl, fronts, backs⟩ := List.map_eq_append_iff.mp named.symm
  exact ⟨gone, kept, fronts, backs, moved⟩

namespace Pending

theorem not_operand_of_waiting {pending : Pending} (member : token ∈ pending.waiting) : token.isOperand = false := by
  obtain ⟨op, _, rfl⟩ := List.mem_map.mp member
  rfl

theorem step_released {pending next : Pending} (moved : pending.step token = .ok (released, next)) :
    released = [token] ∨ ∀ entry ∈ released, entry.isOperand = false := by
  cases operand : token.isOperand with
  | true =>
    cases token with
    | integer value =>
      cases moved
      exact .inl rfl
    | identifier name =>
      cases moved
      exact .inl rfl
    | operator op => cases operand
    | bracket side => cases operand
  | false =>
    have none : released.filter Token.isOperand = [] := by
      rw [step_operands moved]
      simp [operand]
    exact .inr fun entry member => by simpa using List.filter_eq_nil_iff.mp none entry member

theorem step_origins {pending next : Pending} {held : List Occurrence} (moved : pending.step token = .ok (released, next))
    (named : held.map Prod.fst = pending.waiting) (place : Nat) :
    ∃ gone kept : List Occurrence, gone.map Prod.fst = released ∧ kept.map Prod.fst = next.waiting ∧
      (gone ++ kept).Perm (held ++ Token.occurrences place [token]) ∧ gone.Pairwise Timely := by
  have taken : (held ++ Token.occurrences place [token]).map Prod.fst = pending.waiting ++ Token.plain [token] := by
    rw [List.map_append, named, Token.occurrences_tokens]
  obtain ⟨gone, kept, goneNamed, keptNamed, rearranged⟩ := exists_occurrences (taken ▸ step_perm moved)
  refine ⟨gone, kept, goneNamed, keptNamed, rearranged, ?_⟩
  rcases step_released moved with single | idle
  · obtain ⟨entry, rfl, _⟩ := List.map_eq_singleton_iff.mp (goneNamed.trans single)
    exact List.pairwise_singleton Timely entry
  · refine List.pairwise_of_forall_mem_list fun _ _ later member operand => ?_
    have loose := idle later.1 (goneNamed ▸ List.mem_map_of_mem member)
    exact absurd operand (by simp [loose])

-- Operators that wait were read before the place that is read next, and an operand that
-- is released from there on is read from there on.
theorem run_origins {pending last : Pending} {held : List Occurrence} (ran : pending.run tokens = .ok (released, last))
    (named : held.map Prod.fst = pending.waiting) (past : ∀ entry ∈ held, entry.2 < place) :
    ∃ gone kept : List Occurrence, gone.map Prod.fst = released ∧ kept.map Prod.fst = last.waiting ∧
      (gone ++ kept).Perm (held ++ Token.occurrences place tokens) ∧ gone.Pairwise Timely := by
  induction tokens generalizing pending released held place with
  | nil =>
    cases ran
    exact ⟨[], held, rfl, named, by simp [Token.occurrences], .nil⟩
  | cons token later ih =>
    obtain ⟨now, next, rest, moved, ranRest, rfl⟩ := run_cons_inv ran
    obtain ⟨first, between, firstNamed, betweenNamed, firstMoved, firstTimely⟩ := step_origins moved named place
    -- What waits after the step was read at this place or before it.
    have passed : ∀ entry ∈ first ++ between, entry.2 < place + 1 := by
      intro entry member
      rcases List.mem_append.mp (firstMoved.mem_iff.mp member) with before | here
      · exact Nat.lt_succ_of_lt (past entry before)
      · exact Token.lt_of_mem_occurrences_single here
    obtain ⟨gone, kept, goneNamed, keptNamed, restMoved, timely⟩ :=
      ih ranRest betweenNamed fun entry member => passed entry (List.mem_append_right first member)
    refine ⟨first ++ gone, kept, by rw [List.map_append, firstNamed, goneNamed], keptNamed, ?_, ?_⟩
    · calc
        (first ++ gone ++ kept).Perm (first ++ (between ++ Token.occurrences (place + 1) later)) :=
          List.append_assoc first gone kept ▸ restMoved.append_left first
        _ = (first ++ between) ++ Token.occurrences (place + 1) later := (List.append_assoc ..).symm
        List.Perm _ ((held ++ Token.occurrences place [token]) ++ Token.occurrences (place + 1) later) :=
          firstMoved.append_right _
        _ = held ++ Token.occurrences place (token :: later) := by rw [List.append_assoc, ← Token.occurrences_cons]
    · refine List.pairwise_append.mpr ⟨firstTimely, timely, ?_⟩
      intro earlier before entry after operand
      rcases List.mem_append.mp (restMoved.mem_iff.mp (List.mem_append_left kept after)) with waited | read
      · have waits : entry.1 ∈ next.waiting := betweenNamed ▸ List.mem_map_of_mem waited
        exact absurd operand (by simp [not_operand_of_waiting waits])
      · exact Nat.lt_of_lt_of_le (passed earlier (List.mem_append_left between before)) (Token.le_of_mem_occurrences read)

end Pending

-- How a postfix stream keeps what the infix stream holds: all of it but the brackets, the
-- operands in their order, and no operator in front of an operand that was read before it.
structure Kept (tokens stream : List Token) : Prop where
  unbracketed : ∀ side, Token.bracket side ∉ stream
  rearranged : stream.Perm (Token.plain tokens)
  ordered : stream.filter Token.isOperand = tokens.filter Token.isOperand
  behind : ∃ entries : List Occurrence, entries.map Prod.fst = stream ∧
    entries.Perm (Token.occurrences 0 tokens) ∧ entries.Pairwise Timely

theorem bracket_not_mem_postfixOf (converted : postfixOf tokens = .ok stream) (side : Bracket) :
    Token.bracket side ∉ stream := by
  intro member
  have unbracketed := (List.mem_filter.mp ((postfixOf_perm converted).mem_iff.mp member)).2
  cases unbracketed

theorem postfixOf_operands (converted : postfixOf tokens = .ok stream) :
    stream.filter Token.isOperand = tokens.filter Token.isOperand := by
  obtain ⟨released, last, ran, _, rfl⟩ := postfixOf_inv converted
  rw [List.filter_append, Pending.run_operands ran, Pending.no_operand_waits, List.append_nil]

theorem postfixOf_origins (converted : postfixOf tokens = .ok stream) :
    ∃ entries : List Occurrence, entries.map Prod.fst = stream ∧ entries.Perm (Token.occurrences 0 tokens) ∧
      entries.Pairwise Timely := by
  obtain ⟨released, last, ran, closed, rfl⟩ := postfixOf_inv converted
  have none : ([] : List Occurrence).map Prod.fst = Pending.waiting {} := rfl
  obtain ⟨gone, kept, goneNamed, keptNamed, rearranged, timely⟩ := Pending.run_origins ran none (by simp)
  have waiting : last.waiting = last.inner.map .operator := by simp [Pending.waiting, Pending.groups, closed]
  have idle : ∀ entry ∈ kept, entry.1.isOperand = false := fun entry member =>
    Pending.not_operand_of_waiting (keptNamed ▸ List.mem_map_of_mem member)
  refine ⟨gone ++ kept, by rw [List.map_append, goneNamed, keptNamed, waiting], rearranged, ?_⟩
  refine List.pairwise_append.mpr ⟨timely, ?_, ?_⟩
  · exact List.pairwise_of_forall_mem_list fun _ _ later member operand =>
      absurd operand (by simp [idle later member])
  · intro earlier _ later member operand
    exact absurd operand (by simp [idle later member])

theorem valueOfPostfix_not_stray (store : Store) (unbracketed : ∀ side, Token.bracket side ∉ stream) (side : Bracket) :
    valueOfPostfix store stream ≠ .error (.strayBracket side) := by
  intro failed
  rcases valueOfPostfix_error failed with obstacle | ⟨operands, _, other⟩
  · cases obstacle with
    | refused cause => cases cause
    | stray member => exact unbracketed side member
  · cases other

theorem evaluate_not_stray (policy : Policy) (store : Store) (line : String) (side : Bracket) :
    evaluate policy store line ≠ .error (.strayBracket side) := by
  intro failed
  cases evaluate_error failed with
  | reading failed => cases tokensOfLine_error failed
  | converting read failed => cases postfixOf_error failed
  | evaluating read converted failed =>
    exact valueOfPostfix_not_stray store (bracket_not_mem_postfixOf converted) side failed
  | printing refused named => cases named

-- A conversion that succeeds keeps every token but the brackets, whatever the stream looks
-- like, and so no line gets a bracket as far as the evaluation.
theorem postfixOf_kept :
    (∀ tokens stream, postfixOf tokens = .ok stream → Kept tokens stream) ∧
      ∀ policy store line side, evaluate policy store line ≠ .error (.strayBracket side) := by
  refine ⟨?_, evaluate_not_stray⟩
  intro tokens stream converted
  exact ⟨bracket_not_mem_postfixOf converted, postfixOf_perm converted, postfixOf_operands converted,
    postfixOf_origins converted⟩

theorem postfixOf_kept_juxtaposed :
    let tokens := [.operator ⟨"-", false⟩, .integer 1, .bracket .opening, .integer 2, .operator ⟨"-", false⟩,
      .identifier "x", .bracket .closing, .operator ⟨"-", false⟩, .operator ⟨"+", true⟩]
    let stream := [.integer 1, .integer 2, .identifier "x", .operator ⟨"-", false⟩, .operator ⟨"-", false⟩,
      .operator ⟨"+", true⟩, .operator ⟨"-", false⟩]
    postfixOf tokens = .ok stream ∧ Kept tokens stream ∧
      evaluate {} .empty "-1 (2 - 3) - + )" ≠ .error (.strayBracket .closing) := by
  intro tokens stream
  have converted : postfixOf tokens = .ok stream := rfl
  exact ⟨converted, postfixOf_kept.1 tokens stream converted, postfixOf_kept.2 _ _ _ _⟩

end Calculator
