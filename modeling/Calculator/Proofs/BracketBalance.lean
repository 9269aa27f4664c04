import Calculator.Proofs.Conservation
namespace Calculator

namespace Token

def bracketCount (side : Bracket) (tokens : List Token) : Nat := tokens.count (.bracket side)

theorem bracketCount_append (side : Bracket) (left right : List Token) :
    bracketCount side (left ++ right) = bracketCount side left + bracketCount side right :=
  List.count_append

theorem bracketCount_cons (side : Bracket) (token : Token) (later : List Token) :
    bracketCount side (token :: later) = bracketCount side [token] + bracketCount side later :=
  bracketCount_append side [token] later

-- With so many brackets open in front, none closes that was not opened.
def Opened (depth : Nat) (tokens : List Token) : Prop :=
  ∀ left, left <+: tokens → bracketCount .closing left ≤ depth + bracketCount .opening left

structure Balanced (tokens : List Token) : Prop where
  opened : Opened 0 tokens
  closed : bracketCount .opening tokens = bracketCount .closing tokens

end Token

namespace Pending
open Token

theorem step_depth {pending next : Pending} (moved : pending.step token = .ok (released, next)) :
    next.outer.length + bracketCount .closing [token] = pending.outer.length + bracketCount .opening [token] := by
  cases token with
  | integer value =>
    cases moved
    rfl
  | identifier name =>
    cases moved
    rfl
  | operator op => exact congrArg List.length (step_operator_outer moved)
  | bracket side =>
    cases side with
    | opening =>
      cases moved
      rfl
    | closing =>
      obtain ⟨group, outer, enclosing, rfl⟩ := step_closing_inv moved
      rw [enclosing]
      rfl

theorem step_error {pending : Pending} (stuck : pending.step token = .error fault) :
    token = .bracket .closing ∧ pending.outer = [] ∧ fault = .unopenedBracket := by
  cases token with
  | integer value => cases stuck
  | identifier name => cases stuck
  | operator op =>
    simp only [step] at stuck
    split at stuck <;> cases stuck
  | bracket side =>
    cases side with
    | opening => cases stuck
    | closing =>
      simp only [step] at stuck
      split at stuck
      · rename_i outermost
        cases stuck
        exact ⟨rfl, outermost, rfl⟩
      · cases stuck

theorem run_depth {pending last : Pending} (ran : pending.run tokens = .ok (released, last)) :
    last.outer.length + bracketCount .closing tokens = pending.outer.length + bracketCount .opening tokens := by
  induction tokens generalizing pending released with
  | nil =>
    cases ran
    rfl
  | cons token later ih =>
    obtain ⟨now, next, rest, moved, ranRest, rfl⟩ := run_cons_inv ran
    have one := step_depth moved
    have others := ih ranRest
    rw [bracketCount_cons .closing token, bracketCount_cons .opening token]
    omega

theorem opened_step {pending next : Pending} (moved : pending.step token = .ok (released, next)) :
    Opened pending.outer.length (token :: later) ↔ Opened next.outer.length later := by
  have depth := step_depth moved
  have split (left : List Token) :
      bracketCount .closing (token :: left) ≤ pending.outer.length + bracketCount .opening (token :: left) ↔
        bracketCount .closing left ≤ next.outer.length + bracketCount .opening left := by
    rw [bracketCount_cons .closing token, bracketCount_cons .opening token]
    omega
  constructor
  · intro opened left earlier
    exact (split left).mp (opened (token :: left) (List.cons_prefix_cons.mpr ⟨rfl, earlier⟩))
  · intro opened left earlier
    rcases List.prefix_cons_iff.mp earlier with rfl | ⟨inner, rfl, within⟩
    · exact Nat.zero_le _
    · exact (split inner).mpr (opened inner within)

theorem run_ok_iff (pending : Pending) (tokens : List Token) :
    (∃ released last, pending.run tokens = .ok (released, last)) ↔ Opened pending.outer.length tokens := by
  induction tokens generalizing pending with
  | nil =>
    apply iff_of_true ⟨[], pending, rfl⟩
    intro left earlier
    rw [List.prefix_nil.mp earlier]
    exact Nat.zero_le _
  | cons token later ih =>
    cases moved : pending.step token with
    | error fault =>
      obtain ⟨rfl, outermost, _⟩ := step_error moved
      apply iff_of_false
      · rintro ⟨released, last, ran⟩
        obtain ⟨now, next, rest, went, _⟩ := run_cons_inv ran
        cases moved.symm.trans went
      · intro opened
        have first := opened [.bracket .closing] (List.cons_prefix_cons.mpr ⟨rfl, List.nil_prefix⟩)
        rw [outermost] at first
        exact absurd first (by decide)
    | ok reached =>
      obtain ⟨now, next⟩ := reached
      rw [opened_step moved, ← ih next]
      constructor
      · rintro ⟨released, last, ran⟩
        obtain ⟨first, reached, rest, went, ranRest, _⟩ := run_cons_inv ran
        cases moved.symm.trans went
        exact ⟨rest, last, ranRest⟩
      · rintro ⟨rest, last, ranRest⟩
        exact ⟨now ++ rest, last, by simp [run, moved, ranRest]⟩

end Pending

theorem postfixOf_ok_iff : (∃ stream, postfixOf tokens = .ok stream) ↔ Token.Balanced tokens := by
  constructor
  · rintro ⟨stream, converted⟩
    obtain ⟨released, last, ran, closed, _⟩ := postfixOf_inv converted
    have depth := Pending.run_depth ran
    rw [closed] at depth
    exact ⟨(Pending.run_ok_iff {} tokens).mp ⟨released, last, ran⟩, by simpa using depth.symm⟩
  · intro balanced
    obtain ⟨released, last, ran⟩ := (Pending.run_ok_iff {} tokens).mpr balanced.opened
    have depth := Pending.run_depth ran
    have closed : last.outer = [] := by
      rw [balanced.closed] at depth
      exact List.eq_nil_of_length_eq_zero (by simpa using depth)
    exact ⟨released ++ last.inner.map .operator, by simp [postfixOf, ran, Pending.finish, closed]⟩

end Calculator
