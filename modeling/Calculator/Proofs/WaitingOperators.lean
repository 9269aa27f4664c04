import Calculator.Proofs.Conservation
import Calculator.Proofs.Conversion
import Mathlib.Data.List.Perm.Subperm
import Mathlib.Logic.Relation
namespace Calculator

-- Under a binary operator that waits stand only binary ones, and each holds less tightly.
def Operator.Over (upper lower : Operator) : Prop :=
  upper.unary = false → lower.unary = false ∧ lower.bindingPower < upper.bindingPower

abbrev Layered (group : List Operator) : Prop := group.Pairwise Operator.Over

namespace Layered

theorem cons_unary (layered : Layered group) (unary : op.unary = true) : Layered (op :: group) :=
  List.pairwise_cons.mpr ⟨fun lower _ binary => by simp [unary] at binary, layered⟩

theorem cons_binary (layered : Layered group) (looser : Pending.Looser op.bindingPower group)
    (binary : op.unary = false) : Layered (op :: group) := by
  refine List.pairwise_cons.mpr ⟨fun lower member _ => ?_, layered⟩
  cases group with
  | nil => cases member
  | cons top below =>
    have loose : top.bindingPower < op.bindingPower := looser top rfl
    have topBinary : top.unary = false := by
      cases unary : top.unary with
      | false => rfl
      | true =>
        have tight := Operator.bindingPower_unary unary
        have power := Operator.bindingPower_lt_three binary
        omega
    rcases List.mem_cons.mp member with rfl | deeper
    · exact ⟨topBinary, loose⟩
    · obtain ⟨lowerBinary, less⟩ := (List.pairwise_cons.mp layered).1 lower deeper topBinary
      exact ⟨lowerBinary, Nat.lt_trans less loose⟩

theorem split (layered : Layered group) : ∃ binaries unaries, group.reverse = binaries ++ unaries ∧
    (∀ op ∈ binaries, op.unary = false) ∧
    binaries.Pairwise (fun below above => below.bindingPower < above.bindingPower) ∧ ∀ op ∈ unaries, op.unary = true := by
  induction group with
  | nil => exact ⟨[], [], rfl, by simp⟩
  | cons op below ih =>
    obtain ⟨covers, rest⟩ := List.pairwise_cons.mp layered
    obtain ⟨binaries, unaries, same, allBinary, rising, allUnary⟩ := ih rest
    rw [List.reverse_cons, same]
    cases binary : op.unary with
    | true => exact ⟨binaries, unaries ++ [op], by simp, allBinary, rising, by simpa [or_imp, forall_and, binary] using allUnary⟩
    | false =>
      have within : ∀ lower ∈ binaries ++ unaries, lower ∈ below := fun lower member =>
        List.mem_reverse.mp (same ▸ member)
      have none : unaries = [] := List.eq_nil_iff_forall_not_mem.mpr fun lower member => by
        have low := (covers lower (within lower (List.mem_append_right _ member)) binary).1
        simp [allUnary lower member] at low
      subst none
      have loose : ∀ lower ∈ binaries, lower.bindingPower < op.bindingPower := fun lower member =>
        (covers lower (within lower (List.mem_append_left _ member)) binary).2
      refine ⟨binaries ++ [op], [], by simp, by simpa [or_imp, forall_and, binary] using allBinary, ?_, by simp⟩
      exact List.pairwise_append.mpr ⟨rising, List.pairwise_singleton _ _, by simpa using loose⟩

theorem countP_binary_le (layered : Layered group) : group.countP (fun op => op.unary = false) ≤ 3 := by
  obtain ⟨binaries, unaries, same, allBinary, rising, allUnary⟩ := layered.split
  have counted : group.countP (fun op => op.unary = false) = binaries.length := by
    rw [← List.countP_reverse, same, List.countP_append]
    have front : binaries.countP (fun op => op.unary = false) = binaries.length :=
      List.countP_eq_length.mpr fun op member => by simp [allBinary op member]
    have back : unaries.countP (fun op => op.unary = false) = 0 :=
      List.countP_eq_zero.mpr fun op member => by simp [allUnary op member]
    rw [front, back, Nat.add_zero]
  -- There are three powers, and none of them comes twice in a group.
  have distinct : (binaries.map Operator.bindingPower).Nodup :=
    List.pairwise_map.mpr (rising.imp Nat.ne_of_lt)
  have bounded : binaries.map Operator.bindingPower ⊆ List.range 3 := by
    intro power member
    obtain ⟨op, within, rfl⟩ := List.mem_map.mp member
    exact List.mem_range.mpr (Operator.bindingPower_lt_three (allBinary op within))
  have fewer := (distinct.subperm bounded).length_le
  rwa [List.length_map, List.length_range, ← counted] at fewer

end Layered

-- A moment of a conversion: what is not read yet, the count of open brackets, the waiting
-- operators of each of them and of what is around them, the innermost first, and what was
-- released.
structure Moment where
  unread : List Token
  depth : Nat := 0
  groups : List (List Operator) := [[]]
  released : List Token := []
  deriving DecidableEq, Repr

namespace Moment

-- The smallest moves of a conversion. A binary operator makes others go one at a time
-- before it waits itself, and so do those that still wait in the end.
inductive Move : Moment → Moment → Prop
  | operand (operand : token.isOperand = true) :
      Move ⟨token :: later, nested, waiting, front⟩ ⟨later, nested, waiting, front ++ [token]⟩
  | release (binary : op.unary = false) (tighter : op.bindingPower ≤ top.bindingPower) :
      Move ⟨.operator op :: later, nested, (top :: group) :: outer, front⟩
        ⟨.operator op :: later, nested, group :: outer, front ++ [.operator top]⟩
  | wait (looser : op.unary = false → Pending.Looser op.bindingPower group) :
      Move ⟨.operator op :: later, nested, group :: outer, front⟩ ⟨later, nested, (op :: group) :: outer, front⟩
  | opening : Move ⟨.bracket .opening :: later, nested, waiting, front⟩ ⟨later, nested + 1, [] :: waiting, front⟩
  | closing : Move ⟨.bracket .closing :: later, nested + 1, group :: outer, front⟩
        ⟨later, nested, outer, front ++ group.map .operator⟩
  | flush : Move ⟨[], 0, [top :: group], front⟩ ⟨[], 0, [group], front ++ [.operator top]⟩

abbrev Reaches : Moment → Moment → Prop := Relation.ReflTransGen Move

structure Sound (moment : Moment) : Prop where
  counted : moment.groups.length = moment.depth + 1
  layered : ∀ group ∈ moment.groups, Layered group

theorem Sound.move {moment next : Moment} (sound : moment.Sound) (move : moment.Move next) : next.Sound := by
  obtain ⟨counted, layered⟩ := sound
  cases move with
  | operand => exact ⟨counted, layered⟩
  | release =>
    obtain ⟨own, others⟩ := List.forall_mem_cons.mp layered
    exact ⟨counted, List.forall_mem_cons.mpr ⟨own.tail, others⟩⟩
  | @wait group op later nested outer front looser =>
    obtain ⟨own, others⟩ := List.forall_mem_cons.mp layered
    refine ⟨counted, List.forall_mem_cons.mpr ⟨?_, others⟩⟩
    cases unary : op.unary with
    | true => exact own.cons_unary unary
    | false => exact own.cons_binary (looser unary) unary
  | opening => exact ⟨congrArg Nat.succ counted, List.forall_mem_cons.mpr ⟨.nil, layered⟩⟩
  | closing => exact ⟨Nat.succ.inj counted, (List.forall_mem_cons.mp layered).2⟩
  | flush =>
    obtain ⟨own, others⟩ := List.forall_mem_cons.mp layered
    exact ⟨counted, List.forall_mem_cons.mpr ⟨own.tail, others⟩⟩

theorem Sound.reaches {moment later : Moment} (sound : moment.Sound) (reached : moment.Reaches later) : later.Sound := by
  induction reached with
  | refl => exact sound
  | tail _ move ih => exact ih.move move

theorem sound_start (tokens : List Token) : Sound { unread := tokens } :=
  ⟨rfl, List.forall_mem_singleton.mpr .nil⟩

def ofPending (unread : List Token) (pending : Pending) (front : List Token) : Moment :=
  ⟨unread, pending.outer.length, pending.groups, front⟩

theorem reaches_released (binary : op.unary = false) (group : List Operator) (front : List Token) :
    Reaches ⟨.operator op :: later, nested, group :: outer, front⟩
      ⟨.operator op :: later, nested, group.dropWhile (fun waits => decide (op.bindingPower ≤ waits.bindingPower)) :: outer,
        front ++ (group.takeWhile fun waits => decide (op.bindingPower ≤ waits.bindingPower)).map .operator⟩ := by
  induction group generalizing front with
  | nil => simpa using Relation.ReflTransGen.refl
  | cons top below ih =>
    by_cases tighter : op.bindingPower ≤ top.bindingPower
    · have rest := ih (front ++ [.operator top])
      rw [List.append_assoc] at rest
      simpa [tighter] using Relation.ReflTransGen.head (Move.release binary tighter) rest
    · simpa [tighter] using Relation.ReflTransGen.refl

theorem reaches_step {pending next : Pending} (moved : pending.step token = .ok (freed, next)) (later front : List Token) :
    Reaches (ofPending (token :: later) pending front) (ofPending later next (front ++ freed)) := by
  cases token with
  | integer value =>
    cases moved
    exact .single (.operand rfl)
  | identifier name =>
    cases moved
    exact .single (.operand rfl)
  | operator op =>
    simp only [Pending.step] at moved
    split at moved
    · rename_i unary
      cases moved
      rw [List.append_nil]
      exact .single (.wait fun binary => by simp [unary] at binary)
    · rename_i binary
      cases moved
      have binary : op.unary = false := by simpa using binary
      refine (reaches_released binary pending.inner front).tail (.wait fun _ top first => ?_)
      have stopped := List.head?_dropWhile_not (fun waits : Operator => decide (op.bindingPower ≤ waits.bindingPower)) pending.inner
      rw [Option.mem_def.mp first] at stopped
      simpa using stopped
  | bracket side =>
    cases side with
    | opening =>
      cases moved
      rw [List.append_nil]
      exact .single .opening
    | closing =>
      simp only [Pending.step] at moved
      split at moved
      · cases moved
      · rename_i group outer enclosing
        cases moved
        rw [ofPending, Pending.groups, enclosing]
        exact .single .closing

theorem reaches_run {pending last : Pending} (ran : pending.run before = .ok (freed, last)) (later front : List Token) :
    Reaches (ofPending (before ++ later) pending front) (ofPending later last (front ++ freed)) := by
  induction before generalizing pending freed front with
  | nil =>
    cases ran
    rw [List.append_nil]
    exact .refl
  | cons token before ih =>
    obtain ⟨now, next, rest, moved, ranRest, rfl⟩ := Pending.run_cons_inv ran
    have behind := ih ranRest (front ++ now)
    rw [List.append_assoc] at behind
    exact (reaches_step moved (before ++ later) front).trans behind

theorem reaches_flushed (group : List Operator) (front : List Token) :
    Reaches ⟨[], 0, [group], front⟩ ⟨[], 0, [[]], front ++ group.map .operator⟩ := by
  induction group generalizing front with
  | nil => simpa using Relation.ReflTransGen.refl
  | cons top below ih =>
    have rest := ih (front ++ [.operator top])
    rw [List.append_assoc] at rest
    exact .head .flush rest

def outcome (moment : Moment) : Except Fault (List Token) := do
  let (later, last) ← Pending.run ⟨moment.groups.headD [], moment.groups.tail⟩ moment.unread
  let tail ← last.finish
  return moment.released ++ (later ++ tail)

theorem outcome_step (moved : Pending.step ⟨group, outer⟩ token = .ok (freed, next)) (later front : List Token)
    (nested other : Nat) : outcome ⟨token :: later, nested, group :: outer, front⟩ =
      outcome ⟨later, other, next.groups, front ++ freed⟩ := by
  simp only [outcome, Pending.groups, Pending.run, List.headD_cons, List.tail_cons, moved, ok_bind]
  cases next.run later with
  | error fault => rfl
  | ok reached =>
    simp only [ok_bind, pure_eq_ok]
    cases reached.2.finish with
    | error fault => rfl
    | ok tail => simp

theorem step_release (binary : op.unary = false) (tighter : op.bindingPower ≤ top.bindingPower)
    (moved : Pending.step ⟨group, outer⟩ (.operator op) = .ok (freed, next)) :
    Pending.step ⟨top :: group, outer⟩ (.operator op) = .ok (.operator top :: freed, next) := by
  simp only [Pending.step, binary, Bool.false_eq_true, if_false] at moved ⊢
  cases moved
  simp [tighter]

theorem Move.outcome_eq {moment next : Moment} (move : moment.Move next) (counted : moment.groups.length = moment.depth + 1) :
    moment.outcome = next.outcome := by
  cases move with
  | @operand token later nested waiting front operand =>
    obtain ⟨group, outer, rfl⟩ := List.exists_cons_of_length_eq_add_one counted
    have moved : Pending.step ⟨group, outer⟩ token = .ok ([token], ⟨group, outer⟩) := by
      cases token with
      | integer value => rfl
      | identifier name => rfl
      | operator op => cases operand
      | bracket side => cases operand
    exact outcome_step moved _ _ _ _
  | @release op later nested top group outer front binary tighter =>
    obtain ⟨freed, next, moved⟩ : ∃ freed next, Pending.step ⟨group, outer⟩ (.operator op) = .ok (freed, next) := by
      simp [Pending.step, binary]
    have first := outcome_step (step_release binary tighter moved) later front nested nested
    have second := outcome_step moved later (front ++ [.operator top]) nested nested
    rw [first, second, List.append_assoc, List.singleton_append]
  | @wait group op later nested outer front looser =>
    have moved : Pending.step ⟨group, outer⟩ (.operator op) = .ok ([], ⟨op :: group, outer⟩) := by
      cases unary : op.unary with
      | true => exact Pending.step_unary unary ⟨group, outer⟩
      | false => exact Pending.step_binary unary [] group outer (List.forall_mem_nil _) (looser unary)
    have stepped := outcome_step moved later front nested nested
    rwa [List.append_nil] at stepped
  | @opening later nested waiting front =>
    obtain ⟨group, outer, rfl⟩ := List.exists_cons_of_length_eq_add_one counted
    have moved : Pending.step ⟨group, outer⟩ (.bracket .opening) = .ok ([], ⟨[], group :: outer⟩) := rfl
    have stepped := outcome_step moved later front nested (nested + 1)
    rwa [List.append_nil] at stepped
  | @closing later nested group outer front =>
    obtain ⟨around, further, rfl⟩ := List.exists_cons_of_length_eq_add_one (Nat.succ.inj counted)
    have moved : Pending.step ⟨group, around :: further⟩ (.bracket .closing) =
        .ok (group.map .operator, ⟨around, further⟩) := rfl
    exact outcome_step moved later front (nested + 1) nested
  | @flush top group front => simp [outcome, Pending.run, Pending.finish]

theorem reaches_outcome {tokens : List Token} {moment : Moment} (reached : Reaches { unread := tokens } moment) :
    moment.outcome = postfixOf tokens := by
  induction reached with
  | refl => rfl
  | tail earlier move ih => rw [← ih, move.outcome_eq ((sound_start tokens).reaches earlier).counted]

theorem reaches_end_iff {tokens stream : List Token} :
    Reaches { unread := tokens } { unread := [], released := stream } ↔ postfixOf tokens = .ok stream := by
  constructor
  · intro reached
    rw [← reaches_outcome reached]
    simp [outcome, Pending.run, Pending.finish]
  · intro converted
    obtain ⟨freed, last, ran, closed, rfl⟩ := postfixOf_inv converted
    have read := reaches_run ran [] []
    rw [List.append_nil, List.nil_append, ofPending, ofPending, Pending.groups, Pending.groups, closed] at read
    exact read.trans (reaches_flushed last.inner freed)

-- At every moment of a conversion each open bracket has one group, and one is around them.
-- From the bottom of a group to its top come binary operators that hold tighter and tighter,
-- at most three, and then the unary ones. The moments are those of the conversion that runs:
-- it goes through one after each token that it reads, and ends with what it releases.
theorem reaches_layered (tokens : List Token) :
    (∀ moment, Reaches { unread := tokens } moment → moment.groups.length = moment.depth + 1 ∧
      ∀ group ∈ moment.groups,
        (∃ binaries unaries, group.reverse = binaries ++ unaries ∧ (∀ op ∈ binaries, op.unary = false) ∧
          binaries.Pairwise (fun below above => below.bindingPower < above.bindingPower) ∧
          ∀ op ∈ unaries, op.unary = true) ∧
        group.countP (fun op => op.unary = false) ≤ 3) ∧
    (∀ before later released pending, tokens = before ++ later → Pending.run {} before = .ok (released, pending) →
      Reaches { unread := tokens } ⟨later, pending.outer.length, pending.groups, released⟩) ∧
    ∀ stream, Reaches { unread := tokens } { unread := [], released := stream } ↔ postfixOf tokens = .ok stream := by
  refine ⟨?layered, ?between, fun stream => reaches_end_iff⟩
  case layered =>
    intro moment reached
    obtain ⟨counted, layered⟩ := (sound_start tokens).reaches reached
    exact ⟨counted, fun group member => ⟨(layered group member).split, (layered group member).countP_binary_le⟩⟩
  case between =>
    rintro before later released pending rfl ran
    exact reaches_run ran later []

theorem reaches_layered_nested :
    let before : List Token := [.identifier "x", .operator ⟨"?", false⟩, .integer 2, .operator ⟨"-", false⟩, .integer 3,
      .operator ⟨"*", false⟩, .operator ⟨"-", true⟩, .operator ⟨"+", true⟩, .bracket .opening, .identifier "y",
      .operator ⟨"/", false⟩]
    let tokens := before ++ [.bracket .closing, .bracket .closing]
    let group : List Operator := [⟨"+", true⟩, ⟨"-", true⟩, ⟨"*", false⟩, ⟨"-", false⟩, ⟨"?", false⟩]
    let moment : Moment := ⟨[.bracket .closing, .bracket .closing], 1, [[⟨"/", false⟩], group],
      [.identifier "x", .integer 2, .integer 3, .identifier "y"]⟩
    Reaches { unread := tokens } moment ∧ moment.groups.length = moment.depth + 1 ∧ group ∈ moment.groups ∧
      (∃ binaries unaries, group.reverse = binaries ++ unaries ∧ (∀ op ∈ binaries, op.unary = false) ∧
        binaries.Pairwise (fun below above => below.bindingPower < above.bindingPower) ∧
        ∀ op ∈ unaries, op.unary = true) ∧
      group.countP (fun op => op.unary = false) = 3 ∧ postfixOf tokens = .error .unopenedBracket := by
  intro before tokens group moment
  obtain ⟨layered, between, _⟩ := reaches_layered tokens
  have ran : Pending.run {} before = .ok (moment.released, ⟨[⟨"/", false⟩], [group]⟩) := by rfl
  have reached : Reaches { unread := tokens } moment := between before _ _ _ rfl ran
  have member : group ∈ moment.groups := List.mem_cons_of_mem _ List.mem_cons_self
  obtain ⟨counted, all⟩ := layered moment reached
  exact ⟨reached, counted, member, (all group member).1, by decide, by rfl⟩

end Moment
end Calculator
