import Calculator.Proofs.Assignments
import Calculator.Proofs.Conservation
namespace Calculator

def Token.name? : Token → Option String
  | .identifier name => some name
  | _ => none

-- The variables that a line asks for: the names among its tokens, or what stands behind its
-- equals sign. A command asks for none.
def readsOf (policy : Policy) (line : String) : List String :=
  match Command.ofLine? line, Assignment.ofLine? line with
  | some _, _ => []
  | none, some assignment => [assignment.source]
  | none, none =>
    match tokensOfLine policy line with
    | .ok tokens => tokens.filterMap Token.name?
    | .error _ => []

def writesOf (line : String) : List String :=
  match Command.ofLine? line, Assignment.ofLine? line with
  | none, some assignment => [assignment.target].filter isName
  | _, _ => []

-- Neither line writes what the other reads or writes.
structure Independent (policy : Policy) (first second : String) : Prop where
  before : ∀ name ∈ writesOf first, name ∉ readsOf policy second
  behind : ∀ name ∈ writesOf second, name ∉ readsOf policy first
  targets : ∀ name ∈ writesOf first, name ∉ writesOf second

instance (policy : Policy) (first second : String) : Decidable (Independent policy first second) :=
  decidable_of_iff ((∀ name ∈ writesOf first, name ∉ readsOf policy second) ∧
      (∀ name ∈ writesOf second, name ∉ readsOf policy first) ∧ ∀ name ∈ writesOf first, name ∉ writesOf second)
    ⟨fun ⟨before, behind, targets⟩ => ⟨before, behind, targets⟩,
      fun apart => ⟨apart.before, apart.behind, apart.targets⟩⟩

def Store.AgreeFor (policy : Policy) (line : String) (store other : Store) : Prop :=
  ∀ name ∈ readsOf policy line, other.get? name = store.get? name

section
variable {store other : Store}

theorem performAll_agree (agree : ∀ name, .identifier name ∈ stream → other.get? name = store.get? name)
    (operands : Operands) : performAll other operands stream = performAll store operands stream := by
  induction stream generalizing operands with
  | nil => rfl
  | cons token later ih =>
    have here : Token.perform other operands token = Token.perform store operands token := by
      cases token with
      | identifier name => simp only [Token.perform, Store.require, agree name List.mem_cons_self]
      | _ => rfl
    have rest := ih fun name member => agree name (List.mem_cons_of_mem _ member)
    simp only [performAll, List.foldlM_cons, here] at rest ⊢
    simp only [rest]

theorem evaluate_agree (agree : ∀ tokens name, tokensOfLine policy line = .ok tokens → .identifier name ∈ tokens →
    other.get? name = store.get? name) : evaluate policy other line = evaluate policy store line := by
  have valued : valueOfLine policy other line = valueOfLine policy store line := by
    rw [valueOfLine, valueOfLine, postfixOfLine]
    cases read : tokensOfLine policy line with
    | error fault => rfl
    | ok tokens =>
      rw [ok_bind]
      cases converted : postfixOf tokens with
      | error fault => rfl
      | ok stream =>
        have same := performAll_agree (fun name member => agree tokens name read (postfixOf_subset converted member)) []
        rw [ok_bind, ok_bind, valueOfPostfix, valueOfPostfix, same]
  rw [evaluate, evaluate, valued]

theorem Assignment.value_agree (assignment : Assignment) (agree : other.get? assignment.source = store.get? assignment.source)
    (limit : DigitLimit) : assignment.value limit other = assignment.value limit store := by
  cases named : isName assignment.source with
  | true => rw [value_of_name named, value_of_name named, Store.require, Store.require, agree]
  | false =>
    cases parsed : Decimal.Literal.ofChars? assignment.source.toList <;>
      simp [Assignment.value, Source.ofText?, named, parsed]

end

section
variable (command : Command.ofLine? line = none) (policy : Policy) (store : Store)
include command

theorem assign_agree :
    (∃ fault, ∀ other, Store.AgreeFor policy line store other → assign policy.limit other line = .error fault) ∨
      ∃ name ∈ writesOf line, ∃ value, ∀ other, Store.AgreeFor policy line store other →
        assign policy.limit other line = .ok (other.set name value) := by
  simp only [assign_eq]
  cases parsed : Assignment.ofLine? line with
  | none => exact .inl ⟨_, fun _ _ => rfl⟩
  | some assignment =>
    dsimp only
    have asked : assignment.source ∈ readsOf policy line := by simp [readsOf, command, parsed]
    have same : ∀ other, Store.AgreeFor policy line store other →
        assignment.value policy.limit other = assignment.value policy.limit store :=
      fun other agree => assignment.value_agree (agree _ asked) policy.limit
    by_cases target : isName assignment.target = true
    · have written : assignment.target ∈ writesOf line := by simp [writesOf, command, parsed, target]
      simp only [if_pos target]
      cases valued : assignment.value policy.limit store with
      | error fault => exact .inl ⟨fault, fun other agree => by rw [same other agree, valued]; rfl⟩
      | ok value => exact .inr ⟨_, written, value, fun other agree => by rw [same other agree, valued]; rfl⟩
    · simp only [if_neg target]
      exact .inl ⟨_, fun _ _ => rfl⟩

theorem respond_agree :
    (∃ reply, ∀ other, Store.AgreeFor policy line store other → respond policy other line = (reply, other)) ∨
      ∃ name ∈ writesOf line, ∃ value, ∀ other, Store.AgreeFor policy line store other →
        respond policy other line = (.assigned, other.set name value) := by
  by_cases blank : Text.AllBlank line.toList
  · exact .inl ⟨.blank, fun other _ => by rw [respond_eq, if_pos blank]⟩
  · simp only [respond_eq, if_neg blank]
    cases equals : Assignment.hasEquals line with
    | true =>
      have task : Task.ofLine line = .assignment := if_pos equals
      rw [task]
      rcases assign_agree command policy store with ⟨fault, same⟩ | ⟨name, written, value, same⟩
      · exact .inl ⟨.rejected .assignment fault, fun other agree => by rw [same other agree]⟩
      · exact .inr ⟨name, written, value, fun other agree => by rw [same other agree]⟩
    | false =>
      have task : Task.ofLine line = .expression := by simp [Task.ofLine, equals]
      have expression : Assignment.ofLine? line = none := by simp [Assignment.ofLine?, equals]
      rw [task]
      have same (other : Store) (agree : Store.AgreeFor policy line store other) :
          evaluate policy other line = evaluate policy store line := by
        apply evaluate_agree
        intro tokens name read member
        apply agree
        simp only [readsOf, command, expression, read]
        exact List.mem_filterMap.mpr ⟨_, member, rfl⟩
      cases answer : evaluate policy store line with
      | ok text => exact .inl ⟨.value text, fun other agree => by rw [same other agree, answer]⟩
      | error fault => exact .inl ⟨.rejected .expression fault, fun other agree => by rw [same other agree, answer]⟩

theorem Event.ofLine_agree {other : Store} (agree : store.AgreeFor policy line other) :
    ofLine policy other line = ofLine policy store line := by
  have self : store.AgreeFor policy line store := fun _ _ => rfl
  have replied : (respond policy other line).1 = (respond policy store line).1 := by
    rcases respond_agree command policy store with ⟨reply, same⟩ | ⟨name, _, value, same⟩ <;>
      rw [same other agree, same store self]
  have stored : ofAssignment policy.limit other line = ofAssignment policy.limit store line := by
    unfold ofAssignment
    rcases assign_agree command policy store with ⟨fault, same⟩ | ⟨name, _, value, same⟩ <;>
      rw [same other agree, same store self]
    cases Assignment.ofLine? line <;> rfl
  rw [ofLine, ofLine, replied, stored]

end

inductive Change where
  | nothing
  | ending
  | binding (name : String) (value : Int)
  deriving DecidableEq, Repr

namespace Change

def apply (session : Session) : Change → Session
  | .nothing => session
  | .ending => { session with finished := true }
  | .binding name value => { session with store := session.store.set name value }

def names : Change → List String
  | .binding name _ => [name]
  | _ => []

theorem apply_elsewhere (session : Session) {change : Change} (elsewhere : name ∉ change.names) :
    (change.apply session).store.get? name = session.store.get? name := by
  cases change with
  | nothing => rfl
  | ending => rfl
  | binding bound value => exact (Store.get?_set _ _ _ _).trans (if_neg fun same => elsewhere (by simp [names, same]))

theorem apply_comm (session : Session) {first second : Change} (apart : ∀ name ∈ first.names, name ∉ second.names) :
    second.apply (first.apply session) = first.apply (second.apply session) := by
  cases first with
  | nothing => rfl
  | ending => cases second <;> rfl
  | binding name value =>
    cases second with
    | nothing => rfl
    | ending => rfl
    | binding other held =>
      have different : name ≠ other := by simpa [names] using apart
      simp only [apply, Store.set_comm session.store different]

end Change

namespace Session

structure Alike (line : String) (session other : Session) : Prop where
  policy : other.policy = session.policy
  phrases : other.phrases = session.phrases
  agree : session.store.AgreeFor session.policy line other.store

theorem Alike.refl (line : String) (session : Session) : Alike line session session := ⟨rfl, rfl, fun _ _ => rfl⟩

theorem Alike.eq (alike : Alike line session other) :
    other = { session with store := other.store, finished := other.finished } := by
  obtain ⟨_, _, _, _⟩ := other
  obtain ⟨rfl, rfl, _⟩ := alike
  rfl

theorem alike_apply (session : Session) {change : Change}
    (untouched : ∀ name ∈ change.names, name ∉ readsOf session.policy line) : Alike line session (change.apply session) := by
  refine ⟨by cases change <;> rfl, by cases change <;> rfl, fun name read => ?_⟩
  exact change.apply_elsewhere session fun written => untouched name written read

-- A line makes one change, and has one outcome, in all sessions that it cannot tell apart.
theorem answer_change (session : Session) (line : String) :
    ∃ change : Change, (∀ name ∈ change.names, name ∈ writesOf line) ∧
      ∀ other, Alike line session other → other.answer line = { session.answer line with session := change.apply other } := by
  cases command : Command.ofLine? line with
  | some known =>
    cases known with
    | exit =>
      refine ⟨.ending, by simp [Change.names], fun other alike => ?_⟩
      rw [alike.eq]
      simp only [answer, command, Change.apply]
    | help =>
      refine ⟨.nothing, by simp [Change.names], fun other alike => ?_⟩
      rw [alike.eq]
      simp only [answer, command, Change.apply]
    | unknown text =>
      refine ⟨.nothing, by simp [Change.names], fun other alike => ?_⟩
      rw [alike.eq]
      simp only [answer, command, Change.apply]
  | none =>
    have self : session.store.AgreeFor session.policy line session.store := fun _ _ => rfl
    rcases respond_agree command session.policy session.store with ⟨reply, same⟩ | ⟨name, written, value, same⟩
    · refine ⟨.nothing, by simp [Change.names], fun other alike => ?_⟩
      rw [alike.eq]
      simp only [answer, command, Event.ofLine_agree command _ _ alike.agree, same _ alike.agree, same _ self, Change.apply]
    · refine ⟨.binding name value, by simpa [Change.names] using written, fun other alike => ?_⟩
      rw [alike.eq]
      simp only [answer, command, Event.ofLine_agree command _ _ alike.agree, same _ alike.agree, same _ self, Change.apply]

end Session

-- Two lines that do not touch each other's variables can change places: each gets the reply
-- and prints what it would have printed, and the session ends up the same. Commands touch no
-- variable, not even the one that ends the session.
theorem Session.answer_commute {session : Session} (apart : Independent session.policy first second) :
    let one := session.answer first
    let two := one.session.answer second
    let early := session.answer second
    let late := early.session.answer first
    late.outcome = one.outcome ∧ late.printed = one.printed ∧ late.events = one.events ∧
      early.outcome = two.outcome ∧ early.printed = two.printed ∧ early.events = two.events ∧
      late.session = two.session := by
  intro one two early late
  obtain ⟨firstChange, firstWrites, firstSame⟩ := session.answer_change first
  obtain ⟨secondChange, secondWrites, secondSame⟩ := session.answer_change second
  have between : one.session = firstChange.apply session := congrArg Turn.session (firstSame session (.refl first session))
  have ahead : early.session = secondChange.apply session := congrArg Turn.session (secondSame session (.refl second session))
  have kept : Alike second session one.session := by
    rw [between]
    exact session.alike_apply fun name written => apart.before name (firstWrites name written)
  have keptAhead : Alike first session early.session := by
    rw [ahead]
    exact session.alike_apply fun name written => apart.behind name (secondWrites name written)
  have twice : two = { early with session := secondChange.apply one.session } := secondSame one.session kept
  have turned : late = { one with session := firstChange.apply early.session } := firstSame early.session keptAhead
  have apartChanges : ∀ name ∈ firstChange.names, name ∉ secondChange.names := fun name written other =>
    apart.targets name (firstWrites name written) (secondWrites name other)
  clear_value two late one early
  rw [twice, turned]
  refine ⟨rfl, rfl, rfl, rfl, rfl, rfl, ?_⟩
  calc
    firstChange.apply early.session = firstChange.apply (secondChange.apply session) := by rw [ahead]
    _ = secondChange.apply (firstChange.apply session) := (Change.apply_comm session apartChanges).symm
    _ = secondChange.apply one.session := by rw [between]

theorem Session.answer_commute_copies :
    let session : Session := { policy := ⟨true, .atMost 640⟩, store := Store.empty.set "x" 7 }
    let one := session.answer "z = x"
    let early := session.answer "y = x"
    Independent session.policy "z = x" "y = x" ∧
      (early.session.answer "z = x").outcome = one.outcome ∧ early.outcome = (one.session.answer "y = x").outcome ∧
      (early.session.answer "z = x").session = (one.session.answer "y = x").session := by
  intro session one early
  have apart : Independent session.policy "z = x" "y = x" := by decide
  obtain ⟨late, _, _, first, _, _, last⟩ := Session.answer_commute apart
  exact ⟨apart, late, first, last⟩

example : ¬ Independent {} "x = 1" "x = x" ∧ Independent {} "x = x" "y + /0" := by decide

end Calculator
