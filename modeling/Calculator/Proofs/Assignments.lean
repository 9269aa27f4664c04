import Calculator.Proofs.CanonicalTokens
import Calculator.Proofs.DecimalText
import Calculator.Proofs.LineEnds
import Calculator.Store.Laws
namespace Calculator

namespace Text

theorem trim_eq_self (solid : ∀ c ∈ word, isBlank c = false) : trim word = word := by
  have kept {text : List Char} (solid : ∀ c ∈ text, isBlank c = false) : text.dropWhile isBlank = text :=
    List.dropWhile_eq_self_iff.mpr fun _ blank => Bool.false_ne_true ((solid _ (List.getElem_mem _)).symm.trans blank)
  rw [trim, trimWhere, kept solid, kept fun c member => solid c (List.mem_reverse.mp member), List.reverse_reverse]

theorem trim_framed (before : AllBlank front) (solid : ∀ c ∈ word, isBlank c = false) (behind : AllBlank back) :
    trim (front ++ word ++ back) = word := by
  have opened : trim (front ++ word) = trim word := by
    rw [trim, trim, trimWhere, trimWhere, List.dropWhile_append_of_pos before]
  rw [trim_append_blank behind, opened, trim_eq_self solid]

theorem trim_frame (text : List Char) :
    ∃ front back, AllBlank front ∧ AllBlank back ∧ text = front ++ trim text ++ back := by
  let rest := text.dropWhile isBlank
  have blank {part : List Char} : ∀ c ∈ part.takeWhile isBlank, isBlank c = true := fun c => List.mem_takeWhile_imp
  refine ⟨text.takeWhile isBlank, (rest.reverse.takeWhile isBlank).reverse, blank,
    fun c member => blank c (List.mem_reverse.mp member), ?_⟩
  calc
    text = text.takeWhile isBlank ++ rest := List.takeWhile_append_dropWhile.symm
    _ = text.takeWhile isBlank ++ (rest.reverse.takeWhile isBlank ++ rest.reverse.dropWhile isBlank).reverse := by
      simp [rest]
    _ = text.takeWhile isBlank ++ trim text ++ (rest.reverse.takeWhile isBlank).reverse := by
      rw [List.reverse_append, List.append_assoc]
      rfl

end Text

theorem isName_solid (named : isName name = true) : ∀ c ∈ name.toList, Text.isBlank c = false ∧ c ≠ '=' := by
  obtain ⟨_, letters⟩ := isName_iff.mp named
  intro c member
  have found := CharClass.of?_letter (letters c member)
  refine ⟨CharClass.not_blank found, ?_⟩
  rintro rfl
  cases found

namespace LiteralText

theorem classed (written : LiteralText text literal) :
    ∀ c ∈ text, CharClass.of? c = some .sign ∨ CharClass.of? c = some .digit := by
  have digits {run : List Char} (allDigits : ∀ c ∈ run, c.isDigit = true) :
      ∀ c ∈ run, CharClass.of? c = some .sign ∨ CharClass.of? c = some .digit := fun c member =>
    .inr (CharClass.of?_digit (allDigits c member))
  cases written with
  | unsigned _ allDigits => exact digits allDigits
  | plus _ allDigits => exact List.forall_mem_cons.mpr ⟨.inl rfl, digits allDigits⟩
  | minus _ allDigits => exact List.forall_mem_cons.mpr ⟨.inl rfl, digits allDigits⟩

theorem solid (written : LiteralText text literal) : ∀ c ∈ text, Text.isBlank c = false := by
  intro c member
  rcases written.classed c member with sign | digit
  · exact CharClass.not_blank sign
  · exact CharClass.not_blank digit

theorem not_name (written : LiteralText text.toList literal) : isName text = false := by
  rw [Bool.eq_false_iff]
  intro named
  obtain ⟨someLetter, letters⟩ := isName_iff.mp named
  obtain ⟨c, member⟩ := List.exists_mem_of_ne_nil text.toList someLetter
  have letter := CharClass.of?_letter (letters c member)
  rcases written.classed c member with sign | digit
  · cases letter.symm.trans sign
  · cases letter.symm.trans digit

end LiteralText

structure Lettered (text : List Char) : Prop where
  someLetter : text ≠ []
  allLetters : ∀ c ∈ text, c.isAlpha = true

-- What may stand on the right, and its value: the name of a variable, or a number of digits
-- that the limit allows, with one sign at most. Zero stands for no limit.
inductive SourceText (limit : Nat) (store : Store) : List Char → Int → Prop
  | held (named : Lettered name.toList) (bound : store.get? name = some value) :
      SourceText limit store name.toList value
  | unsigned (denotes : Decimal.Denotes digits n) (short : limit = 0 ∨ digits.length ≤ limit) :
      SourceText limit store digits n
  | plus (denotes : Decimal.Denotes digits n) (short : limit = 0 ∨ digits.length ≤ limit) :
      SourceText limit store ('+' :: digits) n
  | minus (denotes : Decimal.Denotes digits n) (short : limit = 0 ∨ digits.length ≤ limit) :
      SourceText limit store ('-' :: digits) (-n)

inductive Assigns (limit : Nat) (store : Store) : List Char → String → Int → Prop
  | written (first : Text.AllBlank w₁) (second : Text.AllBlank w₂) (third : Text.AllBlank w₃) (last : Text.AllBlank w₄)
      (target : Lettered name.toList) (source : SourceText limit store text value) :
      Assigns limit store (w₁ ++ name.toList ++ w₂ ++ '=' :: (w₃ ++ text ++ w₄)) name value

theorem lettered_iff : Lettered name.toList ↔ isName name = true :=
  ⟨fun lettered => isName_iff.mpr ⟨lettered.1, lettered.2⟩, fun named => ⟨(isName_iff.mp named).1, (isName_iff.mp named).2⟩⟩

theorem lettered_ofList_iff : Lettered text ↔ isName (String.ofList text) = true := by
  rw [← lettered_iff, String.toList_ofList]

theorem LiteralText.sourceText (written : LiteralText text literal) (short : limit = 0 ∨ literal.digits.length ≤ limit) :
    SourceText limit store text literal.value := by
  cases written with
  | unsigned someDigit allDigits => exact .unsigned (Decimal.denotes_ofDigits someDigit allDigits) short
  | plus someDigit allDigits => exact .plus (Decimal.denotes_ofDigits someDigit allDigits) short
  | minus someDigit allDigits => exact .minus (Decimal.denotes_ofDigits someDigit allDigits) short

theorem sourceText_iff : SourceText limit store text value ↔
    (∃ name, isName name = true ∧ store.get? name = some value ∧ name.toList = text) ∨
      ∃ literal, LiteralText text literal ∧ (limit = 0 ∨ literal.digits.length ≤ limit) ∧ literal.value = value := by
  constructor
  · intro source
    cases source with
    | held named bound => exact .inl ⟨_, lettered_iff.mp named, bound, rfl⟩
    | unsigned denotes short =>
      obtain rfl := denotes.ofDigits_eq
      exact .inr ⟨_, .unsigned denotes.someDigit denotes.allDigits, short, rfl⟩
    | plus denotes short =>
      obtain rfl := denotes.ofDigits_eq
      exact .inr ⟨_, .plus denotes.someDigit denotes.allDigits, short, rfl⟩
    | minus denotes short =>
      obtain rfl := denotes.ofDigits_eq
      exact .inr ⟨_, .minus denotes.someDigit denotes.allDigits, short, rfl⟩
  · rintro (⟨name, named, bound, rfl⟩ | ⟨literal, written, short, rfl⟩)
    · exact .held (lettered_iff.mpr named) bound
    · exact written.sourceText short

theorem SourceText.solid (source : SourceText limit store text value) : ∀ c ∈ text, Text.isBlank c = false := by
  rcases sourceText_iff.mp source with ⟨name, named, _, rfl⟩ | ⟨literal, written, _⟩
  · exact fun c member => (isName_solid named c member).1
  · exact written.solid

theorem Decimal.Literal.read_ofNat (literal : Literal) (limit : Nat) : literal.read (.ofNat limit) =
    if limit = 0 ∨ literal.digits.length ≤ limit then .ok literal.value
    else .error ⟨(DigitLimit.ofNat limit).toNat, some literal.digits.length⟩ := by
  rw [Literal.read, DigitLimit.read]
  simp only [DigitLimit.allows_ofNat]
  split <;> rfl

namespace Assignment

theorem value_of_name {assignment : Assignment} (named : isName assignment.source = true) (limit : DigitLimit)
    (store : Store) : assignment.value limit store = store.require assignment.source := by
  simp [Assignment.value, Source.ofText?, named]

theorem value_of_literal {assignment : Assignment} (written : LiteralText assignment.source.toList literal)
    (limit : Nat) (store : Store) : assignment.value (.ofNat limit) store =
      if limit = 0 ∨ literal.digits.length ≤ limit then .ok literal.value
      else .error (.sourceTooLong assignment.source.length ⟨(DigitLimit.ofNat limit).toNat, some literal.digits.length⟩) := by
  have parsed : Source.ofText? assignment.source = some (.literal literal) := by
    rw [Source.ofText?, written.not_name, literalText_iff.mp written]
    rfl
  by_cases short : limit = 0 ∨ literal.digits.length ≤ limit <;>
    simp [Assignment.value, parsed, Decimal.Literal.read_ofNat, short]

theorem value_of_neither {assignment : Assignment} (noName : isName assignment.source = false)
    (noLiteral : ∀ literal, ¬ LiteralText assignment.source.toList literal) (limit : DigitLimit) (store : Store) :
    assignment.value limit store = .error (.invalidSource assignment.source) := by
  have unparsed : Decimal.Literal.ofChars? assignment.source.toList = none :=
    Option.eq_none_iff_forall_ne_some.mpr fun literal parsed => noLiteral literal (literalText_iff.mpr parsed)
  simp [Assignment.value, Source.ofText?, noName, unparsed]

end Assignment

theorem Assignment.value_cases (assignment : Assignment) (limit : Nat) (store : Store) :
    (∃ result, assignment.value (.ofNat limit) store = .ok result ∧
        SourceText limit store assignment.source.toList result) ∨
      (isName assignment.source = true ∧ store.get? assignment.source = none ∧
        assignment.value (.ofNat limit) store = .error (.unknownVariable assignment.source)) ∨
      ∃ fault, assignment.value (.ofNat limit) store = .error fault ∧ fault.kind = "InvalidAssignmentValue" := by
  cases named : isName assignment.source with
  | true =>
    rw [Assignment.value_of_name named]
    cases bound : store.get? assignment.source with
    | some result => exact .inl ⟨result, Store.require_ok_iff.mpr bound, .held (lettered_iff.mpr named) bound⟩
    | none => exact .inr (.inl ⟨rfl, rfl, Store.require_unbound bound⟩)
  | false =>
    by_cases written : ∃ literal, LiteralText assignment.source.toList literal
    · obtain ⟨literal, written⟩ := written
      rw [Assignment.value_of_literal written]
      split
      · rename_i short
        exact .inl ⟨_, rfl, written.sourceText short⟩
      · exact .inr (.inr ⟨_, rfl, rfl⟩)
    · rw [Assignment.value_of_neither named (not_exists.mp written)]
      exact .inr (.inr ⟨_, rfl, rfl⟩)

theorem SourceText.value_eq {assignment : Assignment} (source : SourceText limit store assignment.source.toList result) :
    assignment.value (.ofNat limit) store = .ok result := by
  rcases sourceText_iff.mp source with ⟨name, named, bound, spelled⟩ | ⟨literal, written, short, rfl⟩
  · obtain rfl := String.toList_injective spelled
    rw [Assignment.value_of_name named, Store.require_ok_iff.mpr bound]
  · rw [Assignment.value_of_literal written, if_pos short]

theorem assign_split (first : '=' ∉ front) (split : line.toList = front ++ '=' :: back) (limit : DigitLimit)
    (store : Store) :
    assign limit store line =
      if isName (String.ofList (Text.trim front)) = true then
        store.set (String.ofList (Text.trim front)) <$>
          Assignment.value limit store ⟨String.ofList (Text.trim front), String.ofList (Text.trim back)⟩
      else .error (.invalidIdentifier (String.ofList (Text.trim front))) := by
  rw [assign_eq, Assignment.ofLine?_split first split]
  rfl

theorem assign_no_equals (none : '=' ∉ line.toList) (limit : DigitLimit) (store : Store) :
    assign limit store line = .error (.notAnAssignment line) := by
  have parsed : Assignment.ofLine? line = Option.none := if_neg (by simpa [Assignment.hasEquals] using none)
  rw [assign_eq, parsed]

theorem Assigns.assign_eq (assigns : Assigns limit store line.toList name value) :
    assign (.ofNat limit) store line = .ok (store.set name value) := by
  generalize spelled : line.toList = text at assigns
  cases assigns with
  | @written w₁ w₂ w₃ w₄ source _ _ blank₁ blank₂ blank₃ blank₄ lettered denotes =>
    have named := lettered_iff.mp lettered
    have solid := isName_solid named
    have plain {gap : List Char} (blank : Text.AllBlank gap) : '=' ∉ gap := fun member => by cases blank _ member
    have first : '=' ∉ w₁ ++ name.toList ++ w₂ := by
      simp only [List.mem_append, not_or]
      exact ⟨⟨plain blank₁, fun member => (solid _ member).2 rfl⟩, plain blank₂⟩
    have target : String.ofList (Text.trim (w₁ ++ name.toList ++ w₂)) = name := by
      rw [Text.trim_framed blank₁ (fun c member => (solid c member).1) blank₂, String.ofList_toList]
    have right : Text.trim (w₃ ++ source ++ w₄) = source := Text.trim_framed blank₃ denotes.solid blank₄
    rw [assign_split first spelled, target, if_pos named, right,
      SourceText.value_eq (by rwa [String.toList_ofList]), Except.map_ok]

theorem assign_ok_iff : assign (.ofNat limit) store line = .ok next ↔
    ∃ name value, Assigns limit store line.toList name value ∧ next = store.set name value := by
  constructor
  · intro assigned
    by_cases equals : '=' ∈ line.toList
    -- The line is cut at its first equals sign.
    · obtain ⟨front, back, split, first⟩ := List.eq_append_cons_of_mem equals
      rw [assign_split first split] at assigned
      split at assigned
      · rename_i named
        obtain ⟨value, valued, same⟩ := map_eq_ok.mp assigned
        rcases Assignment.value_cases _ limit store with ⟨result, given, source⟩ | ⟨_, _, failed⟩ | ⟨_, failed, _⟩
        · cases valued.symm.trans given
          obtain ⟨w₁, w₂, blank₁, blank₂, before⟩ := Text.trim_frame front
          obtain ⟨w₃, w₄, blank₃, blank₄, behind⟩ := Text.trim_frame back
          rw [String.toList_ofList] at source
          have written := Assigns.written blank₁ blank₂ blank₃ blank₄ (lettered_iff.mpr named) source
          rw [String.toList_ofList, ← before, ← behind, ← split] at written
          exact ⟨_, value, written, same.symm⟩
        · cases valued.symm.trans failed
        · cases valued.symm.trans failed
      · cases assigned
    · cases (assign_no_equals equals _ store).symm.trans assigned
  · rintro ⟨name, value, assigns, rfl⟩
    exact assigns.assign_eq

section
variable {line : String} {front back : List Char} (first : '=' ∉ front) (split : line.toList = front ++ '=' :: back)
include first split

theorem assign_unnamed (unnamed : isName (String.ofList (Text.trim front)) = false) (limit : DigitLimit)
    (store : Store) : assign limit store line = .error (.invalidIdentifier (String.ofList (Text.trim front))) := by
  rw [← Bool.not_eq_true] at unnamed
  rw [assign_split first split, if_neg unnamed]

theorem assign_unbound (named : isName (String.ofList (Text.trim front)) = true)
    (isSource : isName (String.ofList (Text.trim back)) = true)
    (unbound : store.get? (String.ofList (Text.trim back)) = none) (limit : DigitLimit) :
    assign limit store line = .error (.unknownVariable (String.ofList (Text.trim back))) := by
  rw [assign_split first split, if_pos named, Assignment.value_of_name isSource, Store.require_unbound unbound,
    Except.map_error]

theorem assign_formless (named : isName (String.ofList (Text.trim front)) = true)
    (unlike : ¬ (isName (String.ofList (Text.trim back)) = true ∧
      store.get? (String.ofList (Text.trim back)) = none))
    (noForm : ∀ name value, ¬ Assigns limit store line.toList name value) :
    ∃ fault, assign (.ofNat limit) store line = .error fault ∧ fault.kind = "InvalidAssignmentValue" := by
  have whole := assign_split first split (.ofNat limit) store
  rw [if_pos named] at whole
  rcases Assignment.value_cases _ limit store with ⟨result, valued, _⟩ | ⟨isSource, unbound, _⟩ | ⟨fault, failed, kind⟩
  · rw [valued] at whole
    obtain ⟨name, value, assigns, _⟩ := assign_ok_iff.mp whole
    exact absurd assigns (noForm name value)
  · exact absurd ⟨isSource, unbound⟩ unlike
  · rw [failed] at whole
    exact ⟨fault, whole, kind⟩

end

theorem assigning_ok (assigned : assign limit store line = .ok next) :
    (assigning limit line).run store = (.ok (), next) := by
  rw [assigning_run, assigned]

theorem assigning_error (failed : assign limit store line = .error fault) :
    (assigning limit line).run store = (.error fault, store) := by
  rw [assigning_run, failed]

theorem assigning_ok_iff : (assigning limit line).run store = (.ok (), next) ↔ assign limit store line = .ok next := by
  refine ⟨fun run => ?_, assigning_ok⟩
  cases outcome : assign limit store line with
  | ok after =>
    cases run.symm.trans (assigning_ok outcome)
    rfl
  | error fault => cases run.symm.trans (assigning_error outcome)

theorem assigning_refused (run : (assigning limit line).run store = (.error fault, next)) (strict : Bool) :
    next = store ∧ (respond ⟨strict, limit⟩ store line).2 = store := by
  cases outcome : assign limit store line with
  | ok after => cases run.symm.trans (assigning_ok outcome)
  | error failed =>
    cases run.symm.trans (assigning_error outcome)
    rcases respond_cases ⟨strict, limit⟩ store line with ⟨after, assigned, _⟩ | ⟨_, same⟩
    · cases outcome.symm.trans assigned
    · exact ⟨rfl, same⟩

-- A line assigns exactly when it has this form, and then it changes what the one name stands
-- for. Any other line changes nothing, and the first thing wrong with it is reported: no
-- equals sign, a target that is no name, an unbound name on the right, no value there.
theorem assign_written (limit : Nat) (store : Store) (line : String) :
    let run := (assigning (.ofNat limit) line).run store
    (∀ next, run = (.ok (), next) ↔ ∃ name value, Assigns limit store line.toList name value ∧
      next.get? name = some value ∧ ∀ other, other ≠ name → next.get? other = store.get? other) ∧
    (∀ fault next, run = (.error fault, next) →
      next = store ∧ ∀ strict, (respond ⟨strict, .ofNat limit⟩ store line).2 = store) ∧
    ('=' ∉ line.toList → ∃ fault, run = (.error fault, store) ∧ fault.kind = "InvalidAssignmentValue") ∧
    ∀ front back, line.toList = front ++ '=' :: back → '=' ∉ front →
      let target := Text.trim front
      let source := Text.trim back
      let unbound := Lettered source ∧ store.get? (String.ofList source) = none
      (¬ Lettered target → run = (.error (.invalidIdentifier (String.ofList target)), store)) ∧
      (Lettered target → unbound → run = (.error (.unknownVariable (String.ofList source)), store)) ∧
      (Lettered target → ¬ unbound → (∀ name value, ¬ Assigns limit store line.toList name value) →
          ∃ fault, run = (.error fault, store) ∧ fault.kind = "InvalidAssignmentValue") := by
  intro run
  refine ⟨?accepted, ?unchanged, ?noEquals, ?split⟩
  case accepted =>
    intro next
    simp only [← Store.eq_set_iff]
    exact assigning_ok_iff.trans assign_ok_iff
  case unchanged =>
    intro fault next failed
    exact ⟨(assigning_refused failed false).1, fun strict => (assigning_refused failed strict).2⟩
  case noEquals =>
    intro none
    exact ⟨_, assigning_error (assign_no_equals none _ store), rfl⟩
  case split =>
    intro front back split first target source unbound
    simp only [target, source, unbound, lettered_ofList_iff, Bool.not_eq_true]
    refine ⟨fun unnamed => ?_, fun named free => ?_, fun named unlike noForm => ?_⟩
    · exact assigning_error (assign_unnamed first split unnamed _ store)
    · exact assigning_error (assign_unbound first split named free.1 free.2 _)
    · obtain ⟨fault, failed, kind⟩ := assign_formless first split named unlike noForm
      exact ⟨fault, assigning_error failed, kind⟩

theorem assign_written_padded :
    let store := Store.empty.set "y" (-4)
    (∃ next, (assigning (.ofNat 3) " x =\t-007 ").run store = (.ok (), next) ∧
      next.get? "x" = some (-7) ∧ next.get? "y" = some (-4)) ∧
    (∃ next, (assigning (.ofNat 3) "x=y").run store = (.ok (), next) ∧
      next.get? "x" = some (-4) ∧ next.get? "y" = some (-4)) ∧
    (assigning (.ofNat 3) "y = x").run store = (.error (.unknownVariable "x"), store) ∧
    (assigning (.ofNat 3) "a b = y = 3").run store = (.error (.invalidIdentifier "a b"), store) ∧
    ∃ fault, (assigning (.ofNat 3) "y = 0007").run store = (.error fault, store) ∧
      fault.kind = "InvalidAssignmentValue" := by
  intro store
  have x : Lettered "x".toList := lettered_iff.mpr rfl
  have y : Lettered "y".toList := lettered_iff.mpr rfl
  have assigned {line : String} {value : Int} (assigns : Assigns 3 store line.toList "x" value) :
      ∃ next, (assigning (.ofNat 3) line).run store = (.ok (), next) ∧
        next.get? "x" = some value ∧ next.get? "y" = some (-4) := by
    obtain ⟨held, others⟩ := Store.eq_set_iff.mp (rfl : store.set "x" value = store.set "x" value)
    refine ⟨store.set "x" value, ?_, held, others "y" (by decide)⟩
    exact ((assign_written 3 store line).1 _).mpr ⟨"x", value, assigns, held, others⟩
  refine ⟨assigned ?literal, assigned ?copied, ?unbound, ?unnamed, ?tooLong⟩
  case literal =>
    have seven : Decimal.Denotes ['0', '0', '7'] 7 := Decimal.denotes_iff.mpr ⟨List.cons_ne_nil _ _, by simp, rfl⟩
    have blank : Text.AllBlank [' '] := by decide
    exact .written blank blank (by decide : Text.AllBlank ['\t']) blank x (.minus seven (.inr (by decide)))
  case copied =>
    have none : Text.AllBlank [] := nofun
    exact .written none none none none x (.held y (by decide))
  case unbound =>
    have free : Lettered (Text.trim [' ', 'x']) ∧ store.get? (String.ofList (Text.trim [' ', 'x'])) = none :=
      ⟨x, by decide⟩
    exact ((assign_written 3 store _).2.2.2 ['y', ' '] [' ', 'x'] rfl (by decide)).2.1 y free
  case unnamed =>
    have blank : ¬ Lettered (Text.trim "a b ".toList) := fun lettered => by cases lettered.allLetters ' ' (by decide)
    exact ((assign_written 3 store _).2.2.2 "a b ".toList " y = 3".toList rfl (by decide)).1 blank
  case tooLong =>
    refine ((assign_written 3 store _).2.2.2 ['y', ' '] " 0007".toList rfl (by decide)).2.2 y ?_ fun name value assigns => ?_
    · exact fun free => by cases free.1.allLetters '0' (by decide)
    · cases (assigns.assign_eq).symm.trans (by rfl : assign (.ofNat 3) store "y = 0007" = .error _)

end Calculator
