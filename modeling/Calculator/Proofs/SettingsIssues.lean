import Calculator.Settings
import Mathlib.Tactic.Common
namespace Calculator

def RawValue.Flawed (field : Field) (value : RawValue) (problem : Problem) : Prop :=
  match field with
  | .logLevel => value.asLevel = .error problem
  | .prompt | .helpText | .farewell => value.asText = .error problem
  | .strictTokens => value.asTruth = .error problem
  | .digitLimit => value.asDigitLimit = .error problem

-- A field is at fault where a value was given for it that is not one of its own. What stands
-- in for a value that was not given never is.
def Sources.AtFault (sources : Sources) (field : Field) (problem : Problem) : Prop :=
  ∃ value, sources.find? field = some value ∧ value.Flawed field problem

namespace Settings

theorem issue_eq_nil_iff {attempt : Except Problem α} : issue field attempt = [] ↔ ∃ value, attempt = .ok value := by
  cases attempt <;> simp [issue]

theorem mem_issue_iff {attempt : Except Problem α} :
    entry ∈ issue field attempt ↔ entry.field = field ∧ attempt = .error entry.problem := by
  obtain ⟨named, problem⟩ := entry
  cases attempt <;> simp [issue, eq_comm]

variable {sources : Sources}

theorem read_error_iff {check : RawValue → Except Problem α} : sources.read field check plain = .error problem ↔
    ∃ value, sources.find? field = some value ∧ check value = .error problem := by
  unfold Sources.read
  cases sources.find? field <;> simp

theorem mem_issues_iff (refused : ofSources sources = .error issues) (entry : Issue) :
    entry ∈ issues ↔ sources.AtFault entry.field entry.problem := by
  unfold ofSources at refused
  dsimp only at refused
  split at refused
  · cases refused
  · cases refused
    obtain ⟨field, problem⟩ := entry
    simp only [List.mem_append, mem_issue_iff, read_error_iff, Sources.AtFault]
    cases field <;> simp [RawValue.Flawed]

theorem issues_ne_nil (refused : ofSources sources = .error issues) : issues ≠ [] := by
  unfold ofSources at refused
  dsimp only at refused
  split at refused
  · cases refused
  · rename_i unaccepted
    cases refused
    intro none
    simp only [List.append_eq_nil_iff, issue_eq_nil_iff] at none
    obtain ⟨⟨⟨⟨⟨⟨level, one⟩, prompt, two⟩, help, three⟩, farewell, four⟩, strict, five⟩, limit, six⟩ := none
    exact unaccepted level prompt help farewell strict limit one two three four five six

theorem not_atFault (valid : ofSources sources = .ok settings) : ¬ sources.AtFault field problem := by
  intro atFault
  unfold ofSources at valid
  dsimp only at valid
  split at valid
  · rename_i level prompt help farewell strict limit
    cases field with
    | logLevel => cases level.symm.trans (read_error_iff.mpr atFault)
    | prompt => cases prompt.symm.trans (read_error_iff.mpr atFault)
    | helpText => cases help.symm.trans (read_error_iff.mpr atFault)
    | farewell => cases farewell.symm.trans (read_error_iff.mpr atFault)
    | strictTokens => cases strict.symm.trans (read_error_iff.mpr atFault)
    | digitLimit => cases limit.symm.trans (read_error_iff.mpr atFault)
  · cases valid

-- Settings are refused for the fields at fault, for each of them and for nothing else.
theorem ofSources_refused_iff : (∃ issues, ofSources sources = .error issues) ↔
    ∃ field problem, sources.AtFault field problem := by
  constructor
  · rintro ⟨issues, refused⟩
    obtain ⟨entry, member⟩ := List.exists_mem_of_ne_nil issues (issues_ne_nil refused)
    exact ⟨entry.field, entry.problem, (mem_issues_iff refused entry).mp member⟩
  · rintro ⟨field, problem, atFault⟩
    cases outcome : ofSources sources with
    | error issues => exact ⟨issues, rfl⟩
    | ok settings => exact absurd atFault (not_atFault outcome)

example : ofSources {} = .ok {} := by rfl

end Settings
end Calculator
