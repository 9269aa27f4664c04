import Mathlib.Tactic.Common
namespace Calculator

section
variable {ε α β : Type}

@[simp] theorem ok_bind (value : α) (next : α → Except ε β) :
    ((Except.ok value : Except ε α) >>= next) = next value := rfl

@[simp] theorem error_bind (refusal : ε) (next : α → Except ε β) :
    ((Except.error refusal : Except ε α) >>= next) = .error refusal := rfl

@[simp] theorem pure_eq_ok (value : α) : (pure value : Except ε α) = .ok value := rfl

theorem bind_eq_ok {attempt : Except ε α} {next : α → Except ε β} {result : β} :
    attempt >>= next = .ok result ↔ ∃ value, attempt = .ok value ∧ next value = .ok result := by
  cases attempt <;> simp

theorem map_eq_ok {attempt : Except ε α} {change : α → β} {result : β} :
    change <$> attempt = .ok result ↔ ∃ value, attempt = .ok value ∧ change value = result := by
  cases attempt <;> simp

theorem bind_eq_error {attempt : Except ε α} {next : α → Except ε β} {refusal : ε}
    (refused : attempt >>= next = .error refusal) :
    attempt = .error refusal ∨ ∃ value, attempt = .ok value ∧ next value = .error refusal := by
  cases attempt with
  | error other => exact .inl (by simpa using refused)
  | ok value => exact .inr ⟨value, rfl, refused⟩

theorem mapM_ok {attempt : α → Except ε β} {items : List α} (all : ∀ item ∈ items, ∃ value, attempt item = .ok value) :
    ∃ values, items.mapM attempt = .ok values := by
  induction items with
  | nil => exact ⟨[], rfl⟩
  | cons item later ih =>
    obtain ⟨value, first⟩ := all item List.mem_cons_self
    obtain ⟨values, rest⟩ := ih fun other member => all other (List.mem_cons_of_mem _ member)
    exact ⟨value :: values, by simp [List.mapM_cons, first, rest]⟩

end

theorem mapM_of_forall {m : Type → Type} [Monad m] [LawfulMonad m] {α β : Type} {attempt : α → m β} {result : α → β}
    {items : List α} (all : ∀ item ∈ items, attempt item = pure (result item)) :
    items.mapM attempt = pure (items.map result) := by
  induction items with
  | nil => simp
  | cons item later ih =>
    have rest := ih fun other member => all other (List.mem_cons_of_mem _ member)
    simp [List.mapM_cons, all item List.mem_cons_self, rest]

end Calculator
