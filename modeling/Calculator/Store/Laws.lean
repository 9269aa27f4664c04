import Calculator.Store
namespace Calculator.Store

theorem lookup_place (name other : String) (value : Int) (bindings : List (String × Int)) :
    lookup other (place name value bindings) =
      if name = other then some value else lookup other bindings := by
  induction bindings with
  | nil => simp [place, lookup]
  | cons head rest ih =>
    unfold place
    split
    · simp [lookup]
    · split
      · rename_i same
        simp only [lookup, same]
        split <;> rfl
      · rename_i different
        simp only [lookup, ih]
        by_cases found : head.1 = other
        · rw [if_pos found, if_neg (fun same => different (found.trans same.symm)), if_pos found]
        · simp [found]

theorem get?_set (store : Store) (name other : String) (value : Int) :
    (store.set name value).get? other = if name = other then some value else store.get? other :=
  lookup_place name other value store.bindings

theorem get?_set_self (store : Store) (name : String) (value : Int) :
    (store.set name value).get? name = some value := by
  simp [get?_set]

theorem get?_set_cases {store : Store} {name other : String} {value held : Int}
    (found : (store.set name value).get? other = some held) :
    (other = name ∧ held = value) ∨ store.get? other = some held := by
  rw [get?_set] at found
  split at found
  · rename_i same
    exact .inl ⟨same.symm, (Option.some.inj found).symm⟩
  · exact .inr found

theorem lookup_eq_none (name : String) (bindings : List (String × Int))
    (above : ∀ entry ∈ bindings, name < entry.1) : lookup name bindings = none := by
  induction bindings with
  | nil => rfl
  | cons head rest ih =>
    have here := above head List.mem_cons_self
    have other : head.1 ≠ name := fun same => String.lt_irrefl _ (same ▸ here)
    simpa [lookup, other] using ih fun entry member => above entry (List.mem_cons_of_mem _ member)

theorem bindings_ext {left right : List (String × Int)} (ascendingLeft : Ascending left)
    (ascendingRight : Ascending right) (same : ∀ name, lookup name left = lookup name right) :
    left = right := by
  induction left generalizing right with
  | nil =>
    cases right with
    | nil => rfl
    | cons head rest => simpa [lookup] using same head.1
  | cons first earlier ih =>
    cases right with
    | nil => simpa [lookup] using same first.1
    | cons head rest =>
      obtain ⟨aboveFirst, tailLeft⟩ := List.pairwise_cons.mp ascendingLeft
      obtain ⟨aboveHead, tailRight⟩ := List.pairwise_cons.mp ascendingRight
      have names : first.1 = head.1 := by
        rcases Std.lt_trichotomy first.1 head.1 with less | equal | more
        · have missing := lookup_eq_none first.1 (head :: rest) fun entry member => by
            rcases List.mem_cons.mp member with rfl | later
            · exact less
            · exact String.lt_trans less (aboveHead entry later)
          rw [← same] at missing
          simp [lookup] at missing
        · exact equal
        · have missing := lookup_eq_none head.1 (first :: earlier) fun entry member => by
            rcases List.mem_cons.mp member with rfl | later
            · exact more
            · exact String.lt_trans more (aboveFirst entry later)
          rw [same] at missing
          simp [lookup] at missing
      have values : first.2 = head.2 := by simpa [lookup, names] using same first.1
      have tails : earlier = rest := ih tailLeft tailRight fun name => by
        by_cases found : first.1 = name
        · rw [lookup_eq_none name earlier (fun entry member => found ▸ aboveFirst entry member),
            lookup_eq_none name rest (fun entry member => found ▸ names ▸ aboveHead entry member)]
        · simpa [lookup, found, ← names] using same name
      rw [tails, Prod.ext names values]

theorem ext {left right : Store} (same : ∀ name, left.get? name = right.get? name) : left = right := by
  obtain ⟨leftBindings, ascendingLeft⟩ := left
  obtain ⟨rightBindings, ascendingRight⟩ := right
  simpa using bindings_ext ascendingLeft ascendingRight same

theorem eq_set_iff {store next : Store} {name : String} {value : Int} : next = store.set name value ↔
    next.get? name = some value ∧ ∀ other, other ≠ name → next.get? other = store.get? other := by
  constructor
  · rintro rfl
    refine ⟨get?_set_self store name value, fun other different => ?_⟩
    rw [get?_set, if_neg different.symm]
  · rintro ⟨held, others⟩
    apply ext
    intro other
    rw [get?_set]
    split
    · rename_i same
      exact same ▸ held
    · rename_i different
      exact others other (Ne.symm different)

theorem set_comm (store : Store) {first second : String} (different : first ≠ second) (a b : Int) :
    (store.set first a).set second b = (store.set second b).set first a := by
  apply ext
  intro name
  simp only [get?_set]
  split
  · rename_i isSecond
    rw [if_neg fun isFirst => different (isFirst.trans isSecond.symm)]
  · rfl

end Calculator.Store
