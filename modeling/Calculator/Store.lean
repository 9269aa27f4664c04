namespace Calculator

abbrev Ascending (bindings : List (String × Int)) : Prop := bindings.Pairwise (·.1 < ·.1)

-- The variables of a session. The order determines a store by what it holds, so that two
-- of them can be compared as values.
structure Store where
  bindings : List (String × Int) := []
  ascending : Ascending bindings := by simp
  deriving DecidableEq

namespace Store

def lookup (name : String) : List (String × Int) → Option Int
  | [] => none
  | (bound, value) :: rest => if bound = name then some value else lookup name rest

def place (name : String) (value : Int) : List (String × Int) → List (String × Int)
  | [] => [(name, value)]
  | (bound, held) :: rest =>
    if name < bound then (name, value) :: (bound, held) :: rest
    else if bound = name then (name, value) :: rest
    else (bound, held) :: place name value rest

theorem mem_place {name : String} {value : Int} {bindings : List (String × Int)}
    {entry : String × Int} (member : entry ∈ place name value bindings) :
    entry = (name, value) ∨ entry ∈ bindings := by
  induction bindings with
  | nil => simpa [place] using member
  | cons head rest ih =>
    unfold place at member
    split at member
    · simpa using member
    · split at member
      · rcases List.mem_cons.mp member with same | old
        · exact .inl same
        · exact .inr (List.mem_cons_of_mem _ old)
      · rcases List.mem_cons.mp member with same | placed
        · exact .inr (same ▸ List.mem_cons_self)
        · rcases ih placed with new | old
          · exact .inl new
          · exact .inr (List.mem_cons_of_mem _ old)

theorem place_ascending (name : String) (value : Int) (bindings : List (String × Int))
    (ascending : Ascending bindings) : Ascending (place name value bindings) := by
  induction bindings with
  | nil => simp [place, Ascending]
  | cons head rest ih =>
    obtain ⟨above, tail⟩ := List.pairwise_cons.mp ascending
    unfold place
    split
    · rename_i before
      refine List.pairwise_cons.mpr ⟨?_, ascending⟩
      intro entry member
      rcases List.mem_cons.mp member with rfl | later
      · exact before
      · exact String.lt_trans before (above entry later)
    · rename_i notBefore
      split
      · rename_i same
        exact List.pairwise_cons.mpr ⟨fun entry member => same ▸ above entry member, tail⟩
      · rename_i different
        refine List.pairwise_cons.mpr ⟨?_, ih tail⟩
        intro entry member
        rcases mem_place member with rfl | old
        · exact Std.lt_of_le_of_ne (String.not_lt.mp notBefore) different
        · exact above entry old

def empty : Store := {}

def get? (store : Store) (name : String) : Option Int := lookup name store.bindings

def set (store : Store) (name : String) (value : Int) : Store :=
  ⟨place name value store.bindings, place_ascending name value store.bindings store.ascending⟩

def ofList (bindings : List (String × Int)) : Store :=
  bindings.foldl (fun store entry => store.set entry.1 entry.2) empty

def size (store : Store) : Nat := store.bindings.length

end Store
end Calculator
