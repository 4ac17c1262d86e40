import PipelineOverride.Project.Definition

/-!
# References between options

Cases refer to options by ids. Following references ends on every registry, cyclic ones included,
because each step to a defined id leaves fewer ids that were not met yet: `idsOffPath_length_lt`.
-/

set_option autoImplicit false

namespace PipelineOverride

/-- The references in all cases of an option. -/
def OptionDefinition.references (definition : OptionDefinition) : List Document :=
  definition.cases.flatMap Case.options

/-- The ids of a registry that are not on a path. -/
def idsOffPath (registry : Registry) (path : List Scalar) : List Scalar :=
  registry.keys.filter fun key => !path.any fun id => key.same id

/-- An id that a table holds has its key there. -/
theorem Table.exists_key_of_lookup {α : Type} {table : Table α} {id : Scalar} {value : α}
    (found : table.lookup id = some value) : ∃ key ∈ table.keys, key.same id = true := by
  induction table with
  | nil => simp at found
  | cons entry rest ih =>
    obtain ⟨key, value'⟩ := entry
    rw [Table.lookup_cons] at found
    by_cases same : key.same id
    · exact ⟨key, by simp [Table.keys], same⟩
    · rw [if_neg same] at found
      obtain ⟨key', member, same'⟩ := ih found
      refine ⟨key', ?_, same'⟩
      simp only [Table.keys, List.map_cons, List.mem_cons] at member ⊢
      exact .inr member

/-- One more id on the path takes its keys out of the rest. -/
theorem idsOffPath_append (registry : Registry) (path : List Scalar) (id : Scalar) :
    idsOffPath registry (path ++ [id])
      = (idsOffPath registry path).filter fun key => !key.same id := by
  simp only [idsOffPath, List.filter_filter, List.any_append, List.any_cons, List.any_nil,
    Bool.or_false, Bool.not_or]
  congr 1
  funext k
  exact Bool.and_comm _ _

/-- A longer path never leaves more ids. -/
theorem idsOffPath_length_le (registry : Registry) (path : List Scalar) (id : Scalar) :
    (idsOffPath registry (path ++ [id])).length ≤ (idsOffPath registry path).length := by
  rw [idsOffPath_append]
  exact List.length_filter_le _ _

/-- Going on to a defined id that is not on the path leaves fewer ids off the path. -/
theorem idsOffPath_length_lt {registry : Registry} {path : List Scalar} {id : Scalar}
    {definition : OptionDefinition} (found : registry.lookup id = some definition)
    (fresh : ¬ (path.any fun p => p.same id) = true) :
    (idsOffPath registry (path ++ [id])).length < (idsOffPath registry path).length := by
  obtain ⟨key, member, same⟩ := Table.exists_key_of_lookup found
  have off : key ∈ idsOffPath registry path := by
    simp only [idsOffPath, List.mem_filter, member, true_and, Bool.not_eq_true',
      List.any_eq_false]
    intro p inPath keySame
    apply fresh
    simp only [List.any_eq_true]
    exact ⟨p, inPath, Scalar.same_trans (Scalar.same_symm keySame) same⟩
  apply Nat.lt_of_le_of_ne (idsOffPath_length_le registry path id)
  intro equal
  rw [idsOffPath_append] at equal
  have := (List.length_filter_eq_length_iff.1 equal) key off
  simp [same] at this

/-- The ids that are seen once all references on a worklist are followed. Ids without a definition
are seen too, but lead nowhere. -/
def reach (registry : Registry) (seen : List Scalar) (pending : List Document) : List Scalar :=
  match pending with
  | [] => seen
  | reference :: rest =>
    match reference.scalar? with
    | none => reach registry seen rest
    | some id =>
      if isSeen : (seen.any fun other => other.same id) = true then reach registry seen rest
      else
        match found : registry.lookup id with
        | none =>
          have := idsOffPath_length_le registry seen id
          reach registry (seen ++ [id]) rest
        | some definition =>
          have := idsOffPath_length_lt found isSeen
          reach registry (seen ++ [id]) (definition.references ++ rest)
termination_by ((idsOffPath registry seen).length, pending.length)
decreasing_by
  · exact Prod.Lex.right _ (by simp)
  · exact Prod.Lex.right _ (by simp)
  · rcases Nat.lt_or_eq_of_le this with fewer | equal
    · exact Prod.Lex.left _ _ fewer
    · rw [equal]; exact Prod.Lex.right _ (by simp)
  · exact Prod.Lex.left _ _ this

end PipelineOverride
