import PipelineOverride.Proofs.Merge.Paths

/-!
# Merging a fragment in twice

Once a fragment is merged in, all that it says is settled, and merging it in again changes nothing,
whatever was there before. So a fragment may follow itself in a list of fragments, and it is merged
into itself without effect.
-/

set_option autoImplicit false

namespace PipelineOverride

variable {target source : Table Document}

/-- All fields of a fragment are in a table already, down to the last mapping. -/
def Settled (target source : Table Document) : Prop :=
  ∀ field ∈ source, ∃ old, target.lookup field.1 = some old ∧ mergeValue (some old) field.2 = old

theorem mergeFields_of_settled (settled : Settled target source) :
    mergeFields target source = target := by
  induction source with
  | nil => rw [mergeFields]
  | cons field rest ih =>
      obtain ⟨key, value⟩ := field
      obtain ⟨old, found, unchanged⟩ := settled (key, value) (.head _)
      rw [mergeFields, found, unchanged, Table.insert_of_lookup found]
      exact ih fun later member => settled later (.tail _ member)

/-- A merge settles its fields if the merge of each of their values does. -/
theorem settled_mergeFields (distinct : source.Distinct)
    (again : ∀ field ∈ source, ∀ existing,
      mergeValue (some (mergeValue existing field.2)) field.2 = mergeValue existing field.2)
    (target : Table Document) : Settled (mergeFields target source) source := by
  intro field member
  refine ⟨mergeValue (target.lookup field.1) field.2, ?_, again field member _⟩
  rw [lookup_mergeFields distinct, distinct.lookup_of_mem member]

theorem mergeValue_again {value : Document} (wellFormed : value.WellFormed) :
    ∀ existing, mergeValue (some (mergeValue existing value)) value
      = mergeValue existing value := by
  induction wellFormed with
  | scalar | set | list =>
      intro existing
      simp only [mergeValue]
  | mapping distinct _ ih =>
      intro existing
      rw [mergeValue_mappings distinct distinct, mergeValue_mapping distinct,
        mergeFields_of_settled (settled_mergeFields distinct ih _)]

theorem mergeFields_again (wellFormed : (Document.mapping source).WellFormed)
    (target : Table Document) :
    mergeFields (mergeFields target source) source = mergeFields target source := by
  cases wellFormed with
  | mapping distinct each =>
      exact mergeFields_of_settled
        (settled_mergeFields distinct (fun field member => mergeValue_again (each field member)) _)

theorem mergeFields_self (wellFormed : (Document.mapping source).WellFormed) :
    mergeFields source source = source := by
  have again := mergeFields_again wellFormed []
  cases wellFormed with
  | mapping distinct _ => rwa [mergeFields_nil_left distinct] at again

/-- Merging a fragment in a second time changes nothing, not even the order of keys, and an empty
mapping changes nothing on either side. So a fragment that follows itself counts once. -/
theorem reapplying_changes_nothing (wellFormed : (Document.mapping source).WellFormed) :
    (∀ target : Table Document, ∃ merged,
        deepMerge (.mapping target) (.mapping source) = .ok merged ∧
          deepMerge merged (.mapping source) = .ok merged)
      ∧ deepMerge (.mapping []) (.mapping source) = .ok (.mapping source)
      ∧ deepMerge (.mapping source) (.mapping []) = .ok (.mapping source)
      ∧ deepMerge (.mapping source) (.mapping source) = .ok (.mapping source)
      ∧ ∀ (before after : List (Table Document)) (base : Option (Table Document)), ∃ merged,
        mergeFragments ((before ++ [source, source] ++ after).map .mapping) (base.map .mapping)
            = .ok merged ∧
          mergeFragments ((before ++ [source] ++ after).map .mapping) (base.map .mapping)
            = .ok merged := by
  have merge : ∀ own fields : Table Document, deepMerge (.mapping own) (.mapping fields)
      = .ok (.mapping (mergeFields own fields)) := fun _ _ => rfl
  have distinct : source.Distinct := by
    cases wellFormed with
    | mapping distinct _ => exact distinct
  refine ⟨fun target => ⟨_, merge target source, ?_⟩, ?_, ?_, ?_, ?_⟩
  · rw [merge, mergeFields_again wellFormed]
  · rw [merge, mergeFields_nil_left distinct]
  · rw [merge, mergeFields]
  · rw [merge, mergeFields_self wellFormed]
  · intro before after base
    refine ⟨_, ?_, mergeFragments_mappings _ base⟩
    rw [mergeFragments_mappings]
    simp only [List.foldl_append, List.foldl_cons, List.foldl_nil, mergeFields_again wellFormed]

/-- The target has a number where the fragment has a mapping, and a mapping where it has a
number. -/
theorem layeredSource_settles :
    deepMerge (.mapping [(.text "k", .mapping []), (.text "N", .int 1)]) (.mapping layeredSource)
        = .ok (.mapping [(.text "k", .int 7),
          (.text "N", .mapping [(.text "c", .mapping []), (.text "a", .null)])])
      ∧ deepMerge (.mapping [(.text "k", .int 7),
            (.text "N", .mapping [(.text "c", .mapping []), (.text "a", .null)])])
          (.mapping layeredSource)
        = .ok (.mapping [(.text "k", .int 7),
          (.text "N", .mapping [(.text "c", .mapping []), (.text "a", .null)])]) := by
  obtain ⟨merged, merges, again⟩ := (reapplying_changes_nothing
    (by decide : (Document.mapping layeredSource).WellFormed)).1
      [(.text "k", .mapping []), (.text "N", .int 1)]
  cases merges
  exact ⟨rfl, again⟩

end PipelineOverride
