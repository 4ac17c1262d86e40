import PipelineOverride.Proofs.Document.Alike
import PipelineOverride.Proofs.Merge.Paths

/-!
# Fragments that do not conflict

Two fragments are free of conflicts if they meet in mappings only. Merging them in either order
leads to the same values, whatever they are merged into: where both have a mapping, the first one to
come clears away anything else that is there, and they share what results. From two neighbours this
carries over to every rearrangement of a list of fragments.
-/

set_option autoImplicit false

namespace PipelineOverride

/-- Under every common key both fragments have mappings, which are free of conflicts in turn. -/
inductive Table.ConflictFree : Table Document → Table Document → Prop where
  | intro {left right : Table Document} :
      (∀ key value other, left.lookup key = some value → right.lookup key = some other →
        value.fields?.isSome ∧ other.fields?.isSome) →
      (∀ (key : Scalar) (own fields : Table Document), left.lookup key = some (.mapping own) →
        right.lookup key = some (.mapping fields) → ConflictFree own fields) →
      ConflictFree left right

namespace Table.ConflictFree

variable {left right own fields : Table Document} {key : Scalar} {value : Document}

theorem symm (free : ConflictFree left right) : ConflictFree right left := by
  induction free with
  | intro mappings _ ih =>
      refine .intro (fun key value other found foundOther => ?_)
        fun key own fields found foundOther => ih key fields own foundOther found
      exact (mappings key other value foundOther found).symm

theorem nil : ConflictFree [] right :=
  .intro (fun _ _ _ found => by cases found) fun _ _ _ found => by cases found

/-- A key that the other fragment does not have is free. -/
theorem cons_absent (absent : right.lookup key = none) (rest : ConflictFree left right) :
    ConflictFree ((key, value) :: left) right := by
  have notThere : ∀ wanted, key.same wanted = true → right.lookup wanted = none := by
    intro wanted same
    rw [← lookup_congr same, absent]
  cases rest with
  | intro mappings below =>
      refine .intro (fun wanted _ _ found foundOther => ?_) fun wanted _ _ found foundOther => ?_
      all_goals
        rw [lookup_cons] at found
        split at found
      · cases (notThere wanted ‹_›).symm.trans foundOther
      · exact mappings _ _ _ found foundOther
      · cases (notThere wanted ‹_›).symm.trans foundOther
      · exact below _ _ _ found foundOther

/-- A key that leads to mappings on both sides is free if the mappings are. -/
theorem cons_mapping (there : right.lookup key = some (.mapping fields))
    (inside : ConflictFree own fields) (rest : ConflictFree left right) :
    ConflictFree ((key, .mapping own) :: left) right := by
  have isThere : ∀ wanted, key.same wanted = true →
      right.lookup wanted = some (.mapping fields) := by
    intro wanted same
    rw [← lookup_congr same, there]
  cases rest with
  | intro mappings below =>
      refine .intro (fun wanted _ _ found foundOther => ?_) fun wanted _ _ found foundOther => ?_
      all_goals
        rw [lookup_cons] at found
        split at found
      · cases found
        cases (isThere wanted ‹_›).symm.trans foundOther
        exact ⟨rfl, rfl⟩
      · exact mappings _ _ _ found foundOther
      · cases found
        cases (isThere wanted ‹_›).symm.trans foundOther
        exact inside
      · exact below _ _ _ found foundOther

end Table.ConflictFree

/-!
## Targets that are alike
-/

section Alike

variable {target other source : Table Document} {existing before : Option Document}

theorem fieldsBefore_alike (alike : Option.Rel Document.Alike existing before) :
    (fieldsBefore existing).Alike (fieldsBefore before) := by
  cases alike with
  | none => exact .refl _
  | some values =>
      cases values with
      | scalar | set | list => exact .refl _
      | mapping sameKeys each => exact Document.alike_mapping_iff.1 (.mapping sameKeys each)

theorem mergeFields_alike_of (distinct : source.Distinct)
    (each : ∀ field ∈ source, ∀ existing before, Option.Rel Document.Alike existing before →
      (mergeValue existing field.2).Alike (mergeValue before field.2))
    (alike : target.Alike other) :
    (mergeFields target source).Alike (mergeFields other source) := by
  intro key
  rw [lookup_mergeFields distinct, lookup_mergeFields distinct]
  cases found : source.lookup key with
  | none => exact alike key
  | some value =>
      obtain ⟨_, member, _⟩ := Table.mem_of_lookup found
      exact .some (each _ member _ _ (alike key))

theorem mergeValue_alike {value : Document} (wellFormed : value.WellFormed) :
    ∀ existing before, Option.Rel Document.Alike existing before →
      (mergeValue existing value).Alike (mergeValue before value) := by
  induction wellFormed with
  | scalar | set | list =>
      intro existing before _
      simp only [mergeValue]
      exact .refl _
  | mapping distinct _ ih =>
      intro existing before alike
      rw [mergeValue_mapping distinct, mergeValue_mapping distinct]
      exact Document.alike_mapping_iff.2
        (mergeFields_alike_of distinct ih (fieldsBefore_alike alike))

/-- Merging into tables that are alike gives tables that are alike. -/
theorem mergeFields_alike (wellFormed : (Document.mapping source).WellFormed)
    (alike : target.Alike other) :
    (mergeFields target source).Alike (mergeFields other source) := by
  obtain ⟨distinct, each⟩ := wellFormed.of_mapping
  exact mergeFields_alike_of distinct
    (fun field member => mergeValue_alike (each field member)) alike

theorem foldl_mergeFields_alike {fragments : List (Table Document)}
    (wellFormed : ∀ fragment ∈ fragments, (Document.mapping fragment).WellFormed)
    (alike : target.Alike other) :
    (fragments.foldl mergeFields target).Alike (fragments.foldl mergeFields other) := by
  induction fragments generalizing target other with
  | nil => exact alike
  | cons fragment rest ih =>
      exact ih (fun later member => wellFormed later (.tail _ member))
        (mergeFields_alike (wellFormed fragment (.head _)) alike)

end Alike

/-!
## Rearrangements
-/

/-- Two fragments that are free of conflicts may be merged in either order. -/
theorem mergeFields_swap {left right : Table Document} (free : left.ConflictFree right)
    (leftWellFormed : (Document.mapping left).WellFormed)
    (rightWellFormed : (Document.mapping right).WellFormed) (target : Table Document) :
    (mergeFields (mergeFields target left) right).Alike
      (mergeFields (mergeFields target right) left) := by
  induction free generalizing target with
  | @intro left right mappings _ ih =>
      obtain ⟨leftDistinct, leftEach⟩ := leftWellFormed.of_mapping
      obtain ⟨rightDistinct, rightEach⟩ := rightWellFormed.of_mapping
      intro key
      simp only [lookup_mergeFields leftDistinct, lookup_mergeFields rightDistinct]
      cases found : left.lookup key with
      | none => cases right.lookup key <;> exact Document.Alike.refl_option _
      | some value =>
          cases foundOther : right.lookup key with
          | none => exact Document.Alike.refl_option _
          | some other =>
              -- Both are mappings, so they are merged into one that is there or into nothing.
              obtain ⟨isMapping, otherIsMapping⟩ := mappings key value other found foundOther
              obtain ⟨own, rfl⟩ := Document.exists_eq_mapping isMapping
              obtain ⟨fields, rfl⟩ := Document.exists_eq_mapping otherIsMapping
              have ownWellFormed : (Document.mapping own).WellFormed :=
                Table.of_lookup leftEach found
              have fieldsWellFormed : (Document.mapping fields).WellFormed :=
                Table.of_lookup rightEach foundOther
              have ownDistinct := ownWellFormed.of_mapping.1
              have fieldsDistinct := fieldsWellFormed.of_mapping.1
              simp only [mergeValue_mappings ownDistinct fieldsDistinct,
                mergeValue_mappings fieldsDistinct ownDistinct]
              exact .some (Document.alike_mapping_iff.2
                (ih key own fields found foundOther ownWellFormed fieldsWellFormed _))

/-- Fragments that are pairwise free of conflicts may be merged in any order. -/
theorem foldl_mergeFields_perm {fragments others : List (Table Document)}
    (perm : fragments.Perm others)
    (wellFormed : ∀ fragment ∈ fragments, (Document.mapping fragment).WellFormed)
    (free : fragments.Pairwise Table.ConflictFree) (start : Table Document) :
    (fragments.foldl mergeFields start).Alike (others.foldl mergeFields start) := by
  induction perm generalizing start with
  | nil => exact .refl _
  | cons fragment _ ih =>
      exact ih (fun later member => wellFormed later (.tail _ member))
        (List.pairwise_cons.1 free).2 _
  | swap first second rest =>
      obtain ⟨apart, _⟩ := List.pairwise_cons.1 free
      have swapped := mergeFields_swap (apart first (.head _)) (wellFormed second (.head _))
        (wellFormed first (.tail _ (.head _))) start
      exact foldl_mergeFields_alike
        (fun later member => wellFormed later (.tail _ (.tail _ member))) swapped
  | trans toMiddle _ ih ihAfter =>
      have middleWellFormed := fun fragment member =>
        wellFormed fragment (toMiddle.mem_iff.2 member)
      have middleFree := free.perm toMiddle fun related => related.symm
      exact (ih wellFormed free start).trans (ihAfter middleWellFormed middleFree start)

/-- Fragments that are pairwise free of conflicts merge, in any order and onto any base, to the same
values under the same keys. -/
theorem mergeFragments_perm {fragments others : List (Table Document)}
    (base : Option (Table Document))
    (wellFormed : ∀ fragment ∈ fragments, (Document.mapping fragment).WellFormed)
    (free : fragments.Pairwise Table.ConflictFree) (perm : fragments.Perm others) :
    ∃ merged rearranged,
      mergeFragments (fragments.map .mapping) (base.map .mapping) = .ok merged ∧
        mergeFragments (others.map .mapping) (base.map .mapping) = .ok rearranged ∧
        merged.Alike rearranged := by
  refine ⟨_, _, mergeFragments_mappings fragments base, mergeFragments_mappings others base, ?_⟩
  exact Document.alike_mapping_iff.2 (foldl_mergeFields_perm perm wellFormed free _)

/-- Two fragments that share the node `N` and its mapping `p`, and one that changes another node. -/
def independentFragments : List (Table Document) :=
  [[(.text "N", .mapping [(.text "a", .int 1), (.text "p", .mapping [(.text "x", .null)])])],
    [(.text "N", .mapping [(.text "p", .mapping [(.text "y", .null)]), (.text "b", .int 2)])],
    [(.text "M", .int 3)]]

theorem independentFragments_reversed :
    ∃ merged rearranged,
      mergeFragments (independentFragments.map .mapping)
          (some (.mapping [(.text "N", .bool true)])) = .ok merged ∧
        mergeFragments (independentFragments.reverse.map .mapping)
          (some (.mapping [(.text "N", .bool true)])) = .ok rearranged ∧
        merged.Alike rearranged := by
  have wellFormed : ∀ fragment ∈ independentFragments, (Document.mapping fragment).WellFormed := by
    decide
  have free : independentFragments.Pairwise Table.ConflictFree := by
    simp only [independentFragments, List.pairwise_cons, List.mem_cons, List.not_mem_nil, or_false,
      forall_eq_or_imp, forall_eq, false_implies, implies_true, List.Pairwise.nil, and_true]
    refine ⟨⟨.cons_mapping rfl (.cons_absent rfl (.cons_mapping rfl ?_ .nil)) .nil, ?_⟩, ?_⟩
    · exact .cons_absent rfl .nil
    · exact .cons_absent rfl .nil
    · exact .cons_absent rfl .nil
  exact mergeFragments_perm (some [(.text "N", .bool true)]) wellFormed free
    (List.reverse_perm _).symm

end PipelineOverride
