import PipelineOverride.Proofs.Files.Folding
import PipelineOverride.Proofs.Merge.Modes
import PipelineOverride.Proofs.Validation.Parts

/-!
# What folding reads off a document

Folding puts a list and a mapping in place of whatever a document gives as its tasks and options. It
takes more for them than validation does: any void value for nothing at all, and a list of pairs for
a mapping. Whatever else it can walk over gives tasks or options that are atomic, which are none.
-/

set_option autoImplicit false

namespace PipelineOverride

/-- The tasks that folding takes a field for, as far as its items are mappings. -/
inductive StandsForTasks : Option Document → List Document → Prop where
  | missing : StandsForTasks none []
  | list {items : List Document} : StandsForTasks (some (.list items)) items
  | void {given : Document} : given.isVoid = true → StandsForTasks (some given) []

/-- The options that folding takes a field for, as far as their values are mappings. -/
inductive StandsForOptions : Option Document → Table Document → Prop where
  | missing : StandsForOptions none []
  | mapping {options : Table Document} : StandsForOptions (some (.mapping options)) options
  | void {given : Document} : given.isVoid = true → StandsForOptions (some given) []
  | pairs {items : List Document} {entries : List (Scalar × Document)} :
      items.mapM Document.pair = .ok entries →
      StandsForOptions (some (.list items)) (Table.ofEntries entries)

variable {fields : Table Document} {own : Collected} {document : Document}
  {elements : List Document} {tasks : List Document} {options : Table Document}

/-!
## Elements
-/

/-- Only lists are walked over for anything but atomic values. -/
theorem Document.scalars_of_elements? (notList : document.isList = false)
    (walked : document.elements? = some elements) :
    ∀ element ∈ elements, ∃ value, element = .scalar value := by
  intro element member
  cases document with
  | list items => cases notList
  | set members =>
      cases walked
      obtain ⟨value, _, rfl⟩ := List.mem_map.1 member
      exact ⟨value, rfl⟩
  | mapping entries =>
      cases walked
      obtain ⟨entry, _, rfl⟩ := List.mem_map.1 member
      exact ⟨entry.1, rfl⟩
  | scalar value =>
      cases value with
      | text s =>
          cases walked
          obtain ⟨c, _, rfl⟩ := List.mem_map.1 member
          exact ⟨_, rfl⟩
      | bytes data =>
          cases walked
          obtain ⟨byte, _, rfl⟩ := List.mem_map.1 member
          exact ⟨_, rfl⟩
      | _ => cases walked

theorem not_task_scalar (value : Scalar) : ¬ ProjectSchema.task.Meets (.scalar value) := by
  intro fits
  obtain ⟨_, isMapping, _⟩ := meets_object fits
  cases isMapping

theorem not_soundOption_scalar (id value : Scalar) : ¬ SoundOption id (.scalar value) := by
  intro sound
  obtain ⟨_, isMapping, _⟩ := meets_object sound.fits
  cases isMapping

/-!
## Tasks
-/

theorem StandsForTasks.taskItems (stands : StandsForTasks (fields.get? "task") tasks) :
    taskItems fields = .ok tasks := by
  rw [PipelineOverride.taskItems, Table.getD]
  generalize fields.get? "task" = given at stands
  cases stands with
  | missing => rfl
  | list => cases tasks <;> rfl
  | void isVoid => rw [Option.getD_some, Document.orIfVoid, if_pos isVoid]; rfl

theorem standsForTasks_of_taskItems (read : taskItems fields = .ok tasks)
    (fits : ∀ task ∈ tasks, ProjectSchema.task.Meets task) :
    StandsForTasks (fields.get? "task") tasks := by
  rw [taskItems, Table.getD] at read
  cases found : fields.get? "task" with
  | none =>
      rw [found] at read
      cases read
      exact .missing
  | some given =>
      rw [found, Option.getD_some, Document.orIfVoid] at read
      by_cases isVoid : given.isVoid = true
      · rw [if_pos isVoid] at read
        cases read
        exact .void isVoid
      · rw [if_neg isVoid] at read
        have walked := Document.elements_eq_ok read
        have full : tasks ≠ [] := fun none =>
          isVoid (Document.isVoid_of_no_elements (none ▸ walked))
        by_cases isList : given.isList = true
        · cases given with
          | list items =>
              cases read
              exact .list
          | _ => cases isList
        · obtain ⟨task, member⟩ := List.exists_mem_of_ne_nil _ full
          obtain ⟨value, rfl⟩ :=
            Document.scalars_of_elements? (Bool.not_eq_true _ ▸ isList) walked task member
          exact absurd (fits _ member) (not_task_scalar value)

/-!
## Options
-/

theorem StandsForOptions.toTable (stands : StandsForOptions (fields.get? "option") options) :
    ((fields.getD "option" .null).orIfVoid (.mapping [])).toTable = .ok options := by
  rw [Table.getD]
  generalize fields.get? "option" = given at stands
  cases stands with
  | missing => rfl
  | mapping => cases options <;> rfl
  | void isVoid => rw [Option.getD_some, Document.orIfVoid, if_pos isVoid]; rfl
  | @pairs items entries paired =>
      cases items with
      | nil =>
          cases paired
          rfl
      | cons item rest =>
          rw [Option.getD_some, Document.orIfVoid, if_neg (by simp [Document.isVoid])]
          simp only [Document.toTable, Document.fields?, Document.elements, Document.elements?,
            Except.ok_bind, paired]
          rfl

theorem Document.pair_scalar {value : Scalar} {entry : Scalar × Document}
    (paired : Document.pair (.scalar value) = .ok entry) : ∃ other, entry.2 = .scalar other := by
  obtain ⟨elements, read, parts⟩ := Except.bind_eq_ok_iff.1 paired
  have walked := Document.elements_eq_ok read
  split at parts
  · rename_i key second
    obtain ⟨other, isScalar⟩ :=
      Document.scalars_of_elements? rfl walked second (by simp)
    split at parts
    · cases parts
      exact ⟨other, isScalar⟩
    · cases parts
  · cases parts

/-- Pairs that are read off atomic values make options that are no options. -/
theorem unsound_of_scalar_pairs {entries : List (Scalar × Document)}
    (paired : elements.mapM Document.pair = .ok entries) (full : elements ≠ [])
    (scalars : ∀ element ∈ elements, ∃ value, element = .scalar value) :
    ¬ ∀ entry ∈ Table.ofEntries entries, SoundOption entry.1 entry.2 := by
  intro sound
  have pairs := Except.mapM_eq_ok_iff.1 paired
  have values : ∀ entry ∈ entries, ∃ other, entry.2 = .scalar other := by
    intro entry member
    obtain ⟨element, elementMember, isPair⟩ := Except.exists_mem_of_mapM_ok paired member
    obtain ⟨value, rfl⟩ := scalars element elementMember
    exact Document.pair_scalar isPair
  obtain ⟨entry, member⟩ : ∃ entry, entry ∈ entries := by
    cases pairs with
    | nil => exact absurd rfl full
    | cons _ _ => exact ⟨_, .head _⟩
  obtain ⟨value, found⟩ := Option.isSome_iff_exists.1
    (Table.contains_ofEntries_iff.2 ⟨entry, member, Scalar.same_self entry.1⟩)
  obtain ⟨key, kept, _⟩ := Table.mem_of_lookup found
  obtain ⟨other, isScalar⟩ := @Table.forall_ofEntries _
    (fun document => ∃ other, document = Document.scalar other) entries values (key, value) kept
  exact not_soundOption_scalar key other (isScalar ▸ sound (key, value) kept)

theorem standsForOptions_of_toTable
    (read : ((fields.getD "option" .null).orIfVoid (.mapping [])).toTable = .ok options)
    (sound : ∀ entry ∈ options, SoundOption entry.1 entry.2) :
    StandsForOptions (fields.get? "option") options := by
  rw [Table.getD] at read
  cases found : fields.get? "option" with
  | none =>
      rw [found] at read
      cases read
      exact .missing
  | some given =>
      rw [found, Option.getD_some, Document.orIfVoid] at read
      by_cases isVoid : given.isVoid = true
      · rw [if_pos isVoid] at read
        cases read
        exact .void isVoid
      · rw [if_neg isVoid] at read
        rcases Document.toTable_eq_ok read with rfl | ⟨elements, entries, walked, paired, rfl⟩
        · exact .mapping
        · by_cases isList : given.isList = true
          · cases given with
            | list items =>
                cases walked
                exact .pairs paired
            | _ => cases isList
          · have full : elements ≠ [] := fun none =>
              isVoid (Document.isVoid_of_no_elements (none ▸ walked))
            exact absurd sound (unsound_of_scalar_pairs paired full
              (Document.scalars_of_elements? (Bool.not_eq_true _ ▸ isList) walked))

/-!
## Documents
-/

namespace Collected

theorem ofFields_eq_ok_iff : ofFields fields = .ok own ↔ taskItems fields = .ok own.tasks
    ∧ ((fields.getD "option" .null).orIfVoid (.mapping [])).toTable = .ok own.options := by
  simp only [ofFields, Except.bind_eq_ok_iff]
  constructor
  · rintro ⟨tasks, isTasks, options, isOptions, ends⟩
    cases ends
    exact ⟨isTasks, isOptions⟩
  · rintro ⟨isTasks, isOptions⟩
    exact ⟨_, isTasks, _, isOptions, rfl⟩

theorem ofFields_of_stands (isTasks : StandsForTasks (fields.get? "task") tasks)
    (isOptions : StandsForOptions (fields.get? "option") options) :
    Collected.ofFields fields = .ok ⟨tasks, options⟩ :=
  ofFields_eq_ok_iff.2 ⟨isTasks.taskItems, isOptions.toTable⟩

theorem ofFields_fold (collected : Collected) (fields : Table Document) :
    ofFields (collected.fold fields) = .ok collected := by
  refine ofFields_eq_ok_iff.2 ⟨StandsForTasks.taskItems ?_, StandsForOptions.toTable ?_⟩
  · rw [fold_task]
    exact .list
  · rw [fold_option]
    exact .mapping

end Collected

end PipelineOverride
