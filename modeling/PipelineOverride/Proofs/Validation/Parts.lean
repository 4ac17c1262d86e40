import PipelineOverride.Proofs.Validation.Findings

/-!
# Parts of accepted documents

A document is accepted field by field: its tasks by their shape, its options by their shape and by
what is found in each of them, and the other fields by their shape alone.
-/

set_option autoImplicit false

namespace PipelineOverride

variable {document : Document} {fields others : Table Document} {source : String}
  {shape : Schema} {shapes : List (String × Schema)}

/-- An option in which nothing is wrong, with an id that can be shown. -/
structure SoundOption (id : Scalar) (document : Document) : Prop where
  shown : id.isShown = true
  fits : ProjectSchema.option.Meets document
  proper : ∀ own : Table Document, document = .mapping own → own.Proper

/-- The shapes of the fields of a project beside its tasks and options. -/
def headShapes : List (String × Schema) := [
  ("name", ProjectSchema.string), ("version", .kinds [.string, .number]),
  ("import", .all [.kinds [.array], .items ProjectSchema.string])]

/-- Nothing is wrong in any field of a project. -/
structure SoundParts (fields : Table Document) : Prop where
  head : (Schema.fields headShapes).Meets (.mapping fields)
  tasks : ∀ given, fields.get? "task" = some given →
    ∃ items, given = .list items ∧ ∀ item ∈ items, ProjectSchema.task.Meets item
  options : ∀ given, fields.get? "option" = some given →
    ∃ options : Table Document, given = .mapping options
      ∧ ∀ entry ∈ options, SoundOption entry.1 entry.2

/-!
## Shapes
-/

theorem meets_array_iff : (Schema.all [.kinds [.array], .items shape]).Meets document
    ↔ ∃ items, document = .list items ∧ ∀ item ∈ items, shape.Meets item := by
  refine ⟨meets_array, ?_⟩
  rintro ⟨items, rfl, each⟩
  rw [Schema.meets_all]
  simpa [Schema.meets_kinds, ValueKind.admits, Schema.meets_items] using each

theorem meets_table_iff : (Schema.all [.kinds [.object], .everyField shape]).Meets document
    ↔ ∃ entries : Table Document,
      document = .mapping entries ∧ ∀ entry ∈ entries, shape.Meets entry.2 := by
  rw [Schema.meets_all]
  constructor
  · intro fits
    obtain ⟨entries, rfl⟩ := meets_override (fits _ (.head _))
    exact ⟨entries, rfl, Schema.meets_everyField.1 (fits _ (.tail _ (.head _)))⟩
  · rintro ⟨entries, rfl, each⟩
    simpa [Schema.meets_kinds, ValueKind.admits, Schema.meets_everyField] using each

theorem meets_project_iff : ProjectSchema.project.Meets (.mapping fields) ↔
    (Schema.fields headShapes).Meets (.mapping fields)
      ∧ (∀ given, fields.get? "task" = some given →
        ∃ items, given = .list items ∧ ∀ item ∈ items, ProjectSchema.task.Meets item)
      ∧ ∀ given, fields.get? "option" = some given → ∃ options : Table Document,
        given = .mapping options ∧ ∀ entry ∈ options, ProjectSchema.option.Meets entry.2 := by
  have inParts : ProjectSchema.project = .all [.kinds [.object], .fields (headShapes ++ [
      ("task", .all [.kinds [.array], .items ProjectSchema.task]),
      ("option", .all [.kinds [.object], .everyField ProjectSchema.option])])] := rfl
  have isObject : (Schema.kinds [.object]).Meets (.mapping fields) :=
    Schema.meets_kinds.2 ⟨.object, .head _, rfl⟩
  rw [inParts, Schema.meets_all, List.forall_mem_cons, List.forall_mem_singleton,
    and_iff_right isObject, Schema.meets_fields, Schema.meets_fields, List.forall_mem_append,
    List.forall_mem_cons, List.forall_mem_singleton]
  simp only [meets_array_iff, meets_table_iff]

/-- Shapes of fields say the same of tables that have the same fields. -/
theorem meets_fields_congr
    (same : ∀ field ∈ shapes, fields.get? field.1 = others.get? field.1) :
    (Schema.fields shapes).Meets (.mapping fields)
      ↔ (Schema.fields shapes).Meets (.mapping others) := by
  rw [Schema.meets_fields, Schema.meets_fields]
  exact forall₂_congr fun field member => by rw [same field member]

/-!
## Acceptance
-/

/-- A document of the right shape is accepted exactly if all its options are proper and called by
ids that can be shown. -/
theorem accepted_iff_proper (fits : ProjectSchema.project.Meets (.mapping fields)) :
    Accepted (.mapping fields) source ↔ ∀ given, fields.get? "option" = some given →
      ∀ options : Table Document, given = .mapping options →
        ∀ entry ∈ options, entry.1.isShown = true
          ∧ ∀ own : Table Document, entry.2 = .mapping own → own.Proper := by
  obtain ⟨options, _, _, given, _, _, fitOption, finds, fails⟩ := declarations_of_meets fits
  have each : (∃ structural, checkStructure (.mapping fields) = .ok structural
      ∧ structural.errors = [])
        ↔ ∀ entry ∈ options, entry.1.isShown = true ∧ entry.2.Proper := by
    rw [forall₂_and]
    by_cases shown : ∀ entry ∈ options, entry.1.isShown = true
    · obtain ⟨findings, checked, counted, _⟩ := finds shown
      have silent : findings.errors = [] ↔ ∀ entry ∈ options, entry.2.Proper := by
        rw [← faultless_iff fitOption, ← counted, List.length_eq_zero_iff]
      simp only [checked, Except.ok.injEq, exists_eq_left', silent, and_iff_right shown]
    · rw [fails shown]
      exact iff_of_false (fun given => by obtain ⟨_, never, _⟩ := given; cases never)
        fun given => shown given.1
  rw [accepted_iff, and_iff_right fits, each]
  rw [Table.getD] at given
  cases found : fields.get? "option" with
  | none =>
      rw [found] at given
      cases options with
      | nil => simp
      | cons _ _ => cases given
  | some document =>
      rw [found, Option.getD_some] at given
      subst given
      simp

theorem accepted_iff_parts : Accepted (.mapping fields) source ↔ SoundParts fields := by
  constructor
  · intro accepted
    have fits := (accepted_iff.1 accepted).1
    have proper := (accepted_iff_proper fits).1 accepted
    obtain ⟨head, tasks, options⟩ := meets_project_iff.1 fits
    refine ⟨head, tasks, fun given found => ?_⟩
    obtain ⟨declared, isMapping, fitOption⟩ := options given found
    refine ⟨declared, isMapping, fun entry member => ?_⟩
    obtain ⟨shown, own⟩ := proper given found declared isMapping entry member
    exact ⟨shown, fitOption entry member, own⟩
  · intro parts
    have fits : ProjectSchema.project.Meets (.mapping fields) := by
      refine meets_project_iff.2 ⟨parts.head, parts.tasks, fun given found => ?_⟩
      obtain ⟨declared, isMapping, sound⟩ := parts.options given found
      exact ⟨declared, isMapping, fun entry member => (sound entry member).fits⟩
    refine (accepted_iff_proper fits).2 fun given found declared isMapping entry member => ?_
    obtain ⟨options, isMappingToo, sound⟩ := parts.options given found
    cases isMapping.symm.trans isMappingToo
    exact ⟨(sound entry member).shown, (sound entry member).proper⟩

end PipelineOverride
