import PipelineOverride.Proofs.Report
import PipelineOverride.Proofs.Validation.Shape

/-!
# Accepted projects

What validation promises of the project that is read from an accepted document: references are texts
and overrides are mappings, in tasks, in cases and in forms.
-/

set_option autoImplicit false

namespace PipelineOverride

/-- References that are texts beside an override that is a mapping, if there is one. -/
structure WellShaped (references : List Document) (override : Option Document) : Prop where
  ids : ∀ reference ∈ references, ∃ id, reference = .text id
  mapping : ∀ document, override = some document → ∃ fields, document = .mapping fields

/-- All cases of an option are well shaped, or its template is. -/
inductive OptionDefinition.WellShaped : OptionDefinition → Prop where
  | select {choice : Choice} :
      (∀ branch ∈ choice.cases, PipelineOverride.WellShaped branch.options branch.override) →
      WellShaped (.select choice)
  | switch {choice : Choice} :
      (∀ branch ∈ choice.cases, PipelineOverride.WellShaped branch.options branch.override) →
      WellShaped (.switch choice)
  | input {form : Form} : PipelineOverride.WellShaped [] form.override → WellShaped (.input form)

theorem OptionDefinition.WellShaped.branch {definition : OptionDefinition} {branch : Case}
    (shaped : definition.WellShaped) (member : branch ∈ definition.cases) :
    PipelineOverride.WellShaped branch.options branch.override := by
  cases shaped with
  | select each => exact each branch member
  | switch each => exact each branch member
  | input _ => cases member

/-- All tasks and all options of a project are well shaped. -/
structure Project.WellShaped (project : Project) : Prop where
  tasks : ∀ task ∈ project.tasks, PipelineOverride.WellShaped task.options task.override
  options : ∀ entry ∈ project.options, entry.2.WellShaped

/-!
## Fields
-/

theorem Schema.issues_eq_nil_iff {shape : Schema} {document : Document} :
    shape.issues document = .ok [] ↔ shape.Meets document := by
  rw [Schema.issues, Except.bind_eq_ok_iff, Schema.Meets]
  constructor
  · intro given
    obtain ⟨issues, worded, none⟩ := given
    have sorted : (issues.mergeSort fun a b => pathLe a.1 b.1) = [] :=
      List.map_eq_nil_iff.1 (Except.ok.inj none)
    have isNil : issues = [] := (sorted ▸ List.mergeSort_perm _ _).nil_eq.symm
    cases isNil
    exact List.forall₂_nil_right_iff.1 (Except.mapM_eq_ok_iff.1 worded)
  · intro none
    exact ⟨[], by rw [none]; rfl, by rw [List.mergeSort_nil]; rfl⟩

variable {table : Table Document} {shapes : List (String × Schema)} {shape : Schema}
  {name : String} {document : Document}

theorem Table.get?_of_given? (given : table.given? name = some document) :
    table.get? name = some document := by
  rw [Table.given?, Table.getD, Document.given?.eq_def] at given
  split at given
  · cases given
  · rename_i present
    cases found : table.get? name with
    | none => simp [found, Document.isNull] at present
    | some value => simpa [found] using given

theorem meets_override (fits : ProjectSchema.override.Meets document) :
    ∃ fields, document = .mapping fields := by
  obtain ⟨kind, member, admits⟩ := Schema.meets_kinds.1 fits
  cases List.mem_singleton.1 member
  cases document with
  | mapping fields => exact ⟨fields, rfl⟩
  | scalar _ => cases admits
  | list _ => cases admits
  | set _ => cases admits

theorem meets_string (fits : ProjectSchema.string.Meets document) :
    ∃ value, document = .text value := by
  obtain ⟨kind, member, admits⟩ := Schema.meets_kinds.1 fits
  cases List.mem_singleton.1 member
  cases document with
  | scalar value =>
      cases value with
      | text value => exact ⟨value, rfl⟩
      | _ => cases admits
  | mapping _ => cases admits
  | list _ => cases admits
  | set _ => cases admits

theorem meets_array (fits : (Schema.all [.kinds [.array], .items shape]).Meets document) :
    ∃ items, document = .list items ∧ ∀ item ∈ items, shape.Meets item := by
  rw [Schema.meets_all] at fits
  obtain ⟨kind, member, admits⟩ := Schema.meets_kinds.1 (fits _ (.head _))
  cases List.mem_singleton.1 member
  cases document with
  | list items => exact ⟨items, rfl, Schema.meets_items.1 (fits _ (.tail _ (.head _)))⟩
  | scalar _ => cases admits
  | mapping _ => cases admits
  | set _ => cases admits

theorem meets_object {others : List Schema}
    (fits : (Schema.all (.kinds [.object] :: .fields shapes :: others)).Meets document) :
    ∃ fields : Table Document,
      document = .mapping fields ∧ (Schema.fields shapes).Meets (.mapping fields) := by
  rw [Schema.meets_all] at fits
  obtain ⟨kind, member, admits⟩ := Schema.meets_kinds.1 (fits _ (.head _))
  cases List.mem_singleton.1 member
  cases document with
  | mapping fields => exact ⟨fields, rfl, fits _ (.tail _ (.head _))⟩
  | scalar _ => cases admits
  | list _ => cases admits
  | set _ => cases admits

theorem fields_of_meets {others : List Schema}
    (fits : (Schema.all (.kinds [.object] :: .fields shapes :: others)).Meets (.mapping table)) :
    (Schema.fields shapes).Meets (.mapping table) := by
  obtain ⟨_, isMapping, fitsFields⟩ := meets_object fits
  cases isMapping
  exact fitsFields

/-- Where a field has to be a list, a check that takes a void field for an empty list walks over the
same items as a reader that takes a missing field for one. -/
theorem items_of_meets (name : String) (shape : Schema)
    (fits : (Schema.fields shapes).Meets (.mapping table))
    (named : (name, Schema.all [.kinds [.array], .items shape]) ∈ shapes) :
    ∃ items, table.getD name (.list []) = .list items
      ∧ (table.getD name .null).orIfVoid (.list []) = .list items
      ∧ ∀ item ∈ items, shape.Meets item := by
  cases found : table.get? name with
  | none => exact ⟨[], by rw [Table.getD, found]; rfl, by rw [Table.getD, found]; rfl, by simp⟩
  | some value =>
      obtain ⟨items, rfl, each⟩ := meets_array (Schema.meets_fields.1 fits _ named value found)
      refine ⟨items, by rw [Table.getD, found]; rfl, ?_, each⟩
      rw [Table.getD, found, Option.getD_some, Document.orIfVoid]
      cases items <;> rfl

/-- The items of an array field all have the shape of its items. A missing field has none. -/
theorem meets_of_mem_elements (name : String) {elements : List Document}
    (fits : (Schema.fields shapes).Meets (.mapping table))
    (named : (name, Schema.all [.kinds [.array], .items shape]) ∈ shapes)
    (walked : (table.getD name (.list [])).elements = .ok elements) :
    ∀ element ∈ elements, shape.Meets element := by
  obtain ⟨items, isList, _, each⟩ := items_of_meets name shape fits named
  rw [isList] at walked
  cases walked
  exact each

theorem override_of_meets (fits : (Schema.fields shapes).Meets (.mapping table))
    (named : ("pipeline_override", ProjectSchema.override) ∈ shapes) (document : Document)
    (given : table.given? "pipeline_override" = some document) :
    ∃ fields, document = .mapping fields :=
  meets_override (Schema.meets_fields.1 fits _ named document (Table.get?_of_given? given))

/-- References and override that are read off the fields of a task, a case or an option. -/
theorem wellShaped_of_meets {references : List Document}
    (fits : (Schema.fields shapes).Meets (.mapping table))
    (ids : ("option", ProjectSchema.optionIds) ∈ shapes)
    (override : ("pipeline_override", ProjectSchema.override) ∈ shapes)
    (walked : (table.getD "option" (.list [])).elements = .ok references) :
    WellShaped references (table.given? "pipeline_override") := by
  constructor
  · exact fun reference member =>
      meets_string (meets_of_mem_elements "option" fits ids walked reference member)
  · exact override_of_meets fits override

/-- The options that a document declares are those that the checks walk over and those that the
reader reads. -/
theorem options_of_meets (fits : ProjectSchema.project.Meets (.mapping table)) :
    ∃ declared, table.getD "option" (.mapping []) = .mapping declared
      ∧ (table.getD "option" .null).orIfVoid (.mapping []) = .mapping declared
      ∧ Registry.ofDocument (table.getD "option" .null) = Registry.ofFields declared
      ∧ ∀ entry ∈ declared, ProjectSchema.option.Meets entry.2 := by
  have fitsFields := fields_of_meets fits
  cases found : table.get? "option" with
  | none =>
      refine ⟨[], ?_, ?_, ?_, by simp⟩
      · rw [Table.getD, found]
        rfl
      · rw [Table.getD, found]
        rfl
      · rw [Table.getD, found]
        rfl
  | some value =>
      have fitsValue : (Schema.all
          [.kinds [.object], .everyField ProjectSchema.option]).Meets value :=
        Schema.meets_fields.1 fitsFields ("option", _) (by simp) value found
      rw [Schema.meets_all] at fitsValue
      obtain ⟨kind, member, admits⟩ := Schema.meets_kinds.1 (fitsValue _ (.head _))
      cases List.mem_singleton.1 member
      cases value with
      | mapping declared =>
          have every := fitsValue _ (.tail _ (.head _))
          refine ⟨declared, by rw [Table.getD, found]; rfl, ?_, ?_, Schema.meets_everyField.1 every⟩
          · rw [Table.getD, found, Option.getD_some, Document.orIfVoid]
            cases declared <;> rfl
          · rw [Table.getD, found, Option.getD_some, Registry.ofDocument]
            cases declared <;> rfl
      | scalar _ => cases admits
      | list _ => cases admits
      | set _ => cases admits

/-!
## Reading accepted documents
-/

theorem Case.wellShaped_of_meets {branch : Case} (fits : ProjectSchema.case.Meets document)
    (read : Case.ofDocument document = .ok branch) :
    WellShaped branch.options branch.override := by
  obtain ⟨fields, rfl, fitsFields⟩ := meets_object fits
  simp only [Case.ofDocument, Document.fields?, pure_bind, Except.bind_eq_ok_iff] at read
  obtain ⟨_, _, references, walked, ends⟩ := read
  cases ends
  exact PipelineOverride.wellShaped_of_meets fitsFields (by simp) (by simp) walked

theorem OptionDefinition.wellShaped_of_meets {definition : OptionDefinition}
    (fits : ProjectSchema.option.Meets document)
    (read : OptionDefinition.ofDocument document = .ok definition) : definition.WellShaped := by
  obtain ⟨fields, rfl, fitsFields⟩ := meets_object fits
  have override := override_of_meets fitsFields (by simp)
  simp only [OptionDefinition.ofDocument, Document.fields, Document.fields?, Except.ok_bind]
    at read
  obtain ⟨kind, _, read⟩ := Except.bind_eq_ok_iff.1 read
  split at read
  · cases read
  · simp only [Except.bind_eq_ok_iff] at read
    obtain ⟨_, _, _, _, ends⟩ := read
    cases ends
    exact .input ⟨fun _ member => (List.not_mem_nil member).elim, override⟩
  · simp only [Except.bind_eq_ok_iff] at read
    obtain ⟨elements, walked, cases, readCases, ends⟩ := read
    have shaped : ∀ branch ∈ cases, PipelineOverride.WellShaped branch.options branch.override := by
      intro branch member
      obtain ⟨source, sourceMember, readBranch⟩ :=
        Except.exists_mem_of_mapM_ok readCases member
      exact Case.wellShaped_of_meets
        (meets_of_mem_elements "cases" fitsFields (by simp) walked source sourceMember) readBranch
    cases ends
    split
    · exact .switch shaped
    · exact .select shaped

theorem Task.wellShaped_of_meets {task : Task} (fits : ProjectSchema.task.Meets document)
    (read : Task.ofDocument document = .ok task) : WellShaped task.options task.override := by
  obtain ⟨fields, rfl, fitsFields⟩ := meets_object fits
  simp only [Task.ofDocument, Document.fields, Document.fields?, Except.ok_bind] at read
  split at read
  · cases read
  · simp only [Except.bind_eq_ok_iff] at read
    obtain ⟨_, _, references, walked, _, _, _, _, ends⟩ := read
    cases ends
    exact PipelineOverride.wellShaped_of_meets fitsFields (by simp) (by simp) walked

theorem Registry.wellShaped_of_meets {fields : Table Document} {registry : Registry}
    (fits : ∀ field ∈ fields, ProjectSchema.option.Meets field.2)
    (read : Registry.ofFields fields = .ok registry) :
    ∀ entry ∈ registry, entry.2.WellShaped := by
  induction fields generalizing registry with
  | nil =>
      cases read
      exact fun _ member => by cases member
  | cons field rest ih =>
      simp only [Registry.ofFields, Except.bind_eq_ok_iff] at read
      obtain ⟨definition, readFirst, others, readOthers, ends⟩ := read
      cases ends
      intro entry given
      rcases given with _ | ⟨_, member⟩
      · exact OptionDefinition.wellShaped_of_meets (fits field (.head _)) readFirst
      · exact ih (fun field member => fits field (.tail _ member)) readOthers entry member

theorem Project.wellShaped_of_meets {project : Project}
    (fits : ProjectSchema.project.Meets document)
    (read : Project.ofDocument document = .ok project) : project.WellShaped := by
  obtain ⟨fields, rfl, fitsFields⟩ := meets_object fits
  simp only [Project.ofDocument, Document.fields, Document.fields?, Except.ok_bind,
    Except.bind_eq_ok_iff] at read
  obtain ⟨elements, walked, tasks, readTasks, options, readOptions, _, _, ends⟩ := read
  cases ends
  constructor
  · intro task member
    obtain ⟨source, sourceMember, readTask⟩ := Except.exists_mem_of_mapM_ok readTasks member
    exact Task.wellShaped_of_meets
      (meets_of_mem_elements "task" fitsFields (by simp) walked source sourceMember) readTask
  · obtain ⟨declared, _, _, readRegistry, fitOption⟩ := options_of_meets fits
    rw [readRegistry] at readOptions
    exact Registry.wellShaped_of_meets fitOption readOptions

/-!
## Acceptance
-/

variable {source : String}

/-- A project document is accepted if validation returns and finds no error. -/
def Accepted (document : Document) (source : String) : Prop :=
  ∃ findings, (validate document source).outcome = .ok findings ∧ findings.valid = true

theorem validate_outcome (document : Document) (source : String) :
    (validate document source).outcome
      = ProjectSchema.project.issues document >>= fun issues =>
        checkStructure document >>= fun structural =>
          .ok ⟨issues ++ structural.errors, structural.warnings⟩ := by
  simp only [validate, Report.outcome_bind, Report.outcome_ofExcept]

/-- A document is accepted exactly if it has the shape of project documents and the structural
checks return without errors. -/
theorem accepted_iff : Accepted document source ↔ ProjectSchema.project.Meets document
    ∧ ∃ structural, checkStructure document = .ok structural ∧ structural.errors = [] := by
  simp only [Accepted, validate_outcome, Except.bind_eq_ok_iff]
  constructor
  · intro given
    obtain ⟨findings, ⟨issues, worded, structural, checked, ends⟩, valid⟩ := given
    cases ends
    rw [Findings.valid, List.isEmpty_iff, List.append_eq_nil_iff] at valid
    exact ⟨Schema.issues_eq_nil_iff.1 (valid.1 ▸ worded), structural, checked, valid.2⟩
  · intro given
    obtain ⟨fits, structural, checked, silent⟩ := given
    refine ⟨_, ⟨[], Schema.issues_eq_nil_iff.2 fits, structural, checked, rfl⟩, ?_⟩
    rw [Findings.valid, List.isEmpty_iff, List.nil_append]
    exact silent

/-- Checking gives the project that is read, or rejects the document, or fails as validation or
reading does. -/
theorem Project.checked_outcome (document : Document) (source : String) :
    (Project.checked document source).outcome
      = (validate document source).outcome >>= fun findings =>
        if findings.valid then Project.ofDocument document
        else .error (.invalid source findings.errors) := by
  simp only [Project.checked, ensureValid, Project.parse, Report.outcome_bind,
    Report.outcome_ofExcept, Report.outcome_note]
  cases (validate document source).outcome with
  | error failure => rfl
  | ok findings =>
      simp only [Except.ok_bind]
      split
      · cases Project.ofDocument document <;> rfl
      · rfl

theorem Project.checked_eq_ok_iff {project : Project} :
    (Project.checked document source).outcome = .ok project
      ↔ Accepted document source ∧ Project.ofDocument document = .ok project := by
  rw [Project.checked_outcome, Except.bind_eq_ok_iff]
  constructor
  · intro given
    obtain ⟨findings, validated, read⟩ := given
    split at read
    · rename_i valid
      exact ⟨⟨findings, validated, valid⟩, read⟩
    · cases read
  · intro given
    obtain ⟨⟨findings, validated, valid⟩, read⟩ := given
    exact ⟨findings, validated, by rw [if_pos valid]; exact read⟩

theorem Project.checked_wellShaped {project : Project}
    (accepted : (Project.checked document source).outcome = .ok project) :
    project.WellShaped := by
  obtain ⟨accepted, read⟩ := Project.checked_eq_ok_iff.1 accepted
  exact Project.wellShaped_of_meets (accepted_iff.1 accepted).1 read

end PipelineOverride
