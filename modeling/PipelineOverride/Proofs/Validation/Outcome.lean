import PipelineOverride.Files.ProjectFile
import PipelineOverride.Proofs.Validation.Declared

/-!
# Outcomes of validation

The structural checks run over documents that have been found to be of the wrong shape, too. They
compare names as keys and walk over lists without asking whether they can, so a document may end
validation instead of being reported. No document of the right shape does that. Any document may
end it by a value that an issue has to show and that cannot be shown.
-/

set_option autoImplicit false

namespace PipelineOverride

variable {document : Document} {source : String} {fields : Table Document}

/-- What a document without errors is: it has the shape of project documents, and each option has
the cases or slots that its kind asks for. -/
structure Conforms (fields : Table Document) : Prop where
  shaped : ProjectSchema.project.Meets (.mapping fields)
  options : ∀ declared, fields.getD "option" (.mapping []) = .mapping declared →
    ∀ entry ∈ declared, ∃ (own : Table Document) (kind : OptionKind), entry.2 = .mapping own ∧
      OptionKind.ofTag? (own.getD "type" .null) = some kind ∧ own.Admissible kind

/-- Whatever validation has to show of a document can be shown. -/
structure Showable (fields : Table Document) : Prop extends StructureShowable fields where
  issues : ∀ violation ∈ ProjectSchema.project.check [] (.mapping fields), violation.Shown

/-!
## Documents of the right shape
-/

theorem NamesAtomic.of_named {documents : List Document} (named : ∀ document ∈ documents,
    ∃ (fields : Table Document) (name : String), document = .mapping fields ∧
      fields.get? "name" = some (.text name)) : NamesAtomic documents := by
  intro document member own isMapping
  obtain ⟨fields, name, rfl, found⟩ := named document member
  cases isMapping
  rw [Table.getD, found]
  rfl

theorem OptionComparable.of_meets (fits : ProjectSchema.option.Meets document) :
    OptionComparable document := by
  obtain ⟨own, rfl, fitsFields⟩ := meets_object fits
  intro fields isMapping kind _
  cases isMapping
  split
  · obtain ⟨slots, _, isList, fitSlot⟩ :=
      items_of_meets "inputs" ProjectSchema.slot fitsFields (by simp)
    refine ⟨slots, by rw [isList]; rfl, .of_named fun slot member => ?_⟩
    exact named_of_meets (fitSlot slot member) (by simp)
  · obtain ⟨cases, _, isList, fitCase⟩ :=
      items_of_meets "cases" ProjectSchema.case fitsFields (by simp)
    refine ⟨cases, by rw [isList]; rfl, .of_named fun branch member => ?_, fun name given => ?_⟩
    · exact named_of_meets (fitCase branch member) (by simp)
    · obtain ⟨text, rfl⟩ := meets_string (Schema.meets_fields.1 fitsFields
        ("default_case", ProjectSchema.string) (by simp) name (Table.get?_of_given? given))
      rfl

/-- Whatever the structural checks compare in a document of the right shape can be compared. -/
theorem Comparable.of_meets (fits : ProjectSchema.project.Meets (.mapping fields)) :
    Comparable fields := by
  have fitsFields := fields_of_meets fits
  constructor
  · intro declared isMapping entry member
    obtain ⟨options, _, given, _, fitOption⟩ := options_of_meets fits
    rw [given] at isMapping
    cases isMapping
    exact .of_meets (fitOption entry member)
  · obtain ⟨tasks, _, isList, fitTask⟩ :=
      items_of_meets "task" ProjectSchema.task fitsFields (by simp)
    refine ⟨tasks, by rw [isList]; rfl, fun task member => ?_⟩
    obtain ⟨own, name, rfl, named, _⟩ := task_named_of_meets (fitTask task member)
    have isName : taskNameOf (.mapping own) = .text name := Table.getD_getD named
    rw [isName]
    rfl

/-!
## Documents that can be shown
-/

theorem RepeatsShown.of_shown {names : List Document}
    (each : ∀ name ∈ names, name.isShown = true) : RepeatsShown names :=
  List.pairwise_of_forall_mem_list fun _ _ later member _ _ _ isKey _ =>
    Document.isShown_scalar? (each later member) isKey

theorem givenNames_shown {documents : List Document}
    (each : ∀ document ∈ documents, document.isShown = true) :
    ∀ name ∈ givenNames documents, name.isShown = true := by
  intro name member
  obtain ⟨document, isGiven, named⟩ := List.mem_filterMap.1 member
  obtain ⟨own, isMapping, rfl⟩ := Option.map_eq_some_iff.1 named
  exact Document.isShown_getD (Document.isShown_of_fields? (each document isGiven) isMapping)
    "name" rfl

theorem isShown_listed (shown : (Document.mapping fields).isShown = true) (name : String) :
    ((fields.getD name .null).orIfVoid (.list [])).isShown = true :=
  Document.isShown_orIfVoid (Document.isShown_getD shown name rfl) rfl

theorem Table.CasesShowable.of_shown (shown : (Document.mapping fields).isShown = true) :
    fields.CasesShowable := by
  intro cases walked
  have each := Document.isShown_elements (isShown_listed shown "cases") walked
  refine ⟨.of_shown (givenNames_shown each), fun name key given isKey => .inl ?_⟩
  exact Document.isShown_scalar? (Document.isShown_get? shown (Table.get?_of_given? given)) isKey

theorem Table.SlotsShowable.of_shown (shown : (Document.mapping fields).isShown = true) :
    fields.SlotsShowable := by
  intro slots walked
  have each := Document.isShown_elements (isShown_listed shown "inputs") walked
  refine ⟨.of_shown (givenNames_shown each), fun slot member own isMapping => ?_⟩
  exact Document.isShown_getD (Document.isShown_of_fields? (each slot member) isMapping)
    "pipeline_type" rfl

theorem OptionShowable.of_shown {id : Scalar} (shownId : id.isShown = true)
    (shown : document.isShown = true) : OptionShowable id document := by
  refine ⟨shownId, fun own isMapping => ?_, fun own isMapping kind _ => ?_⟩
  · exact Document.isShown_getD (Document.isShown_of_fields? shown isMapping) "type" rfl
  · have shownOwn := Document.isShown_of_fields? shown isMapping
    split
    · exact .of_shown shownOwn
    · exact .of_shown shownOwn

theorem taskNameOf_shown (shown : document.isShown = true) :
    (taskNameOf document).isShown = true := by
  rw [taskNameOf]
  split
  · rename_i own isMapping
    have shownOwn := Document.isShown_of_fields? shown isMapping
    exact Document.isShown_getD shownOwn "name" (Document.isShown_getD shownOwn "id" rfl)
  · rfl

/-- A document of which every part can be shown lacks nothing that validation has to show. -/
theorem Showable.of_shown (shown : (Document.mapping fields).isShown = true) : Showable fields := by
  refine ⟨⟨fun declared given entry member => ?_, fun tasks walked => ?_⟩, ?_⟩
  · have options := Document.isShown_of_fields? (Document.isShown_orIfVoid
      (Document.isShown_getD shown "option" rfl) rfl) given
    obtain ⟨shownId, shownEntry⟩ := Document.isShown_mapping.1 options entry member
    exact .of_shown shownId shownEntry
  · refine .of_shown (List.forall_mem_map.2 fun task member => taskNameOf_shown ?_)
    exact Document.isShown_elements (isShown_listed shown "task") walked task member
  · exact Schema.check_shown (fun _ none => by cases none) shown ProjectSchema.project

/-!
## Findings
-/

theorem validate_returns (fields : Table Document) (source : String) :
    ReturnsIf (validate (.mapping fields) source).outcome
      (Comparable fields ∧ Showable fields) := by
  rw [validate_outcome]
  refine ((Schema.issues_returns _ _).and fun _ _ => (checkStructure_returns fields).map _).congr ?_
  constructor
  · intro given
    exact ⟨given.2.1, given.2.2, given.1⟩
  · intro given
    exact ⟨given.2.issues, given.1, given.2.toStructureShowable⟩

/-- A document in which validation finds no error is as it should be. -/
theorem Conforms.of_accepted (accepted : Accepted (.mapping fields) source) : Conforms fields := by
  obtain ⟨fits, structural, checked, silent⟩ := accepted_iff.1 accepted
  refine ⟨fits, fun declared isDeclared entry member => ?_⟩
  obtain ⟨options, read, given, _, fitOption⟩ := options_of_meets fits
  rw [read] at isDeclared
  cases isDeclared
  obtain ⟨own, isMapping, _⟩ := meets_object (fitOption entry member)
  obtain ⟨found, checkedEntry, none⟩ := checkStructure_silent checked silent given entry member
  rw [isMapping] at checkedEntry
  obtain ⟨kind, isKind, admissible⟩ := checkOption_silent checkedEntry none
  exact ⟨own, kind, isMapping, isKind, admissible⟩

theorem validateProjectFile_outcome {tree : FileTree} {path : FilePath}
    (loaded : (loadProjectFields tree path).outcome = .ok fields) :
    (validateProjectFile tree path).outcome = (validate (.mapping fields) path.text).outcome := by
  rw [validateProjectFile, Report.outcome_bind, loaded, Except.ok_bind]

/-- Validation reports on a document exactly if all that the structural checks compare can be
compared and all that issues show can be shown, and then with an error unless the document is as it
should be. Otherwise it fails. No document of the right shape has parts that cannot be compared, and
no document of which every part can be shown lacks anything. The same holds for a project file that
can be loaded. -/
theorem validation_reports_iff (fields : Table Document) :
    (∀ source, ((∃ findings, (validate (.mapping fields) source).outcome = .ok findings) ↔
        Comparable fields ∧ Showable fields) ∧
      (∀ findings, (validate (.mapping fields) source).outcome = .ok findings →
        ¬ Conforms fields → findings.errors ≠ []) ∧
      (¬ (Comparable fields ∧ Showable fields) →
        ∃ failure, (validate (.mapping fields) source).outcome = .error failure ∧ failure.Unfit)) ∧
      (ProjectSchema.project.Meets (.mapping fields) → Comparable fields) ∧
      ((Document.mapping fields).isShown = true → Showable fields) ∧
      ∀ tree path, (loadProjectFields tree path).outcome = .ok fields →
        ((∃ findings, (validateProjectFile tree path).outcome = .ok findings) ↔
          Comparable fields ∧ Showable fields) := by
  refine ⟨fun source => ⟨(validate_returns fields source).returns_iff, ?_,
    (validate_returns fields source).fails⟩, .of_meets, .of_shown, ?_⟩
  · intro findings reported malformed silent
    refine malformed (.of_accepted ⟨findings, reported, ?_⟩)
    rw [Findings.valid, silent]
    rfl
  · intro tree path loaded
    rw [validateProjectFile_outcome loaded]
    exact (validate_returns fields path.text).returns_iff

/-- A list in place of the options, and a number in place of a task. -/
def listedOptions : Table Document :=
  [(.text "option", .list [.int 1]), (.text "task", .list [.int 5])]

theorem listedOptions_reported :
    ∃ findings, (validate (.mapping listedOptions) "project").outcome = .ok findings ∧
      findings.errors ≠ [] := by
  have comparable : Comparable listedOptions := by
    constructor
    · intro declared isMapping
      cases isMapping
    · refine ⟨_, rfl, fun task member => ?_⟩
      obtain rfl := List.mem_singleton.1 member
      rfl
  have malformed : ¬ Conforms listedOptions := by
    intro conforms
    obtain ⟨_, isMapping, _⟩ := options_of_meets conforms.shaped
    cases isMapping
  obtain ⟨each, _, showable, _⟩ := validation_reports_iff listedOptions
  obtain ⟨reports, rejects, _⟩ := each "project"
  obtain ⟨findings, reported⟩ := reports.2 ⟨comparable, showable (by decide +kernel)⟩
  exact ⟨findings, reported, rejects findings reported malformed⟩

/-- A task whose name is a list. -/
def listNamedTask : Table Document :=
  [(.text "task", .list [.object [("name", .list [])]])]

theorem listNamedTask_unreported :
    (validate (.mapping listNamedTask) "project").outcome = .error .wrongKind := by
  rfl

end PipelineOverride
