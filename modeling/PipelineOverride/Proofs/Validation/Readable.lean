import Mathlib
import PipelineOverride.Api.Service
import PipelineOverride.CommandLine.Run
import PipelineOverride.Proofs.Validation.Outcome

/-!
# Reading accepted documents

Validation constrains every field that the reader converts, with two exceptions: it says nothing of
the resources and the controllers of a task, which are read as lists, and it allows numbers for the
version and for the defaults of slots, which are read as texts. So an accepted document is read
exactly if the former can be walked over and the latter can be shown, and a malformed document is
not always rejected: it may be accepted and fail to be read, and validation itself fails where it
compares what cannot be compared or shows what cannot be shown.
-/

set_option autoImplicit false

namespace PipelineOverride

variable {document : Document} {source : String} {fields : Table Document}

/-- A field that is there can be walked over. -/
def Table.Walkable (fields : Table Document) (name : String) : Prop :=
  ∀ value, fields.get? name = some value → value.elements?.isSome = true

/-- The resources and the controllers of every task can be walked over. -/
def TaskListsWalkable (fields : Table Document) : Prop :=
  ∀ tasks, fields.getD "task" (.list []) = .list tasks → ∀ task ∈ tasks, ∀ own : Table Document,
    task = .mapping own → own.Walkable "resource" ∧ own.Walkable "controller"

/-- The defaults of the slots of an input option can be shown. -/
def Table.DefaultsShown (own : Table Document) : Prop :=
  own.namedKind? = some .input → ∀ slots, own.getD "inputs" (.list []) = .list slots →
    ∀ slot ∈ slots, ∀ given : Table Document, slot = .mapping given →
      (given.getD "default" noText).isShown = true

/-- The reader finds what it needs in the fields that validation does not constrain. -/
structure Convertible (fields : Table Document) : Prop where
  tasks : TaskListsWalkable fields
  version : (fields.getD "version" noText).isShown = true
  defaults : ∀ options, fields.getD "option" (.mapping []) = .mapping options →
    ∀ entry ∈ options, ∀ own : Table Document, entry.2 = .mapping own → own.DefaultsShown

/-- Whatever is wrong with a document, validation finds it: it can compare all that it looks at and
show all that it names, and it leaves nothing for the reader to stumble over. -/
structure Manageable (fields : Table Document) : Prop where
  comparable : Comparable fields
  showable : Showable fields
  convertible : ∀ source, Accepted (.mapping fields) source → Convertible fields

/-- A report fails only by rejecting a document with its issues. -/
def Report.OnlyRejects {α : Type} (report : Report α) : Prop :=
  ∀ failure, report.outcome = .error failure → ∃ source issues, failure = .invalid source issues

/-!
## Readers
-/

theorem Table.elements_getD_returns (name : String) :
    ReturnsIf (fields.getD name (.list [])).elements (fields.Walkable name) := by
  refine (Document.elements_returns _).congr ?_
  rw [Table.getD, Table.Walkable]
  cases fields.get? name with
  | none => simp [Document.elements?]
  | some value => simp

/-- Options that are listed where a shape asks for ids are read. -/
theorem elements_of_optionIds {shapes : List (String × Schema)}
    (fits : (Schema.fields shapes).Meets (.mapping fields))
    (ids : ("option", ProjectSchema.optionIds) ∈ shapes) :
    ∃ references, (fields.getD "option" (.list [])).elements = .ok references := by
  obtain ⟨items, isList, _⟩ := items_of_meets "option" ProjectSchema.string fits ids
  exact ⟨items, by rw [isList]; rfl⟩

theorem Case.ofDocument_succeeds (fits : ProjectSchema.case.Meets document) :
    ∃ branch, Case.ofDocument document = .ok branch := by
  obtain ⟨fields, name, rfl, found⟩ := named_of_meets fits (by simp)
  have fitsFields := fields_of_meets fits
  obtain ⟨references, walked⟩ := elements_of_optionIds fitsFields (by simp)
  simp only [Case.ofDocument, Document.fields?, pure_bind, declaredName_of_text found,
    Except.ok_bind, walked]
  exact ⟨_, rfl⟩

theorem declaredDefault_returns (fields : Table Document) :
    ReturnsIf (declaredDefault fields) ((fields.getD "default" noText).isShown = true) := by
  rw [declaredDefault]
  split
  · rename_i isNull
    refine .ok _ ?_
    generalize fields.getD "default" noText = given at isNull ⊢
    cases given with
    | scalar value =>
        cases value with
        | null => rfl
        | _ => cases isNull
    | _ => cases isNull
  · exact Document.shown_returns _

theorem Slot.ofDocument_returns (fits : ProjectSchema.slot.Meets (.mapping fields)) :
    ReturnsIf (Slot.ofDocument (.mapping fields))
      ((fields.getD "default" noText).isShown = true) := by
  obtain ⟨_, name, isMapping, found⟩ := named_of_meets fits (by simp)
  cases isMapping
  obtain ⟨typeName, type, isGiven, isType⟩ := slotType_of_meets fits
  have typed : declaredSlotType fields = .ok type := by
    simp only [declaredSlotType, isGiven, Document.shown_text, Except.ok_bind, isType]
    rfl
  simp only [Slot.ofDocument, Document.fields, Document.fields?, Except.ok_bind, typed,
    declaredName_of_text found]
  exact (declaredDefault_returns fields).map _

theorem OptionDefinition.ofDocument_returns (fits : ProjectSchema.option.Meets (.mapping fields)) :
    ReturnsIf (OptionDefinition.ofDocument (.mapping fields)) fields.DefaultsShown := by
  have fitsFields := fields_of_meets fits
  obtain ⟨kind, isKind, named⟩ := kind_of_meets fits
  obtain ⟨slots, isSlots, _, fitSlot⟩ :=
    items_of_meets "inputs" ProjectSchema.slot fitsFields (by simp)
  obtain ⟨cases, isCases, _, fitCase⟩ :=
    items_of_meets "cases" ProjectSchema.case fitsFields (by simp)
  have readSlots : ReturnsIf (slots.mapM Slot.ofDocument) (∀ slot ∈ slots,
      ∀ given : Table Document, slot = .mapping given →
        (given.getD "default" noText).isShown = true) := by
    refine ReturnsIf.mapM fun slot member => ?_
    obtain ⟨given, rfl, _⟩ := meets_object (fitSlot slot member)
    exact (Slot.ofDocument_returns (fitSlot _ member)).congr (by simp)
  obtain ⟨readCases, casesRead⟩ := ReturnsIf.mapM_succeeds fun branch member =>
    Case.ofDocument_succeeds (fitCase branch member)
  simp only [OptionDefinition.ofDocument, Document.fields, Document.fields?, Except.ok_bind,
    isKind, isSlots, isCases, Document.elements, Document.elements?, casesRead]
  cases kind with
  | input => exact (readSlots.map _).congr (by simp [Table.DefaultsShown, named, isSlots])
  | select => exact .ok _ (by simp [Table.DefaultsShown, named])
  | switch => exact .ok _ (by simp [Table.DefaultsShown, named])

theorem Task.ofDocument_returns (fits : ProjectSchema.task.Meets (.mapping fields)) :
    ReturnsIf (Task.ofDocument (.mapping fields))
      (fields.Walkable "resource" ∧ fields.Walkable "controller") := by
  obtain ⟨_, name, isMapping, named, nonempty⟩ := task_named_of_meets fits
  cases isMapping
  have fitsFields := fields_of_meets fits
  have given : fields.getD "name" (fields.getD "id" .null) = .text name :=
    Table.getD_getD named
  obtain ⟨references, walked⟩ := elements_of_optionIds fitsFields (by simp)
  have notVoid : (Document.text name).isVoid = false := by
    simpa [Document.isVoid] using nonempty
  simp only [Task.ofDocument, Document.fields, Document.fields?, Except.ok_bind, given, notVoid,
    Document.shown_text, walked, Bool.false_eq_true, ↓reduceIte]
  exact (Table.elements_getD_returns "resource").and fun _ _ =>
    (Table.elements_getD_returns "controller").map _

theorem Registry.ofFields_returns {declared : Table Document}
    (fits : ∀ entry ∈ declared, ProjectSchema.option.Meets entry.2) :
    ReturnsIf (Registry.ofFields declared) (∀ entry ∈ declared, ∀ own : Table Document,
      entry.2 = .mapping own → own.DefaultsShown) := by
  induction declared with
  | nil => exact .ok _ (by simp)
  | cons entry rest ih =>
      obtain ⟨id, document⟩ := entry
      obtain ⟨own, rfl, _⟩ := meets_object (fits _ (.head _))
      have first : ReturnsIf (OptionDefinition.ofDocument (.mapping own))
          (∀ given : Table Document, Document.mapping own = .mapping given →
            given.DefaultsShown) :=
        (OptionDefinition.ofDocument_returns (fits _ (.head _))).congr (by simp)
      rw [List.forall_mem_cons]
      exact first.and fun _ _ => (ih fun later member => fits later (.tail _ member)).map _

/-- A document of the right shape is read exactly if the reader finds what it needs. -/
theorem Project.ofDocument_returns (fits : ProjectSchema.project.Meets (.mapping fields)) :
    ReturnsIf (Project.ofDocument (.mapping fields)) (Convertible fields) := by
  have fitsFields := fields_of_meets fits
  obtain ⟨tasks, isList, _, fitTask⟩ :=
    items_of_meets "task" ProjectSchema.task fitsFields (by simp)
  obtain ⟨declared, isMapping, _, readRegistry, fitOption⟩ := options_of_meets fits
  have readTasks : ReturnsIf (tasks.mapM Task.ofDocument) (∀ task ∈ tasks,
      ∀ own : Table Document, task = .mapping own →
        own.Walkable "resource" ∧ own.Walkable "controller") := by
    refine ReturnsIf.mapM fun task member => ?_
    obtain ⟨own, rfl, _⟩ := meets_object (fitTask task member)
    exact (Task.ofDocument_returns (fitTask _ member)).congr (by simp)
  simp only [Project.ofDocument, Document.fields, Document.fields?, Except.ok_bind, isList,
    readRegistry, Document.elements, Document.elements?]
  refine (readTasks.and fun _ _ => (Registry.ofFields_returns fitOption).and fun _ _ =>
    (Document.shown_returns _).map _).congr ?_
  constructor
  · intro given
    obtain ⟨walkable, defaults, version⟩ := given
    refine ⟨fun others isOthers => ?_, version, fun others isOthers => ?_⟩
    · cases isList.symm.trans isOthers
      exact walkable
    · cases isMapping.symm.trans isOthers
      exact defaults
  · intro convertible
    exact ⟨convertible.tasks tasks isList, convertible.defaults declared isMapping,
      convertible.version⟩

/-!
## Loading
-/

/-- An accepted document is read exactly if the reader finds what it needs. -/
theorem Accepted.returns (accepted : Accepted (.mapping fields) source) :
    ReturnsIf (Project.ofDocument (.mapping fields)) (Convertible fields) :=
  Project.ofDocument_returns (accepted_iff.1 accepted).1

/-- The failure of an unfit value is no rejection. -/
theorem ReturnsIf.rejects_iff {α : Type} {outcome : Except Failure α} {condition : Prop}
    (returns : ReturnsIf outcome condition) :
    (∀ failure, outcome = .error failure → ∃ source issues, failure = .invalid source issues)
      ↔ condition := by
  constructor
  · intro rejects
    by_contra never
    obtain ⟨failure, fails, unfit⟩ := returns.fails never
    obtain ⟨_, _, rfl⟩ := rejects failure fails
    cases unfit
  · intro given failure fails
    obtain ⟨value, succeeds⟩ := returns.returns given
    cases succeeds.symm.trans fails

/-- Loading fails only by rejecting a document exactly if the document is manageable. -/
theorem Project.checked_onlyRejects_iff (fields : Table Document) (source : String) :
    (Project.checked (.mapping fields) source).OnlyRejects ↔ Manageable fields := by
  have validated := validate_returns fields source
  rw [Report.OnlyRejects, Project.checked_outcome]
  by_cases reports : Comparable fields ∧ Showable fields
  · obtain ⟨findings, found⟩ := validated.returns reports
    rw [found, Except.ok_bind]
    by_cases valid : findings.valid = true
    · have accepted : Accepted (.mapping fields) source := ⟨findings, found, valid⟩
      rw [if_pos valid, accepted.returns.rejects_iff]
      exact ⟨fun convertible => ⟨reports.1, reports.2, fun _ _ => convertible⟩,
        fun manageable => manageable.convertible source accepted⟩
    · rw [if_neg valid]
      refine ⟨fun _ => ⟨reports.1, reports.2, fun other accepted => ?_⟩, fun _ failure fails => ?_⟩
      · have here : Accepted (.mapping fields) source := accepted_iff.2 (accepted_iff.1 accepted)
        obtain ⟨_, foundToo, validToo⟩ := here
        cases found.symm.trans foundToo
        exact absurd validToo valid
      · cases fails
        exact ⟨source, findings.errors, rfl⟩
  · obtain ⟨failure, fails, unfit⟩ := validated.fails reports
    rw [fails, Except.error_bind]
    refine ⟨fun rejects => ?_,
      fun manageable => absurd ⟨manageable.comparable, manageable.showable⟩ reports⟩
    obtain ⟨_, _, rfl⟩ := rejects failure rfl
    cases unfit

/-- What goes on without failing fails only by rejecting if what it goes on from does. -/
theorem Report.onlyRejects_congr {α β : Type} {report : Report α} {longer : Report β}
    {next : α → β} (goesOn : longer.outcome = report.outcome >>= fun value => .ok (next value)) :
    longer.OnlyRejects ↔ report.OnlyRejects := by
  rw [Report.OnlyRejects, Report.OnlyRejects, goesOn]
  cases report.outcome with
  | error failure => simp
  | ok value => simp

theorem Api.requestProject_answers_iff (fields : Table Document) :
    (∃ answer, (Api.requestProject (some fields)).outcome = .ok answer)
      ↔ (Project.checked (.mapping fields) "request project").OnlyRejects := by
  rw [Report.OnlyRejects, Api.requestProject]
  cases Report.outcome (Project.checked (.mapping fields) "request project") with
  | ok project => simp
  | error failure => cases failure <;> simp

theorem readGivenProject_onlyRejects_iff {tree : FileTree} {path : String}
    (loaded : (loadProjectFields tree (.ofText path)).outcome = .ok fields) :
    (readGivenProject tree (some path)).OnlyRejects
      ↔ (Project.checked (.mapping fields) (FilePath.ofText path).text).OnlyRejects := by
  have goesOn : (readGivenProject tree (some path)).outcome
      = (Project.checked (.mapping fields) (FilePath.ofText path).text).outcome >>= fun project =>
        .ok (some project) := by
    change (loadProject tree _ >>= fun project => pure (some project)).outcome = _
    simp only [loadProject, Report.outcome_bind, loaded, Except.ok_bind, Report.outcome_note,
      Report.outcome_pure]
    cases (Project.checked (.mapping fields) (FilePath.ofText path).text).outcome <;> rfl
  exact Report.onlyRejects_congr goesOn

/-- An accepted document is read exactly if the lists of its tasks can be walked over and its
version and the defaults of its slots can be shown. Loading a project, making a catalog, the service
and the commands fail only by rejecting a document exactly if the document is manageable. -/
theorem loading_only_rejects_iff (fields : Table Document) :
    (∀ source, Accepted (.mapping fields) source →
      ((∃ project, Project.ofDocument (.mapping fields) = .ok project) ↔ Convertible fields))
    ∧ (∀ source, (Project.checked (.mapping fields) source).OnlyRejects ↔ Manageable fields)
    ∧ (∀ source, (Catalog.ofDocument (.mapping fields) source).OnlyRejects ↔ Manageable fields)
    ∧ ((∃ answer, (Api.requestProject (some fields)).outcome = .ok answer) ↔ Manageable fields)
    ∧ ∀ tree path, (loadProjectFields tree (.ofText path)).outcome = .ok fields →
      ((readGivenProject tree (some path)).OnlyRejects ↔ Manageable fields) := by
  refine ⟨fun source accepted => accepted.returns.returns_iff,
    Project.checked_onlyRejects_iff fields, fun source => ?_, ?_, fun tree path loaded => ?_⟩
  · rw [← Project.checked_onlyRejects_iff fields source]
    exact Report.onlyRejects_congr (Report.outcome_bind _ _)
  · rw [Api.requestProject_answers_iff, Project.checked_onlyRejects_iff]
  · rw [readGivenProject_onlyRejects_iff loaded, Project.checked_onlyRejects_iff]

/-- A task that lists its resources. -/
def listedResources : Table Document :=
  [(.text "task", .list [.object [("name", .text "T"), ("resource", .texts ["r"])]])]

/-- A file that holds an empty mapping. -/
def emptyMappingFile : FileTree where
  home := []
  files := [(["p"], [0x7b, 0x7d])]

theorem listedResources_read :
    (∃ project, Project.ofDocument (.mapping listedResources) = .ok project)
      ∧ (readGivenProject emptyMappingFile (some "p")).OnlyRejects := by
  have accepted : Accepted (.mapping listedResources) "p" :=
    accepted_iff.2 ⟨by rfl, _, by rfl, by rfl⟩
  have convertible : Convertible listedResources := by
    refine ⟨fun tasks isList task member own isMapping => ?_, rfl, fun options isMapping => ?_⟩
    · cases isList
      cases List.mem_singleton.1 member
      cases isMapping
      constructor
      · intro value found
        cases found
        rfl
      · intro value found
        cases found
    · cases isMapping
      exact fun _ member => (List.not_mem_nil member).elim
  have loaded : (loadProjectFields emptyMappingFile (.ofText "p")).outcome = .ok [] := by
    cbv
  have manageable : Manageable [] := by
    have reports := (validate_returns [] "p").returns_iff.1 ⟨_, by rfl⟩
    refine ⟨reports.1, reports.2, fun _ _ => ⟨fun tasks isList => ?_, rfl, fun options given => ?_⟩⟩
    · cases isList
      exact fun _ member => (List.not_mem_nil member).elim
    · cases given
      exact fun _ member => (List.not_mem_nil member).elim
  exact ⟨((loading_only_rejects_iff listedResources).1 "p" accepted).2 convertible,
    ((loading_only_rejects_iff []).2.2.2.2 _ _ loaded).2 manageable⟩

/-- A task whose resources are a number. -/
def countedResources : Table Document :=
  [(.text "task", .list [.object [("name", .text "T"), ("resource", .int 5)]])]

theorem countedResources_accepted_unread :
    Accepted (.mapping countedResources) "project"
      ∧ Project.ofDocument (.mapping countedResources) = .error .wrongKind
      ∧ (Project.checked (.mapping countedResources) "project").outcome = .error .wrongKind := by
  have accepted : Accepted (.mapping countedResources) "project" :=
    accepted_iff.2 ⟨by rfl, _, by rfl, by rfl⟩
  have unread : Project.ofDocument (.mapping countedResources) = .error .wrongKind := by rfl
  obtain ⟨findings, validated, valid⟩ := accepted
  refine ⟨⟨findings, validated, valid⟩, unread, ?_⟩
  rw [Project.checked_outcome, validated, Except.ok_bind, if_pos valid, unread]

end PipelineOverride
