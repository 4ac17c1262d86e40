import PipelineOverride.Project.Reference
import PipelineOverride.Proofs.Validation.Accepted
import PipelineOverride.Proofs.Validation.Structure

/-!
# What accepted projects hold

The shape of a document, its structural checks and the reader look at the same fields, each with
defaults of its own. On an accepted document they see the same thing, so the project that is read
has the tasks and options that the document declares, in order, and all that the checks demand of a
declaration holds of what is read from it.
-/

set_option autoImplicit false

namespace PipelineOverride

variable {document : Document} {source : String} {fields : Table Document}
  {shapes : List (String × Schema)} {shape : Schema}

/-- The kind that the tag of a declaration names. A missing tag means a select option. -/
def Table.namedKind? (fields : Table Document) : Option OptionKind :=
  match fields.get? "type" with
  | none => some .select
  | some tag => tag.text?.bind OptionKind.ofName?

/-- A task is read from a declaration, by whose name or else id it is called, and refers to options
by texts. -/
structure Task.DeclaredBy (declaration : Document) (task : Task) : Prop where
  read : Task.ofDocument declaration = .ok task
  named : ∃ fields : Table Document, declaration = .mapping fields
    ∧ (fields.get? "name").or (fields.get? "id") = some (.text task.name)
  nonempty : task.name ≠ ""
  references : ∀ reference ∈ task.options, ∃ id, reference = .text id

/-- An option is read from a declaration as the kind that the declaration names. It has as many
cases as its kind needs, names no case and no slot twice, and refers to options by texts. -/
structure OptionDefinition.DeclaredBy (declaration : Document) (definition : OptionDefinition) :
    Prop where
  read : OptionDefinition.ofDocument declaration = .ok definition
  kind : ∃ fields : Table Document, declaration = .mapping fields
    ∧ fields.namedKind? = some definition.kind
  twoCases : ∀ choice, definition = .switch choice → choice.cases.length = 2
  someCase : ∀ choice, definition = .select choice → choice.cases ≠ []
  caseNames : (definition.cases.map Case.name).Nodup
  slotNames : ∀ form, definition = .input form → (form.slots.map Slot.name).Nodup
  references : ∀ reference ∈ definition.references, ∃ id, reference = .text id

/-!
## Named declarations
-/

theorem meets_name (fits : ProjectSchema.name.Meets document) :
    ∃ name, document = .text name ∧ name ≠ "" := by
  rw [ProjectSchema.name, Schema.meets_all] at fits
  obtain ⟨name, rfl⟩ := meets_string (fits _ (.head _))
  refine ⟨name, rfl, fun empty => ?_⟩
  exact Schema.meets_nonEmpty.1 (fits _ (.tail _ (.head _))) (congrArg Document.text empty)

/-- What has to have a name is a mapping with a text for a name. -/
theorem named_of_meets
    (fits : (Schema.all [.kinds [.object], .fields shapes, .required ["name"]]).Meets document)
    (named : ("name", ProjectSchema.name) ∈ shapes) :
    ∃ (fields : Table Document) (name : String), document = .mapping fields
      ∧ fields.get? "name" = some (.text name) := by
  obtain ⟨fields, rfl, fitsFields⟩ := meets_object fits
  rw [Schema.meets_all] at fits
  have required := fits _ (.tail _ (.tail _ (.head _)))
  obtain ⟨value, found⟩ := Schema.meets_required.1 required "name" (.head _)
  obtain ⟨name, rfl, _⟩ := meets_name (Schema.meets_fields.1 fitsFields _ named value found)
  exact ⟨fields, name, rfl, found⟩

theorem task_named_of_meets (fits : ProjectSchema.task.Meets document) :
    ∃ (fields : Table Document) (name : String), document = .mapping fields
      ∧ (fields.get? "name").or (fields.get? "id") = some (.text name) ∧ name ≠ "" := by
  obtain ⟨fields, rfl, fitsFields⟩ := meets_object fits
  rw [ProjectSchema.task, Schema.meets_all] at fits
  obtain ⟨given, member, value, foundGiven⟩ :=
    Schema.meets_requiredAny.1 (fits _ (.tail _ (.tail _ (.head _))))
  cases found : fields.get? "name" with
  | some value =>
      obtain ⟨name, rfl, nonempty⟩ := meets_name (Schema.meets_fields.1 fitsFields
        ("name", ProjectSchema.name) (by simp) value found)
      exact ⟨fields, name, rfl, by rw [found]; rfl, nonempty⟩
  | none =>
      simp only [List.mem_cons, List.not_mem_nil, or_false] at member
      rcases member with rfl | rfl
      · cases found.symm.trans foundGiven
      · obtain ⟨name, rfl, nonempty⟩ := meets_name (Schema.meets_fields.1 fitsFields
          ("id", ProjectSchema.name) (by simp) value foundGiven)
        exact ⟨fields, name, rfl, by rw [found, foundGiven]; rfl, nonempty⟩

theorem kind_of_meets (fits : ProjectSchema.option.Meets (.mapping fields)) :
    ∃ kind, OptionKind.ofTag (fields.getD "type" .null) = .ok (some kind)
      ∧ fields.namedKind? = some kind := by
  have fitsFields := fields_of_meets fits
  rw [Table.getD, Table.namedKind?]
  cases found : fields.get? "type" with
  | none => exact ⟨.select, rfl, rfl⟩
  | some tag =>
      have allowed : (Schema.oneOf
          ["select", "choice", "switch", "boolean", "input", "freetext"]).Meets tag :=
        Schema.meets_fields.1 fitsFields ("type", _) (by simp) tag found
      obtain ⟨text, member, rfl⟩ := Schema.meets_oneOf.1 allowed
      have isTag : OptionKind.ofTag (.text text) = .ok (OptionKind.ofTag? (.text text)) := rfl
      rw [Option.getD_some, isTag]
      simp only [List.mem_cons, List.not_mem_nil, or_false] at member
      rcases member with rfl | rfl | rfl | rfl | rfl | rfl <;>
        exact ⟨_, congrArg Except.ok (by decide), rfl⟩

theorem slotType_of_meets (fits : ProjectSchema.slot.Meets (.mapping fields)) :
    ∃ name type, fields.getD "pipeline_type" (.text "string") = .text name
      ∧ SlotType.ofName? (Text.lower name) = some type := by
  have fitsFields := fields_of_meets fits
  rw [Table.getD]
  cases found : fields.get? "pipeline_type" with
  | none => exact ⟨"string", .string, rfl, by decide⟩
  | some given =>
      have allowed : (Schema.oneOf
          ["string", "text", "int", "integer", "bool", "boolean"]).Meets given :=
        Schema.meets_fields.1 fitsFields ("pipeline_type", _) (by simp) given found
      obtain ⟨text, member, rfl⟩ := Schema.meets_oneOf.1 allowed
      have hasType : (SlotType.ofName? (Text.lower text)).isSome = true := by
        simp only [List.mem_cons, List.not_mem_nil, or_false] at member
        rcases member with rfl | rfl | rfl | rfl | rfl | rfl <;> decide
      obtain ⟨type, isType⟩ := Option.isSome_iff_exists.1 hasType
      exact ⟨text, type, rfl, isType⟩

/-!
## Names
-/

theorem apart_texts_iff {names : List String} :
    Apart (names.map Document.text) ↔ names.Nodup := by
  rw [Apart, List.pairwise_map, List.Nodup]
  refine List.Pairwise.iff fun {earlier later} => ?_
  constructor
  · intro apart same
    exact apart _ _ rfl rfl (Scalar.same_text.2 same)
  · intro differ a b isA isB
    cases isA
    cases isB
    exact mt Scalar.same_text.1 differ

/-- Where reading keeps names that are texts, the names that are read are those that are given. -/
theorem givenNames_eq_map {α : Type} {read : Document → Except Failure α} {name : α → String}
    {items : List Document} {results : List α}
    (keeps : ∀ item ∈ items, ∀ result, read item = .ok result → ∃ fields : Table Document,
      item = .mapping fields ∧ fields.get? "name" = some (.text (name result)))
    (reads : List.Forall₂ (fun item result => read item = .ok result) items results) :
    givenNames items = (results.map name).map Document.text := by
  induction reads with
  | nil => rfl
  | cons readFirst _ ih =>
      obtain ⟨fields, rfl, found⟩ := keeps _ (.head _) _ readFirst
      have others := ih fun item member => keeps item (.tail _ member)
      simp only [givenNames, Document.fields?, Option.map_some, List.filterMap_cons,
        List.map_cons, Table.getD, found, Option.getD_some] at others ⊢
      rw [others]

theorem declaredName_of_text {name : String} (found : fields.get? "name" = some (.text name)) :
    declaredName fields = .ok name := by
  rw [declaredName, found]
  rfl

theorem Case.name_of_ofDocument {branch : Case} (fits : ProjectSchema.case.Meets document)
    (read : Case.ofDocument document = .ok branch) : ∃ fields : Table Document,
      document = .mapping fields ∧ fields.get? "name" = some (.text branch.name) := by
  obtain ⟨fields, name, rfl, found⟩ := named_of_meets fits (by simp)
  simp only [Case.ofDocument, Document.fields?, pure_bind, declaredName_of_text found,
    Except.ok_bind, Except.bind_eq_ok_iff] at read
  obtain ⟨_, _, ends⟩ := read
  cases ends
  exact ⟨fields, rfl, found⟩

theorem Slot.name_of_ofDocument {slot : Slot} (fits : ProjectSchema.slot.Meets document)
    (read : Slot.ofDocument document = .ok slot) : ∃ fields : Table Document,
      document = .mapping fields ∧ fields.get? "name" = some (.text slot.name) := by
  obtain ⟨fields, name, rfl, found⟩ := named_of_meets fits (by simp)
  simp only [Slot.ofDocument, Document.fields, Document.fields?, declaredName_of_text found,
    Except.ok_bind, Except.bind_eq_ok_iff] at read
  obtain ⟨_, _, _, _, ends⟩ := read
  cases ends
  exact ⟨fields, rfl, found⟩

/-!
## Declarations
-/

/-- A field, or another one in its place, is read with the value that one of them has. -/
theorem Table.getD_getD {name instead : String} {value default : Document}
    (found : (fields.get? name).or (fields.get? instead) = some value) :
    fields.getD name (fields.getD instead default) = value := by
  rw [Table.getD, Table.getD]
  cases given : fields.get? name <;> simp_all

theorem Task.declaredBy {task : Task} (fits : ProjectSchema.task.Meets document)
    (read : Task.ofDocument document = .ok task) : task.DeclaredBy document := by
  obtain ⟨fields, name, rfl, named, nonempty⟩ := task_named_of_meets fits
  have isName : task.name = name := by
    have given : fields.getD "name" (fields.getD "id" .null) = .text name :=
      Table.getD_getD named
    simp only [Task.ofDocument, Document.fields, Document.fields?, Except.ok_bind, given,
      Document.shown_text] at read
    split at read
    · cases read
    · simp only [Except.bind_eq_ok_iff] at read
      obtain ⟨_, _, _, _, _, _, ends⟩ := read
      cases ends
      rfl
  exact ⟨read, ⟨fields, rfl, isName ▸ named⟩, isName ▸ nonempty,
    (Task.wellShaped_of_meets fits read).ids⟩

theorem OptionDefinition.ofDocument_form {definition : OptionDefinition}
    (isKind : OptionKind.ofTag (fields.getD "type" .null) = .ok (some .input))
    (read : OptionDefinition.ofDocument (.mapping fields) = .ok definition) :
    ∃ form items, (fields.getD "inputs" (.list [])).elements = .ok items
      ∧ List.Forall₂ (fun item slot => Slot.ofDocument item = .ok slot) items form.slots
      ∧ definition = .input form := by
  simp only [OptionDefinition.ofDocument, Document.fields, Document.fields?, Except.ok_bind,
    isKind, Except.bind_eq_ok_iff] at read
  obtain ⟨items, walked, slots, reads, ends⟩ := read
  cases ends
  exact ⟨_, items, walked, Except.mapM_eq_ok_iff.1 reads, rfl⟩

theorem OptionDefinition.ofDocument_choice {definition : OptionDefinition} {kind : OptionKind}
    (isKind : OptionKind.ofTag (fields.getD "type" .null) = .ok (some kind))
    (hasCases : kind ≠ .input)
    (read : OptionDefinition.ofDocument (.mapping fields) = .ok definition) :
    ∃ choice items, (fields.getD "cases" (.list [])).elements = .ok items
      ∧ List.Forall₂ (fun item branch => Case.ofDocument item = .ok branch) items choice.cases
      ∧ definition = if kind = .switch then .switch choice else .select choice := by
  simp only [OptionDefinition.ofDocument, Document.fields, Document.fields?, Except.ok_bind,
    isKind, Except.bind_eq_ok_iff] at read
  obtain ⟨items, walked, cases, reads, ends⟩ := read
  cases ends
  exact ⟨_, items, walked, Except.mapM_eq_ok_iff.1 reads, rfl⟩

theorem form_slotNames {form : Form} (fits : ProjectSchema.option.Meets (.mapping fields))
    (admissible : fields.Admissible .input)
    {items : List Document} (walked : (fields.getD "inputs" (.list [])).elements = .ok items)
    (reads : List.Forall₂ (fun item slot => Slot.ofDocument item = .ok slot) items form.slots) :
    (form.slots.map Slot.name).Nodup := by
  have fitsFields := fields_of_meets fits
  obtain ⟨declared, isList, isListToo, each⟩ :=
    items_of_meets "inputs" ProjectSchema.slot fitsFields (by simp)
  rw [isList] at walked
  cases walked
  obtain ⟨slots, walkedToo, apart⟩ := admissible
  rw [isListToo] at walkedToo
  cases walkedToo
  rw [givenNames_eq_map (fun item member _ => Slot.name_of_ofDocument (each item member)) reads]
    at apart
  exact apart_texts_iff.1 apart

theorem choice_cases {choice : Choice} {kind : OptionKind}
    (fits : ProjectSchema.option.Meets (.mapping fields)) (hasCases : kind ≠ .input)
    (admissible : fields.Admissible kind)
    {items : List Document} (walked : (fields.getD "cases" (.list [])).elements = .ok items)
    (reads : List.Forall₂ (fun item branch => Case.ofDocument item = .ok branch) items
      choice.cases) :
    (if kind = .switch then choice.cases.length = 2 else choice.cases ≠ [])
      ∧ (choice.cases.map Case.name).Nodup := by
  have fitsFields := fields_of_meets fits
  obtain ⟨declared, isList, isListToo, each⟩ :=
    items_of_meets "cases" ProjectSchema.case fitsFields (by simp)
  rw [isList] at walked
  cases walked
  rw [Table.Admissible, if_neg hasCases] at admissible
  obtain ⟨cases, walkedToo, enough, apart⟩ := admissible
  rw [isListToo] at walkedToo
  cases walkedToo
  rw [givenNames_eq_map (fun item member _ => Case.name_of_ofDocument (each item member)) reads]
    at apart
  refine ⟨?_, apart_texts_iff.1 apart⟩
  have sameLength := reads.length_eq
  simpa only [ne_eq, ← List.length_eq_zero_iff, ← sameLength] using enough

theorem OptionDefinition.WellShaped.texts {definition : OptionDefinition}
    (shaped : definition.WellShaped) :
    ∀ reference ∈ definition.references, ∃ id, reference = .text id := by
  intro reference member
  obtain ⟨branch, branchMember, member⟩ := List.mem_flatMap.1 member
  exact (shaped.branch branchMember).ids reference member

/-- An option that is read from a declaration of the right shape and without structural errors is
what the declaration says. -/
theorem OptionDefinition.declaredBy {id : Scalar} {definition : OptionDefinition} {own : Findings}
    (fits : ProjectSchema.option.Meets document) (checked : checkOption id document = .ok own)
    (silent : own.errors = []) (read : OptionDefinition.ofDocument document = .ok definition) :
    definition.DeclaredBy document := by
  have references := (OptionDefinition.wellShaped_of_meets fits read).texts
  obtain ⟨fields, rfl, _⟩ := meets_object fits
  obtain ⟨kind, isKind, admissible⟩ := checkOption_silent checked silent
  obtain ⟨_, isTag, named⟩ := kind_of_meets fits
  cases isKind.symm.trans (OptionKind.ofTag_eq_ok isTag)
  by_cases isInput : kind = .input
  · subst isInput
    obtain ⟨form, items, walked, reads, rfl⟩ := ofDocument_form isTag read
    have distinct := form_slotNames fits admissible walked reads
    refine ⟨read, ⟨fields, rfl, named⟩, ?_, ?_, .nil, ?_, references⟩
    · intro choice isSwitch
      cases isSwitch
    · intro choice isSelect
      cases isSelect
    · intro other isForm
      cases isForm
      exact distinct
  · obtain ⟨choice, items, walked, reads, rfl⟩ := ofDocument_choice isTag isInput read
    obtain ⟨enough, distinct⟩ := choice_cases fits isInput admissible walked reads
    by_cases isSwitch : kind = .switch
    · subst isSwitch
      refine ⟨read, ⟨fields, rfl, named⟩, ?_, ?_, distinct, ?_, references⟩
      · intro other isChoice
        cases isChoice
        exact enough
      · intro other isSelect
        cases isSelect
      · intro form isForm
        cases isForm
    · have isSelect : kind = .select := by
        cases kind <;> simp_all
      subst isSelect
      refine ⟨read, ⟨fields, rfl, named⟩, ?_, ?_, distinct, ?_, references⟩
      · intro other isSwitch
        cases isSwitch
      · intro other isChoice
        cases isChoice
        exact enough
      · intro form isForm
        cases isForm

/-!
## Projects
-/

theorem Registry.ofFields_forall₂ {declared : Table Document} {registry : Registry}
    (read : Registry.ofFields declared = .ok registry) :
    List.Forall₂ (fun declaration entry => entry.1 = declaration.1
      ∧ OptionDefinition.ofDocument declaration.2 = .ok entry.2) declared registry := by
  induction declared generalizing registry with
  | nil =>
      cases read
      exact .nil
  | cons field rest ih =>
      simp only [Registry.ofFields, Except.bind_eq_ok_iff] at read
      obtain ⟨definition, readFirst, others, readOthers, ends⟩ := read
      cases ends
      exact .cons ⟨rfl, readFirst⟩ (ih readOthers)

/-- Only mappings are accepted. -/
theorem Project.checked_mapping {project : Project}
    (accepted : (Project.checked document source).outcome = .ok project) :
    ∃ fields : Table Document, document = .mapping fields := by
  obtain ⟨accepted, _⟩ := Project.checked_eq_ok_iff.1 accepted
  obtain ⟨fits, _⟩ := accepted_iff.1 accepted
  obtain ⟨fields, isMapping, _⟩ := meets_object fits
  exact ⟨fields, isMapping⟩

/-- An accepted project has a task for each item of the task list, which is what the item says. -/
theorem Project.checked_tasks {project : Project}
    (accepted : (Project.checked (.mapping fields) source).outcome = .ok project) :
    ∃ tasks, fields.getD "task" (.list []) = .list tasks
      ∧ List.Forall₂ Task.DeclaredBy tasks project.tasks := by
  obtain ⟨accepted, read⟩ := Project.checked_eq_ok_iff.1 accepted
  obtain ⟨fits, _⟩ := accepted_iff.1 accepted
  obtain ⟨items, isList, _, fitTask⟩ :=
    items_of_meets "task" ProjectSchema.task (fields_of_meets fits) (by simp)
  simp only [Project.ofDocument, Document.fields, Document.fields?, Except.ok_bind, isList,
    Document.elements, Document.elements?, Except.bind_eq_ok_iff] at read
  obtain ⟨tasks, readTasks, _, _, _, _, ends⟩ := read
  cases ends
  refine ⟨items, isList, ((List.forall₂_and_left _ _).2
    ⟨fitTask, Except.mapM_eq_ok_iff.1 readTasks⟩).imp fun declaration task given => ?_⟩
  exact Task.declaredBy given.1 given.2

/-- An accepted project has an option for each declared id, which is what the declaration says. -/
theorem Project.checked_options {project : Project}
    (accepted : (Project.checked (.mapping fields) source).outcome = .ok project) :
    ∃ options, fields.getD "option" (.mapping []) = .mapping options
      ∧ List.Forall₂ (fun declaration entry => entry.1 = declaration.1
          ∧ entry.2.DeclaredBy declaration.2) options project.options := by
  obtain ⟨accepted, read⟩ := Project.checked_eq_ok_iff.1 accepted
  obtain ⟨fits, structural, checked, silent⟩ := accepted_iff.1 accepted
  obtain ⟨declared, isMapping, isMappingToo, readRegistry, fitOption⟩ := options_of_meets fits
  have sound := checkStructure_silent checked silent isMappingToo
  simp only [Project.ofDocument, Document.fields, Document.fields?, Except.ok_bind,
    readRegistry, Except.bind_eq_ok_iff] at read
  obtain ⟨_, _, _, _, options, readOptions, _, _, ends⟩ := read
  cases ends
  have each : ∀ entry ∈ declared, ProjectSchema.option.Meets entry.2
      ∧ ∃ own, checkOption entry.1 entry.2 = .ok own ∧ own.errors = [] :=
    fun entry member => ⟨fitOption entry member, sound entry member⟩
  refine ⟨declared, isMapping, ((List.forall₂_and_left _ _).2
    ⟨each, Registry.ofFields_forall₂ readOptions⟩).imp fun declaration entry given => ?_⟩
  obtain ⟨⟨fitsEntry, own, checkedEntry, silentEntry⟩, sameId, readEntry⟩ := given
  exact ⟨sameId, OptionDefinition.declaredBy fitsEntry checkedEntry silentEntry readEntry⟩

/-- The project of an accepted document has a task for each item of the task list and an option for
each declared id, in order, and each is what its declaration says. -/
theorem checked_project_declared {document : Document} {source : String} {project : Project}
    (accepted : (Project.checked document source).outcome = .ok project) :
    ∃ fields : Table Document, document = .mapping fields
      ∧ (∃ tasks, fields.getD "task" (.list []) = .list tasks
        ∧ List.Forall₂ Task.DeclaredBy tasks project.tasks)
      ∧ ∃ options, fields.getD "option" (.mapping []) = .mapping options
        ∧ List.Forall₂ (fun declaration entry => entry.1 = declaration.1
            ∧ entry.2.DeclaredBy declaration.2) options project.options := by
  obtain ⟨fields, rfl⟩ := Project.checked_mapping accepted
  exact ⟨fields, rfl, Project.checked_tasks accepted, Project.checked_options accepted⟩

/-- A document with two tasks, one of them called by its id, and with an option of each kind. -/
def threeKinds : Document := .object [
  ("task", .list [
    .object [("id", .text "T"), ("option", .texts ["A", "B"])],
    .object [("name", .text "U"), ("id", .text "V")]]),
  ("option", .object [
    ("A", .object [("cases", .list [
      .object [("name", .text "x"), ("option", .texts ["B"])], .object [("name", .text "y")]])]),
    ("B", .object [("type", .text "boolean"),
      ("cases", .list [.object [("name", .text "Yes")], .object [("name", .text "No")]])]),
    ("C", .object [("type", .text "freetext"),
      ("inputs", .list [.object [("name", .text "s")], .object [("name", .text "t")]])])])]

theorem threeKinds_declared :
    ∃ project, (Project.checked threeKinds "project").outcome = .ok project
      ∧ ∃ fields : Table Document, threeKinds = .mapping fields
        ∧ (∃ tasks, fields.getD "task" (.list []) = .list tasks
          ∧ List.Forall₂ Task.DeclaredBy tasks project.tasks)
        ∧ ∃ options, fields.getD "option" (.mapping []) = .mapping options
          ∧ List.Forall₂ (fun declaration entry => entry.1 = declaration.1
              ∧ entry.2.DeclaredBy declaration.2) options project.options := by
  have accepted : ∃ project, (Project.checked threeKinds "project").outcome = .ok project :=
    ⟨_, Project.checked_eq_ok_iff.2 ⟨accepted_iff.2 ⟨by rfl, _, by rfl, by rfl⟩, by rfl⟩⟩
  obtain ⟨project, accepted⟩ := accepted
  exact ⟨project, accepted, checked_project_declared accepted⟩

end PipelineOverride
