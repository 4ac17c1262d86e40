import PipelineOverride.Api.Service
import PipelineOverride.Proofs.Catalog.Scope
import PipelineOverride.Proofs.Session.Stability
import PipelineOverride.Proofs.Validation.TimePattern

/-!
# Checked and compiled slots

The service checks an entered value by the slot that it finds in the options of built-in tasks, the
catalog first and then the project of the request. Tasks of the project are compiled with the
options of the project alone. So a value is checked by the slot that a task of the project fills in
wherever the catalog has no option of the same id.
-/

set_option autoImplicit false

namespace PipelineOverride

variable {compiler : Compiler} {selected : SelectedTask} {context : TaskContext} {id : Scalar}
  {slots : List Slot} {form : Form}

/-!
## Slots that are filled in
-/

/-- Compiling a selected task fills in the slots of an option. -/
def Compiler.Fills (compiler : Compiler) (selected : SelectedTask) (id : Scalar)
    (slots : List Slot) : Prop :=
  ∃ body values, Fragment.template id body slots values ∈ compiler.visited selected

/-- Only forms are filled in, those of the options that a task is resolved against. -/
theorem Compiler.Fills.exists_form (fills : compiler.Fills selected id slots)
    (found : compiler.context? selected.taskName = some context) :
    ∃ form, context.registry.lookup id = some (.input form) ∧ slots = form.slots := by
  obtain ⟨body, values, member⟩ := fills
  rw [visited_of_context found] at member
  obtain ⟨site, defined, isOwn⟩ := exists_site_of_mem_walk [] context.task.options member
  rw [Site.fragment?] at isOwn
  split at isOwn
  · rename_i form entered isForm _
    obtain ⟨_, _, same⟩ := Option.map_eq_some_iff.1 isOwn
    cases same
    exact ⟨form, isForm ▸ defined, rfl⟩
  · obtain ⟨_, _, isStatic⟩ := Option.bind_eq_some_iff.1 isOwn
    obtain ⟨_, _, never⟩ := Option.map_eq_some_iff.1 isStatic
    cases never

/-- Nothing is filled in for a task that is missing. -/
theorem Compiler.Fills.exists_context (fills : compiler.Fills selected id slots) :
    ∃ context, compiler.context? selected.taskName = some context := by
  obtain ⟨body, values, member⟩ := fills
  rw [visited] at member
  split at member
  · rename_i context found
    exact ⟨context, found⟩
  · cases member

/-- An option to which a task refers itself contributes to the walk. -/
theorem fragment_mem_walk {registry : Registry} {selections : SelectionStore} {site : Site}
    {reference : Document} {references : List Document} {fragment : Fragment}
    (listed : reference ∈ references) (arrived : arrive? registry [] reference = some site)
    (isOwn : site.fragment? selections = some fragment) :
    fragment ∈ (walk registry selections [] references).filterMap Event.fragment? := by
  induction references with
  | nil => cases listed
  | cons first rest ih =>
      rw [walk_cons, List.filterMap_append, List.mem_append]
      rcases List.mem_cons.1 listed with rfl | later
      · refine .inl ?_
        simp only [arrived, List.filterMap_append, (visit_spec selections site).1, isOwn]
        exact List.mem_append_left _ (.head _)
      · exact .inr (ih later)

/-- A task fills in the form of an option to which it refers, unless a value of another kind is
stored for it. -/
theorem Compiler.fills_listed (found : compiler.context? selected.taskName = some context)
    (listed : .scalar id ∈ context.task.options)
    (defined : context.registry.lookup id = some (.input form)) (given : form.override.isSome)
    (fits : (effectiveValue selected.values id (.input form)).kind = .input) :
    compiler.Fills selected id form.slots := by
  obtain ⟨body, isBody⟩ := Option.isSome_iff_exists.1 given
  obtain ⟨values, entered⟩ := OptionValue.eq_input_of_kind fits
  have arrived : arrive? context.registry [] (.scalar id) = some ⟨id, .input form⟩ :=
    arrive?_eq_some_iff.2 ⟨rfl, defined, by simp⟩
  have isEntered : Site.value selected.values ⟨id, .input form⟩ = .input values := entered
  have isOwn : Site.fragment? selected.values ⟨id, .input form⟩
      = some (.template id body form.slots values) :=
    (Site.fragment?_form rfl isEntered).trans (by rw [isBody, Option.map_some])
  exact ⟨body, values, visited_of_context found ▸ fragment_mem_walk listed arrived isOwn⟩

namespace Compiler

theorem task?_of_free (free : Bundled.catalog.isBuiltin selected.taskName = false) :
    Bundled.catalog.task? selected.taskName = none :=
  Option.isNone_iff_eq_none.1 (by simpa [Catalog.isBuiltin] using free)

end Compiler

/-!
## Slots that are checked
-/

namespace Api

/-- The answer of a check of a value by a slot. -/
def Service.JudgesBy (service : Service) (request : VerifyRequest) (slot : Slot) : Prop :=
  (service.verifyInput request).1.outcome
    = (slot.check (.text request.value)).map fun fault =>
      .ok (.object [("valid", .bool fault.isNone), ("error", fault.getD .null)])

variable {service : Service} {request : VerifyRequest} {fields : Table Document}
  {project : Project} {definition : OptionDefinition}

theorem Service.verifyInput_outcome (given : request.project = some fields)
    (accepted : (Project.checked (.mapping fields) "request project").outcome = .ok project) :
    (service.verifyInput request).1.outcome
      = verdict (form? Bundled.catalog (some project) request.optionId) request := by
  have step : ∃ notices, requestProject request.project = ⟨notices, .ok (.ok (some project))⟩ := by
    rw [given, requestProject]
    simp only [accepted]
    exact ⟨_, rfl⟩
  obtain ⟨notices, isStep⟩ := step
  rw [verifyInput, isStep]
  simp only [next, Cache.readCatalog_catalog]

theorem form?_eq_some_iff {catalog : Catalog} {project : Option Project} {id : String}
    {form : Form} : form? catalog project id = some form ↔
      (catalog.option? (.text id)).or (project.bind fun project => project.options.get? id)
        = some (.input form) := by
  rw [form?]
  generalize (catalog.option? (.text id)).or _ = found
  cases found with
  | none => simp
  | some definition => cases definition <;> simp

theorem Service.judgesBy_of_find? {form : Form} {slot : Slot}
    (given : request.project = some fields)
    (accepted : (Project.checked (.mapping fields) "request project").outcome = .ok project)
    (isForm : form? Bundled.catalog (some project) request.optionId = some form)
    (isSlot : form.slots.find? (fun slot => slot.name = request.inputName) = some slot) :
    service.JudgesBy request slot := by
  rw [JudgesBy, verifyInput_outcome given accepted, isForm, verdict]
  simp only [isSlot]

/-- Where the option has no slot of the name, the answer is that there is none. -/
theorem Service.verifyInput_of_no_slot (given : request.project = some fields)
    (accepted : (Project.checked (.mapping fields) "request project").outcome = .ok project)
    (found : Bundled.catalog.option? (.text request.optionId) = some definition)
    (noSlot : ∀ own, definition = .input own →
      ∀ slot ∈ own.slots, slot.name ≠ request.inputName) :
    ∃ detail, (service.verifyInput request).1.outcome = .ok (.refused 404 detail) := by
  rw [verifyInput_outcome given accepted]
  cases isForm : form? Bundled.catalog (some project) request.optionId with
  | none => exact ⟨_, rfl⟩
  | some own =>
      rw [form?_eq_some_iff, found, Option.some_or, Option.some.injEq] at isForm
      have isNone : own.slots.find? (fun slot => slot.name = request.inputName) = none :=
        List.find?_eq_none.2 fun slot member named =>
          noSlot own isForm slot member (of_decide_eq_true named)
      rw [verdict]
      simp only [isNone]
      exact ⟨_, rfl⟩

end Api

theorem Bundled.options_slotNames : ∀ entry ∈ options, ∀ form, entry.2 = .input form →
    (form.slots.map Slot.name).Nodup := by
  intro entry member form isForm
  simp only [options, List.mem_cons, List.not_mem_nil, or_false] at member
  rcases member with rfl | rfl | rfl | rfl <;> cases isForm <;> decide

theorem Project.checked_slotNames {fields : Table Document} {source : String} {project : Project}
    (accepted : (Project.checked (.mapping fields) source).outcome = .ok project)
    (found : project.options.lookup id = some (.input form)) :
    (form.slots.map Slot.name).Nodup := by
  obtain ⟨_, _, each⟩ := Project.checked_options accepted
  obtain ⟨key, member, _⟩ := Table.mem_of_lookup found
  obtain ⟨_, _, _, declared⟩ := exists_related_of_mem each member
  exact declared.slotNames form rfl

open Api

/-- A value is checked by the slot of the option that tasks of the catalog are resolved against, and
that is how it is filled in for them; without such a slot the answer is that there is none. Tasks of
the project fill in the slots of the project's own option, so for an id that the catalog does not
define they fill in the slot by which the value is checked. -/
theorem inputs_checked_as_builtin_tasks_fill_in {request : VerifyRequest} {fields : Table Document}
    {project : Project} {form : Form} {slot : Slot} (given : request.project = some fields)
    (accepted : (Project.checked (.mapping fields) "request project").outcome = .ok project)
    (declared : project.options.get? request.optionId = some (.input form))
    (member : slot ∈ form.slots) (named : slot.name = request.inputName) (service : Service)
    (settings : Settings) :
    let compiler : Compiler := ⟨some project, Bundled.catalog, settings⟩
    let id : Scalar := .text request.optionId
    (∀ selected, Bundled.catalog.isBuiltin selected.taskName = false →
        (∀ slots, compiler.Fills selected id slots → slots = form.slots)
        ∧ ∀ task, project.task? selected.taskName = some task → .scalar id ∈ task.options →
          form.override.isSome → (effectiveValue selected.values id (.input form)).kind = .input →
          compiler.Fills selected id form.slots)
      ∧ (Bundled.catalog.option? id = none → service.JudgesBy request slot
        ∧ ∀ selected slots, compiler.Fills selected id slots → slots = form.slots)
      ∧ ∀ definition, Bundled.catalog.option? id = some definition →
        (∀ own, definition = .input own → ∀ other ∈ own.slots, other.name = request.inputName →
          service.JudgesBy request other)
        ∧ ((∀ own, definition = .input own → ∀ other ∈ own.slots,
            other.name ≠ request.inputName) →
          ∃ detail, (service.verifyInput request).1.outcome = .ok (.refused 404 detail))
        ∧ ∀ selected slots, Bundled.catalog.isBuiltin selected.taskName = true →
          compiler.Fills selected id slots → ∃ own, definition = .input own ∧ slots = own.slots := by
  intro compiler id
  have defined : project.options.lookup id = some (.input form) := declared
  have ofName : ∀ {slots : List Slot} {other : Slot}, (slots.map Slot.name).Nodup →
      other ∈ slots → other.name = request.inputName →
      slots.find? (fun slot => slot.name = request.inputName) = some other :=
    fun distinct isOther isNamed => find?_eq_some_of_nodup distinct isOther
      fun slot => by rw [decide_eq_true_iff, isNamed]
  have ofProject : ∀ selected, Bundled.catalog.isBuiltin selected.taskName = false →
      ∀ slots, compiler.Fills selected id slots → slots = form.slots := by
    intro selected free slots fills
    obtain ⟨context, found⟩ := fills.exists_context
    obtain ⟨own, isOwn, rfl⟩ := fills.exists_form found
    rw [Compiler.context?_of_free rfl (Compiler.task?_of_free free)] at found
    obtain ⟨task, _, rfl⟩ := Option.map_eq_some_iff.1 found
    cases defined.symm.trans isOwn
    rfl
  have ofBuiltin : ∀ selected, Bundled.catalog.isBuiltin selected.taskName = true →
      ∀ slots, compiler.Fills selected id slots → ∃ own, slots = own.slots
        ∧ (Bundled.catalog.option? id).or (some (.input form)) = some (.input own) := by
    intro selected isBuiltin slots fills
    obtain ⟨task, isTask⟩ := Option.isSome_iff_exists.1 isBuiltin
    obtain ⟨own, isOwn, rfl⟩ := fills.exists_form (Compiler.context?_of_builtin isTask)
    have preferred : compiler.builtinRegistry.lookup id
        = (Bundled.catalog.option? id).or (project.options.lookup id) :=
      Compiler.lookup_builtinRegistry (.inl rfl) id
    exact ⟨own, rfl, defined ▸ preferred.symm.trans isOwn⟩
  refine ⟨fun selected free => ⟨ofProject selected free, ?_⟩, fun absent => ⟨?_, ?_⟩,
    fun definition found => ⟨?_, fun noSlot => ?_, ?_⟩⟩
  · intro task isTask listed hasOverride fits
    have found : compiler.context? selected.taskName = some ⟨task, project.options, false⟩ := by
      rw [Compiler.context?_of_free rfl (Compiler.task?_of_free free), isTask, Option.map_some]
    exact Compiler.fills_listed found listed defined hasOverride fits
  · have isForm : form? Bundled.catalog (some project) request.optionId = some form := by
      rw [form?_eq_some_iff, absent, Option.none_or]
      exact declared
    exact Service.judgesBy_of_find? given accepted isForm
      (ofName (Project.checked_slotNames accepted defined) member named)
  · intro selected slots fills
    cases isBuiltin : Bundled.catalog.isBuiltin selected.taskName with
    | false => exact ofProject selected isBuiltin slots fills
    | true =>
        obtain ⟨own, rfl, isOwn⟩ := ofBuiltin selected isBuiltin slots fills
        rw [absent, Option.none_or] at isOwn
        cases isOwn
        rfl
  · rintro own rfl other isOther isNamed
    have isForm : form? Bundled.catalog (some project) request.optionId = some own := by
      rw [form?_eq_some_iff, found, Option.some_or]
    obtain ⟨_, isEntry, _⟩ := Table.mem_of_lookup found
    exact Service.judgesBy_of_find? given accepted isForm
      (ofName (Bundled.options_slotNames _ isEntry own rfl) isOther isNamed)
  · exact Service.verifyInput_of_no_slot given accepted found noSlot
  · intro selected slots isBuiltin fills
    obtain ⟨own, rfl, isOwn⟩ := ofBuiltin selected isBuiltin slots fills
    rw [found, Option.some_or] at isOwn
    exact ⟨own, Option.some.inj isOwn, rfl⟩

/-!
## A nap
-/

/-- A project whose only task has an option of some id, with a slot without a pattern. -/
def napFields (id : String) : Table Document := [
  (.text "task", .list [.object [("name", .text "Nap"), ("option", .texts [id])]]),
  (.text "option", .object [(id, .object [("type", .text "input"),
    ("inputs", .list [.object [("name", .text "sleep_time")]]),
    ("pipeline_override", .object [("Nap", .object [("until", .text "\x7bsleep_time\x7d")])])])])]

/-- The slot of that option. -/
def napSlot : Slot where
  name := "sleep_time"
  default := ""
  type := .string
  verify := none
  patternMessage := noText
  label := noText
  description := noText
  inputType := .text "text"

/-- That option. -/
def napForm : Form where
  slots := [napSlot]
  override := some (.object [("Nap", .object [("until", .text napSlot.placeholder)])])
  label := noText
  description := noText

/-- The task with that option. -/
def napTask (id : String) : Task where
  name := "Nap"
  options := [.text id]
  override := none
  entry := noText
  label := noText
  description := noText
  defaultCheck := false
  resource := []
  controller := []

def napProject (id : String) : Project where
  name := noText
  version := ""
  tasks := [napTask id]
  options := [(.text id, .input napForm)]

theorem napProject_accepted (id : String) :
    (Project.checked (.mapping (napFields id)) "request project").outcome
      = .ok (napProject id) :=
  Project.checked_eq_ok_iff.2 ⟨accepted_iff.2 ⟨by rfl, _, by rfl, by rfl⟩, by rfl⟩

theorem napForm_declared (id : String) :
    (napProject id).options.get? id = some (.input napForm) := by
  rw [Table.get?, napProject, Table.lookup_cons, if_pos (Scalar.same_self _)]

/-- A request to check a word as the time of a nap. -/
def napRequest (id : String) : VerifyRequest where
  optionId := id
  inputName := "sleep_time"
  value := "soon"
  project := some (napFields id)

/-- The only task of the project, with nothing selected. -/
def napSelected : SelectedTask where
  taskName := "Nap"

/-- An option of the project alone is checked by the slot that its task fills in. -/
theorem nap_checked_as_filled_in :
    Service.JudgesBy {} (napRequest "Rest") napSlot
      ∧ Compiler.Fills ⟨some (napProject "Rest"), Bundled.catalog, {}⟩ napSelected (.text "Rest")
        napForm.slots := by
  have member : napSlot ∈ napForm.slots := .head _
  have named : napSlot.name = (napRequest "Rest").inputName := rfl
  obtain ⟨filled, checked, _⟩ := inputs_checked_as_builtin_tasks_fill_in rfl
    (napProject_accepted "Rest") (napForm_declared "Rest") member named {} {}
  exact ⟨(checked (by decide)).1,
    (filled napSelected (by decide)).2 (napTask "Rest") rfl (.head _) rfl rfl⟩

/-- Under the id of the time to wait, a nap is checked as a time to wait, though the task of the
project fills in its own slot, which lets every text through. -/
theorem nap_checked_as_time_to_wait :
    let id := "__TASKDECK_SLEEP_OPTION__"
    (Project.checked (.mapping (napFields id)) "request project").outcome = .ok (napProject id)
      ∧ Compiler.Fills ⟨some (napProject id), Bundled.catalog, {}⟩ napSelected (.text id) [napSlot]
      ∧ napSlot.check (.text "soon") = .ok none
      ∧ (Service.verifyInput {} (napRequest id)).1.outcome
        = .ok (.ok (.object [("valid", .bool false),
          ("error", .text "builtin.sleep.inputError")])) := by
  intro id
  have context : Compiler.context? ⟨some (napProject id), Bundled.catalog, {}⟩ "Nap"
      = some ⟨napTask id, (napProject id).options, false⟩ := by
    rw [Compiler.context?_of_free rfl rfl]
    rfl
  have fills : Compiler.Fills ⟨some (napProject id), Bundled.catalog, {}⟩ napSelected (.text id)
      napForm.slots :=
    Compiler.fills_listed context (.head _) (napForm_declared id) rfl rfl
  have unmatched : Pattern.time.occursIn "soon" = false := by decide
  have check : Bundled.sleepSlot.check (.text "soon")
      = .ok (some (.text "builtin.sleep.inputError")) := by
    rw [sleepSlot_check (by decide), unmatched]
    rfl
  have judged : Service.JudgesBy {} (napRequest id) Bundled.sleepSlot :=
    Service.judgesBy_of_find? rfl (napProject_accepted id) rfl rfl
  refine ⟨napProject_accepted id, fills, rfl, judged.trans ?_⟩
  show (Bundled.sleepSlot.check (.text "soon")).map _ = _
  rw [check]
  rfl

end PipelineOverride
