import PipelineOverride.Proofs.Compilation.Returns
import PipelineOverride.Proofs.Document.WellFormed
import PipelineOverride.Proofs.Resolution.Lookups

/-!
# Built-in tasks and projects

A project may define tasks and options of any name, also names that the catalog uses. A built-in
task whose options are all in the catalog compiles as if there were no project: the catalog is asked
for the task first, its options are preferred, and resolution never leaves them.
-/

set_option autoImplicit false

namespace PipelineOverride

/-!
## Valid catalogs
-/

/-- A catalog comes with the program, or it was read from an accepted document. -/
def Catalog.Valid (catalog : Catalog) : Prop :=
  catalog = Bundled.catalog ∨ ∃ document source, document.WellFormed
    ∧ (Catalog.ofDocument document source).outcome = .ok catalog

theorem Registry.ofFields_keys {fields : Table Document} {registry : Registry}
    (read : Registry.ofFields fields = .ok registry) : registry.keys = fields.keys := by
  induction fields generalizing registry with
  | nil =>
      cases read
      rfl
  | cons field rest ih =>
      simp only [Registry.ofFields, Except.bind_eq_ok_iff] at read
      obtain ⟨definition, _, others, readOthers, ends⟩ := read
      cases ends
      exact congrArg (field.1 :: ·) (ih readOthers)

theorem Registry.ofDocument_distinct {document : Document} {registry : Registry}
    (wellFormed : document.WellFormed) (read : Registry.ofDocument document = .ok registry) :
    registry.Distinct := by
  rw [Registry.ofDocument] at read
  split at read
  · cases read
    exact List.Pairwise.nil
  · obtain ⟨fields, readFields, readEntries⟩ := Except.bind_eq_ok_iff.1 read
    cases wellFormed with
    | mapping distinct _ =>
        cases readFields
        rw [Table.distinct_iff_keys, Registry.ofFields_keys readEntries]
        exact Table.distinct_iff_keys.1 distinct
    | scalar => cases readFields
    | set => cases readFields
    | list _ => cases readFields

theorem Project.ofDocument_options_distinct {document : Document} {project : Project}
    (wellFormed : document.WellFormed) (read : Project.ofDocument document = .ok project) :
    project.options.Distinct := by
  simp only [Project.ofDocument, Except.bind_eq_ok_iff] at read
  obtain ⟨fields, readFields, _, _, _, _, options, readOptions, _, _, ends⟩ := read
  cases ends
  exact Registry.ofDocument_distinct (.of_getD (wellFormed.of_fields readFields) "option" .scalar)
    readOptions

theorem Catalog.Valid.distinct {catalog : Catalog} (valid : catalog.Valid) :
    catalog.options.Distinct := by
  rcases valid with rfl | ⟨document, source, wellFormed, read⟩
  · show List.Pairwise _ Bundled.options
    decide
  · obtain ⟨project, accepted, isCatalog⟩ := Catalog.ofDocument_eq_ok_iff.1 read
    rw [← isCatalog]
    exact Project.ofDocument_options_distinct wellFormed (Project.checked_eq_ok_iff.1 accepted).2

/-- Options of built-in tasks are looked up in the catalog first and then in the project. -/
theorem Compiler.lookup_builtinRegistry {compiler : Compiler} (valid : compiler.catalog.Valid)
    (id : Scalar) : compiler.builtinRegistry.lookup id
      = (compiler.catalog.option? id).or
        (compiler.project.bind fun project => project.options.lookup id) := by
  rw [builtinRegistry]
  split
  · rename_i project isProject
    rw [isProject]
    exact valid.distinct.lookup_union project.options id
  · rename_i isNone
    rw [isNone]
    exact Option.or_none.symm

/-!
## Built-in tasks
-/

/-- References that never lead out of a table resolve in the same way when other entries join it,
since its own entries are preferred. -/
theorem resolve_union {preferred other : Registry} (distinct : preferred.Distinct)
    {references : List Document}
    (closed : ∀ id, Reachable preferred references id → (preferred.lookup id).isSome)
    (selections : SelectionStore) :
    resolve (preferred.union other) selections references
      = resolve preferred selections references := by
  refine (walk_report_eq_of_agree [] references fun id looked => ⟨?_, fun _ => rfl⟩)
  obtain ⟨definition, found⟩ := Option.isSome_iff_exists.1 (closed id looked.active.reachable)
  rw [distinct.lookup_union, found, Option.some_or]

/-- A project never changes what a built-in task compiles to, as long as all options that the task
can reach are in the catalog. -/
theorem compile_builtin_with_project {catalog : Catalog} (valid : catalog.Valid)
    {selected : SelectedTask} {task : Task}
    (builtin : catalog.task? selected.taskName = some task)
    (closed : ∀ id, Reachable catalog.options task.options id →
      (catalog.options.lookup id).isSome)
    (project : Project) (settings : Settings) (requested : Option OutputMode) :
    Compiler.compile ⟨some project, catalog, settings⟩ selected requested
      = Compiler.compile ⟨none, catalog, settings⟩ selected requested := by
  have fragments : Compiler.fragments ⟨task, catalog.options.union project.options, true⟩
        selected.values
      = Compiler.fragments ⟨task, catalog.options, true⟩ selected.values := by
    simp only [Compiler.fragments, resolve_union valid.distinct closed]
  have withProject : Compiler.lookup ⟨some project, catalog, settings⟩ selected.taskName
      = .done (some ⟨task, catalog.options.union project.options, true⟩) := by
    simp only [Compiler.lookup, Compiler.context?, builtin, Compiler.builtinRegistry]
  have alone : Compiler.lookup ⟨none, catalog, settings⟩ selected.taskName
      = .done (some ⟨task, catalog.options, true⟩) := by
    simp only [Compiler.lookup, Compiler.context?, builtin, Compiler.builtinRegistry]
  simp only [Compiler.compile, withProject, alone, Report.done_bind, fragments]
  rfl

namespace Bundled

/-- A project that takes the names of the task that waits and of its option for something else. -/
def usurper : Project where
  name := .text "usurper"
  version := "1"
  tasks := [customTask "__TASKDECK_SLEEP__" "OTHER" "other.label" ["__TASKDECK_SLEEP_OPTION__"]]
  options := [(.text "__TASKDECK_SLEEP_OPTION__",
    selectAmong [caseTo "OTHER" ["__TASKDECK_SLEEP_OPTION__"]])]

theorem sleep_reachable {id : Scalar}
    (reachable : Reachable options [.text "__TASKDECK_SLEEP_OPTION__"] id) :
    id = .text "__TASKDECK_SLEEP_OPTION__" := by
  induction reachable with
  | listed member isId =>
      cases List.mem_singleton.1 member
      cases isId
      rfl
  | nested _ found member _ ih =>
      subst ih
      cases found
      cases member

theorem sleep_ignores_usurper :
    Compiler.compile ⟨some usurper, catalog, {}⟩ (sleepSelected "30") (some .array)
      = Compiler.compile ⟨none, catalog, {}⟩ (sleepSelected "30") (some .array) := by
  have builtin : catalog.task? (sleepSelected "30").taskName
      = some (customTask "__TASKDECK_SLEEP__" "TASKDECK_SLEEP" "builtin.sleep.label"
        ["__TASKDECK_SLEEP_OPTION__"]) := rfl
  refine compile_builtin_with_project (.inl rfl) builtin (fun id reachable => ?_) usurper {}
    (some .array)
  cases sleep_reachable reachable
  rfl

end Bundled

end PipelineOverride
