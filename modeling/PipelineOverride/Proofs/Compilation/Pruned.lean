import PipelineOverride.Proofs.Compilation.Outcome
import PipelineOverride.Proofs.Resolution.Pruning

/-!
# Compilation without dangling references

What a task compiles to does not depend on its dangling references. Which references dangle depends
on the task: a built-in task is resolved against the options of the catalog and of the project
together, any other task against those of the project alone. So the references are judged by the
registry of the task, and taken out of all tasks and options from which that registry is made.
-/

set_option autoImplicit false

namespace PipelineOverride

def Task.prunedBy (base : Registry) (task : Task) : Task :=
  { task with options := task.options.filter base.keeps }

def TaskContext.prunedBy (base : Registry) (context : TaskContext) : TaskContext :=
  ⟨context.task.prunedBy base, context.registry.prunedBy base, context.builtin⟩

def Project.prunedBy (base : Registry) (project : Project) : Project :=
  { project with
    tasks := project.tasks.map (Task.prunedBy base)
    options := Registry.prunedBy project.options base }

def Catalog.prunedBy (base : Registry) (catalog : Catalog) : Catalog :=
  ⟨catalog.tasks.map (Task.prunedBy base), Registry.prunedBy catalog.options base⟩

namespace Compiler

/-- The compiler with no references in its tasks and options but those that a registry keeps. -/
def prunedBy (base : Registry) (compiler : Compiler) : Compiler where
  project := compiler.project.map (Project.prunedBy base)
  catalog := compiler.catalog.prunedBy base
  settings := compiler.settings

/-- The registry against which the options of a task are resolved. It is empty if there is no task
of the name. -/
def registryFor (compiler : Compiler) (name : String) : Registry :=
  ((compiler.context? name).map TaskContext.registry).getD []

variable {compiler : Compiler} {name : String} {context : TaskContext}

/-- A task is found by its name, which stays. -/
theorem find?_prunedBy (base : Registry) (tasks : List Task) (name : String) :
    (tasks.map (Task.prunedBy base)).find? (fun task => task.name = name)
      = (tasks.find? fun task => task.name = name).map (Task.prunedBy base) := by
  rw [List.find?_map]
  rfl

theorem builtinRegistry_prunedBy (base : Registry) (compiler : Compiler) :
    (compiler.prunedBy base).builtinRegistry = Registry.prunedBy compiler.builtinRegistry base := by
  obtain ⟨project, catalog, settings⟩ := compiler
  cases project with
  | none => rfl
  | some project => exact Registry.union_prunedBy catalog.options project.options base

theorem context?_prunedBy (base : Registry) (compiler : Compiler) (name : String) :
    (compiler.prunedBy base).context? name
      = (compiler.context? name).map (TaskContext.prunedBy base) := by
  have builtin : (compiler.prunedBy base).catalog.task? name
      = (compiler.catalog.task? name).map (Task.prunedBy base) :=
    find?_prunedBy base compiler.catalog.tasks name
  rw [context?, context?, builtin, builtinRegistry_prunedBy]
  cases compiler.catalog.task? name with
  | some task => rfl
  | none =>
      obtain ⟨project, catalog, settings⟩ := compiler
      cases project with
      | none => rfl
      | some project =>
          have standard : (project.prunedBy base).task? name
              = (project.task? name).map (Task.prunedBy base) :=
            find?_prunedBy base project.tasks name
          simp only [prunedBy, Option.map_some, Option.map_none, Option.bind_eq_bind,
            Option.bind_some, standard]
          cases project.task? name <;> rfl

theorem fragments_prunedBy (context : TaskContext) (selections : SelectionStore) :
    (fragments (context.prunedBy context.registry) selections).outcome
      = (fragments context selections).outcome := by
  rw [fragments_outcome, fragments_outcome]
  simp only [TaskContext.prunedBy, Task.prunedBy, resolve_prunedBy]

theorem compile_prunedBy (compiler : Compiler) (selected : SelectedTask)
    (requested : Option OutputMode) :
    ((compiler.prunedBy (compiler.registryFor selected.taskName)).compile selected requested).outcome
      = (compiler.compile selected requested).outcome := by
  cases found : compiler.context? selected.taskName with
  | none =>
      rw [compile_outcome_of_missing requested found]
      apply compile_outcome_of_missing
      rw [context?_prunedBy, found, Option.map_none]
  | some context =>
      have isRegistry : compiler.registryFor selected.taskName = context.registry := by
        rw [registryFor, found]
        rfl
      have pruned : (compiler.prunedBy context.registry).context? selected.taskName
          = some (context.prunedBy context.registry) := by
        rw [context?_prunedBy, found, Option.map_some]
      rw [isRegistry, compile_outcome_of_context requested found,
        compile_outcome_of_context requested pruned, fragments_prunedBy]
      rfl

end Compiler

/-- Dangling references are neutral. Taking them out of a list of references and of all cases of a
registry leaves none behind, and resolution gives the same fragments. So it compiles every task to
the same override in each mode. -/
theorem dangling_references_neutral :
    (∀ (registry : Registry) (selections : SelectionStore) (references : List Document),
      NoneDangling (registry.prunedBy registry) (references.filter registry.keeps)
        ∧ (resolve (registry.prunedBy registry) selections
            (references.filter registry.keeps)).outcome
          = (resolve registry selections references).outcome)
      ∧ ∀ (compiler : Compiler) (selected : SelectedTask) (requested : Option OutputMode),
        ((compiler.prunedBy (compiler.registryFor selected.taskName)).compile selected
            requested).outcome
          = (compiler.compile selected requested).outcome := by
  constructor
  · intro registry selections references
    exact ⟨noneDangling_prunedBy registry references,
      resolve_prunedBy registry selections references⟩
  · exact Compiler.compile_prunedBy

end PipelineOverride
