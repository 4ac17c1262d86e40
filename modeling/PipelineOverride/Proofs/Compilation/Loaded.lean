import PipelineOverride.Catalog.Bundled
import PipelineOverride.Override.Compilation
import PipelineOverride.Proofs.Document.Distinct
import PipelineOverride.Proofs.Validation.Accepted

/-!
# Loaded compilers

A compiler is loaded with a project that was accepted and with a catalog that was accepted or comes
with the program. Every task that it finds is well shaped, and so are the options against which the
task is resolved.
-/

set_option autoImplicit false

namespace PipelineOverride

/-- A project and a catalog that were accepted when they were read, if not the bundled catalog. -/
structure Compiler.Loaded (compiler : Compiler) : Prop where
  project : ∀ project, compiler.project = some project →
    ∃ document source, (Project.checked document source).outcome = .ok project
  catalog : compiler.catalog = Bundled.catalog ∨
    ∃ document source, (Catalog.ofDocument document source).outcome = .ok compiler.catalog

/-- All tasks and all options of a catalog are well shaped. -/
structure Catalog.WellShaped (catalog : Catalog) : Prop where
  tasks : ∀ task ∈ catalog.tasks, PipelineOverride.WellShaped task.options task.override
  options : ∀ entry ∈ catalog.options, entry.2.WellShaped

/-- The task of a context is well shaped, and so are the options it is resolved against. -/
structure TaskContext.WellShaped (context : TaskContext) : Prop where
  task : PipelineOverride.WellShaped context.task.options context.task.override
  registry : ∀ entry ∈ context.registry, entry.2.WellShaped

theorem Catalog.ofDocument_eq_ok_iff {document : Document} {source : String} {catalog : Catalog} :
    (ofDocument document source).outcome = .ok catalog ↔
      ∃ project, (Project.checked document source).outcome = .ok project
        ∧ ofProject project = catalog := by
  simp only [ofDocument, Report.outcome_bind, Report.outcome_pure, Except.bind_eq_ok_iff,
    Except.ok.injEq]

theorem Catalog.firstOfEachName_subset (taken : List String) (tasks : List Task) :
    firstOfEachName taken tasks ⊆ tasks := by
  induction tasks generalizing taken with
  | nil => exact List.nil_subset _
  | cons task rest ih =>
      rw [firstOfEachName]
      split
      · exact List.subset_cons_of_subset _ (ih taken)
      · exact List.cons_subset_cons task (ih (task.name :: taken))

theorem Catalog.ofProject_wellShaped {project : Project} (shaped : project.WellShaped) :
    (Catalog.ofProject project).WellShaped := by
  constructor
  · intro task member
    exact shaped.tasks task (Catalog.firstOfEachName_subset [] project.tasks member)
  · exact shaped.options

theorem Bundled.customTask_wellShaped (name entry label : String) (options : List String) :
    WellShaped (customTask name entry label options).options
      (customTask name entry label options).override := by
  constructor
  · intro reference member
    obtain ⟨id, _, rfl⟩ := List.mem_map.1 member
    exact ⟨id, rfl⟩
  · intro document isOverride
    cases isOverride
    exact ⟨_, rfl⟩

theorem Bundled.parameters_wellShaped (entry : String) (fields : List (String × Document)) :
    WellShaped [] (some (parameters entry fields)) := by
  constructor
  · intro reference member
    cases member
  · intro document isOverride
    cases isOverride
    exact ⟨_, rfl⟩

theorem Bundled.options_wellShaped : ∀ entry ∈ options, entry.2.WellShaped := by
  intro entry member
  simp only [options, List.mem_cons, List.not_mem_nil, or_false] at member
  rcases member with rfl | rfl | rfl | rfl
  · exact .input (parameters_wellShaped _ _)
  · exact .input (parameters_wellShaped _ _)
  · refine .switch fun branch member => ?_
    simp only [List.mem_cons, List.not_mem_nil, or_false] at member
    rcases member with rfl | rfl
    · exact parameters_wellShaped _ _
    · exact parameters_wellShaped _ _
  · exact .input (parameters_wellShaped _ _)

theorem Bundled.project_wellShaped : project.WellShaped := by
  constructor
  · intro task member
    simp only [project, List.mem_cons, List.not_mem_nil, or_false] at member
    rcases member with rfl | rfl | rfl
    · exact customTask_wellShaped _ _ _ _
    · exact customTask_wellShaped _ _ _ _
    · exact customTask_wellShaped _ _ _ _
  · exact options_wellShaped

namespace Compiler

variable {compiler : Compiler} {selected : SelectedTask} {context : TaskContext}

theorem Loaded.catalog_wellShaped (loaded : compiler.Loaded) : compiler.catalog.WellShaped := by
  rcases loaded.catalog with bundled | ⟨document, source, read⟩
  · rw [bundled]
    exact Catalog.ofProject_wellShaped Bundled.project_wellShaped
  · obtain ⟨project, accepted, isCatalog⟩ := Catalog.ofDocument_eq_ok_iff.1 read
    rw [← isCatalog]
    exact Catalog.ofProject_wellShaped (Project.checked_wellShaped accepted)

theorem Loaded.project_wellShaped (loaded : compiler.Loaded) {project : Project}
    (isProject : compiler.project = some project) : project.WellShaped := by
  obtain ⟨document, source, accepted⟩ := loaded.project project isProject
  exact Project.checked_wellShaped accepted

/-- The task of a context and the options it is resolved against come from the catalog and the
project. -/
theorem context?_forall {onTask : Task → Prop} {onOption : OptionDefinition → Prop}
    (catalogTasks : ∀ task ∈ compiler.catalog.tasks, onTask task)
    (catalogOptions : ∀ entry ∈ compiler.catalog.options, onOption entry.2)
    (projectTasks : ∀ project, compiler.project = some project →
      ∀ task ∈ project.tasks, onTask task)
    (projectOptions : ∀ project, compiler.project = some project →
      ∀ entry ∈ project.options, onOption entry.2)
    {name : String} (found : compiler.context? name = some context) :
    onTask context.task ∧ ∀ entry ∈ context.registry, onOption entry.2 := by
  rw [context?] at found
  split at found
  · rename_i task isTask
    cases found
    refine ⟨catalogTasks task (List.mem_of_find?_eq_some isTask), ?_⟩
    rw [builtinRegistry]
    split
    · rename_i project isProject
      exact Table.forall_union catalogOptions (projectOptions project isProject)
    · exact catalogOptions
  · simp only [Option.bind_eq_bind, Option.bind_eq_some_iff, Option.pure_def,
      Option.some.injEq] at found
    obtain ⟨project, isProject, task, isTask, rfl⟩ := found
    exact ⟨projectTasks project isProject task (List.mem_of_find?_eq_some isTask),
      projectOptions project isProject⟩

theorem Loaded.context_wellShaped (loaded : compiler.Loaded) {name : String}
    (found : compiler.context? name = some context) : context.WellShaped := by
  have shaped := loaded.catalog_wellShaped
  obtain ⟨task, registry⟩ := context?_forall shaped.tasks shaped.options
    (fun project isProject => (loaded.project_wellShaped isProject).tasks)
    (fun project isProject => (loaded.project_wellShaped isProject).options) found
  exact ⟨task, registry⟩

end Compiler

end PipelineOverride
