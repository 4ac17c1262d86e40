import PipelineOverride.Override.Compilation
import PipelineOverride.Proofs.Report

/-!
# Outcomes of compilation

The outcome of compiling a task without what is noted on the way: nothing for a missing task, else
what is emitted of its rendered fragments.
-/

set_option autoImplicit false

namespace PipelineOverride.Compiler

variable {compiler : Compiler} {selected : SelectedTask} {context : TaskContext}

theorem context?_of_builtin {name : String} {task : Task}
    (found : compiler.catalog.task? name = some task) :
    compiler.context? name = some ⟨task, compiler.builtinRegistry, true⟩ := by
  rw [context?, found]

/-- A name that is not built in is looked for in the project. -/
theorem context?_of_free {project : Project} {name : String}
    (isProject : compiler.project = some project) (free : compiler.catalog.task? name = none) :
    compiler.context? name
      = (project.task? name).map fun task => ⟨task, project.options, false⟩ := by
  rw [context?, free]
  simp only [isProject, Option.bind_eq_bind, Option.bind_some]
  cases project.task? name <;> rfl

theorem compile_of_missing (requested : Option OutputMode)
    (missing : compiler.context? selected.taskName = none) :
    compiler.compile selected requested
      = ⟨[compiler.missingNotice selected.taskName], .ok (.list [])⟩ := by
  simp only [compile, lookup, missing]
  rfl

theorem compile_of_context (requested : Option OutputMode)
    (found : compiler.context? selected.taskName = some context) :
    compiler.compile selected requested
      = fragments context selected.values >>= fun rendered =>
        ⟨[compiledNotice context.task.name rendered.length
            (compiler.outputMode context.builtin requested)],
          emit rendered context.task.override (compiler.outputMode context.builtin requested)⟩ := by
  simp only [compile, lookup, found, Report.done_bind]
  rfl

theorem compile_outcome_of_missing (requested : Option OutputMode)
    (missing : compiler.context? selected.taskName = none) :
    (compiler.compile selected requested).outcome = .ok (.list []) := by
  simp only [compile, lookup, missing, Report.outcome_bind, Except.ok_bind, Report.outcome_pure]

theorem compile_outcome_of_context (requested : Option OutputMode)
    (found : compiler.context? selected.taskName = some context) :
    (compiler.compile selected requested).outcome
      = (fragments context selected.values).outcome >>= fun rendered =>
        emit rendered context.task.override (compiler.outputMode context.builtin requested) := by
  simp only [compile, lookup, found, Report.outcome_bind, Report.outcome_done,
    Report.outcome_note, Report.outcome_ofExcept, Except.ok_bind]

theorem fragments_outcome (context : TaskContext) (selections : SelectionStore) :
    (fragments context selections).outcome
      = (resolve context.registry selections context.task.options).outcome >>= fun resolved =>
        (renderFragments resolved).outcome := by
  simp only [fragments, Report.outcome_bind]

@[simp] theorem outputMode_of_requested (compiler : Compiler) (mode : OutputMode) :
    compiler.outputMode false (some mode) = mode := rfl

end PipelineOverride.Compiler
