import PipelineOverride.Proofs.Catalog.Scope

/-!
# One document on two routes

A document that is accepted can be the catalog of built-in tasks or a project beside an empty
catalog. The catalog keeps the first task of each name, the project looks for the first one, and
both resolve options against those of the document. So a task compiles alike on both routes as long
as the merged document is asked for.
-/

set_option autoImplicit false

namespace PipelineOverride

namespace Catalog

/-- Of the tasks whose name is not taken yet, the first one of each name is kept. -/
theorem find?_firstOfEachName {taken : List String} {name : String} (free : name ∉ taken)
    (tasks : List Task) :
    (firstOfEachName taken tasks).find? (fun task => task.name = name)
      = tasks.find? fun task => task.name = name := by
  induction tasks generalizing taken with
  | nil => rfl
  | cons task rest ih =>
      rw [firstOfEachName]
      by_cases isTaken : taken.contains task.name = true
      · have other : task.name ≠ name := by
          rintro rfl
          exact free (List.contains_iff_mem.1 isTaken)
        rw [if_pos isTaken, ih free, List.find?_cons_of_neg (by simpa using other)]
      · rw [if_neg isTaken]
        by_cases isNamed : task.name = name
        · rw [List.find?_cons_of_pos (by simpa using isNamed),
            List.find?_cons_of_pos (by simpa using isNamed)]
        · rw [List.find?_cons_of_neg (by simpa using isNamed),
            List.find?_cons_of_neg (by simpa using isNamed)]
          refine ih fun member => ?_
          rcases List.mem_cons.1 member with rfl | member
          · exact isNamed rfl
          · exact free member

/-- A catalog finds the tasks that the project finds from which it is made. -/
theorem task?_ofProject (project : Project) (name : String) :
    (ofProject project).task? name = project.task? name :=
  find?_firstOfEachName List.not_mem_nil project.tasks

theorem ofDocument_empty (source : String) :
    (ofDocument (.mapping []) source).outcome = .ok ⟨[], []⟩ := by
  have accepted : (Project.checked (.mapping []) source).outcome = .ok ⟨noText, "", [], []⟩ :=
    Project.checked_eq_ok_iff.2 ⟨accepted_iff.2 ⟨by rfl, _, by rfl, by rfl⟩, by rfl⟩
  exact ofDocument_eq_ok_iff.2 ⟨_, accepted, rfl⟩

end Catalog

namespace Compiler

theorem context?_of_catalog (project : Project) (settings : Settings) (name : String) :
    context? ⟨none, Catalog.ofProject project, settings⟩ name
      = (project.task? name).map fun task => ⟨task, project.options, true⟩ := by
  rw [context?, Catalog.task?_ofProject]
  cases project.task? name <;> rfl

end Compiler

/-- A document that is accepted compiles alike as a catalog without a project and as a project
beside an empty catalog, whatever the settings are, if the merged document is requested. For a task
of the document the same is said on the way as well; a task of another name has an empty override on
both routes. -/
theorem compiles_alike_on_both_routes {document : Document} {source : String} {project : Project}
    (accepted : (Project.checked document source).outcome = .ok project) (place : String) :
    ∃ catalog empty, (Catalog.ofDocument document place).outcome = .ok catalog
      ∧ (Catalog.ofDocument (.mapping []) place).outcome = .ok empty
      ∧ ∀ (selected : SelectedTask) (settings others : Settings),
        let builtin := Compiler.compile ⟨none, catalog, settings⟩ selected (some .object)
        let standard := Compiler.compile ⟨some project, empty, others⟩ selected (some .object)
        builtin.outcome = standard.outcome
          ∧ (catalog.isBuiltin selected.taskName = true → builtin = standard)
          ∧ (catalog.isBuiltin selected.taskName = false → builtin.outcome = .ok (.list [])) := by
  obtain ⟨isAccepted, read⟩ := Project.checked_eq_ok_iff.1 accepted
  have acceptedThere : (Project.checked document place).outcome = .ok project :=
    Project.checked_eq_ok_iff.2 ⟨accepted_iff.2 (accepted_iff.1 isAccepted), read⟩
  refine ⟨Catalog.ofProject project, ⟨[], []⟩,
    Catalog.ofDocument_eq_ok_iff.2 ⟨project, acceptedThere, rfl⟩, Catalog.ofDocument_empty place, ?_⟩
  intro selected settings others builtin standard
  have onCatalog := Compiler.context?_of_catalog project settings selected.taskName
  have onProject : Compiler.context? ⟨some project, ⟨[], []⟩, others⟩ selected.taskName
      = (project.task? selected.taskName).map fun task => ⟨task, project.options, false⟩ :=
    Compiler.context?_of_free rfl rfl
  have isBuiltin : (Catalog.ofProject project).isBuiltin selected.taskName
      = (project.task? selected.taskName).isSome := by
    rw [Catalog.isBuiltin, Catalog.task?_ofProject]
  cases found : project.task? selected.taskName with
  | none =>
      rw [found, Option.map_none] at onCatalog onProject
      have missing := Compiler.compile_outcome_of_missing (some .object) onCatalog
      refine ⟨missing.trans (Compiler.compile_outcome_of_missing _ onProject).symm, ?_,
        fun _ => missing⟩
      rw [isBuiltin, found]
      exact fun never => nomatch never
  | some task =>
      rw [found, Option.map_some] at onCatalog onProject
      -- The contexts differ in the mark of built-in tasks only, which a requested mode overrules.
      have same : builtin = standard := by
        simp only [builtin, standard, Compiler.compile_of_context _ onCatalog,
          Compiler.compile_of_context _ onProject]
        rfl
      refine ⟨congrArg Report.outcome same, fun _ => same, ?_⟩
      rw [isBuiltin, found]
      exact fun never => nomatch never

/-- A document with two tasks of one name, of which the first has an option. -/
def twinDocument : Document := .object [
  ("task", .list [
    .object [("name", .text "T"), ("option", .texts ["A"])],
    .object [("name", .text "T"), ("pipeline_override", .object [("late", .bool true)])]]),
  ("option", .object [("A", .object [("cases", .list [caseDocument "early" []])])])]

/-- The project of that document. -/
def twinProject : Project where
  name := noText
  version := ""
  tasks := [{ layeredTask with options := [.text "A"], override := none },
    { layeredTask with options := [], override := some (.mapping [(.text "late", .bool true)]) }]
  options := [(.text "A", selectAmong [caseTo "early" []])]

theorem twinProject_compiles :
    (Compiler.compile ⟨some twinProject, ⟨[], []⟩, {}⟩ { taskName := "T" } (some .object)).outcome
      = .ok (.mapping [(.text "early", .bool true)]) := by
  have found : Compiler.context? ⟨some twinProject, ⟨[], []⟩, {}⟩ "T"
      = some ⟨{ layeredTask with options := [.text "A"], override := none },
          twinProject.options, false⟩ := rfl
  have arrived : arrive? twinProject.options [] (.text "A")
      = some ⟨.text "A", selectAmong [caseTo "early" []]⟩ := rfl
  have references :
      ({ layeredTask with options := [.text "A"], override := none } : Task).options
        = [.text "A"] := rfl
  rw [Compiler.compile_outcome_of_context _ found, Compiler.fragments_outcome, resolve, references,
    walk_singleton arrived rfl]
  rfl

/-- The first of two tasks of one name is compiled on either route. -/
theorem twin_compiles_on_both_routes :
    (Project.checked twinDocument "project").outcome = .ok twinProject
      ∧ ∃ catalog empty, (Catalog.ofDocument twinDocument "catalog").outcome = .ok catalog
        ∧ (Catalog.ofDocument (.mapping []) "catalog").outcome = .ok empty
        ∧ (Compiler.compile ⟨none, catalog, {}⟩ { taskName := "T" } (some .object)).outcome
          = .ok (.mapping [(.text "early", .bool true)])
        ∧ (Compiler.compile ⟨none, catalog, {}⟩ { taskName := "U" } (some .object)).outcome
          = (Compiler.compile ⟨some twinProject, empty, {}⟩ { taskName := "U" }
            (some .object)).outcome := by
  have accepted : (Project.checked twinDocument "project").outcome = .ok twinProject :=
    Project.checked_eq_ok_iff.2 ⟨accepted_iff.2 ⟨by rfl, _, by rfl, by rfl⟩, by rfl⟩
  obtain ⟨catalog, empty, isCatalog, isEmpty, alike⟩ :=
    compiles_alike_on_both_routes accepted "catalog"
  obtain rfl : Catalog.mk [] [] = empty :=
    Except.ok.inj ((Catalog.ofDocument_empty "catalog").symm.trans isEmpty)
  exact ⟨accepted, catalog, _, isCatalog, isEmpty,
    (alike { taskName := "T" } {} {}).1.trans twinProject_compiles,
    (alike { taskName := "U" } {} {}).1⟩

end PipelineOverride
