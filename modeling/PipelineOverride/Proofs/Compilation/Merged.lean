import PipelineOverride.Proofs.Merge.Modes
import PipelineOverride.Proofs.Settings

/-!
# Built-in tasks leave merged

The fragments of a built-in task build on each other, so they never leave one after another. Neither
a settings file nor the environment nor a request can bring a built-in task into the array mode: its
override is the merged document, or the list that holds that document alone.
-/

set_option autoImplicit false

namespace PipelineOverride

theorem mem_builtinModes {mode : OutputMode} :
    mode ∈ builtinModes ↔ mode = .object ∨ mode = .wrapped := by
  simp [builtinModes]

/-- The output mode of a built-in task is one of those of built-in tasks if the settings have one of
them, whatever is requested. -/
theorem Compiler.outputMode_mem (compiler : Compiler)
    (allowed : compiler.settings.builtinOutput ∈ builtinModes) (requested : Option OutputMode) :
    compiler.outputMode true requested ∈ builtinModes := by
  cases requested with
  | none => exact allowed
  | some mode =>
      cases mode with
      | array => exact allowed
      | object => exact mem_builtinModes.2 (.inl rfl)
      | wrapped => exact mem_builtinModes.2 (.inr rfl)

/-- What is emitted in a mode of built-in tasks is the merged document, by itself or in a list. -/
theorem emit_eq_ok_iff {fragments : List Document} {base : Option Document} {mode : OutputMode}
    {result : Document} (merges : mode ∈ builtinModes) :
    emit fragments base mode = .ok result ↔
      ∃ merged, mergeFragments fragments base = .ok merged
        ∧ (mode = .object ∧ result = merged ∨ mode = .wrapped ∧ result = .list [merged]) := by
  rcases mem_builtinModes.1 merges with rfl | rfl
  · simp [emit]
  · simp only [emit, Except.bind_eq_ok_iff, reduceCtorEq, false_and, true_and, false_or]
    refine exists_congr fun merged => and_congr_right fun _ => ?_
    exact ⟨fun ends => (Except.ok.inj ends).symm, fun isList => isList ▸ rfl⟩

/-- Under settings that were loaded, a built-in task leaves merged: its mode is never the array
mode, and it compiles to exactly the merged document of its base and its rendered fragments, or to
the list of that document alone. -/
theorem builtin_leaves_merged {environment : Environment} {content : Option (List UInt8)}
    {settings : Settings} (loaded : (Settings.load environment content).outcome = .ok settings)
    (project : Option Project) {catalog : Catalog} {selected : SelectedTask} {task : Task}
    (builtin : catalog.task? selected.taskName = some task) (requested : Option OutputMode) :
    let compiler : Compiler := ⟨project, catalog, settings⟩
    let mode := compiler.outputMode true requested
    mode ≠ .array ∧ ∀ result, (compiler.compile selected requested).outcome = .ok result ↔
      ∃ fragments merged,
        (Compiler.fragments ⟨task, compiler.builtinRegistry, true⟩ selected.values).outcome
            = .ok fragments
        ∧ mergeFragments fragments task.override = .ok (.mapping merged)
        ∧ (mode = .object ∧ result = .mapping merged
          ∨ mode = .wrapped ∧ result = .list [.mapping merged]) := by
  intro compiler mode
  have merges : mode ∈ builtinModes :=
    compiler.outputMode_mem (Settings.load_builtinOutput loaded) requested
  have found : compiler.context? selected.taskName
      = some ⟨task, compiler.builtinRegistry, true⟩ := by
    simp only [Compiler.context?, compiler, builtin]
  refine ⟨fun isArray => by rcases mem_builtinModes.1 merges with is | is <;> simp [is] at isArray,
    fun result => ?_⟩
  rw [Compiler.compile_outcome_of_context requested found, Except.bind_eq_ok_iff]
  refine exists_congr fun fragments => ?_
  rw [emit_eq_ok_iff merges]
  constructor
  · intro given
    obtain ⟨rendered, merged, merges, shape⟩ := given
    obtain ⟨start, tables, _, _, rfl⟩ := mergeFragments_eq_ok_iff.1 merges
    exact ⟨_, rendered, merges, shape⟩
  · intro given
    obtain ⟨merged, rendered, merges, shape⟩ := given
    exact ⟨rendered, .mapping merged, merges, shape⟩

/-- A settings file that asks for built-in tasks as arrays. -/
def arrayFile : List UInt8 := "override: \x7bbuiltin_output: ARRAY\x7d".toUTF8.toList

/-- The two changes of one node stay together although file and request ask for an array. -/
theorem layered_leaves_merged :
    ∃ settings, (Settings.load {} (some arrayFile)).outcome = .ok settings
      ∧ (Compiler.compile ⟨none, ⟨[layeredTask], [(.text "O", layeredOption)]⟩, settings⟩
          { taskName := "T" } (some .array)).outcome
        = .ok (.mapping [(.text "N", .mapping [(.text "a", .bool true), (.text "b", .null)])]) := by
  have read : (Settings.load {} (some arrayFile)).outcome.toOption.map Settings.builtinOutput
      = some .object := by decide +kernel
  obtain ⟨settings, isSettings, isObject⟩ := Option.map_eq_some_iff.1 read
  have loaded : (Settings.load {} (some arrayFile)).outcome = .ok settings :=
    Except.toOption_eq_some_iff.1 isSettings
  let selected : SelectedTask := { taskName := "T" }
  have found : Catalog.task? ⟨[layeredTask], [(.text "O", layeredOption)]⟩ selected.taskName
      = some layeredTask := rfl
  obtain ⟨_, compiles⟩ := builtin_leaves_merged loaded none found (some .array)
  exact ⟨settings, loaded, (compiles _).2 ⟨_, _, layered_fragments, rfl, .inl ⟨isObject, rfl⟩⟩⟩

end PipelineOverride
