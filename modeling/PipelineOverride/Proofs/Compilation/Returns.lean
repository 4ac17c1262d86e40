import PipelineOverride.Proofs.Compilation.Loaded
import PipelineOverride.Proofs.Compilation.Outcome
import PipelineOverride.Proofs.Json.Integer
import PipelineOverride.Proofs.Merge.Modes
import PipelineOverride.Proofs.Resolution.Step
import PipelineOverride.Proofs.Substitution.Rendering

/-!
# When compilation returns

Nothing in an accepted project can make compilation fail: references are ids, overrides are
mappings, and a value that does not fit its slot only drops its fragment. The one exception is an
integer beyond the range of floating-point numbers, which makes compilation fail as a whole.
-/

set_option autoImplicit false

namespace PipelineOverride

/-!
## Sound fragments
-/

theorem RefersToIds.of_wellShaped {registry : Registry} {references : List Document}
    {override : Option Document} (shaped : ∀ entry ∈ registry, entry.2.WellShaped)
    (here : WellShaped references override) : RefersToIds registry references := by
  refine ⟨here.ids, fun id definition found reference member => ?_⟩
  have shapedDefinition : definition.WellShaped := Table.of_lookup shaped found
  obtain ⟨branch, branchMember, member⟩ := List.mem_flatMap.1 member
  exact (shapedDefinition.branch branchMember).ids reference member

theorem exists_site_of_mem_walk {registry : Registry} {selections : SelectionStore}
    (path : List Scalar) (references : List Document) {fragment : Fragment}
    (member : fragment ∈ (walk registry selections path references).filterMap Event.fragment?) :
    ∃ site : Site, registry.lookup site.id = some site.definition
      ∧ site.fragment? selections = some fragment := by
  induction path, references using walk_induction registry selections with
  | nil path => simp at member
  | cons path reference rest below beside =>
      rw [walk_cons, List.filterMap_append, List.mem_append] at member
      rcases member with first | later
      · split at first
        · rename_i site arrived
          rw [List.filterMap_append, (visit_spec selections site).1, List.mem_append] at first
          rcases first with own | deeper
          · obtain ⟨_, found, _⟩ := arrive?_eq_some_iff.1 arrived
            exact ⟨site, found, Option.mem_toList.1 own⟩
          · exact below site arrived deeper
        · simp [refusal_fragment?] at first
      · exact beside later

theorem Site.fragment?_sound {selections : SelectionStore} {site : Site} {fragment : Fragment}
    (texts : selections.TextValues) (shaped : site.definition.WellShaped)
    (found : site.fragment? selections = some fragment) : fragment.Sound := by
  rw [Site.fragment?] at found
  split at found
  · rename_i form values isForm entered
    rw [isForm] at shaped
    cases shaped with
    | input template =>
        obtain ⟨body, isBody, rfl⟩ := Option.map_eq_some_iff.1 found
        obtain ⟨fields, rfl⟩ := template.mapping body isBody
        exact .template (effectiveValue_texts texts entered)
  · obtain ⟨branch, active, found⟩ := Option.bind_eq_some_iff.1 found
    obtain ⟨payload, isPayload, rfl⟩ := Option.map_eq_some_iff.1 found
    have member := OptionDefinition.mem_cases_of_activeCase? active
    obtain ⟨fields, rfl⟩ := (shaped.branch member).mapping payload isPayload
    exact .static

theorem walk_sound {registry : Registry} {selections : SelectionStore}
    (shaped : ∀ entry ∈ registry, entry.2.WellShaped) (texts : selections.TextValues)
    (references : List Document) :
    ∀ fragment ∈ (walk registry selections [] references).filterMap Event.fragment?,
      fragment.Sound := by
  intro fragment member
  obtain ⟨site, found, isFragment⟩ := exists_site_of_mem_walk [] references member
  exact Site.fragment?_sound texts (Table.of_lookup shaped found) isFragment

/-!
## Emitting mappings
-/

theorem eq_map_mapping {documents : List Document}
    (each : ∀ document ∈ documents, ∃ fields, document = .mapping fields) :
    ∃ tables : List (Table Document), documents = tables.map Document.mapping := by
  induction documents with
  | nil => exact ⟨[], rfl⟩
  | cons document rest ih =>
      obtain ⟨fields, rfl⟩ := each document (.head _)
      obtain ⟨tables, rfl⟩ := ih fun later member => each later (.tail _ member)
      exact ⟨fields :: tables, rfl⟩

theorem mergeFragments_succeeds {fragments : List Document} {base : Option Document}
    (each : ∀ fragment ∈ fragments, ∃ fields, fragment = .mapping fields)
    (mapping : ∀ document, base = some document → ∃ fields, document = .mapping fields) :
    ∃ merged, mergeFragments fragments base = .ok merged := by
  obtain ⟨tables, rfl⟩ := eq_map_mapping each
  have begun : ∃ start, startTable base = .ok start := by
    cases base with
    | none => exact ⟨[], rfl⟩
    | some document =>
        obtain ⟨fields, rfl⟩ := mapping document rfl
        rw [startTable]
        split
        · exact ⟨[], rfl⟩
        · exact ⟨fields, rfl⟩
  obtain ⟨start, begun⟩ := begun
  exact ⟨_, mergeFragments_eq_ok_iff.2 ⟨start, tables, begun, rfl, rfl⟩⟩

theorem emit_succeeds {fragments : List Document} {base : Option Document}
    (each : ∀ fragment ∈ fragments, ∃ fields, fragment = .mapping fields)
    (mapping : ∀ document, base = some document → ∃ fields, document = .mapping fields)
    (mode : OutputMode) : ∃ override, emit fragments base mode = .ok override := by
  obtain ⟨merged, merges⟩ := mergeFragments_succeeds each mapping
  cases mode with
  | object => exact ⟨merged, merges⟩
  | wrapped => exact ⟨.list [merged], emit_wrapped merges⟩
  | array => exact emit_array_succeeds merges mapping

/-!
## Compilation
-/

namespace Compiler

/-- The fragments that compiling a task goes through, none for a missing task. -/
def visited (compiler : Compiler) (selected : SelectedTask) : List Fragment :=
  match compiler.context? selected.taskName with
  | some context =>
    (walk context.registry selected.values [] context.task.options).filterMap Event.fragment?
  | none => []

variable {compiler : Compiler} {selected : SelectedTask} {context : TaskContext}

theorem visited_of_context (found : compiler.context? selected.taskName = some context) :
    compiler.visited selected
      = (walk context.registry selected.values [] context.task.options).filterMap
          Event.fragment? := by
  rw [visited, found]

theorem Loaded.visited_sound (loaded : compiler.Loaded) (texts : selected.values.TextValues) :
    ∀ fragment ∈ compiler.visited selected, fragment.Sound := by
  rw [visited]
  split
  · rename_i context found
    exact walk_sound (loaded.context_wellShaped found).registry texts context.task.options
  · intro fragment member
    cases member

theorem Loaded.fragments_outcome (loaded : compiler.Loaded)
    (found : compiler.context? selected.taskName = some context) :
    (fragments context selected.values).outcome
      = (renderFragments (compiler.visited selected)).outcome := by
  have shaped := loaded.context_wellShaped found
  have ids : RefersToIds context.registry context.task.options :=
    .of_wellShaped shaped.registry shaped.task
  rw [Compiler.fragments_outcome, resolve_outcome_of_refersToIds _ _ _ ids, Except.ok_bind,
    visited_of_context found]

/-- Without an integer out of range, compilation emits what can be kept of the fragments. -/
theorem Loaded.compile_outcome (loaded : compiler.Loaded) (texts : selected.values.TextValues)
    (found : compiler.context? selected.taskName = some context)
    (fits : ∀ fragment ∈ compiler.visited selected, ¬ fragment.Overflows)
    (requested : Option OutputMode) :
    (compiler.compile selected requested).outcome
      = emit ((compiler.visited selected).filterMap Fragment.kept?) context.task.override
          (compiler.outputMode context.builtin requested) := by
  rw [compile_outcome_of_context requested found, loaded.fragments_outcome found,
    renderFragments_outcome (loaded.visited_sound texts) fits, Except.ok_bind]

theorem Loaded.emit_kept_succeeds (loaded : compiler.Loaded)
    (texts : selected.values.TextValues)
    (found : compiler.context? selected.taskName = some context) (mode : OutputMode) :
    ∃ override, emit ((compiler.visited selected).filterMap Fragment.kept?)
      context.task.override mode = .ok override := by
  refine emit_succeeds (fun document member => ?_)
    (loaded.context_wellShaped found).task.mapping mode
  obtain ⟨fragment, isVisited, kept⟩ := List.mem_filterMap.1 member
  exact kept?_mapping (loaded.visited_sound texts fragment isVisited) kept

theorem Loaded.compile_outcome_of_overflows (loaded : compiler.Loaded)
    (texts : selected.values.TextValues)
    (overflows : ∃ fragment ∈ compiler.visited selected, fragment.Overflows)
    (requested : Option OutputMode) :
    (compiler.compile selected requested).outcome = .error .tooLarge := by
  cases found : compiler.context? selected.taskName with
  | none =>
      obtain ⟨_, member, _⟩ := overflows
      rw [visited, found] at member
      cases member
  | some context =>
      rw [compile_outcome_of_context requested found, loaded.fragments_outcome found,
        renderFragments_outcome_of_overflows (loaded.visited_sound texts) overflows,
        Except.error_bind]

end Compiler

/-- Compilation returns exactly if no fragment on the way overflows. Then it returns what is emitted
of the fragments that can be kept, so a value that does not fit its slot drops its fragment and
nothing else. -/
theorem compile_returns_iff {compiler : Compiler} (loaded : compiler.Loaded)
    {selected : SelectedTask}
    (read : ∃ document, (SelectedTask.ofDocument document).outcome = .ok selected)
    (requested : Option OutputMode) :
    ((∃ override, (compiler.compile selected requested).outcome = .ok override) ↔
        ∀ fragment ∈ compiler.visited selected, ¬ fragment.Overflows)
      ∧ ∀ context, compiler.context? selected.taskName = some context →
        (∀ fragment ∈ compiler.visited selected, ¬ fragment.Overflows) →
        (compiler.compile selected requested).outcome
          = emit ((compiler.visited selected).filterMap Fragment.kept?) context.task.override
              (compiler.outputMode context.builtin requested) := by
  obtain ⟨document, read⟩ := read
  have texts := SelectedTask.ofDocument_texts read
  refine ⟨⟨?_, ?_⟩, fun context found fits => loaded.compile_outcome texts found fits requested⟩
  · intro given fragment member overflows
    obtain ⟨override, returns⟩ := given
    have fails := loaded.compile_outcome_of_overflows texts ⟨fragment, member, overflows⟩ requested
    cases returns.symm.trans fails
  · intro fits
    cases found : compiler.context? selected.taskName with
    | none => exact ⟨_, Compiler.compile_outcome_of_missing requested found⟩
    | some context =>
        rw [loaded.compile_outcome texts found fits requested]
        exact loaded.emit_kept_succeeds texts found _

/-!
## The task that waits
-/

namespace Bundled

/-- A compiler for the bundled tasks alone. -/
def compiler : Compiler := ⟨none, catalog, {}⟩

theorem compiler_loaded : compiler.Loaded := by
  refine ⟨fun project isProject => ?_, .inl rfl⟩
  cases isProject

/-- The task that waits, with what was entered for the time. -/
def sleepDocument (raw : String) : Document :=
  .mapping [(.text "task_name", .text "__TASKDECK_SLEEP__"),
    (.text "option_values", .mapping [(.text "__TASKDECK_SLEEP_OPTION__", .mapping [
      (.text "kind", .text "input"),
      (.text "values", .mapping [(.text "sleep_time", .text raw)])])])]

/-- The selected task that is read from such a document. -/
def sleepSelected (raw : String) : SelectedTask where
  taskName := "__TASKDECK_SLEEP__"
  values := [(.text "__TASKDECK_SLEEP_OPTION__", .input [(.text "sleep_time", .text raw)])]

/-- The place of the option for the time. -/
def sleepSite : Site where
  id := .text "__TASKDECK_SLEEP_OPTION__"
  definition := .input {
    slots := [sleepSlot]
    override := some (parameters "TASKDECK_SLEEP" [("sleep_time", .text sleepSlot.placeholder)])
    label := .text "builtin.sleep.optionLabel"
    description := noText }

def sleepFragment (raw : String) : Fragment :=
  .template sleepSite.id
    (parameters "TASKDECK_SLEEP" [("sleep_time", .text sleepSlot.placeholder)])
    [sleepSlot] [(.text "sleep_time", .text raw)]

theorem visited_sleepSelected (raw : String) :
    compiler.visited (sleepSelected raw) = [sleepFragment raw] := by
  have found : compiler.context? (sleepSelected raw).taskName
      = some ⟨customTask "__TASKDECK_SLEEP__" "TASKDECK_SLEEP" "builtin.sleep.label"
          ["__TASKDECK_SLEEP_OPTION__"], options, true⟩ := rfl
  have references : (customTask "__TASKDECK_SLEEP__" "TASKDECK_SLEEP" "builtin.sleep.label"
      ["__TASKDECK_SLEEP_OPTION__"]).options = [.text "__TASKDECK_SLEEP_OPTION__"] := rfl
  have arrived : arrive? options [] (.text "__TASKDECK_SLEEP_OPTION__") = some sleepSite := rfl
  have entered : sleepSite.value (sleepSelected raw).values
      = .input [(.text "sleep_time", .text raw)] := by
    simp [Site.value, effectiveValue, sleepSelected, sleepSite, Table.lookup_cons,
      Scalar.same_self]
  have visited := visit_form (sleepSelected raw).values sleepSite rfl entered
  have nothingBelow := (visit_spec (sleepSelected raw).values sleepSite).2
  rw [visited] at nothingBelow
  rw [Compiler.visited_of_context found, references, walk_singleton arrived nothingBelow.symm,
    visited]
  rfl

theorem rawValues_sleepSlot (raw : String) :
    rawValues [sleepSlot] [(.text "sleep_time", .text raw)] = [(sleepSlot, .text raw)] := by
  have stays : (Document.text raw).orIfVoid (.text "") = .text raw := by
    rw [orIfVoid_text]
    split
    · rename_i empty
      rw [String.isEmpty_iff.1 empty]
    · rfl
  simp [rawValues, Slot.rawValue, sleepSlot, Table.get?, Table.lookup_cons,
    Document.isNull, stays]

theorem sleepFragment_overflows_iff (raw : String) :
    (sleepFragment raw).Overflows ↔ sleepSlot.Overflows raw := by
  have texts : TextValues [(.text "sleep_time", .text raw)] := fun entry member =>
    ⟨raw, List.mem_singleton.1 member ▸ rfl⟩
  have rawTexts := rawValues_texts texts [sleepSlot]
  have refused : failure? (coerce (.text raw) sleepSlot.type sleepSlot.name) = some .tooLarge
      ↔ sleepSlot.Overflows raw := coerce_failure?_tooLarge_iff
  rw [sleepFragment, ← fillTemplate_tooLarge_iff texts, ← failure?_eq_some_iff, fillTemplate,
    substitute_failure? rawTexts, ← refused]
  simp [rawValues_sleepSlot, parameters, Document.object, Document.leaves,
    Document.leavesOfFields, leafFailure?, wholeSlot?]

end Bundled

theorem sleep_returns :
    ∃ override, (Bundled.compiler.compile (Bundled.sleepSelected "30") none).outcome
      = .ok override := by
  have written : Json.read? Json.strict "30" = some (.int 30) := rfl
  have inRange : Decimal.Binary64.overflows 30 = false := by decide +kernel
  have fits : ¬ (Bundled.sleepFragment "30").Overflows := by
    rw [Bundled.sleepFragment_overflows_iff]
    intro given
    obtain ⟨_, n, written', large⟩ := given
    cases written.symm.trans written'
    rw [inRange] at large
    cases large
  refine (compile_returns_iff Bundled.compiler_loaded
    ⟨Bundled.sleepDocument "30", by rfl⟩ none).1.2 fun fragment member => ?_
  rw [Bundled.visited_sleepSelected, List.mem_singleton] at member
  rw [member]
  exact fits

/-- An integer just beyond the range of floating-point numbers. -/
def hugeTime : String := String.ofList ('1' :: List.replicate 309 '0')

/-- Waiting for so long does not compile at all, in any mode. -/
theorem sleep_fails_on_hugeTime :
    Bundled.compiler.Loaded
      ∧ (SelectedTask.ofDocument (Bundled.sleepDocument hugeTime)).outcome
        = .ok (Bundled.sleepSelected hugeTime)
      ∧ ∀ requested, (Bundled.compiler.compile (Bundled.sleepSelected hugeTime) requested).outcome
        = .error .tooLarge := by
  have read : (SelectedTask.ofDocument (Bundled.sleepDocument hugeTime)).outcome
      = .ok (Bundled.sleepSelected hugeTime) := by rfl
  have inRange : 309 < Json.maxDigits := by decide
  have large : ∃ n, Json.read? Json.strict hugeTime = some (.int n)
      ∧ Decimal.Binary64.overflows n = true :=
    ⟨_, Json.read?_one_zeros inRange, by decide +kernel⟩
  have overflows : (Bundled.sleepFragment hugeTime).Overflows :=
    (Bundled.sleepFragment_overflows_iff hugeTime).2 ⟨rfl, large⟩
  refine ⟨Bundled.compiler_loaded, read, fun requested => ?_⟩
  refine Bundled.compiler_loaded.compile_outcome_of_overflows
    (SelectedTask.ofDocument_texts read) ⟨_, ?_, overflows⟩ requested
  rw [Bundled.visited_sleepSelected]
  exact .head _

end PipelineOverride
