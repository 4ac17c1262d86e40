import PipelineOverride.Proofs.Compilation.Containment
import PipelineOverride.Proofs.Compilation.Returns
import PipelineOverride.Proofs.Resolution.Steering
import PipelineOverride.Proofs.Validation.Parts

/-!
# Tasks told apart by their overrides

Two tasks of different names can be told apart by what they compile to, whatever is selected for
their options. A name that is not built in gets a project with a task that has an override of its
own. Two built-in tasks have overrides of different entries; both could only fail to compile alike
if both waited for a time.
-/

set_option autoImplicit false

namespace PipelineOverride

/-- Compiling returns, or it fails since an integer is out of range. -/
theorem Compiler.Loaded.compile_cases {compiler : Compiler} (loaded : compiler.Loaded)
    {selected : SelectedTask} (texts : selected.values.TextValues)
    (requested : Option OutputMode) :
    (∃ document, (compiler.compile selected requested).outcome = .ok document)
      ∨ (compiler.compile selected requested).outcome = .error .tooLarge := by
  cases found : compiler.context? selected.taskName with
  | none => exact .inl ⟨_, compile_outcome_of_missing requested found⟩
  | some context =>
      by_cases overflows : ∃ fragment ∈ compiler.visited selected, fragment.Overflows
      · exact .inr (loaded.compile_outcome_of_overflows texts overflows requested)
      · have fits : ∀ fragment ∈ compiler.visited selected, ¬ fragment.Overflows :=
          fun fragment member large => overflows ⟨fragment, member, large⟩
        rw [loaded.compile_outcome texts found fits requested]
        exact .inl (loaded.emit_kept_succeeds texts found _)

/-!
## Entries of overrides
-/

/-- Merging keeps the keys that are there in front. -/
theorem keys_prefix_mergeFields (target source : Table Document) :
    target.keys <+: (mergeFields target source).keys := by
  induction source generalizing target with
  | nil => simp [mergeFields]
  | cons field rest ih =>
      rw [mergeFields]
      refine List.IsPrefix.trans ?_ (ih _)
      rw [Table.keys_insert]
      exact List.prefix_append _ _

theorem keys_prefix_foldl (start : Table Document) (tables : List (Table Document)) :
    start.keys <+: (tables.foldl mergeFields start).keys := by
  induction tables generalizing start with
  | nil => exact List.prefix_rfl
  | cons table rest ih => exact (keys_prefix_mergeFields start table).trans (ih _)

/-- A merged override has the keys of its base in front. -/
theorem keys_prefix_emit {fragments : List Document} {fields : Table Document}
    {document : Document} (isGiven : fields ≠ [])
    (emitted : emit fragments (some (.mapping fields)) .object = .ok document) :
    ∃ merged, document = .mapping merged ∧ fields.keys <+: Table.keys merged := by
  rw [emit] at emitted
  obtain ⟨start, tables, begun, _, rfl⟩ := mergeFragments_eq_ok_iff.1 emitted
  have notVoid : (Document.mapping fields).isVoid = false := by
    simpa [Document.isVoid] using isGiven
  rw [startTable, notVoid] at begun
  cases begun
  exact ⟨_, rfl, keys_prefix_foldl fields tables⟩

namespace Bundled

/-- The built-in tasks with the entries of their overrides. -/
def entries : List (String × String) :=
  [("__TASKDECK_SLEEP__", "TASKDECK_SLEEP"), ("__TASKDECK_LAUNCH__", "TASKDECK_LAUNCH"),
    ("__TASKDECK_WEBHOOK__", "TASKDECK_WEBHOOK")]

theorem entries_inj {name other entry : String} (first : (name, entry) ∈ entries)
    (second : (other, entry) ∈ entries) : name = other := by
  simp only [entries, List.mem_cons, Prod.mk.injEq, List.not_mem_nil, or_false] at first second
  grind

variable {name : String} {task : Task} {project : Option Project} {settings : Settings}
  {selected : SelectedTask} {document : Document}

theorem task?_eq_customTask (found : catalog.task? name = some task) :
    ∃ entry label options, (name, entry) ∈ entries
      ∧ task = customTask name entry label options := by
  rw [Catalog.task?] at found
  have named : task.name = name := by simpa using List.find?_some found
  have member : task ∈ Bundled.project.tasks := List.mem_of_find?_eq_some found
  simp only [Bundled.project, List.mem_cons, List.not_mem_nil, or_false] at member
  rcases member with rfl | rfl | rfl <;> obtain rfl := named
  · exact ⟨_, _, _, .head _, rfl⟩
  · exact ⟨_, _, _, .tail _ (.head _), rfl⟩
  · exact ⟨_, _, _, .tail _ (.tail _ (.head _)), rfl⟩

/-- The override of a built-in task has the entry of that task in front. -/
theorem compiled_entry (found : catalog.task? selected.taskName = some task)
    (returns : (Compiler.compile ⟨project, catalog, settings⟩ selected (some .object)).outcome
      = .ok document) :
    ∃ entry merged, (selected.taskName, entry) ∈ entries ∧ document = .mapping merged
      ∧ [Scalar.text entry] <+: Table.keys merged := by
  obtain ⟨entry, label, options, isEntry, rfl⟩ := task?_eq_customTask found
  rw [Compiler.compile_outcome_of_context _ (Compiler.context?_of_builtin found),
    Except.bind_eq_ok_iff] at returns
  obtain ⟨rendered, _, emitted⟩ := returns
  obtain ⟨merged, isMerged, keys⟩ := keys_prefix_emit (List.cons_ne_nil _ _) emitted
  exact ⟨entry, merged, isEntry, isMerged, keys⟩

/-- Of the bundled options only the time to wait is an integer. -/
theorem options_textual : ∀ entry ∈ options, entry.1 = sleepSite.id
    ∨ ∀ form, entry.2 = .input form → ∀ slot ∈ form.slots, slot.type = .string := by
  intro entry member
  simp only [options, List.mem_cons, List.not_mem_nil, or_false] at member
  rcases member with rfl | rfl | rfl | rfl
  · exact .inl rfl
  · refine .inr fun form isForm => ?_
    cases isForm
    simp [textSlot]
  · refine .inr fun form isForm => ?_
    cases isForm
  · refine .inr fun form isForm => ?_
    cases isForm
    simp [textSlot]

/-- None of the bundled options leads to others. -/
theorem reachable_listed {references : List Document} {id : Scalar}
    (reachable : Reachable options references id) :
    ∃ reference ∈ references, reference.scalar? = some id := by
  cases reachable with
  | listed member isId => exact ⟨_, member, isId⟩
  | nested _ found member _ =>
      have nothing : ∀ entry ∈ options, entry.2.references = [] := by
        simp only [options, List.forall_mem_cons]
        exact ⟨rfl, rfl, rfl, rfl, List.forall_mem_nil _⟩
      obtain ⟨key, isEntry, _⟩ := Table.mem_of_lookup found
      rw [nothing _ isEntry] at member
      cases member

theorem listed_ne_sleepSite (found : catalog.task? name = some task)
    (other : name ≠ "__TASKDECK_SLEEP__") {reference : Document}
    (member : reference ∈ task.options) : reference.scalar? ≠ some sleepSite.id := by
  rw [Catalog.task?] at found
  have named : task.name = name := by simpa using List.find?_some found
  have isTask : task ∈ Bundled.project.tasks := List.mem_of_find?_eq_some found
  simp only [Bundled.project, List.mem_cons, List.not_mem_nil, or_false] at isTask
  rcases isTask with rfl | rfl | rfl
  · exact absurd named.symm other
  · simp only [customTask, List.map_cons, List.map_nil, List.mem_cons, List.not_mem_nil,
      or_false] at member
    rcases member with rfl | rfl <;> decide
  · simp only [customTask, List.map_cons, List.map_nil, List.mem_cons, List.not_mem_nil,
      or_false] at member
    subst member
    decide

end Bundled

/-- A fragment of an option without an integer slot fits. -/
theorem Site.not_overflows_of_textual {selections : SelectionStore} {site : Site}
    {fragment : Fragment} (isOwn : site.fragment? selections = some fragment)
    (textual : ∀ form, site.definition = .input form → ∀ slot ∈ form.slots, slot.type = .string) :
    ¬ fragment.Overflows := by
  intro overflows
  rw [Site.fragment?] at isOwn
  split at isOwn
  · rename_i form values isForm _
    obtain ⟨body, _, rfl⟩ := Option.map_eq_some_iff.1 isOwn
    cases overflows with
    | @template _ _ _ _ _ _ _ _ slot _ _ whole isLarge =>
        obtain ⟨declared, member, same⟩ := List.mem_map.1 (List.mem_of_find?_eq_some whole)
        obtain rfl : declared = slot := congrArg Prod.fst same
        cases (textual form isForm declared member).symm.trans isLarge.1
  · obtain ⟨branch, _, isBranch⟩ := Option.bind_eq_some_iff.1 isOwn
    obtain ⟨payload, _, rfl⟩ := Option.map_eq_some_iff.1 isBranch
    cases overflows

namespace Bundled

variable {name : String} {task : Task} {settings : Settings} {selected : SelectedTask}

/-- A built-in task other than the one that waits compiles, whatever is entered. -/
theorem compile_succeeds (found : catalog.task? selected.taskName = some task)
    (other : selected.taskName ≠ "__TASKDECK_SLEEP__") (texts : selected.values.TextValues)
    (requested : Option OutputMode) :
    ∃ document, (Compiler.compile ⟨none, catalog, settings⟩ selected requested).outcome
      = .ok document := by
  have loaded : Compiler.Loaded ⟨none, catalog, settings⟩ := ⟨nofun, .inl rfl⟩
  have context : Compiler.context? ⟨none, catalog, settings⟩ selected.taskName
      = some ⟨task, options, true⟩ := Compiler.context?_of_builtin found
  have fits : ∀ fragment ∈ Compiler.visited ⟨none, catalog, settings⟩ selected,
      ¬ fragment.Overflows := by
    intro fragment member
    rw [Compiler.visited_of_context context] at member
    obtain ⟨position, trail, site, admissible, isLast, isOwn⟩ := mem_fragments_iff.1 member
    obtain ⟨reachable, defined⟩ :=
      reachable_of_mem_trail admissible.leads site (List.mem_of_getLast? isLast)
    obtain ⟨reference, listed, isId⟩ := reachable_listed reachable
    obtain ⟨key, isEntry, same⟩ := Table.mem_of_lookup defined
    refine Site.not_overflows_of_textual isOwn ((options_textual _ isEntry).resolve_left ?_)
    rintro rfl
    rw [Scalar.eq_text_of_same same] at isId
    exact listed_ne_sleepSite found other listed isId
  rw [loaded.compile_outcome texts context fits requested]
  exact loaded.emit_kept_succeeds texts context _

end Bundled

/-!
## A project for a name
-/

/-- The declaration of a task with an override and nothing else. -/
def soloTaskDocument (name : String) : Document :=
  .object [("name", .text name), ("pipeline_override", .object [("own", .bool true)])]

/-- The task that is read from it. -/
def soloTask (name : String) : Task where
  name := name
  options := []
  override := some (.object [("own", .bool true)])
  entry := noText
  label := noText
  description := noText
  defaultCheck := false
  resource := []
  controller := []

/-- The project of that task alone. -/
def soloProject (name : String) : Project where
  name := noText
  version := ""
  tasks := [soloTask name]
  options := []

/-- A field that is missing has every shape. -/
theorem Schema.meets_of_absent {shape : Schema} {fields : Table Document} {key : String}
    (absent : fields.get? key = none) (value : Document) (found : fields.get? key = some value) :
    shape.Meets value := by
  rw [absent] at found
  cases found

theorem soloProject_accepted {name : String} (nonempty : name ≠ "") :
    (Project.checked (.object [("task", .list [soloTaskDocument name])]) "project").outcome
      = .ok (soloProject name) := by
  have nameFits : ProjectSchema.name.Meets (.text name) := by
    refine Schema.meets_all.2 ?_
    simpa [ProjectSchema.string, Schema.meets_kinds, Schema.meets_nonEmpty, ValueKind.admits]
      using nonempty
  have taskFits : ProjectSchema.task.Meets (soloTaskDocument name) := by
    simp only [ProjectSchema.task, Schema.meets_all, List.forall_mem_cons]
    refine ⟨by rfl, Schema.meets_fields.2 ?_, Schema.meets_requiredAny.2 ⟨"name", .head _, _, rfl⟩,
      List.forall_mem_nil _⟩
    simp only [List.forall_mem_cons]
    refine ⟨fun value found => ?_, Schema.meets_of_absent rfl, Schema.meets_of_absent rfl,
      Schema.meets_of_absent rfl, Schema.meets_of_absent rfl, Schema.meets_of_absent rfl,
      Schema.meets_of_absent rfl, fun value found => ?_, List.forall_mem_nil _⟩
    · cases found
      exact nameFits
    · cases found
      rfl
  have fits : ProjectSchema.project.Meets (.object [("task", .list [soloTaskDocument name])]) := by
    refine meets_project_iff.2 ⟨by rfl, fun given found => ?_, fun given found => ?_⟩
    · cases found
      exact ⟨_, rfl, List.forall_mem_singleton.2 taskFits⟩
    · cases found
  have task : Task.ofDocument (soloTaskDocument name) = .ok (soloTask name) := by
    rw [Task.ofDocument]
    show (if (Document.text name).isVoid then _ else _) = _
    rw [isVoid_text_of_ne nonempty]
    rfl
  have read : Project.ofDocument (.object [("task", .list [soloTaskDocument name])])
      = .ok (soloProject name) := by
    rw [Project.ofDocument]
    show ([soloTaskDocument name].mapM Task.ofDocument >>= _) = _
    rw [List.mapM_cons, task]
    rfl
  exact Project.checked_eq_ok_iff.2 ⟨accepted_iff.2 ⟨fits, _, by rfl, by rfl⟩, read⟩

section

variable {name : String} {selected other : SelectedTask} {settings : Settings}

open Bundled (catalog)

theorem soloProject_compiles_own (free : catalog.task? selected.taskName = none) :
    (Compiler.compile ⟨some (soloProject selected.taskName), catalog, settings⟩ selected
      (some .object)).outcome = .ok (.object [("own", .bool true)]) := by
  have context : Compiler.context? ⟨some (soloProject selected.taskName), catalog, settings⟩
      selected.taskName = some ⟨soloTask selected.taskName, [], false⟩ := by
    have isOwn : (soloProject selected.taskName).task? selected.taskName
        = some (soloTask selected.taskName) := List.find?_cons_of_pos (by simp [soloTask])
    rw [Compiler.context?_of_free rfl free, isOwn]
    rfl
  rw [Compiler.compile_outcome_of_context _ context, Compiler.fragments_outcome, resolve]
  show ((Event.report (walk [] selected.values [] [])).outcome >>= _) >>= _ = _
  rw [walk_nil]
  rfl

theorem soloProject_compiles_no_other (differs : selected.taskName ≠ name) :
    (Compiler.compile ⟨some (soloProject name), catalog, settings⟩ selected
      (some .object)).outcome ≠ .ok (.object [("own", .bool true)]) := by
  intro same
  cases found : catalog.task? selected.taskName with
  | none =>
      have missing : Compiler.context? ⟨some (soloProject name), catalog, settings⟩
          selected.taskName = none := by
        have isNone : (soloProject name).task? selected.taskName = none :=
          List.find?_eq_none.2 fun task member => by
            rw [List.mem_singleton.1 member]
            exact fun isOwn => differs (of_decide_eq_true isOwn).symm
        rw [Compiler.context?_of_free rfl found, isNone]
        rfl
      rw [Compiler.compile_outcome_of_missing _ missing] at same
      cases same
  | some task =>
      obtain ⟨entry, merged, isEntry, isMerged, keys⟩ := Bundled.compiled_entry found same
      cases isMerged
      obtain ⟨_, ends⟩ := keys
      cases ends
      exact absurd isEntry (by simp [Bundled.entries])

/-- Whatever is entered, two tasks of different names differ in what they compile to beside some
accepted project or none. -/
theorem names_told_apart (texts : selected.values.TextValues) (others : other.values.TextValues)
    (named : selected.taskName ≠ "") (differs : selected.taskName ≠ other.taskName) :
    ∃ project, ∀ settings, Compiler.Loaded ⟨project, catalog, settings⟩
      ∧ (Compiler.compile ⟨project, catalog, settings⟩ selected (some .object)).outcome
        ≠ (Compiler.compile ⟨project, catalog, settings⟩ other (some .object)).outcome := by
  cases found : catalog.task? selected.taskName with
  | none =>
      refine ⟨some (soloProject selected.taskName), fun settings => ⟨⟨?_, .inl rfl⟩, ?_⟩⟩
      · intro project isProject
        cases isProject
        exact ⟨_, _, soloProject_accepted named⟩
      · rw [soloProject_compiles_own found]
        exact (soloProject_compiles_no_other differs.symm).symm
  | some task =>
      cases otherFound : catalog.task? other.taskName with
      | none =>
          refine ⟨none, fun settings => ⟨⟨nofun, .inl rfl⟩, fun same => ?_⟩⟩
          have missing : Compiler.context? ⟨none, catalog, settings⟩ other.taskName = none := by
            rw [Compiler.context?, otherFound]
            rfl
          rw [Compiler.compile_outcome_of_missing _ missing] at same
          obtain ⟨_, _, _, isMerged, _⟩ := Bundled.compiled_entry found same
          cases isMerged
      | some otherTask =>
          refine ⟨none, fun settings => ⟨⟨nofun, .inl rfl⟩, fun same => ?_⟩⟩
          -- At most one of the two waits for a time, and the other one compiles.
          obtain ⟨document, returns⟩ : ∃ document, (Compiler.compile ⟨none, catalog, settings⟩
              selected (some .object)).outcome = .ok document := by
            by_cases waits : selected.taskName = "__TASKDECK_SLEEP__"
            · rw [same]
              exact Bundled.compile_succeeds otherFound (waits ▸ differs.symm) others _
            · exact Bundled.compile_succeeds found waits texts _
          obtain ⟨entry, merged, isEntry, rfl, keys⟩ := Bundled.compiled_entry found returns
          obtain ⟨otherEntry, _, isOtherEntry, isMerged, otherKeys⟩ :=
            Bundled.compiled_entry otherFound (same ▸ returns)
          cases isMerged
          have alike := List.prefix_of_prefix_length_le keys otherKeys le_rfl
          obtain rfl : entry = otherEntry := by simpa using alike
          exact differs (Bundled.entries_inj isEntry isOtherEntry)

end

end PipelineOverride
