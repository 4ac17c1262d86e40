import Mathlib
import PipelineOverride.CommandLine.Run
import PipelineOverride.Proofs.CommandLine.Names
import PipelineOverride.Proofs.Session.Stability

/-!
# Two spellings of a selected task

A selections file may write the keys of a selected task in camel case or with underscores. The
option values are read alike. The name of the task is not: a name from the command line is filled in
wherever the key with the underscore is missing, and it is then preferred to a name in camel case.
-/

set_option autoImplicit false

namespace PipelineOverride

variable {fields : Table Document} {name values : Document}

/-- A key of a selected task in camel case, with underscores instead. -/
def underscoredName (s : String) : String :=
  if s = "taskName" then "task_name" else if s = "optionValues" then "option_values" else s

def underscoredKey : Scalar → Scalar
  | .text s => .text (underscoredName s)
  | key => key

/-- A selected task whose name and option values are renamed to have underscores. -/
def underscored (fields : Table Document) : Table Document :=
  fields.map fun field => (underscoredKey field.1, field.2)

/-- The name and the option values are written in camel case and not with underscores as well. -/
structure CamelCase (fields : Table Document) (name values : Document) : Prop where
  name : fields.get? "taskName" = some name
  values : fields.get? "optionValues" = some values
  noName : fields.get? "task_name" = none
  noValues : fields.get? "option_values" = none

/-- Reads the fields of a selected task in camel case, with a name for it. -/
def SelectedTask.named (name : Document) (fields : Table Document) : Report SelectedTask :=
  if name.isVoid then Report.fail .namelessSelection
  else do
    let values ← SelectionStore.ofDocument (fields.getD "optionValues" .null)
    return {
      taskName := name.display
      values := values
      id := (fields.getD "id" noText).display
      customName := fields.getD "custom_name" (fields.getD "customName" .null)
      enabled := !(fields.getD "enabled" (.bool true)).isVoid }

/-!
## Renamed keys
-/

theorem Table.lookup_map_key {α : Type} {table : Table α} {f : Scalar → Scalar}
    {key wanted : Scalar} (follows : ∀ entry ∈ table, (f entry.1).same key = entry.1.same wanted) :
    lookup (table.map fun entry => (f entry.1, entry.2)) key = lookup table wanted := by
  induction table with
  | nil => rfl
  | cons entry rest ih =>
      rw [List.map_cons, lookup_cons, follows entry (.head _), lookup_cons,
        ih fun later member => follows later (.tail _ member)]

theorem get?_underscored (camel : CamelCase fields name values) {key wanted : String}
    (follows : ∀ s, s ≠ "task_name" → s ≠ "option_values" →
      (underscoredName s = key ↔ s = wanted)) :
    Table.get? (underscored fields) key = fields.get? wanted := by
  refine Table.lookup_map_key fun entry member => ?_
  have noName := Table.lookup_eq_none_iff.1 camel.noName entry member
  have noValues := Table.lookup_eq_none_iff.1 camel.noValues entry member
  cases isKey : entry.1 with
  | text s =>
      rw [isKey, Scalar.same_text] at noName noValues
      rw [underscoredKey, Bool.eq_iff_iff, Scalar.same_text, Scalar.same_text]
      exact follows s noName noValues
  | _ =>
      refine Bool.eq_iff_iff.2 ⟨fun same => ?_, fun same => ?_⟩
      · cases Scalar.eq_text_of_same (Scalar.same_symm same)
      · cases Scalar.eq_text_of_same (Scalar.same_symm same)

/-!
## Which name is read
-/

theorem ofDocument_eq_named {table : Table Document}
    (isName : table.getD "task_name" (table.getD "taskName" .null) = name)
    (isValues : table.getD "option_values" (table.getD "optionValues" .null)
      = fields.getD "optionValues" .null)
    (others : ∀ key ∈ ["id", "custom_name", "customName", "enabled"],
      table.get? key = fields.get? key) :
    SelectedTask.ofDocument (.mapping table) = SelectedTask.named name fields := by
  simp only [List.forall_mem_cons] at others
  obtain ⟨id, customName, customNameToo, enabled, _⟩ := others
  rw [SelectedTask.ofDocument]
  show (if (table.getD "task_name" (table.getD "taskName" .null)).isVoid then _ else _) = _
  simp only [isName, isValues]
  simp only [SelectedTask.named, Table.getD, id, customName, customNameToo, enabled]

/-- In camel case a name from the command line is filled in, whatever name the file gives. -/
theorem selectedOfFields_camelCase (camel : CamelCase fields name values) (task : String) :
    selectedOfFields fields task = SelectedTask.named (.text task) fields := by
  have filled : ∀ key, Table.get? (Table.insert fields (.text "task_name") (.text task)) key
      = if "task_name" = key then some (.text task) else fields.get? key := by
    intro key
    rw [Table.get?, Table.lookup_insert]
    simp only [Scalar.same_text]
    rfl
  rw [selectedOfFields, camel.noName, camel.noValues, camel.values]
  show SelectedTask.ofDocument (.mapping (Table.insert fields _ _)) = _
  refine ofDocument_eq_named ?_ ?_ fun key member => ?_
  · rw [Table.getD, filled, if_pos rfl, Option.getD_some]
  · simp only [Table.getD, filled, camel.noValues]
    rfl
  · have differs : "task_name" ≠ key := by
      rintro rfl
      exact absurd member (by decide)
    rw [filled, if_neg differs]

/-- With underscores the file's own name is read. -/
theorem selectedOfFields_underscored (camel : CamelCase fields name values) (task : String) :
    selectedOfFields (underscored fields) task = SelectedTask.named name fields := by
  have isName : Table.get? (underscored fields) "task_name" = some name :=
    camel.name ▸ get?_underscored camel (by grind [underscoredName])
  have isValues : Table.get? (underscored fields) "option_values" = some values :=
    camel.values ▸ get?_underscored camel (by grind [underscoredName])
  rw [selectedOfFields, isName, isValues]
  show SelectedTask.ofDocument (.mapping (underscored fields)) = _
  refine ofDocument_eq_named ?_ ?_ fun key member => ?_
  · rw [Table.getD, isName, Option.getD_some]
  · rw [Table.getD, isValues, Option.getD_some, Table.getD, camel.values, Option.getD_some]
  · refine get?_underscored camel fun s notName notValues => ?_
    simp only [List.mem_cons, List.not_mem_nil, or_false] at member
    rcases member with rfl | rfl | rfl | rfl <;> grind [underscoredName]

/-!
## When the spelling does not matter
-/

/-- A name that a file gives is the one from the command line, or there is none in either place. -/
def SameName (name : Document) (task : String) : Prop :=
  if name.isVoid then task = "" else task ≠ "" ∧ name.display = task

/-- The override for the fields of a selections file, as it is before it is printed. -/
def Command.override (environment : Environment) (cache : Cache) (project : Option Project)
    (fields : Table Document) (task : String) (mode : Option OutputMode) : Report Document := do
  let selected ← selectedOfFields fields task
  let (notices, compiler, _) := cache.compiler environment project none none
  ⟨notices, .ok ()⟩
  compiler.compile selected mode

theorem SelectedTask.named_congr {task : String} (same : SameName name task)
    (fields : Table Document) : named (.text task) fields = named name fields := by
  rw [SameName] at same
  have display : (Document.text task).display = task := rfl
  split at same
  · rename_i isVoid
    subst same
    rw [named, named, isVoid]
    rfl
  · rename_i notVoid
    obtain ⟨isTask, isName⟩ := same
    rw [named, named, isVoid_text_of_ne isTask, Bool.eq_false_iff.2 notVoid, display, isName]

theorem SelectionStore.ofDocument_returns (document : Document) :
    ∃ store, (SelectionStore.ofDocument document).outcome = .ok store := by
  rw [SelectionStore.ofDocument]
  split
  · exact ⟨_, rfl⟩
  · split <;> exact ⟨_, rfl⟩

/-- With a name a task is always read, and all that is entered for its options are texts. -/
theorem SelectedTask.named_returns (isNamed : name.isVoid = false) (fields : Table Document) :
    ∃ selected, (named name fields).outcome = .ok selected ∧ selected.taskName = name.display
      ∧ selected.values.TextValues := by
  obtain ⟨store, read⟩ :=
    SelectionStore.ofDocument_returns (fields.getD "optionValues" .null)
  rw [named, isNamed, if_neg Bool.false_ne_true, Report.outcome_bind, read, Except.ok_bind]
  exact ⟨_, rfl, rfl, SelectionStore.ofDocument_texts read⟩

theorem SelectedTask.named_fails (isVoid : name.isVoid = true) (fields : Table Document) :
    (named name fields).outcome = .error .namelessSelection := by
  rw [named, if_pos isVoid]
  rfl

namespace Command

variable {environment : Environment} {cache : Cache} {project : Option Project} {task : String}
  {mode : Option OutputMode}

theorem override_outcome :
    (override environment cache project fields task mode).outcome
      = (selectedOfFields fields task).outcome >>= fun selected =>
        (Compiler.compile ⟨project, Bundled.catalog, cache.inForce environment⟩ selected
          mode).outcome := by
  simp only [override, Report.outcome_bind, Cache.compiler_compiler]
  rfl

/-- A run that reads the fields of a file goes on with what they select. -/
theorem runCompile_of_file {tree : FileTree} {given : Option String} {file : String}
    (read : readSelectionsFile tree (.ofText file) = .ok fields) (pretty : Bool) :
    runCompile environment cache tree given task (some file) mode pretty
      = readGivenProject tree given >>= fun project =>
        override environment cache project fields task mode >>= fun document =>
          match if pretty then Json.indented? document else Json.compact? document with
          | some s => .done (s ++ "\n", 0)
          | none => Report.fail .wrongKind := by
  have selected : readSelected tree (some file) task = selectedOfFields fields task := by
    rw [readSelected, read]
    exact Report.done_bind _ _
  rw [runCompile, selected]
  simp only [override, Report.bind_assoc]
  rfl

/-- Without a project a run prints what the fields of a file select. -/
theorem runCompile_prints {tree : FileTree} {file s : String} {document : Document}
    (read : readSelectionsFile tree (.ofText file) = .ok fields)
    (compiles : (override environment cache none fields task mode).outcome = .ok document)
    (written : Json.compact? document = some s) :
    (runCompile environment cache tree none task (some file) mode false).outcome
      = .ok (s ++ "\n", 0) := by
  rw [runCompile_of_file read, readGivenProject, Report.done_bind, Report.outcome_bind, compiles,
    Except.ok_bind, if_neg Bool.false_ne_true, written]
  rfl

end Command

/-- Names that are not the same select different overrides for some project. -/
theorem exists_override_ne {task : String} (camel : CamelCase fields name values)
    (differs : ¬ SameName name task) (environment : Environment) (cache : Cache) :
    ∃ project, (cache.compiler environment project none none).2.1.Loaded
      ∧ (Command.override environment cache project fields task (some .object)).outcome
        ≠ (Command.override environment cache project (underscored fields) task
          (some .object)).outcome := by
  have loadedAlone : (cache.compiler environment none none none).2.1.Loaded := by
    rw [Cache.compiler_compiler]
    exact ⟨nofun, .inl rfl⟩
  have fails : ∀ selected : SelectedTask, selected.values.TextValues →
      (Compiler.compile ⟨none, Bundled.catalog, cache.inForce environment⟩ selected
        (some .object)).outcome ≠ .error .namelessSelection := by
    intro selected texts same
    have loaded : Compiler.Loaded ⟨none, Bundled.catalog, cache.inForce environment⟩ :=
      ⟨nofun, .inl rfl⟩
    rcases loaded.compile_cases texts (some .object) with ⟨_, returns⟩ | tooLarge
    · cases same.symm.trans returns
    · cases same.symm.trans tooLarge
  simp only [Command.override_outcome, selectedOfFields_camelCase camel,
    selectedOfFields_underscored camel]
  cases isVoid : name.isVoid with
  | true =>
      rw [SameName, if_pos isVoid] at differs
      obtain ⟨selected, read, _, texts⟩ :=
        SelectedTask.named_returns (isVoid_text_of_ne differs) fields
      refine ⟨none, loadedAlone, ?_⟩
      rw [read, SelectedTask.named_fails isVoid]
      exact fails selected texts
  | false =>
      obtain ⟨other, readOther, isOther, otherTexts⟩ := SelectedTask.named_returns isVoid fields
      by_cases isTask : task = ""
      · have taskVoid : (Document.text task).isVoid = true := by
          simp [isTask, Document.isVoid]
        refine ⟨none, loadedAlone, ?_⟩
        rw [readOther, SelectedTask.named_fails taskVoid]
        exact (fails other otherTexts).symm
      · obtain ⟨selected, read, isSelected, texts⟩ :=
          SelectedTask.named_returns (isVoid_text_of_ne isTask) fields
        have isName : selected.taskName = task := isSelected
        have apart : selected.taskName ≠ other.taskName := by
          rw [isName, isOther]
          intro same
          rw [SameName, isVoid] at differs
          exact differs ⟨isTask, same.symm⟩
        obtain ⟨project, told⟩ := names_told_apart texts otherTexts (isName ▸ isTask) apart
        obtain ⟨loaded, outcomes⟩ := told (cache.inForce environment)
        refine ⟨project, by rwa [Cache.compiler_compiler], ?_⟩
        rw [read, readOther]
        exact outcomes

/-- A document in camel case and the same document with underscores select one override, for every
project that was accepted and under all settings, exactly if the document gives the name of the
command line. Then runs print the same, however they read the two documents. -/
theorem spellings_alike_iff (camel : CamelCase fields name values) (task : String) :
    ((∀ environment cache project mode,
        (cache.compiler environment project none none).2.1.Loaded →
        (Command.override environment cache project fields task mode).outcome
          = (Command.override environment cache project (underscored fields) task mode).outcome)
      ↔ SameName name task)
    ∧ (SameName name task → ∀ environment cache tree project mode pretty file renamed,
      readSelectionsFile tree (.ofText file) = .ok fields →
      readSelectionsFile tree (.ofText renamed) = .ok (underscored fields) →
      Command.runCompile environment cache tree project task (some file) mode pretty
        = Command.runCompile environment cache tree project task (some renamed) mode pretty) := by
  have alike : SameName name task →
      selectedOfFields fields task = selectedOfFields (underscored fields) task := by
    intro same
    rw [selectedOfFields_camelCase camel, selectedOfFields_underscored camel,
      SelectedTask.named_congr same]
  refine ⟨⟨fun agree => ?_, fun same environment cache project mode _ => ?_⟩, ?_⟩
  · by_contra differs
    obtain ⟨project, loaded, apart⟩ := exists_override_ne camel differs {} {}
    exact apart (agree {} {} project (some .object) loaded)
  · rw [Command.override_outcome, Command.override_outcome, alike same]
  · intro same environment cache tree project mode pretty file renamed readFile readRenamed
    have selects : ∀ project, Command.override environment cache project fields task mode
        = Command.override environment cache project (underscored fields) task mode := by
      intro project
      rw [Command.override, Command.override, alike same]
    simp only [Command.runCompile_of_file readFile, Command.runCompile_of_file readRenamed,
      selects]

/-!
## A web address
-/

open Bundled (catalog customTask parameters textSlot)

/-- A selections file that asks for the built-in task that calls a web address. -/
def webhookFields : Table Document :=
  [(.text "taskName", .text "__TASKDECK_WEBHOOK__"), (.text "optionValues", .mapping [])]

theorem webhookFields_camelCase :
    CamelCase webhookFields (.text "__TASKDECK_WEBHOOK__") (.mapping []) :=
  ⟨rfl, rfl, rfl, rfl⟩

/-- The override of that task without an address. -/
def webhookOverride : Document :=
  .object [("TASKDECK_WEBHOOK", .object [("action", .text "Custom"),
    ("custom_action", .text "TASKDECK_WEBHOOK_ACTION"),
    ("custom_action_param", .object [("url", .text "")])])]

theorem webhook_compiles :
    (Compiler.compile ⟨none, catalog, {}⟩ { taskName := "__TASKDECK_WEBHOOK__" } none).outcome
      = .ok webhookOverride := by
  have found : Compiler.context? ⟨none, catalog, {}⟩ "__TASKDECK_WEBHOOK__"
      = some ⟨customTask "__TASKDECK_WEBHOOK__" "TASKDECK_WEBHOOK" "builtin.webhook.label"
          ["__TASKDECK_WEBHOOK_OPTION__"], Bundled.options, true⟩ := rfl
  have references : (customTask "__TASKDECK_WEBHOOK__" "TASKDECK_WEBHOOK" "builtin.webhook.label"
      ["__TASKDECK_WEBHOOK_OPTION__"]).options = [.text "__TASKDECK_WEBHOOK_OPTION__"] := rfl
  have arrived : arrive? Bundled.options [] (.text "__TASKDECK_WEBHOOK_OPTION__")
      = some ⟨.text "__TASKDECK_WEBHOOK_OPTION__", .input {
        slots := [textSlot "url" "builtin.webhook.urlLabel" "text"]
        override := some (parameters "TASKDECK_WEBHOOK" [("url", .text "\x7burl\x7d")])
        label := .text "builtin.webhook.optionLabel"
        description := noText }⟩ := rfl
  rw [Compiler.compile_outcome_of_context _ found, Compiler.fragments_outcome, resolve, references,
    walk_singleton arrived rfl]
  rfl

theorem webhook_underscored (task : String) :
    (Command.override {} {} none (underscored webhookFields) task none).outcome
      = .ok webhookOverride := by
  rw [Command.override_outcome, selectedOfFields_underscored webhookFields_camelCase]
  exact webhook_compiles

/-- That override as it is printed. -/
def webhookText : String :=
  "\x7b\"TASKDECK_WEBHOOK\":\x7b\"action\":\"Custom\","
    ++ "\"custom_action\":\"TASKDECK_WEBHOOK_ACTION\","
    ++ "\"custom_action_param\":\x7b\"url\":\"\"\x7d\x7d\x7d"

theorem compact_webhookOverride : Json.compact? webhookOverride = some webhookText := by
  cbv

/-- The selections file in camel case and the same one with underscores. -/
def webhookFiles : FileTree where
  home := []
  files := [
    (["a"],
      "\x7b\"taskName\":\"__TASKDECK_WEBHOOK__\",\"optionValues\":\x7b\x7d\x7d".toUTF8.data.toList),
    (["b"], "\x7b\"task_name\":\"__TASKDECK_WEBHOOK__\",\"option_values\":\x7b\x7d\x7d"
      |>.toUTF8.data.toList)]

theorem webhookFiles_read_a : readSelectionsFile webhookFiles (.ofText "a") = .ok webhookFields := by
  cbv

theorem webhookFiles_read_b :
    readSelectionsFile webhookFiles (.ofText "b") = .ok (underscored webhookFields) := by
  cbv

/-- Under the name that the file gives, the spelling of its keys does not matter. -/
theorem webhook_alike_under_its_name :
    let run := fun file =>
      Command.runCompile {} {} webhookFiles none "__TASKDECK_WEBHOOK__" (some file) none false
    CamelCase webhookFields (.text "__TASKDECK_WEBHOOK__") (.mapping [])
      ∧ (Command.override {} {} none webhookFields "__TASKDECK_WEBHOOK__" none).outcome
        = .ok webhookOverride
      ∧ run "a" = run "b" ∧ (run "a").outcome = .ok (webhookText ++ "\n", 0) := by
  intro run
  have loaded : (Cache.compiler {} {} none none none).2.1.Loaded := by
    rw [Cache.compiler_compiler]
    exact ⟨nofun, .inl rfl⟩
  have same : SameName (.text "__TASKDECK_WEBHOOK__") "__TASKDECK_WEBHOOK__" :=
    ⟨by decide, rfl⟩
  obtain ⟨overrides, runs⟩ := spellings_alike_iff webhookFields_camelCase "__TASKDECK_WEBHOOK__"
  have compiles := (overrides.2 same {} {} none none loaded).trans
    (webhook_underscored "__TASKDECK_WEBHOOK__")
  exact ⟨webhookFields_camelCase, compiles,
    runs same {} {} webhookFiles none none false "a" "b" webhookFiles_read_a webhookFiles_read_b,
    Command.runCompile_prints webhookFiles_read_a compiles compact_webhookOverride⟩

/-- A name from the command line takes the place of the file's own in camel case only. -/
theorem webhook_missed_in_camelCase :
    let run := fun file => Command.runCompile {} {} webhookFiles none "Daily" (some file) none false
    CamelCase webhookFields (.text "__TASKDECK_WEBHOOK__") (.mapping [])
      ∧ readSelectionsFile webhookFiles (.ofText "a") = .ok webhookFields
      ∧ readSelectionsFile webhookFiles (.ofText "b") = .ok (underscored webhookFields)
      ∧ (run "a").outcome = .ok ("[]\n", 0)
      ∧ (run "b").outcome = .ok (webhookText ++ "\n", 0) := by
  intro run
  have nothing : (Command.override {} {} none webhookFields "Daily" none).outcome
      = .ok (.list []) := by
    rw [Command.override_outcome, selectedOfFields_camelCase webhookFields_camelCase]
    exact Compiler.compile_outcome_of_missing none rfl
  have written : Json.compact? (.list []) = some "[]" := by
    cbv
  exact ⟨webhookFields_camelCase, webhookFiles_read_a, webhookFiles_read_b,
    Command.runCompile_prints webhookFiles_read_a nothing written,
    Command.runCompile_prints webhookFiles_read_b (webhook_underscored "Daily")
      compact_webhookOverride⟩

end PipelineOverride
