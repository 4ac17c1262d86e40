import Mathlib
import PipelineOverride.Proofs.Files.Growth

/-!
# Acceptance of folded documents

Folding imports hides an error of the importing document exactly where the document is mended by
what its tasks and options stand for. Everything else that is wrong with it is still wrong after
folding.
-/

set_option autoImplicit false

namespace PipelineOverride

/-- A document is accepted once what its tasks and options stand for is put in their place. -/
def Mended (fields : Table Document) (source : String) : Prop :=
  ∃ tasks options, StandsForTasks (fields.get? "task") tasks
    ∧ StandsForOptions (fields.get? "option") options
    ∧ Accepted (.mapping (Collected.fold ⟨tasks, options⟩ fields)) source

variable {tree : FileTree} {path : FilePath} {fields folded : Table Document} {source : String}
  {own : Collected} {imports : List String}

theorem erase_import_task (fields : Table Document) :
    Table.get? (Table.erase fields (.text "import")) "task" = fields.get? "task" := by
  rw [Table.get?, Table.lookup_erase, if_neg (text_apart (by decide)), Table.get?]

theorem erase_import_option (fields : Table Document) :
    Table.get? (Table.erase fields (.text "import")) "option" = fields.get? "option" := by
  rw [Table.get?, Table.lookup_erase, if_neg (text_apart (by decide)), Table.get?]

/-- A document without its imports is mended exactly if what it has itself is sound and the fields
that folding leaves alone are. -/
theorem mended_iff (isOwn : Collected.ofFields fields = .ok own) :
    Mended (Table.erase fields (.text "import")) source ↔ own.Sound
      ∧ (Schema.fields headShapes).Meets (.mapping (Table.erase fields (.text "import"))) := by
  rw [Mended, erase_import_task, erase_import_option]
  constructor
  · rintro ⟨tasks, options, isTasks, isOptions, accepted⟩
    cases isOwn.symm.trans (Collected.ofFields_of_stands isTasks isOptions)
    rw [accepted_fold_iff, Table.erase_erase] at accepted
    exact accepted
  · rintro ⟨sound, head⟩
    obtain ⟨isTasks, isOptions⟩ := Collected.ofFields_eq_ok_iff.1 isOwn
    refine ⟨own.tasks, own.options, standsForTasks_of_taskItems isTasks sound.tasks,
      standsForOptions_of_toTable isOptions sound.options, ?_⟩
    rw [accepted_fold_iff, Table.erase_erase]
    exact ⟨sound, head⟩

theorem loadProjectFields_outcome (read : readProjectFile tree (tree.resolve path) = .ok fields)
    (isImports : importsOf fields = .ok imports) :
    (loadProjectFields tree path).outcome
      = (foldImports tree [tree.resolve path] (tree.resolve path) fields imports).outcome := by
  rw [loadProjectFields]
  simp only [Report.outcome_bind, Report.outcome_ofExcept, read, isImports, Except.ok_bind]
  rfl

theorem SoundParts.erase_import (parts : SoundParts fields) :
    SoundParts (Table.erase fields (.text "import")) := by
  have kept : ∀ name given,
      Table.get? (Table.erase fields (.text "import")) name = some given →
        fields.get? name = some given := by
    intro name given found
    rw [Table.get?, Table.lookup_erase] at found
    split at found
    · cases found
    · exact found
  refine ⟨Schema.meets_fields.2 fun field member given found => ?_, fun given found => ?_,
    fun given found => ?_⟩
  · exact Schema.meets_fields.1 parts.head field member given (kept _ _ found)
  · exact parts.tasks given (kept _ _ found)
  · exact parts.options given (kept _ _ found)

/-- Folding imports hides what is wrong with the document of a root only where the document has
imports and putting what its tasks and options stand for in their place mends it, whatever is
imported. If all that is imported is accepted by itself, then it is hidden in all of these cases. -/
theorem folding_hides_exactly (read : readProjectFile tree (tree.resolve path) = .ok fields)
    (isImports : importsOf fields = .ok imports)
    (rejected : ¬ Accepted (.mapping (Table.erase fields (.text "import"))) source)
    (loaded : (loadProjectFields tree path).outcome = .ok folded) :
    (Accepted (.mapping folded) source →
        imports ≠ [] ∧ Mended (Table.erase fields (.text "import")) source)
      ∧ (SoundImports tree (tree.resolve path) → (Accepted (.mapping folded) source ↔
        imports ≠ [] ∧ Mended (Table.erase fields (.text "import")) source)) := by
  rw [loadProjectFields_outcome read isImports] at loaded
  by_cases none : imports = []
  · subst none
    cases loaded
    have unhidden : ¬ Accepted (.mapping fields) source := fun accepted =>
      rejected (accepted_iff_parts.2 (accepted_iff_parts.1 accepted).erase_import)
    exact ⟨fun accepted => absurd accepted unhidden,
      fun _ => iff_of_false unhidden fun given => given.1 rfl⟩
  · obtain ⟨own, collected, isOwn, collects, rfl⟩ :=
      foldImports_eq_ok (tree.resolve_resolved path) none loaded
    have imported : ∀ given ∈ imports, Relation.ReflTransGen (Imports tree) (tree.resolve path)
        (named (tree.resolve path).steps.dropLast given) := by
      intro given member
      refine .single ?_
      rw [Imports, importedFiles_eq read isImports]
      exact List.mem_map_of_mem member
    have grows := collectImports_grows (.head _) imported collects
    rw [accepted_fold_iff, mended_iff isOwn]
    refine ⟨fun given => ⟨none, grows.sound_of given.1, given.2⟩, fun sound => ?_⟩
    exact ⟨fun given => ⟨none, grows.sound_of given.1, given.2⟩,
      fun given => ⟨grows.sound sound given.2.1, given.2.2⟩⟩

/-!
## A file that imports an empty one
-/

/-- The file `a` has some content, and the file `b` holds an empty mapping. -/
def besideEmpty (content : String) : FileTree where
  home := []
  files := [(["a"], content.toUTF8.data.toList), (["b"], "\x7b\x7d".toUTF8.data.toList)]

variable {content : String}

theorem besideEmpty_read_b : readProjectFile (besideEmpty content) ⟨.root, ["b"]⟩ = .ok [] := by
  cbv

theorem besideEmpty_target : named [] "b" = ⟨.root, ["b"]⟩ := by
  decide +kernel

theorem besideEmpty_reached {file : FilePath}
    (read : readProjectFile (besideEmpty content) ⟨.root, ["a"]⟩ = .ok fields)
    (isImports : importsOf fields = .ok ["b"])
    (reached : Relation.ReflTransGen (Imports (besideEmpty content)) ⟨.root, ["a"]⟩ file) :
    file = ⟨.root, ["a"]⟩ ∨ file = ⟨.root, ["b"]⟩ := by
  induction reached with
  | refl => exact .inl rfl
  | tail _ imported ih =>
      rw [Imports] at imported
      rcases ih with rfl | rfl
      · rw [importedFiles_eq read isImports] at imported
        exact .inr ((List.mem_singleton.1 imported).trans besideEmpty_target)
      · rw [importedFiles_eq besideEmpty_read_b rfl] at imported
        cases imported

theorem besideEmpty_soundImports
    (read : readProjectFile (besideEmpty content) ⟨.root, ["a"]⟩ = .ok fields)
    (isImports : importsOf fields = .ok ["b"]) :
    SoundImports (besideEmpty content) ⟨.root, ["a"]⟩ := by
  intro file own reached differs readFile
  obtain rfl := (besideEmpty_reached read isImports reached).resolve_left differs
  cases besideEmpty_read_b.symm.trans readFile
  exact accepted_iff.2 ⟨by rfl, _, by rfl, by rfl⟩

theorem besideEmpty_loaded
    (read : readProjectFile (besideEmpty content) ⟨.root, ["a"]⟩ = .ok fields)
    (isImports : importsOf fields = .ok ["b"]) (isOwn : Collected.ofFields fields = .ok own) :
    (loadProjectFields (besideEmpty content) ⟨.root, ["a"]⟩).outcome = .ok (own.fold fields) := by
  have isA : (besideEmpty content).resolve ⟨.root, ["a"]⟩ = ⟨.root, ["a"]⟩ := rfl
  have fresh : (⟨.root, ["b"]⟩ : FilePath) ∉ [(⟨.root, ["a"]⟩ : FilePath)] := by decide
  have unimporting : importsOf [] = .ok [] := rfl
  have added : (own.add ⟨.root, ["b"]⟩ []).outcome = .ok own := by
    change Except.ok (Collected.mk (own.tasks ++ []) own.options) = .ok own
    rw [List.append_nil]
  have collects : (collectImports (besideEmpty content) [⟨.root, ["a"]⟩] ⟨.root, []⟩ own
      ["b"]).outcome = .ok own := by
    rw [collectImports_visit own besideEmpty_target.symm fresh besideEmpty_read_b unimporting]
    simp only [foldImports, List.isEmpty_nil, if_true, Report.outcome_done, Except.ok_bind, added,
      collectImports]
  rw [loadProjectFields_outcome (isA.symm ▸ read) isImports, isA, foldImports, if_neg (by simp)]
  simp only [Report.outcome_andThen, Report.outcome_ofExcept, isOwn, Except.ok_bind]
  rw [show FilePath.parent ⟨.root, ["a"]⟩ = ⟨.root, []⟩ from rfl, collects]
  rfl

/-- A document whose only task is a number. -/
def numberTask : String := "\x7b\"task\":[5],\"import\":[\"b\"]\x7d"

def numberTaskFields : Table Document :=
  [(.text "task", .list [.int 5]), (.text "import", .texts ["b"])]

/-- A number in place of a task is rejected with an import, too. -/
theorem numberTask_unhidden : ∃ folded,
    ¬ Accepted (.mapping (Table.erase numberTaskFields (.text "import"))) "project"
      ∧ (loadProjectFields (besideEmpty numberTask) ⟨.root, ["a"]⟩).outcome = .ok folded
      ∧ ¬ Accepted (.mapping folded) "project" := by
  have read : readProjectFile (besideEmpty numberTask) ⟨.root, ["a"]⟩ = .ok numberTaskFields := by
    cbv
  have isImports : importsOf numberTaskFields = .ok ["b"] := by rfl
  have isOwn : Collected.ofFields numberTaskFields = .ok ⟨[.int 5], []⟩ := by rfl
  have rejected :
      ¬ Accepted (.mapping (Table.erase numberTaskFields (.text "import"))) "project" := by
    intro accepted
    obtain ⟨_, isList, fits⟩ := (accepted_iff_parts.1 accepted).tasks _ rfl
    cases isList
    exact not_task_scalar _ (fits (.int 5) (.head _))
  have loaded := besideEmpty_loaded read isImports isOwn
  refine ⟨_, rejected, loaded, fun accepted => ?_⟩
  have isA : (besideEmpty numberTask).resolve ⟨.root, ["a"]⟩ = ⟨.root, ["a"]⟩ := rfl
  rw [← isA] at read
  obtain ⟨_, tasks, options, stands, _, mended⟩ :=
    (folding_hides_exactly read isImports rejected loaded).1 accepted
  change StandsForTasks (some (.list [.int 5])) tasks at stands
  cases stands with
  | list => exact not_task_scalar _ (((accepted_fold_iff _ _).1 mended).1.tasks (.int 5) (.head _))
  | void isVoid => cases isVoid

/-- A document whose option is given as a pair. -/
def pairedOption : String :=
  "\x7b\"option\":[[\"A\",\x7b\"cases\":[\x7b\"name\":\"x\"\x7d]\x7d]],\"import\":[\"b\"]\x7d"

def onlyOption : Table Document :=
  [(.text "A", .object [("cases", .list [.object [("name", .text "x")]])])]

def pairedOptionFields : Table Document := [
  (.text "option", .list [.list [.text "A",
    .object [("cases", .list [.object [("name", .text "x")]])]]]),
  (.text "import", .texts ["b"])]

/-- A list of pairs in place of the options is rejected by itself and accepted with an import. -/
theorem pairedOption_hidden : ∃ folded,
    readProjectFile (besideEmpty pairedOption) ⟨.root, ["a"]⟩ = .ok pairedOptionFields
      ∧ importsOf pairedOptionFields = .ok ["b"]
      ∧ ¬ Accepted (.mapping (Table.erase pairedOptionFields (.text "import"))) "project"
      ∧ SoundImports (besideEmpty pairedOption) ⟨.root, ["a"]⟩
      ∧ (loadProjectFields (besideEmpty pairedOption) ⟨.root, ["a"]⟩).outcome = .ok folded
      ∧ Accepted (.mapping folded) "project" := by
  have read : readProjectFile (besideEmpty pairedOption) ⟨.root, ["a"]⟩
      = .ok pairedOptionFields := by
    cbv
  have isImports : importsOf pairedOptionFields = .ok ["b"] := by rfl
  have isOwn : Collected.ofFields pairedOptionFields = .ok ⟨[], onlyOption⟩ := by rfl
  have accepted : Accepted (.mapping (Collected.fold ⟨[], onlyOption⟩ pairedOptionFields))
      "project" := accepted_iff.2 ⟨by rfl, _, by rfl, by rfl⟩
  refine ⟨_, read, isImports, ?_, besideEmpty_soundImports read isImports,
    besideEmpty_loaded read isImports isOwn, accepted⟩
  intro alone
  obtain ⟨_, isMapping, _⟩ := (accepted_iff_parts.1 alone).options _ rfl
  cases isMapping

end PipelineOverride
