import PipelineOverride.Proofs.Document.Distinct
import PipelineOverride.Proofs.Files.Chains
import PipelineOverride.Proofs.Report

/-!
# Folding imports

Loading a project file puts one document in place of the file and all that it imports. The tasks are
those of the documents that are met below the file, in the order in which they are met, and of the
definitions of an option the first one in that order counts. Each level of imports keeps what it has
already; that this is one rule for the whole walk is `Collected.Gathers`, which composes.
-/

set_option autoImplicit false

namespace PipelineOverride

/-- Whether a document is a list. -/
def Document.isList : Document → Bool
  | .list _ => true
  | _ => false

/-- Whether a document is a list of texts. -/
def Document.isTexts : Document → Bool
  | .list items => items.all fun item => item.text?.isSome
  | _ => false

/-- A document whose tasks, options and imports are a list, a mapping and a list of texts, each as
far as it is there. -/
structure Foldable (fields : Table Document) : Prop where
  task : (fields.get? "task").all Document.isList = true
  option : (fields.get? "option").all (fun given => given.fields?.isSome) = true
  imports : (fields.get? "import").all Document.isTexts = true

instance (fields : Table Document) : Decidable (Foldable fields) :=
  decidable_of_iff ((fields.get? "task").all Document.isList = true
      ∧ (fields.get? "option").all (fun given => given.fields?.isSome) = true
      ∧ (fields.get? "import").all Document.isTexts = true)
    ⟨fun given => ⟨given.1, given.2.1, given.2.2⟩, fun given => ⟨given.1, given.2, given.3⟩⟩

/-- A file can be read, and its document can be folded. -/
def Readable (tree : FileTree) (file : FilePath) : Prop :=
  ∃ fields, readProjectFile tree file = .ok fields ∧ Foldable fields

theorem Readable.foldable {tree : FileTree} {file : FilePath} {fields : Table Document}
    (readable : Readable tree file) (read : readProjectFile tree file = .ok fields) :
    Foldable fields := by
  obtain ⟨_, again, foldable⟩ := readable
  exact Except.ok.inj (again.symm.trans read) ▸ foldable

instance (tree : FileTree) (file : FilePath) : Decidable (Readable tree file) :=
  match read : readProjectFile tree file with
  | .ok fields => decidable_of_iff (Foldable fields)
      ⟨fun foldable => ⟨fields, read, foldable⟩, fun readable => readable.foldable read⟩
  | .error _ => isFalse fun readable => nomatch read.symm.trans readable.choose_spec.1

/-- The tasks of a document. -/
def tasksOf (fields : Table Document) : List Document :=
  match fields.get? "task" with
  | some (.list items) => items
  | _ => []

/-- The options of a document. -/
def optionsOf (fields : Table Document) : Table Document :=
  match fields.get? "option" with
  | some (.mapping options) => options
  | _ => []

/-- A document has the tasks of other documents one after another, the first definition of each
option in them, and beside these the fields of a root without its imports. -/
structure FoldedFrom (root : Table Document) (documents : List (Table Document))
    (result : Table Document) : Prop where
  tasks : result.get? "task" = some (.list (documents.flatMap tasksOf))
  options : ∃ options : Table Document, result.get? "option" = some (.mapping options)
    ∧ ∀ id, options.lookup id = documents.findSome? fun fields => (optionsOf fields).lookup id
  others : (result.erase (.text "task")).erase (.text "option")
    = ((root.erase (.text "import")).erase (.text "task")).erase (.text "option")

variable {tree : FileTree} {fields : Table Document} {documents others : List (Table Document)}
  {collected result : Collected}

/-!
## Documents
-/

theorem getD_task (task : (fields.get? "task").all Document.isList = true) :
    (fields.getD "task" .null).orIfVoid (.list []) = .list (tasksOf fields) := by
  rw [Table.getD, tasksOf]
  cases given : fields.get? "task" with
  | none => rfl
  | some document =>
      rw [given] at task
      cases document with
      | list items => cases items <;> rfl
      | _ => cases task

theorem getD_option
    (option : (fields.get? "option").all (fun given => given.fields?.isSome) = true) :
    (fields.getD "option" .null).orIfVoid (.mapping []) = .mapping (optionsOf fields) := by
  rw [Table.getD, optionsOf]
  cases given : fields.get? "option" with
  | none => rfl
  | some document =>
      rw [given] at option
      cases document with
      | mapping options => cases options <;> rfl
      | _ => cases option

theorem Foldable.ofFields (foldable : Foldable fields) :
    Collected.ofFields fields = .ok ⟨tasksOf fields, optionsOf fields⟩ := by
  rw [Collected.ofFields, taskItems, getD_task foldable.task, getD_option foldable.option]
  rfl

theorem Foldable.importsOf (foldable : Foldable fields) :
    ∃ imports, PipelineOverride.importsOf fields = .ok imports := by
  have texts := foldable.imports
  rw [PipelineOverride.importsOf, Table.getD]
  cases given : fields.get? "import" with
  | none => exact ⟨[], rfl⟩
  | some document =>
      rw [given] at texts
      cases document with
      | list items =>
          cases items with
          | nil => exact ⟨[], rfl⟩
          | cons item rest => exact ⟨_, if_pos texts⟩
      | _ => cases texts

/-!
## Adding documents
-/

namespace Collected

/-- What is collected once documents are added: their tasks follow, and their options count as far
as there are none of the same ids before. -/
structure Gathers (collected : Collected) (documents : List (Table Document))
    (result : Collected) : Prop where
  tasks : result.tasks = collected.tasks ++ documents.flatMap tasksOf
  options : ∀ id, result.options.lookup id = (collected.options.lookup id).or
    (documents.findSome? fun fields => (optionsOf fields).lookup id)

theorem gathers_nil (collected : Collected) : collected.Gathers [] collected := by
  refine ⟨?_, fun id => ?_⟩
  · rw [List.flatMap_nil, List.append_nil]
  · rw [List.findSome?_nil, Option.or_none]

theorem Gathers.append {final : Collected} (first : collected.Gathers documents result)
    (second : result.Gathers others final) : collected.Gathers (documents ++ others) final := by
  refine ⟨?_, fun id => ?_⟩
  · rw [second.tasks, first.tasks, List.flatMap_append, List.append_assoc]
  · rw [second.options, first.options, List.findSome?_append, Option.or_assoc]

theorem addOptions_tasks (path : FilePath) (collected : Collected)
    (entries : List (Scalar × Document)) :
    (collected.addOptions path entries).2.tasks = collected.tasks := by
  induction entries generalizing collected with
  | nil => rfl
  | cons entry rest ih =>
      rw [addOptions, ih, addOption]
      split <;> rfl

theorem addOptions_lookup (path : FilePath) (collected : Collected)
    (entries : List (Scalar × Document)) (id : Scalar) :
    (collected.addOptions path entries).2.options.lookup id
      = (collected.options.lookup id).or (Table.lookup entries id) := by
  induction entries generalizing collected with
  | nil =>
      rw [Table.lookup_nil, Option.or_none]
      rfl
  | cons entry rest ih =>
      obtain ⟨key, definition⟩ := entry
      rw [addOptions, ih, addOption, Table.lookup_cons]
      by_cases same : key.same id = true
      · rw [if_pos same, Table.contains, Table.lookup_congr same]
        cases found : collected.options.lookup id with
        | none => simp [Table.lookup_insert, same]
        | some kept => simp [found]
      · rw [if_neg same]
        split
        · rfl
        · rw [Table.lookup_insert, if_neg same]

end Collected

/-- A document that stands for others: it has their tasks and, of each option, their first
definition. -/
structure Summarizes (documents : List (Table Document)) (fields : Table Document) : Prop where
  task : (fields.get? "task").all Document.isList = true
  option : (fields.get? "option").all (fun given => given.fields?.isSome) = true
  tasks : tasksOf fields = documents.flatMap tasksOf
  options : ∀ id, (optionsOf fields).lookup id
    = documents.findSome? fun given => (optionsOf given).lookup id

theorem Foldable.summarizes (foldable : Foldable fields) : Summarizes [fields] fields := by
  refine ⟨foldable.task, foldable.option, ?_, fun id => ?_⟩
  · rw [List.flatMap_singleton]
  · rw [List.findSome?_singleton]

theorem FoldedFrom.summarizes {root : Table Document} (folded : FoldedFrom root documents fields) :
    Summarizes documents fields := by
  obtain ⟨options, isOptions, lookups⟩ := folded.options
  refine ⟨by rw [folded.tasks]; rfl, by rw [isOptions]; rfl, ?_, fun id => ?_⟩
  · rw [tasksOf, folded.tasks]
  · rw [optionsOf, isOptions, lookups]

theorem Summarizes.add (summary : Summarizes documents fields) (path : FilePath)
    (collected : Collected) :
    ∃ result, (collected.add path fields).outcome = .ok result
      ∧ collected.Gathers documents result := by
  refine ⟨({ collected with tasks := collected.tasks ++ tasksOf fields }.addOptions path
    (optionsOf fields)).2, ?_, ?_, fun id => ?_⟩
  · rw [Collected.add, taskItems, getD_task summary.task, getD_option summary.option]
    rfl
  · rw [Collected.addOptions_tasks, summary.tasks]
  · rw [Collected.addOptions_lookup, summary.options]

theorem text_apart {name other : String} (differ : name ≠ other) :
    ¬ (Scalar.text name).same (.text other) = true := by
  rwa [Scalar.same_text]

@[simp] theorem fold_task (collected : Collected) (fields : Table Document) :
    (collected.fold fields).get? "task" = some (.list collected.tasks) := by
  rw [Collected.fold, Table.get?, Table.lookup_insert, if_neg (text_apart (by decide)),
    Table.lookup_insert, if_pos (Scalar.same_self _)]

@[simp] theorem fold_option (collected : Collected) (fields : Table Document) :
    (collected.fold fields).get? "option" = some (.mapping collected.options) := by
  rw [Collected.fold, Table.get?, Table.lookup_insert, if_pos (Scalar.same_self _)]

/-- What is collected from a document itself and then from others is folded into the document. -/
theorem Collected.Gathers.fold
    (gathers : Gathers ⟨tasksOf fields, optionsOf fields⟩ documents result) :
    FoldedFrom fields (fields :: documents) (result.fold fields) := by
  refine ⟨?_, ⟨result.options, fold_option _ _, fun id => ?_⟩, ?_⟩
  · rw [fold_task, gathers.tasks, List.flatMap_cons]
  · rw [gathers.options, List.findSome?_cons]
    cases (optionsOf fields).lookup id <;> rfl
  · rw [Collected.fold, Table.erase_comm, Table.erase_insert, Table.erase_comm, Table.erase_insert]

/-!
## Collecting imports
-/

variable {chain files : List FilePath} {place : List String} {path root : FilePath}
  {given : String} {rest inner : List String}

/-- A document with its imports folded in, if it has any. -/
def foldImports (tree : FileTree) (chain : List FilePath) (path : FilePath)
    (fields : Table Document) (inner : List String) : Report (Table Document) :=
  if inner.isEmpty then .done fields
  else
    (Report.ofExcept (Collected.ofFields fields)).andThen fun own =>
      (collectImports tree chain path.parent own inner).andThen fun collected =>
        .done (collected.fold fields)

theorem collectImports_skip (collected : Collected) (onChain : named place given ∈ chain) :
    (collectImports tree chain ⟨.root, place⟩ collected (given :: rest)).outcome
      = (collectImports tree chain ⟨.root, place⟩ collected rest).outcome := by
  rw [← tree.resolve_below_root] at onChain
  rw [collectImports]
  simp only [List.contains_iff_mem.2 onChain, ↓reduceDIte, Report.outcome_andThen,
    Report.outcome_note, Except.ok_bind]

theorem collectImports_visit (collected : Collected) (isPath : path = named place given)
    (fresh : path ∉ chain) (read : readProjectFile tree path = .ok fields)
    (isInner : importsOf fields = .ok inner) :
    (collectImports tree chain ⟨.root, place⟩ collected (given :: rest)).outcome
      = (foldImports tree (path :: chain) path fields inner).outcome >>= fun folded =>
        (collected.add path folded).outcome >>= fun collected =>
          (collectImports tree chain ⟨.root, place⟩ collected rest).outcome := by
  rw [← tree.resolve_below_root] at isPath
  subst isPath
  obtain ⟨content, found, readHere⟩ := readProjectFile_eq_ok (tree.resolve_resolved _) read
  have off : ¬ chain.contains (tree.resolve (.below ⟨.root, place⟩ given)) = true :=
    fun member => fresh (List.contains_iff_mem.1 member)
  rw [collectImports, dif_neg off]
  split
  · rename_i missing
    cases missing.symm.trans found
  · rename_i other isOther
    obtain rfl := Option.some.inj (isOther.symm.trans found)
    simp only [readHere, isInner, Report.outcome_andThen, Report.outcome_ofExcept, Except.ok_bind,
      foldImports]

/-- A document with imports is folded with what is collected for them. -/
theorem foldImports_of_collected (resolved : path.Resolved) (foldable : Foldable fields)
    (importing : inner ≠ []) (collects : ∀ collected, ∃ result,
      (collectImports tree chain ⟨.root, path.steps.dropLast⟩ collected inner).outcome = .ok result
        ∧ collected.Gathers documents result) :
    ∃ folded, (foldImports tree chain path fields inner).outcome = .ok folded
      ∧ FoldedFrom fields (fields :: documents) folded := by
  obtain ⟨result, isResult, gathers⟩ := collects ⟨tasksOf fields, optionsOf fields⟩
  refine ⟨result.fold fields, ?_, gathers.fold⟩
  rw [foldImports, if_neg fun none => importing (List.isEmpty_iff.1 none), resolved.parent_eq]
  simp only [Report.outcome_andThen, Report.outcome_ofExcept, foldable.ofFields, Except.ok_bind,
    isResult, Report.outcome_done]

/-- Collecting imports adds the documents that a walk through them meets. -/
theorem Met.collects {index : Nat} {met : List (List Nat × Table Document)}
    (walk : Met tree chain index files met)
    (readable : ∀ file, Relation.ReflTransGen (Imports tree) root file → Readable tree file)
    (imported : ∀ file ∈ files, Relation.ReflTransGen (Imports tree) root file)
    {imports : List String} (isImports : files = imports.map (named place))
    (collected : Collected) :
    ∃ result, (collectImports tree chain ⟨.root, place⟩ collected imports).outcome = .ok result
      ∧ collected.Gathers (met.map Prod.snd) result := by
  induction walk generalizing place imports collected with
  | nil =>
      rw [List.map_eq_nil_iff.1 isImports.symm, collectImports]
      exact ⟨collected, rfl, collected.gathers_nil⟩
  | skip onChain _ ih =>
      obtain ⟨given, rest, rfl, rfl, isRest⟩ := List.map_eq_cons_iff.1 isImports.symm
      rw [collectImports_skip collected onChain]
      exact ih (fun file member => imported file (.tail _ member)) isRest.symm collected
  | @visit chain _ file _ document below beside fresh read walkBelow _ ihBelow ihBeside =>
      obtain ⟨given, rest, rfl, isFile, isRest⟩ := List.map_eq_cons_iff.1 isImports.symm
      have reached := imported file (.head _)
      have foldable := (readable file reached).foldable read
      obtain ⟨inner, isInner⟩ := foldable.importsOf
      have targets := importedFiles_eq read isInner
      have folds : ∃ folded,
          (foldImports tree (file :: chain) file document inner).outcome = .ok folded
            ∧ Summarizes (document :: below.map Prod.snd) folded := by
        by_cases none : inner = []
        · subst none
          rw [targets] at walkBelow
          cases walkBelow
          exact ⟨document, rfl, foldable.summarizes⟩
        · have resolved : file.Resolved := isFile ▸ named_resolved place given
          obtain ⟨folded, isFolded, folds⟩ := foldImports_of_collected resolved foldable none
            (ihBelow (fun _ member => reached.tail member) targets)
          exact ⟨folded, isFolded, folds.summarizes⟩
      obtain ⟨folded, isFolded, summary⟩ := folds
      obtain ⟨added, isAdded, gathersFirst⟩ := summary.add file collected
      obtain ⟨result, isResult, gathersRest⟩ :=
        ihBeside (fun other member => imported other (.tail _ member)) isRest.symm added
      refine ⟨result, ?_, ?_⟩
      · rw [collectImports_visit collected isFile.symm fresh read isInner, isFolded, Except.ok_bind,
          isAdded, Except.ok_bind, isResult]
      · simpa [Function.comp_def] using gathersFirst.append gathersRest

/-- Loading folds imports by one rule over the whole graph of imports, whatever its cycles. If the
root imports anything and every file that imports lead to can be read and folded, then a document is
returned with the tasks of the documents that are met below the root in their order, for each option
the first definition among them, and the other fields of the root without its imports. The root is
what the given text names in the working directory, and an import is what its text names in the
directory of the importing file. -/
theorem load_folds_imports (tree : FileTree) (s : String)
    (readable : ∀ file, Relation.ReflTransGen (Imports tree) (named tree.home s) file →
      Readable tree file)
    (importing : importedFiles tree (named tree.home s) ≠ []) :
    ∃ root met result, readProjectFile tree (named tree.home s) = .ok root
      ∧ WalksImports tree (named tree.home s) met
      ∧ (loadProjectFields tree (.ofText s)).outcome = .ok result
      ∧ FoldedFrom root (met.map Prod.snd) result := by
  rw [loadProjectFields, tree.resolve_ofText]
  have resolved := named_resolved tree.home s
  generalize named tree.home s = start at readable importing resolved ⊢
  obtain ⟨root, read, foldable⟩ := readable _ .refl
  obtain ⟨imports, isImports⟩ := foldable.importsOf
  have targets := importedFiles_eq read isImports
  have imported : ∀ file ∈ importedFiles tree start,
      Relation.ReflTransGen (Imports tree) start file := fun _ member => .single member
  obtain ⟨met, walk⟩ := exists_met
    (fun file reached => (readable file reached).imp fun _ given => given.1)
    [start] 0 (importedFiles tree start)
    (fun file member => ⟨imported file member, importedFiles_resolved member⟩)
  have given : imports ≠ [] := fun none => importing (by rw [targets, none, List.map_nil])
  obtain ⟨result, isResult, folded⟩ :=
    foldImports_of_collected resolved foldable given (walk.collects readable imported targets)
  refine ⟨root, _, result, read, walk.walksImports read, ?_, folded⟩
  rw [← isResult]
  simp only [Report.outcome_bind, Report.outcome_ofExcept, read, isImports, Except.ok_bind]
  rfl

/-!
## Two files that import each other
-/

/-- The file `a` imports `lib/b` in two spellings, and that imports `a` and itself. -/
def cyclicTree : FileTree where
  home := ["w"]
  files := [
    (["w", "a"],
      "\x7b\"import\":[\"lib/b\",\"/w/./lib/b\"],\"task\":[\"A\"]\x7d".toUTF8.data.toList),
    (["w", "lib", "b"],
      "\x7b\"import\":[\"../a\",\"../lib//b\"],\"task\":[\"B\"]\x7d".toUTF8.data.toList)]

def fileA : FilePath := ⟨.root, ["w", "a"]⟩

def fileB : FilePath := ⟨.root, ["w", "lib", "b"]⟩

theorem cyclicTree_fromA : importedFiles cyclicTree fileA = [fileB, fileB] := by
  decide +kernel

theorem cyclicTree_fromB : importedFiles cyclicTree fileB = [fileA, fileB] := by
  decide +kernel

theorem cyclicTree_readable {file : FilePath}
    (reached : Relation.ReflTransGen (Imports cyclicTree) fileA file) :
    Readable cyclicTree file := by
  have isFile : file = fileA ∨ file = fileB := by
    induction reached with
    | refl => exact .inl rfl
    | tail _ imported ih =>
        rw [Imports] at imported
        rcases ih with rfl | rfl
        · rw [cyclicTree_fromA] at imported
          exact .inr (by simpa using imported)
        · rw [cyclicTree_fromB] at imported
          simpa using imported
  rcases isFile with rfl | rfl <;> decide +kernel

/-- Below `a` the file `lib/b` is met once for each of its two spellings, and neither file is met
below itself. -/
theorem cyclicTree_folds :
    importedFiles cyclicTree fileA ≠ []
      ∧ ∃ root met result, readProjectFile cyclicTree fileA = .ok root
        ∧ WalksImports cyclicTree fileA met ∧ met.map Prod.fst = [[], [0], [1]]
        ∧ (loadProjectFields cyclicTree (.ofText "./lib/../a")).outcome = .ok result
        ∧ FoldedFrom root (met.map Prod.snd) result := by
  have isA : named cyclicTree.home "./lib/../a" = fileA := by decide +kernel
  have importing : importedFiles cyclicTree fileA ≠ [] := by
    rw [cyclicTree_fromA]
    exact List.cons_ne_nil _ _
  obtain ⟨root, met, result, read, walks, loaded, folded⟩ :=
    load_folds_imports cyclicTree "./lib/../a" (fun _ => isA ▸ cyclicTree_readable)
      (isA ▸ importing)
  rw [isA] at read walks
  refine ⟨importing, root, met, result, read, walks, ?_, loaded, folded⟩
  have importsB : Imports cyclicTree fileA fileB := by
    rw [Imports, cyclicTree_fromA]
    exact .head _
  obtain ⟨document, readB, _⟩ := cyclicTree_readable (.single importsB)
  have below : Met cyclicTree [fileB, fileA] 0 (importedFiles cyclicTree fileB) [] :=
    cyclicTree_fromB ▸ .skip (.tail _ (.head _)) (.skip (.head _) .nil)
  have walk : Met cyclicTree [fileA] 0 (importedFiles cyclicTree fileA)
      [([0], document), ([1], document)] :=
    cyclicTree_fromA ▸ .visit (by decide) readB below (.visit (by decide) readB below .nil)
  rw [walks.unique (walk.walksImports read)]
  rfl

end PipelineOverride
