import PipelineOverride.Proofs.Files.Readings

/-!
# Growth of what is collected

Collecting imports only ever adds to the end of what a document has itself, so an error in the tasks
or options of the document is never taken away. Nothing that is wrong is added either, if every file
that is imported has no error by itself; imports of imports are folded first, by the same rule.
-/

set_option autoImplicit false

namespace PipelineOverride

/-- Every file that is imported below a root and differs from it is accepted by itself, if it can
be read. -/
def SoundImports (tree : FileTree) (root : FilePath) : Prop :=
  ∀ file fields, Relation.ReflTransGen (Imports tree) root file → file ≠ root →
    readProjectFile tree file = .ok fields → Accepted (.mapping fields) file.text

variable {tree : FileTree} {fields folded : Table Document} {source : String}
  {collected result own : Collected}

/-!
## Collecting
-/

namespace Collected

/-- Nothing is wrong with the tasks and the options that are collected. -/
structure Sound (collected : Collected) : Prop where
  tasks : ∀ task ∈ collected.tasks, ProjectSchema.task.Meets task
  options : ∀ entry ∈ collected.options, SoundOption entry.1 entry.2

/-- What is collected already stays in front. Under a condition nothing unsound is added. -/
structure Grows (condition : Prop) (collected result : Collected) : Prop where
  tasks : collected.tasks <+: result.tasks
  options : collected.options <+: result.options
  sound : condition → collected.Sound → result.Sound

variable {condition : Prop} {final : Collected}

theorem Grows.refl (collected : Collected) : collected.Grows condition collected :=
  ⟨List.prefix_rfl, List.prefix_rfl, fun _ sound => sound⟩

theorem Grows.trans (first : collected.Grows condition result)
    (second : result.Grows condition final) : collected.Grows condition final :=
  ⟨first.tasks.trans second.tasks, first.options.trans second.options,
    fun given sound => second.sound given (first.sound given sound)⟩

theorem Grows.sound_of (grows : collected.Grows condition result) (sound : result.Sound) :
    collected.Sound :=
  ⟨fun task member => sound.tasks task (grows.tasks.subset member),
    fun entry member => sound.options entry (grows.options.subset member)⟩

theorem addOption_options (path : FilePath) (collected : Collected) (id : Scalar)
    (definition : Document) : (collected.addOption path id definition).2.options
      = collected.options ∨ (collected.addOption path id definition).2.options
        = collected.options ++ [(id, definition)] := by
  rw [addOption]
  cases found : collected.options.lookup id with
  | none => simp [Table.contains, found, Table.insert_of_lookup_none found]
  | some kept => simp [Table.contains, found]

theorem addOptions_options (path : FilePath) (collected : Collected)
    (entries : List (Scalar × Document)) : ∃ added, added ⊆ entries
      ∧ (collected.addOptions path entries).2.options = collected.options ++ added := by
  induction entries generalizing collected with
  | nil => exact ⟨[], List.Subset.refl _, (List.append_nil _).symm⟩
  | cons entry rest ih =>
      obtain ⟨added, among, isAppended⟩ := ih (collected.addOption path entry.1 entry.2).2
      rw [addOptions, isAppended]
      rcases addOption_options path collected entry.1 entry.2 with same | more
      · exact ⟨added, List.subset_cons_of_subset _ among, by rw [same]⟩
      · refine ⟨entry :: added, List.cons_subset_cons _ among, ?_⟩
        rw [more, List.append_assoc, List.singleton_append]

/-- Adding a document appends to what is collected, and nothing unsound if the document has nothing
unsound. -/
theorem add_grows {path : FilePath} (adds : (collected.add path folded).outcome = .ok result) :
    ∃ own, ofFields folded = .ok own ∧ collected.Grows own.Sound result := by
  simp only [add, Report.outcome_bind, Report.outcome_ofExcept, Except.bind_eq_ok_iff] at adds
  obtain ⟨tasks, isTasks, options, isOptions, ends⟩ := adds
  cases ends
  have isTable : ((folded.getD "option" .null).orIfVoid (.mapping [])).toTable = .ok options := by
    generalize (folded.getD "option" .null).orIfVoid (.mapping []) = given at isOptions ⊢
    cases given with
    | mapping _ =>
        cases isOptions
        rfl
    | _ => cases isOptions
  obtain ⟨added, among, isAppended⟩ :=
    addOptions_options path { collected with tasks := collected.tasks ++ tasks } options
  refine ⟨⟨tasks, options⟩, ofFields_eq_ok_iff.2 ⟨isTasks, isTable⟩, ?_, ?_, fun own sound => ?_⟩
  · rw [addOptions_tasks]
    exact List.prefix_append _ _
  · rw [isAppended]
    exact List.prefix_append _ _
  · constructor
    · rw [addOptions_tasks]
      exact List.forall_mem_append.2 ⟨sound.tasks, own.tasks⟩
    · rw [isAppended]
      exact List.forall_mem_append.2
        ⟨sound.options, fun entry member => own.options entry (among member)⟩

end Collected

/-!
## Accepted documents
-/

theorem head_fold_iff (collected : Collected) (fields : Table Document) :
    (Schema.fields headShapes).Meets (.mapping (collected.fold fields))
      ↔ (Schema.fields headShapes).Meets (.mapping (Table.erase fields (.text "import"))) := by
  refine meets_fields_congr fun field member => ?_
  have apart : field.1 ≠ "task" ∧ field.1 ≠ "option" := by
    simp only [headShapes, List.mem_cons, List.not_mem_nil, or_false] at member
    rcases member with rfl | rfl | rfl <;> decide
  rw [Collected.fold, Table.get?, Table.lookup_insert, if_neg (text_apart apart.2.symm),
    Table.lookup_insert, if_neg (text_apart apart.1.symm), Table.get?]

/-- Whether a folded document is accepted is decided by what was collected and by the fields that
folding leaves alone. -/
theorem accepted_fold_iff (collected : Collected) (fields : Table Document) :
    Accepted (.mapping (collected.fold fields)) source ↔ collected.Sound
      ∧ (Schema.fields headShapes).Meets (.mapping (Table.erase fields (.text "import"))) := by
  rw [accepted_iff_parts, ← head_fold_iff collected]
  constructor
  · intro parts
    obtain ⟨tasks, isTasks, fits⟩ := parts.tasks _ (fold_task collected fields)
    obtain ⟨options, isOptions, sound⟩ := parts.options _ (fold_option collected fields)
    cases isTasks
    cases isOptions
    exact ⟨⟨fits, sound⟩, parts.head⟩
  · rintro ⟨sound, head⟩
    refine ⟨head, fun given found => ?_, fun given found => ?_⟩
    · cases (fold_task collected fields).symm.trans found
      exact ⟨_, rfl, sound.tasks⟩
    · cases (fold_option collected fields).symm.trans found
      exact ⟨_, rfl, sound.options⟩

theorem SoundParts.stands (parts : SoundParts fields) : ∃ tasks options,
    StandsForTasks (fields.get? "task") tasks ∧ StandsForOptions (fields.get? "option") options
      ∧ Collected.Sound ⟨tasks, options⟩ := by
  have tasks : ∃ tasks, StandsForTasks (fields.get? "task") tasks
      ∧ ∀ task ∈ tasks, ProjectSchema.task.Meets task := by
    cases found : fields.get? "task" with
    | none => exact ⟨[], .missing, by simp⟩
    | some given =>
        obtain ⟨tasks, rfl, fits⟩ := parts.tasks given found
        exact ⟨tasks, .list, fits⟩
  have options : ∃ options, StandsForOptions (fields.get? "option") options
      ∧ ∀ entry ∈ options, SoundOption entry.1 entry.2 := by
    cases found : fields.get? "option" with
    | none => exact ⟨[], .missing, by simp⟩
    | some given =>
        obtain ⟨options, rfl, sound⟩ := parts.options given found
        exact ⟨options, .mapping, sound⟩
  obtain ⟨tasks, isTasks, fits⟩ := tasks
  obtain ⟨options, isOptions, sound⟩ := options
  exact ⟨tasks, options, isTasks, isOptions, fits, sound⟩

/-- What an accepted document has itself is sound. -/
theorem Accepted.sound (accepted : Accepted (.mapping fields) source)
    (isOwn : Collected.ofFields fields = .ok own) : own.Sound := by
  obtain ⟨tasks, options, isTasks, isOptions, sound⟩ := (accepted_iff_parts.1 accepted).stands
  cases isOwn.symm.trans (Collected.ofFields_of_stands isTasks isOptions)
  exact sound

/-!
## Folding imports
-/

variable {chain : List FilePath} {place : List String} {path root : FilePath} {given : String}
  {rest inner imports : List String}

/-- Where collecting goes on to a file and returns, it has read and folded the file. -/
theorem collectImports_visited (isPath : path = named place given) (fresh : path ∉ chain)
    (collects : (collectImports tree chain ⟨.root, place⟩ collected (given :: rest)).outcome
      = .ok result) : ∃ fields inner, readProjectFile tree path = .ok fields
        ∧ importsOf fields = .ok inner := by
  rw [← tree.resolve_below_root] at isPath
  subst isPath
  have off : ¬ chain.contains (tree.resolve (.below ⟨.root, place⟩ given)) = true :=
    fun member => fresh (List.contains_iff_mem.1 member)
  rw [collectImports, dif_neg off] at collects
  split at collects
  · cases collects
  · rename_i content found
    simp only [Report.outcome_andThen, Report.outcome_ofExcept, Except.bind_eq_ok_iff] at collects
    obtain ⟨fields, read, inner, isInner, _⟩ := collects
    refine ⟨fields, inner, ?_, isInner⟩
    rw [readProjectFile_of_content (tree.resolve_resolved _) found, read]

theorem foldImports_eq_ok (resolved : path.Resolved) (importing : inner ≠ [])
    (folds : (foldImports tree chain path fields inner).outcome = .ok folded) :
    ∃ own collected, Collected.ofFields fields = .ok own
      ∧ (collectImports tree chain ⟨.root, path.steps.dropLast⟩ own inner).outcome = .ok collected
      ∧ folded = collected.fold fields := by
  rw [foldImports, if_neg fun none => importing (List.isEmpty_iff.1 none), resolved.parent_eq]
    at folds
  simp only [Report.outcome_andThen, Report.outcome_ofExcept, Report.outcome_done,
    Except.bind_eq_ok_iff] at folds
  obtain ⟨own, isOwn, collected, collects, ends⟩ := folds
  cases ends
  exact ⟨own, collected, isOwn, collects, rfl⟩

/-- An accepted document has nothing unsound once its imports are folded in, if they add nothing
unsound. -/
theorem Accepted.sound_folded {condition : Prop} (resolved : path.Resolved) (holds : condition)
    (accepted : Accepted (.mapping fields) source)
    (folds : (foldImports tree chain path fields inner).outcome = .ok folded)
    (grows : ∀ own collected,
      (collectImports tree chain ⟨.root, path.steps.dropLast⟩ own inner).outcome = .ok collected →
        own.Grows condition collected)
    (isOwn : Collected.ofFields folded = .ok own) : own.Sound := by
  by_cases none : inner = []
  · subst none
    cases folds
    exact accepted.sound isOwn
  · obtain ⟨start, collected, isStart, collects, rfl⟩ := foldImports_eq_ok resolved none folds
    rw [Collected.ofFields_fold] at isOwn
    have sound := (grows start collected collects).sound holds (accepted.sound isStart)
    exact Except.ok.inj isOwn ▸ sound

/-- Collecting imports appends to what is collected, and nothing unsound if every imported file is
accepted by itself. -/
theorem collectImports_grows (rooted : root ∈ chain)
    (imported : ∀ given ∈ imports,
      Relation.ReflTransGen (Imports tree) root (named place given))
    (collects : (collectImports tree chain ⟨.root, place⟩ collected imports).outcome
      = .ok result) :
    collected.Grows (SoundImports tree root) result := by
  -- Imports of imports are collected with one file less off the chain, others with one import less.
  induction size : (filesOffChain tree chain).length using Nat.strongRecOn
    generalizing chain place imports collected result with
  | _ size longer =>
      subst size
      induction imports generalizing collected with
      | nil =>
          rw [collectImports] at collects
          cases collects
          exact .refl _
      | cons given rest ih =>
          have importedRest := fun other member => imported other (.tail _ member)
          by_cases onChain : named place given ∈ chain
          · rw [collectImports_skip collected onChain] at collects
            exact ih importedRest collects
          · generalize isPath : named place given = path at onChain
            obtain ⟨fields, inner, read, isInner⟩ :=
              collectImports_visited isPath.symm onChain collects
            rw [collectImports_visit collected isPath.symm onChain read isInner] at collects
            simp only [Except.bind_eq_ok_iff] at collects
            obtain ⟨folded, folds, added, adds, collectsRest⟩ := collects
            obtain ⟨own, isOwn, first⟩ := Collected.add_grows adds
            have reached : Relation.ReflTransGen (Imports tree) root path :=
              isPath ▸ imported given (.head _)
            have resolved : path.Resolved := isPath ▸ named_resolved place given
            obtain ⟨content, found, _⟩ := readProjectFile_eq_ok resolved read
            have fewer := filesOffChain_length_lt resolved.absolute found
              fun member => onChain (List.contains_iff_mem.1 member)
            have importedInner : ∀ other ∈ inner,
                Relation.ReflTransGen (Imports tree) root (named path.steps.dropLast other) := by
              intro other member
              refine reached.tail ?_
              rw [Imports, importedFiles_eq read isInner]
              exact List.mem_map_of_mem member
            have sound : SoundImports tree root → own.Sound := by
              intro holds
              have differs : path ≠ root := fun same => onChain (same ▸ rooted)
              exact (holds path fields reached differs read).sound_folded resolved holds folds
                (fun _ _ collectsInner =>
                  longer _ fewer (.tail _ rooted) importedInner collectsInner rfl) isOwn
            refine Collected.Grows.trans ?_ (ih importedRest collectsRest)
            exact ⟨first.tasks, first.options, fun holds => first.sound (sound holds)⟩

end PipelineOverride
