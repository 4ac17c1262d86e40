import Mathlib.Data.List.Nodup
import Mathlib.Data.List.Perm.Subperm
import PipelineOverride.Proofs.Files.Folding

/-!
# Following imports ends

Loading a file reads it and then goes on with the files that it imports, each below a longer chain
of importers. A run of this recursion is given by rules that know of no measure; that there is one,
and only one, on every set of files is what is proved here. It rests on two things: a path is
resolved before it is looked for on the chain, so that all spellings of a file are one, and a file
is read before its imports are followed, so that the importers of a file always exist.
-/

set_option autoImplicit false

namespace PipelineOverride

/-- A document with its imports folded in, if it has any, as they are collected. -/
def foldWith (collect : Collected → Report Collected) (fields : Table Document)
    (imports : List String) : Report (Table Document) :=
  if imports.isEmpty then .done fields
  else
    (Report.ofExcept (Collected.ofFields fields)).andThen fun own =>
      (collect own).andThen fun collected => .done (collected.fold fields)

mutual

/-- A finite run that loads the file at a path below a chain of importers. In every call of the run
the chain with the file itself is allowed. -/
inductive LoadsTo (tree : FileTree) (allowed : List FilePath → Prop) :
    List FilePath → FilePath → Report (Table Document) → Prop where
  | refuse {chain : List FilePath} {path : FilePath} {failure : Failure} :
      allowed (path :: chain) → readProjectFile tree path >>= importsOf = .error failure →
      LoadsTo tree allowed chain path (.fail failure)
  | fold {chain : List FilePath} {path : FilePath} {fields : Table Document}
      {imports : List String} {collect : Collected → Report Collected} :
      allowed (path :: chain) → readProjectFile tree path = .ok fields →
      importsOf fields = .ok imports →
      CollectsTo tree allowed (path :: chain) path.steps.dropLast imports collect →
      LoadsTo tree allowed chain path (foldWith collect fields imports)

/-- A finite run that collects what imports in a directory declare, whatever is collected already.
An import of a file on the chain is skipped. -/
inductive CollectsTo (tree : FileTree) (allowed : List FilePath → Prop) :
    List FilePath → List String → List String → (Collected → Report Collected) → Prop where
  | nil {chain : List FilePath} {place : List String} :
      CollectsTo tree allowed chain place [] Report.done
  | skip {chain : List FilePath} {place : List String} {given : String} {rest : List String}
      {others : Collected → Report Collected} : named place given ∈ chain →
      CollectsTo tree allowed chain place rest others →
      CollectsTo tree allowed chain place (given :: rest) fun collected =>
        (Report.note (importCycleNotice (named place given))).andThen fun _ => others collected
  | visit {chain : List FilePath} {place : List String} {given : String} {rest : List String}
      {loaded : Report (Table Document)} {others : Collected → Report Collected} :
      named place given ∉ chain → LoadsTo tree allowed chain (named place given) loaded →
      CollectsTo tree allowed chain place rest others →
      CollectsTo tree allowed chain place (given :: rest) fun collected =>
        loaded.andThen fun fields =>
          (collected.add (named place given) fields).andThen others

end

/-- A path leads to a file of the tree. -/
def FileTree.Holds (tree : FileTree) (path : FilePath) : Prop :=
  path.anchor = .root ∧ (tree.content? path.steps).isSome = true

/-- A chain of resolved paths, the last file in front. No path comes twice, and all but the last
lead to files. -/
structure FileTree.Chains (tree : FileTree) (chain : List FilePath) : Prop where
  distinct : chain.Nodup
  resolved : ∀ path ∈ chain, path.Resolved
  held : ∀ path ∈ chain.tail, tree.Holds path

variable {tree : FileTree} {chain : List FilePath} {path : FilePath} {place : List String}
  {given : String} {rest imports : List String} {fields : Table Document}

/-!
## The recursion
-/

theorem FileTree.isDirectory_of_append {passed more : List String}
    (isDirectory : tree.isDirectory (passed ++ more) = true) : tree.isDirectory passed = true := by
  by_cases none : more = []
  · rwa [none, List.append_nil] at isDirectory
  · rw [FileTree.isDirectory, Bool.or_eq_true, List.isPrefixOf_iff_prefix, List.any_eq_true]
      at isDirectory ⊢
    rcases isDirectory with inHome | ⟨entry, member, below⟩
    · exact .inl ((List.prefix_append passed more).trans inHome)
    · refine .inr ⟨entry, member, ?_⟩
      rw [Bool.and_eq_true, List.isPrefixOf_iff_prefix, bne_iff_ne] at below ⊢
      refine ⟨(List.prefix_append passed more).trans below.1, fun same => ?_⟩
      have short := below.1.length_le
      rw [same, List.length_append] at short
      exact none (List.length_eq_zero_iff.1 (by omega))

/-- Nothing is read where no file stands. -/
theorem readProjectFile_of_no_content (resolved : path.Resolved)
    (missing : tree.content? path.steps = none) :
    readProjectFile tree path
      = .error (if tree.isDirectory path.steps then .directory
          else .file (.missing path.text)) := by
  rw [readProjectFile, FileTree.look, resolved.stepsTo]
  by_cases isDirectory : tree.isDirectory path.steps = true
  · have walked : tree.walk [] path.steps = some path.steps :=
      FileTree.walk_of_directories resolved.straight fun passed step rest isSteps =>
        FileTree.isDirectory_of_append (isSteps ▸ isDirectory)
    simp only [walked, FileTree.entry, missing, if_pos isDirectory]
  · rw [if_neg isDirectory]
    cases walked : tree.walk [] path.steps with
    | none => rfl
    | some steps =>
        obtain rfl : steps = path.steps := FileTree.walk_eq_some resolved.straight walked
        simp only [FileTree.entry, missing, if_neg isDirectory]

/-- The fields of a project file below a chain of importers, with its imports folded in. -/
def loadBelow (tree : FileTree) (chain : List FilePath) (path : FilePath) :
    Report (Table Document) :=
  (Report.ofExcept (readProjectFile tree path)).andThen fun fields =>
    (Report.ofExcept (importsOf fields)).andThen fun imports =>
      foldImports tree (path :: chain) path fields imports

theorem loadBelow_of_error {failure : Failure}
    (fails : readProjectFile tree path >>= importsOf = .error failure) :
    loadBelow tree chain path = .fail failure := by
  rw [loadBelow]
  cases read : readProjectFile tree path with
  | error _ =>
      rw [read] at fails
      cases fails
      rfl
  | ok fields =>
      rw [read, Except.ok_bind] at fails
      simp only [Report.ofExcept, Report.andThen, fails]
      rfl

theorem loadBelow_of_ok (read : readProjectFile tree path = .ok fields)
    (isImports : importsOf fields = .ok imports) :
    loadBelow tree chain path = foldImports tree (path :: chain) path fields imports := by
  rw [loadBelow, read]
  simp only [Report.ofExcept, Report.andThen, isImports, List.nil_append]

/-- One step through a list of imports, notices included. -/
theorem collectImports_cons (collected : Collected) (isPath : path = named place given) :
    collectImports tree chain ⟨.root, place⟩ collected (given :: rest)
      = if path ∈ chain then
          (Report.note (importCycleNotice path)).andThen fun _ =>
            collectImports tree chain ⟨.root, place⟩ collected rest
        else
          (loadBelow tree chain path).andThen fun fields =>
            (collected.add path fields).andThen fun collected =>
              collectImports tree chain ⟨.root, place⟩ collected rest := by
  rw [← tree.resolve_below_root] at isPath
  have resolved : path.Resolved := isPath ▸ tree.resolve_resolved _
  rw [collectImports]
  simp only [← isPath]
  by_cases onChain : path ∈ chain
  · rw [dif_pos (List.contains_iff_mem.2 onChain), if_pos onChain]
  · rw [dif_neg fun member => onChain (List.contains_iff_mem.1 member), if_neg onChain]
    split
    · rename_i missing
      rw [← isPath] at missing
      rw [loadBelow, readProjectFile_of_no_content resolved missing]
      rfl
    · rename_i content found
      rw [← isPath] at found
      rw [loadBelow, readProjectFile_of_content resolved found]
      exact ((Report.bind_assoc _ _ _).trans
        (congrArg _ (funext fun _ => Report.bind_assoc _ _ _))).symm

theorem loadProjectFields_eq_loadBelow (tree : FileTree) (path : FilePath) :
    loadProjectFields tree path = loadBelow tree [] (tree.resolve path) := rfl

/-!
## Runs
-/

namespace FileTree

/-- A file that is read stands in the tree. -/
theorem Holds.of_read (resolved : path.Resolved)
    (read : readProjectFile tree path = .ok fields) : tree.Holds path := by
  obtain ⟨content, found, -⟩ := readProjectFile_eq_ok resolved read
  exact ⟨resolved.absolute, by rw [found]; rfl⟩

theorem Holds.mem (holds : tree.Holds path) : path.steps ∈ tree.files.map Prod.fst := by
  obtain ⟨content, found⟩ := Option.isSome_iff_exists.1 holds.2
  exact mem_of_content found

theorem Holds.offChain_lt (holds : tree.Holds path) (fresh : path ∉ chain) :
    (filesOffChain tree (path :: chain)).length < (filesOffChain tree chain).length := by
  obtain ⟨content, found⟩ := Option.isSome_iff_exists.1 holds.2
  exact filesOffChain_length_lt holds.1 found fun member => fresh (List.contains_iff_mem.1 member)

/-- All files of a chain stand in the tree once its last file does too, and then the chain may go
on to any other path. -/
theorem Chains.cons (chains : tree.Chains chain) (held : ∀ other ∈ chain, tree.Holds other)
    (resolved : path.Resolved) (fresh : path ∉ chain) : tree.Chains (path :: chain) := by
  refine ⟨List.nodup_cons.2 ⟨fresh, chains.distinct⟩, fun other member => ?_, held⟩
  rcases List.mem_cons.1 member with rfl | member
  · exact resolved
  · exact chains.resolved other member

/-- Files of one tree differ in their steps, so a chain has one path more than files at most. -/
theorem Chains.length_le (chains : tree.Chains chain) : chain.length ≤ tree.files.length + 1 := by
  have distinct : (chain.tail.map FilePath.steps).Nodup := by
    refine List.Nodup.map_on (fun file member other memberOther same => ?_)
      (chains.distinct.sublist (List.tail_sublist chain))
    have inside := (chains.held file member).1.trans (chains.held other memberOther).1.symm
    cases file
    cases other
    simp only at inside same
    rw [inside, same]
  have listed : chain.tail.map FilePath.steps ⊆ tree.files.map Prod.fst := by
    intro steps member
    obtain ⟨file, memberFile, rfl⟩ := List.mem_map.1 member
    exact (chains.held file memberFile).mem
  have few := (distinct.subperm listed).length_le
  rw [List.length_map, List.length_map, List.length_tail] at few
  omega

end FileTree

variable {allowed : List FilePath → Prop}

/-- Loading is a run if collecting the imports of the file is one, where it comes to that. -/
theorem loadsTo_of_collects (resolved : path.Resolved) (isAllowed : allowed (path :: chain))
    (collects : tree.Holds path → ∀ imports, CollectsTo tree allowed (path :: chain)
      path.steps.dropLast imports fun collected =>
        collectImports tree (path :: chain) ⟨.root, path.steps.dropLast⟩ collected imports) :
    LoadsTo tree allowed chain path (loadBelow tree chain path) := by
  cases read : readProjectFile tree path with
  | error failure =>
      have fails : readProjectFile tree path >>= importsOf = .error failure := by
        rw [read, Except.error_bind]
      rw [loadBelow_of_error fails]
      exact .refuse isAllowed fails
  | ok fields =>
      cases isImports : importsOf fields with
      | error failure =>
          have fails : readProjectFile tree path >>= importsOf = .error failure := by
            rw [read, Except.ok_bind, isImports]
          rw [loadBelow_of_error fails]
          exact .refuse isAllowed fails
      | ok imports =>
          rw [loadBelow_of_ok read isImports, foldImports, resolved.parent_eq]
          exact .fold isAllowed read isImports (collects (.of_read resolved read) imports)

/-- Collecting imports is a run from every chain of files that exist. -/
theorem collectsTo_collectImports (allows : ∀ chain, tree.Chains chain → allowed chain)
    (chains : tree.Chains chain) (held : ∀ file ∈ chain, tree.Holds file) (place : List String)
    (imports : List String) :
    CollectsTo tree allowed chain place imports fun collected =>
      collectImports tree chain ⟨.root, place⟩ collected imports := by
  -- Below an import there is one file less off the chain; beside it there is one import less.
  induction size : (filesOffChain tree chain).length using Nat.strongRecOn
    generalizing chain place imports with
  | _ size longer =>
      subst size
      induction imports with
      | nil =>
          simp only [collectImports]
          exact .nil
      | cons given rest ih =>
          have resolved := named_resolved place given
          simp only [collectImports_cons _ rfl]
          by_cases onChain : named place given ∈ chain
          · simp only [if_pos onChain]
            exact .skip onChain ih
          · simp only [if_neg onChain]
            have deeper := chains.cons held resolved onChain
            have loads : LoadsTo tree allowed chain (named place given)
                (loadBelow tree chain (named place given)) := by
              refine loadsTo_of_collects resolved (allows _ deeper) fun holds inner => ?_
              exact longer _ (holds.offChain_lt onChain) deeper
                (List.forall_mem_cons.2 ⟨holds, held⟩) _ inner rfl
            exact .visit onChain loads ih

mutual

theorem LoadsTo.eq_loadBelow {chain : List FilePath} {path : FilePath}
    {report : Report (Table Document)} (resolved : path.Resolved) :
    LoadsTo tree allowed chain path report → report = loadBelow tree chain path
  | .refuse _ fails => (loadBelow_of_error fails).symm
  | .fold _ read isImports collects => by
      rw [loadBelow_of_ok read isImports, collects.eq_collectImports, foldImports,
        resolved.parent_eq]
      rfl

theorem CollectsTo.eq_collectImports {chain : List FilePath} {place : List String}
    {imports : List String} {collect : Collected → Report Collected} :
    CollectsTo tree allowed chain place imports collect →
      collect = fun collected => collectImports tree chain ⟨.root, place⟩ collected imports
  | .nil => by
      funext collected
      rw [collectImports]
  | .skip onChain others => by
      funext collected
      rw [collectImports_cons collected rfl, if_pos onChain, others.eq_collectImports]
  | .visit fresh loads others => by
      funext collected
      rw [collectImports_cons collected rfl, if_neg fresh,
        loads.eq_loadBelow (named_resolved _ _), others.eq_collectImports]

end

/-- Loading a project file ends on every set of files, however their imports refer to each other and
in whatever spellings. The recursion that reads a file and follows its imports has exactly one
finite run, and what it comes to is the report of a document or of a failure that loading gives. In
this run no chain of importers holds a path twice, all paths on it are resolved, and all but the
last lead to files, so that it is at most one longer than the number of files. -/
theorem import_folding_ends (tree : FileTree) (s : String) :
    LoadsTo tree (fun chain => tree.Chains chain ∧ chain.length ≤ tree.files.length + 1) []
        (named tree.home s) (loadProjectFields tree (.ofText s))
      ∧ ∀ report, LoadsTo tree (fun _ => True) [] (named tree.home s) report →
        report = loadProjectFields tree (.ofText s) := by
  rw [loadProjectFields_eq_loadBelow, tree.resolve_ofText]
  have resolved := named_resolved tree.home s
  have empty : tree.Chains [] :=
    ⟨List.nodup_nil, List.forall_mem_nil _, List.forall_mem_nil _⟩
  have start : tree.Chains [named tree.home s] :=
    empty.cons (List.forall_mem_nil _) resolved List.not_mem_nil
  refine ⟨loadsTo_of_collects resolved ⟨start, start.length_le⟩ fun holds imports => ?_,
    fun report loads => loads.eq_loadBelow resolved⟩
  refine collectsTo_collectImports (fun chain chains => ⟨chains, chains.length_le⟩) start ?_ _ _
  intro file member
  rw [List.mem_singleton.1 member]
  exact holds

end PipelineOverride
