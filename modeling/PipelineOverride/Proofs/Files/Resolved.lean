import PipelineOverride.Files.ProjectFile
import PipelineOverride.Proofs.Report

/-!
# Resolved paths

A resolved path is absolute and takes neither a step to a parent nor one that stays, so what it
leads to is what the tree holds at its steps. All paths that are followed from file to file are
resolved. Where a text leads is said here step by step from the directory in which it stands,
without the path that it is read as.
-/

set_option autoImplicit false

namespace PipelineOverride

/-- Where a step leads from a place: an empty one and a point stay there, two points go to the
directory above, and any other one goes into what it names. -/
def stepFrom (place : List String) (step : String) : List String :=
  if step = "" ∨ step = "." then place
  else if step = ".." then place.dropLast
  else place ++ [step]

/-- The file that a text names in a directory. A text that begins with a slash names it from the
root on. -/
def named (directory : List String) (s : String) : FilePath :=
  let pieces := (s.toList.splitOn '/').map String.ofList
  ⟨.root, ((if s.startsWith "/" then pieces else directory ++ pieces).foldl stepFrom [])⟩

/-- The texts in the list of imports of a document. -/
def importNames (fields : Table Document) : List String :=
  match fields.get? "import" with
  | some (.list items) => items.filterMap Document.text?
  | _ => []

/-- The files that a project file names in its list of imports, each in the directory that holds the
project file. There are none if it cannot be read. -/
def importedFiles (tree : FileTree) (file : FilePath) : List FilePath :=
  match readProjectFile tree file with
  | .ok fields => (importNames fields).map (named file.steps.dropLast)
  | .error _ => []

/-- A step that goes into what it names. -/
def IsName (step : String) : Prop :=
  step ≠ "" ∧ step ≠ "." ∧ step ≠ ".."

/-- A path is resolved if it is absolute and all its steps are names. -/
structure FilePath.Resolved (path : FilePath) : Prop where
  absolute : path.anchor = .root
  straight : ∀ step ∈ path.steps, IsName step

variable {tree : FileTree} {path file importer : FilePath} {steps back : List String}
  {content : List UInt8}

/-!
## Steps
-/

theorem FilePath.follow_eq (back steps : List String) :
    follow back steps = steps.foldl stepFrom back.reverse := by
  induction steps generalizing back with
  | nil => rfl
  | cons step rest ih =>
      rw [follow, List.foldl_cons, stepFrom]
      split
      · exact ih back
      · split
        · rw [ih, List.dropLast_reverse]
        · rw [ih, List.reverse_cons]

/-- Steps that stay can be left out. -/
theorem foldl_stepFrom_filter (place pieces : List String) :
    (pieces.filter fun step => step != "" && step != ".").foldl stepFrom place
      = pieces.foldl stepFrom place := by
  induction pieces generalizing place with
  | nil => rfl
  | cons step rest ih =>
      by_cases stays : step = "" ∨ step = "."
      · have same : stepFrom place step = place := if_pos stays
        have leftOut : ¬ (step != "" && step != ".") = true := by
          simpa [Decidable.or_iff_not_imp_left] using stays
        rw [List.filter_cons, if_neg leftOut, ih, List.foldl_cons, same]
      · rw [not_or] at stays
        rw [List.filter_cons_of_pos (by simpa using stays), List.foldl_cons, List.foldl_cons, ih]

/-- A path that a text writes is resolved to the file that the text names. -/
theorem FileTree.resolve_below (tree : FileTree) (base : FilePath) (s : String) :
    tree.resolve (base.below s) = named (tree.stepsTo base) s := by
  rw [resolve, FilePath.follow_eq, named, FilePath.below, List.reverse_nil]
  by_cases absolute : s.startsWith "/" = true
  · have isRoot : FilePath.rootOf s ≠ .here := by
      rw [FilePath.rootOf]
      split <;> decide
    rw [if_pos absolute, if_pos absolute, stepsTo, if_neg isRoot, FilePath.stepsOf,
      foldl_stepFrom_filter]
    rfl
  · have appended : tree.stepsTo { base with steps := base.steps ++ FilePath.stepsOf s }
        = tree.stepsTo base ++ FilePath.stepsOf s := by
      simp only [stepsTo]
      split
      · rw [List.append_assoc]
      · rfl
    rw [if_neg absolute, if_neg absolute, appended, List.foldl_append, FilePath.stepsOf,
      foldl_stepFrom_filter, ← List.foldl_append]
    rfl

/-- What a text names as seen from the working directory. -/
theorem FileTree.resolve_ofText (tree : FileTree) (s : String) :
    tree.resolve (.ofText s) = named tree.home s := by
  rw [FilePath.ofText, resolve_below, stepsTo, if_pos rfl, List.append_nil]

theorem FileTree.resolve_below_root (tree : FileTree) (place : List String) (s : String) :
    tree.resolve (.below ⟨.root, place⟩ s) = named place s :=
  tree.resolve_below ⟨.root, place⟩ s

theorem FilePath.Resolved.parent_eq (resolved : path.Resolved) :
    path.parent = ⟨.root, path.steps.dropLast⟩ := by
  rw [parent, resolved.absolute]

/-- What an import names is named in the directory of the importing file. -/
theorem FilePath.Resolved.target (resolved : importer.Resolved) (given : String) :
    tree.resolve (importer.parent.below given) = named importer.steps.dropLast given := by
  rw [resolved.parent_eq, FileTree.resolve_below_root]

theorem foldl_stepFrom_straight {place : List String} (straight : ∀ step ∈ place, IsName step)
    (steps : List String) : ∀ step ∈ steps.foldl stepFrom place, IsName step := by
  induction steps generalizing place with
  | nil => exact straight
  | cons step rest ih =>
      rw [List.foldl_cons]
      apply ih
      intro other member
      rw [stepFrom] at member
      split at member
      · exact straight other member
      · rename_i moves
        split at member
        · exact straight other ((List.dropLast_sublist place).subset member)
        · rename_i notUp
          rcases List.mem_append.1 member with member | member
          · exact straight other member
          · rw [not_or] at moves
            exact List.mem_singleton.1 member ▸ ⟨moves.1, moves.2, notUp⟩

theorem named_resolved (directory : List String) (s : String) : (named directory s).Resolved :=
  ⟨rfl, foldl_stepFrom_straight (List.forall_mem_nil _) _⟩

theorem FileTree.resolve_resolved (tree : FileTree) (path : FilePath) :
    (tree.resolve path).Resolved := by
  refine ⟨rfl, ?_⟩
  rw [resolve, FilePath.follow_eq]
  exact foldl_stepFrom_straight (List.forall_mem_nil _) _

/-!
## Files
-/

theorem FileTree.walk_eq_some {found : List String} (straight : ∀ step ∈ steps, IsName step)
    (walked : tree.walk back steps = some found) : found = back.reverse ++ steps := by
  induction steps generalizing back with
  | nil =>
      cases walked
      rw [List.append_nil]
  | cons step rest ih =>
      obtain ⟨notEmpty, notPoint, notUp⟩ := straight step (.head _)
      rw [walk] at walked
      by_cases passes : tree.isDirectory back.reverse = true
      · rw [if_pos passes, if_neg (not_or.2 ⟨notEmpty, notPoint⟩), if_neg notUp] at walked
        rw [ih (fun other member => straight other (.tail _ member)) walked, List.reverse_cons,
          List.append_assoc, List.singleton_append]
      · rw [if_neg passes] at walked
        cases walked

/-- Names that lead through directories are walked along. -/
theorem FileTree.walk_of_directories (straight : ∀ step ∈ steps, IsName step)
    (passes : ∀ passed step rest, steps = passed ++ step :: rest →
      tree.isDirectory (back.reverse ++ passed) = true) :
    tree.walk back steps = some (back.reverse ++ steps) := by
  induction steps generalizing back with
  | nil => rw [walk, List.append_nil]
  | cons step rest ih =>
      obtain ⟨notEmpty, notPoint, notUp⟩ := straight step (.head _)
      have here : tree.isDirectory back.reverse = true := by
        simpa using passes [] step rest rfl
      have straightRest := fun other member => straight other (.tail _ member)
      rw [walk, if_pos here, if_neg (not_or.2 ⟨notEmpty, notPoint⟩), if_neg notUp,
        ih straightRest fun passed next others isRest => ?_]
      · simp
      · have further := passes (step :: passed) next others (by rw [isRest]; rfl)
        rwa [List.reverse_cons, List.append_assoc, List.singleton_append]

theorem FileTree.content?_of_entry (isFile : tree.entry steps = .file content) :
    tree.content? steps = some content := by
  rw [entry] at isFile
  cases found : tree.content? steps with
  | none =>
      rw [found] at isFile
      by_cases isDirectory : tree.isDirectory steps = true <;> simp [isDirectory] at isFile
  | some _ =>
      rw [found] at isFile
      cases isFile
      rfl

theorem FilePath.Resolved.stepsTo (resolved : path.Resolved) : tree.stepsTo path = path.steps := by
  rw [FileTree.stepsTo, if_neg]
  rw [resolved.absolute]
  decide

/-- A project file at a resolved path that is read stands in the tree with its steps. -/
theorem readProjectFile_eq_ok {document : Table Document} (resolved : path.Resolved)
    (read : readProjectFile tree path = .ok document) :
    ∃ content, tree.content? path.steps = some content
      ∧ readContent path content = .ok document := by
  rw [readProjectFile, FileTree.look, resolved.stepsTo] at read
  cases walked : tree.walk [] path.steps with
  | none =>
      rw [walked] at read
      cases read
  | some steps =>
      obtain rfl : steps = path.steps := FileTree.walk_eq_some resolved.straight walked
      simp only [walked] at read
      cases entry : tree.entry path.steps with
      | file content =>
          rw [entry] at read
          exact ⟨content, FileTree.content?_of_entry entry, read⟩
      | _ =>
          rw [entry] at read
          cases read

/-- The directories on the way to a file of the tree. -/
theorem FileTree.isDirectory_of_content {passed rest : List String} {step : String}
    (found : tree.content? (passed ++ step :: rest) = some content) :
    tree.isDirectory passed = true := by
  obtain ⟨entry, member, isSteps⟩ := List.mem_map.1 (mem_of_content found)
  rw [isDirectory, Bool.or_eq_true, List.any_eq_true]
  refine .inr ⟨entry, member, ?_⟩
  rw [Bool.and_eq_true, List.isPrefixOf_iff_prefix, bne_iff_ne, isSteps]
  exact ⟨List.prefix_append _ _, by simp⟩

/-- A file that stands in the tree at a resolved path is read by its content. -/
theorem readProjectFile_of_content (resolved : path.Resolved)
    (found : tree.content? path.steps = some content) :
    readProjectFile tree path = readContent path content := by
  have walked : tree.walk [] path.steps = some path.steps :=
    FileTree.walk_of_directories resolved.straight fun passed step rest isSteps =>
      FileTree.isDirectory_of_content (isSteps ▸ found)
  rw [readProjectFile, FileTree.look, resolved.stepsTo, walked]
  simp only [FileTree.entry, found]

/-!
## Imports
-/

theorem importNames_of_importsOf {fields : Table Document} {imports : List String}
    (isImports : importsOf fields = .ok imports) : importNames fields = imports := by
  rw [importsOf, Table.getD] at isImports
  rw [importNames]
  cases given : fields.get? "import" with
  | none =>
      rw [given] at isImports
      cases isImports
      rfl
  | some document =>
      simp only [given, Option.getD_some, Document.orIfVoid] at isImports
      cases document with
      | list items =>
          cases items with
          | nil =>
              cases isImports
              rfl
          | cons item rest =>
              simp only [Document.isVoid, List.isEmpty_cons, Bool.false_eq_true, if_false]
                at isImports
              split at isImports
              · cases isImports
                rfl
              · cases isImports
      | _ =>
          split at isImports
          · rename_i isVoid
            split at isVoid
            · cases isVoid
              cases isImports
              rfl
            · cases isVoid
          · cases isImports

theorem importedFiles_eq {fields : Table Document} {imports : List String}
    (read : readProjectFile tree file = .ok fields) (isImports : importsOf fields = .ok imports) :
    importedFiles tree file = imports.map (named file.steps.dropLast) := by
  rw [importedFiles, read, ← importNames_of_importsOf isImports]

/-- The files that the program goes on to read are those that a project file names. -/
theorem importTargets_eq {imports : List String} (resolved : importer.Resolved)
    (reads : readProjectFile tree importer >>= importsOf = .ok imports) :
    importTargets tree importer = importedFiles tree importer := by
  obtain ⟨fields, read, isImports⟩ := Except.bind_eq_ok_iff.1 reads
  rw [importTargets, reads, importedFiles_eq read isImports]
  exact List.map_congr_left fun given _ => resolved.target given

theorem importedFiles_resolved (imported : file ∈ importedFiles tree importer) :
    file.Resolved := by
  rw [importedFiles] at imported
  split at imported
  · obtain ⟨given, _, rfl⟩ := List.mem_map.1 imported
    exact named_resolved _ given
  · cases imported

end PipelineOverride
