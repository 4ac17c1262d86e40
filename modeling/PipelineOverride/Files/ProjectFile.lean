import PipelineOverride.Files.Tree
import PipelineOverride.Json.Reader
import PipelineOverride.Override.Merge
import PipelineOverride.Validation.Structure
import PipelineOverride.Yaml.Value

/-!
# Project files

A project file is JSON with comments, or YAML by its ending. It may import other files, whose tasks
follow its own and whose options it may define itself. Imports that lead back to a file of the same
chain are skipped, so following them ends on every set of files: `filesOffChain_length_lt`.
-/

set_option autoImplicit false

namespace PipelineOverride

def yamlEndings : List String := [".yaml", ".yml"]

def readProjectText (path : FilePath) (s : String) : Except Failure Document :=
  if yamlEndings.contains path.ending then
    match Yaml.read s with
    | .ok document => .ok document
    | .error .badYaml => .error (.file (.badYaml path.text))
    | .error _ => .error (.file (.badJson path.text))
  else
    match Json.read? Json.commented s with
    | some document => .ok document
    | none => .error (.file (.badJson path.text))

def projectFields (path : FilePath) (document : Document) : Except Failure (Table Document) :=
  match document with
  | .mapping fields => .ok fields
  | .null => .error (.file (.empty path.text))
  | other => .error (.file (.notMapping path.text other.kindName))

/-- The fields that the content of a project file writes. -/
def readContent (path : FilePath) (content : List UInt8) : Except Failure (Table Document) :=
  match fileText? content with
  | none => .error .undecodable
  | some s => do projectFields path (← readProjectText path s)

/-- The fields of a project file, imports unread. -/
def readProjectFile (tree : FileTree) (path : FilePath) : Except Failure (Table Document) :=
  match tree.look path with
  | .missing => .error (.file (.missing path.text))
  | .directory => .error .directory
  | .file content => readContent path content

/-- The failure of imports that are no list of texts, which it shows. -/
def importFailure (given : Document) : Failure :=
  if given.isShown then .file (.badImports given) else .badValue

def importsOf (fields : Table Document) : Except Failure (List String) :=
  let given := (fields.getD "import" .null).orIfVoid (.list [])
  match given with
  | .list items =>
    if items.all fun item => item.text?.isSome then .ok (items.filterMap Document.text?)
    else .error (importFailure given)
  | _ => .error (importFailure given)

/-- The files that a project file imports itself, none if it cannot be read. -/
def importTargets (tree : FileTree) (path : FilePath) : List FilePath :=
  match readProjectFile tree path >>= importsOf with
  | .ok imports => imports.map fun given => tree.resolve (path.parent.below given)
  | .error _ => []

def taskItems (fields : Table Document) : Except Failure (List Document) :=
  ((fields.getD "task" .null).orIfVoid (.list [])).elements

/-- Tasks and options that are collected from files. -/
structure Collected where
  tasks : List Document
  options : Table Document

namespace Collected

def ofFields (fields : Table Document) : Except Failure Collected := do
  let tasks ← taskItems fields
  let options ← ((fields.getD "option" .null).orIfVoid (.mapping [])).toTable
  return ⟨tasks, options⟩

/-- Adds an option, unless there is one of its id. -/
def addOption (path : FilePath) (collected : Collected) (id : Scalar) (definition : Document) :
    List Notice × Collected :=
  if Table.contains collected.options id then
    ([⟨.debug, .loader, "Option '" ++ id.display ++ "' from " ++ path.text
      ++ " shadowed by importer"⟩], collected)
  else ([], { collected with options := Table.insert collected.options id definition })

def addOptions (path : FilePath) (collected : Collected) :
    List (Scalar × Document) → List Notice × Collected
  | [] => ([], collected)
  | (id, definition) :: rest =>
    let (first, collected) := collected.addOption path id definition
    let (others, collected) := addOptions path collected rest
    (first ++ others, collected)

def add (path : FilePath) (collected : Collected) (fields : Table Document) :
    Report Collected := do
  let tasks ← Report.ofExcept (taskItems fields)
  let options ← Report.ofExcept ((fields.getD "option" .null).orIfVoid (.mapping [])).fields
  let (notices, collected) :=
    { collected with tasks := collected.tasks ++ tasks }.addOptions path options
  ⟨notices ++ [⟨.debug, .loader, "Imported " ++ path.text⟩], .ok collected⟩

/-- A document with what was collected for it in place of its imports. -/
def fold (collected : Collected) (fields : Table Document) : Table Document :=
  let rest := Table.erase fields (.text "import")
  Table.insert (Table.insert rest (.text "task") (.list collected.tasks)) (.text "option")
    (.mapping collected.options)

end Collected

/-- The files of a tree that are not on a chain of imports. -/
def filesOffChain (tree : FileTree) (chain : List FilePath) : List (List String) :=
  (tree.files.map Prod.fst).filter fun steps => !chain.contains ⟨.root, steps⟩

/-- What has a content is a file of the tree. -/
theorem FileTree.mem_of_content {tree : FileTree} {steps : List String} {content : List UInt8}
    (found : tree.content? steps = some content) : steps ∈ tree.files.map Prod.fst := by
  obtain ⟨home, files⟩ := tree
  induction files with
  | nil => simp [FileTree.content?] at found
  | cons entry rest ih =>
    obtain ⟨key, value⟩ := entry
    simp only [FileTree.content?, List.lookup_cons] at found
    by_cases same : steps = key
    · simp [same]
    · have differs : (steps == key) = false := by simpa using same
      rw [differs] at found
      simp only [List.map_cons, List.mem_cons]
      exact .inr (ih found)

/-- Going on to a file that is not on the chain leaves fewer files off the chain. -/
theorem filesOffChain_length_lt {tree : FileTree} {chain : List FilePath} {path : FilePath}
    {content : List UInt8} (absolute : path.anchor = .root)
    (found : tree.content? path.steps = some content) (fresh : ¬ chain.contains path = true) :
    (filesOffChain tree (path :: chain)).length < (filesOffChain tree chain).length := by
  obtain ⟨anchor, steps⟩ := path
  simp only at absolute found
  subst absolute
  have member := FileTree.mem_of_content found
  have off : steps ∈ filesOffChain tree chain := by
    simp only [filesOffChain, List.mem_filter, member, true_and, Bool.not_eq_true']
    simpa using fresh
  have step : filesOffChain tree (⟨.root, steps⟩ :: chain)
      = (filesOffChain tree chain).filter fun other => !decide (other = steps) := by
    simp only [filesOffChain, List.filter_filter]
    congr 1
    funext other
    by_cases same : other = steps <;> simp [same]
  rw [step]
  apply Nat.lt_of_le_of_ne (List.length_filter_le _ _)
  intro equal
  have := (List.length_filter_eq_length_iff.1 equal) steps off
  simp at this

/-- The warning of an import that leads back to its own chain. -/
def importCycleNotice (path : FilePath) : Notice :=
  ⟨.warning, .loader, "Import cycle detected, skipping: " ++ path.text⟩

/-- Collects what imports declare, each with its own imports, and adds it to what is collected
already. The chain holds the files that the import stands in. -/
def collectImports (tree : FileTree) (chain : List FilePath) (directory : FilePath)
    (collected : Collected) (imports : List String) : Report Collected :=
  match imports with
  | [] => .done collected
  | given :: rest =>
    let path := tree.resolve (directory.below given)
    if onChain : chain.contains path = true then
      (Report.note (importCycleNotice path)).andThen fun _ =>
        collectImports tree chain directory collected rest
    else
      match found : tree.content? path.steps with
      | none =>
        .fail (if tree.isDirectory path.steps then .directory else .file (.missing path.text))
      | some content =>
        (Report.ofExcept (readContent path content)).andThen fun fields =>
          (Report.ofExcept (importsOf fields)).andThen fun inner =>
            have := filesOffChain_length_lt rfl found onChain
            let folded :=
              if inner.isEmpty then Report.done fields
              else
                (Report.ofExcept (Collected.ofFields fields)).andThen fun own =>
                  (collectImports tree (path :: chain) path.parent own inner).andThen
                    fun collected => .done (collected.fold fields)
            folded.andThen fun fields =>
              (collected.add path fields).andThen fun collected =>
                collectImports tree chain directory collected rest
termination_by ((filesOffChain tree chain).length, imports.length)

/-- The fields of a project file with its imports folded in. -/
def loadProjectFields (tree : FileTree) (path : FilePath) : Report (Table Document) := do
  let path := tree.resolve path
  let fields ← Report.ofExcept (readProjectFile tree path)
  let imports ← Report.ofExcept (importsOf fields)
  if imports.isEmpty then return fields
  else
    let own ← Report.ofExcept (Collected.ofFields fields)
    let collected ← collectImports tree [path] path.parent own imports
    return collected.fold fields

/-- Loads a project file. The result is a checked project. -/
def loadProject (tree : FileTree) (path : FilePath) : Report Project := do
  let fields ← loadProjectFields tree path
  let project ← Project.checked (.mapping fields) path.text
  Report.note ⟨.info, .loader, "Loaded project '" ++ project.name.display ++ "' from " ++ path.text
    ++ ": " ++ Decimal.natText project.tasks.length ++ " task(s), "
    ++ Decimal.natText project.options.length ++ " option(s)"⟩
  return project

def validateProjectFile (tree : FileTree) (path : FilePath) : Report Findings := do
  let fields ← loadProjectFields tree path
  validate (.mapping fields) path.text

/-- Whether a failure is one of a project file, and not of the program that reads it. -/
def Failure.isOfProject : Failure → Bool
  | .file _ => true
  | .invalid _ _ => true
  | _ => false

/-- Loads a project file, or gives none with a warning where it cannot be used. -/
def loadProjectOrNone (tree : FileTree) (path : Option FilePath) : Report (Option Project) :=
  match path with
  | none => .done none
  | some path =>
    let report := loadProject tree path
    match report.outcome with
    | .ok project => ⟨report.notices, .ok (some project)⟩
    | .error failure =>
      if failure.isOfProject then
        ⟨report.notices ++ [⟨.warning, .loader,
          "Project interface unavailable: " ++ failure.message?.getD ""⟩], .ok none⟩
      else ⟨report.notices, .error failure⟩

end PipelineOverride
