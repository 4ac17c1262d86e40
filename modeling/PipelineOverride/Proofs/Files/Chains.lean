import Mathlib.Logic.Relation
import PipelineOverride.Proofs.Files.Resolved

/-!
# Chains of imports

A position names a file in the tree of imports below a root: the index of an import of the root,
then the index of an import of that file, and so on. The position of the root is empty. Following
imports in depth meets the documents of the positions that pass no file twice, in lexicographic
order, so each importer comes before its imports.
-/

set_option autoImplicit false

namespace PipelineOverride

/-- A project file names a file in its list of imports. -/
def Imports (tree : FileTree) (importer file : FilePath) : Prop :=
  file ∈ importedFiles tree importer

/-- The files that are passed when the indices of a position are followed from a list of files on.
There are none if an index is out of range. -/
def importTrail? (tree : FileTree) : List FilePath → List Nat → Option (List FilePath)
  | _, [] => some []
  | files, index :: rest => do
    let file ← files[index]?
    let others ← importTrail? tree (importedFiles tree file) rest
    return file :: others

/-- A position below a root leads along files that are pairwise distinct and differ from the root,
and the last of them has a document. -/
def MeetsAt (tree : FileTree) (root : FilePath) (position : List Nat)
    (document : Table Document) : Prop :=
  ∃ trail, importTrail? tree (importedFiles tree root) position = some trail
    ∧ (root :: trail).Nodup ∧ readProjectFile tree (trail.getLastD root) = .ok document

/-- The documents that are met below a root, each with its position, in lexicographic order. -/
structure WalksImports (tree : FileTree) (root : FilePath)
    (met : List (List Nat × Table Document)) : Prop where
  ascending : met.Pairwise fun earlier later => earlier.1 < later.1
  mem_iff : ∀ position document, (position, document) ∈ met ↔ MeetsAt tree root position document

/-!
## Documents off a chain
-/

/-- A position from a list of files leads along files that are pairwise distinct and off a chain,
and the last of them has a document. -/
def MeetsOff (tree : FileTree) (chain files : List FilePath) (position : List Nat)
    (document : Table Document) : Prop :=
  ∃ trail last, importTrail? tree files position = some trail ∧ trail.Nodup
    ∧ (∀ passed ∈ trail, passed ∉ chain) ∧ trail.getLast? = some last
    ∧ readProjectFile tree last = .ok document

variable {tree : FileTree} {chain files : List FilePath} {file root : FilePath} {index : Nat}
  {position tail : List Nat} {document : Table Document}

theorem importTrail?_cons_eq_some {trail : List FilePath} :
    importTrail? tree files (index :: tail) = some trail ↔
      ∃ file others, files[index]? = some file
        ∧ importTrail? tree (importedFiles tree file) tail = some others
        ∧ trail = file :: others := by
  simp only [importTrail?, Option.bind_eq_bind, Option.bind_eq_some_iff, Option.pure_def,
    Option.some.injEq]
  constructor
  · intro given
    obtain ⟨file, found, others, onward, rfl⟩ := given
    exact ⟨file, others, found, onward, rfl⟩
  · intro given
    obtain ⟨file, others, found, onward, rfl⟩ := given
    exact ⟨file, found, others, onward, rfl⟩

theorem not_meetsOff_nil : ¬ MeetsOff tree chain files [] document := by
  intro given
  obtain ⟨_, _, leads, _, _, isLast, _⟩ := given
  cases leads
  cases isLast

/-- A position leads to the file of its first index, and from there on off the longer chain. -/
theorem meetsOff_cons :
    MeetsOff tree chain files (index :: tail) document ↔
      ∃ file, files[index]? = some file ∧ file ∉ chain
        ∧ (tail = [] ∧ readProjectFile tree file = .ok document
          ∨ MeetsOff tree (file :: chain) (importedFiles tree file) tail document) := by
  constructor
  · intro given
    obtain ⟨trail, last, leads, distinct, off, isLast, read⟩ := given
    obtain ⟨file, others, found, onward, rfl⟩ := importTrail?_cons_eq_some.1 leads
    obtain ⟨fresh, distinct⟩ := List.nodup_cons.1 distinct
    refine ⟨file, found, off file (.head _), ?_⟩
    cases others with
    | nil =>
        cases isLast
        cases tail with
        | nil => exact .inl ⟨rfl, read⟩
        | cons next tail =>
            obtain ⟨_, _, _, _, impossible⟩ := importTrail?_cons_eq_some.1 onward
            cases impossible
    | cons next others =>
        rw [List.getLast?_cons_cons] at isLast
        refine .inr ⟨next :: others, last, onward, distinct, fun passed member => ?_, isLast, read⟩
        rw [List.mem_cons, not_or]
        exact ⟨fun same => fresh (same ▸ member), off passed (.tail _ member)⟩
  · intro given
    obtain ⟨file, found, fresh, onward⟩ := given
    rcases onward with ⟨rfl, read⟩ | ⟨others, last, onward, distinct, off, isLast, read⟩
    · refine ⟨[file], file, importTrail?_cons_eq_some.2 ⟨file, [], found, rfl, rfl⟩,
        List.pairwise_singleton .., fun passed member => ?_, rfl, read⟩
      rwa [List.mem_singleton.1 member]
    · refine ⟨file :: others, last, importTrail?_cons_eq_some.2 ⟨file, others, found, onward, rfl⟩,
        List.nodup_cons.2 ⟨fun member => off file member (.head _), distinct⟩, ?_, ?_, read⟩
      · intro passed member
        rcases List.mem_cons.1 member with rfl | member
        · exact fresh
        · exact fun onChain => off passed member (.tail _ onChain)
      · rw [List.getLast?_cons, isLast, Option.getD_some]

theorem meetsOff_of_getElem? (found : files[index]? = some file) :
    MeetsOff tree chain files (index :: tail) document ↔
      file ∉ chain ∧ (tail = [] ∧ readProjectFile tree file = .ok document
        ∨ MeetsOff tree (file :: chain) (importedFiles tree file) tail document) := by
  simp only [meetsOff_cons, found, Option.some.injEq, exists_eq_left']

theorem meetsAt_iff :
    MeetsAt tree root position document ↔
      position = [] ∧ readProjectFile tree root = .ok document
        ∨ MeetsOff tree [root] (importedFiles tree root) position document := by
  constructor
  · intro given
    obtain ⟨trail, leads, distinct, read⟩ := given
    obtain ⟨fresh, distinct⟩ := List.nodup_cons.1 distinct
    cases trail with
    | nil =>
        cases position with
        | nil => exact .inl ⟨rfl, read⟩
        | cons index tail =>
            obtain ⟨_, _, _, _, impossible⟩ := importTrail?_cons_eq_some.1 leads
            cases impossible
    | cons file others =>
        refine .inr ⟨file :: others, _, leads, distinct, fun passed member => ?_,
          List.getLast?_cons, ?_⟩
        · rw [List.mem_singleton]
          exact fun same => fresh (same ▸ member)
        · rwa [List.getLastD_cons, List.getLastD_eq_getLast?] at read
  · intro given
    rcases given with ⟨rfl, read⟩ | ⟨trail, last, leads, distinct, off, isLast, read⟩
    · exact ⟨[], rfl, List.pairwise_singleton .., read⟩
    · refine ⟨trail, leads, List.nodup_cons.2 ⟨fun member => ?_, distinct⟩, ?_⟩
      · exact off root member (List.mem_singleton_self _)
      · rwa [List.getLastD_eq_getLast?, isLast, Option.getD_some]

/-!
## Walks
-/

/-- A walk through the files from an index of a list on, in depth and off a chain. It skips files on
the chain and meets each other file before the imports of that file. -/
inductive Met (tree : FileTree) :
    List FilePath → Nat → List FilePath → List (List Nat × Table Document) → Prop where
  | nil {chain : List FilePath} {index : Nat} : Met tree chain index [] []
  | skip {chain : List FilePath} {index : Nat} {file : FilePath} {rest : List FilePath}
      {beside : List (List Nat × Table Document)} : file ∈ chain →
      Met tree chain (index + 1) rest beside → Met tree chain index (file :: rest) beside
  | visit {chain : List FilePath} {index : Nat} {file : FilePath} {rest : List FilePath}
      {document : Table Document} {below beside : List (List Nat × Table Document)} :
      file ∉ chain → readProjectFile tree file = .ok document →
      Met tree (file :: chain) 0 (importedFiles tree file) below →
      Met tree chain (index + 1) rest beside →
      Met tree chain index (file :: rest)
        (([index], document) :: below.map (Prod.map (List.cons index) id) ++ beside)

variable {met : List (List Nat × Table Document)}

theorem Met.first_le (walk : Met tree chain index files met) :
    ∀ entry ∈ met, ∃ first tail, entry.1 = first :: tail ∧ index ≤ first := by
  induction walk with
  | nil => exact fun _ member => (List.not_mem_nil member).elim
  | skip _ _ ih =>
      intro entry member
      obtain ⟨first, tail, isPosition, later⟩ := ih entry member
      exact ⟨first, tail, isPosition, Nat.le_of_succ_le later⟩
  | @visit _ index _ _ _ _ _ _ _ _ _ _ ihBeside =>
      intro entry member
      rcases List.mem_append.1 member with here | beside
      · rcases List.mem_cons.1 here with rfl | below
        · exact ⟨index, [], rfl, Nat.le_refl _⟩
        · obtain ⟨other, _, rfl⟩ := List.mem_map.1 below
          exact ⟨index, other.1, rfl, Nat.le_refl _⟩
      · obtain ⟨first, tail, isPosition, later⟩ := ihBeside entry beside
        exact ⟨first, tail, isPosition, Nat.le_of_succ_le later⟩

theorem Met.ascending (walk : Met tree chain index files met) :
    met.Pairwise fun earlier later => earlier.1 < later.1 := by
  induction walk with
  | nil => exact List.Pairwise.nil
  | skip _ _ ih => exact ih
  | @visit _ index _ _ _ _ _ _ _ walkBelow walkBeside ihBelow ihBeside =>
      rw [List.pairwise_append, List.pairwise_cons, List.pairwise_map]
      refine ⟨⟨fun entry member => ?_, ihBelow.imp fun earlier => .cons earlier⟩, ihBeside,
        fun earlier member later memberBeside => ?_⟩
      · obtain ⟨other, memberBelow, rfl⟩ := List.mem_map.1 member
        obtain ⟨first, tail, isPosition, _⟩ := walkBelow.first_le other memberBelow
        exact .cons (isPosition ▸ List.nil_lt_cons _ _)
      · obtain ⟨first, tail, isPosition, later⟩ := walkBeside.first_le later memberBeside
        rw [isPosition]
        rcases List.mem_cons.1 member with rfl | below
        · exact .rel later
        · obtain ⟨other, _, rfl⟩ := List.mem_map.1 below
          exact .rel later

/-- What a walk from the first index on meets is known from the positions that are not empty, since
the empty one leads to none of the files. -/
theorem Met.mem_iff_of_cons (walk : Met tree chain 0 files met)
    (each : ∀ first tail document, (first :: tail, document) ∈ met ↔
      0 ≤ first ∧ MeetsOff tree chain files (first :: tail) document) :
    (position, document) ∈ met ↔ MeetsOff tree chain files position document := by
  cases position with
  | nil =>
      refine ⟨fun member => ?_, fun given => absurd given not_meetsOff_nil⟩
      obtain ⟨_, _, impossible, _⟩ := walk.first_le _ member
      cases impossible
  | cons first tail =>
      rw [each]
      exact and_iff_right (Nat.zero_le _)

theorem mem_map_cons {below : List (List Nat × Table Document)} {first : Nat} :
    (first :: tail, document) ∈ below.map (Prod.map (List.cons index) id)
      ↔ first = index ∧ (tail, document) ∈ below := by
  simp only [List.mem_map, Prod.exists, Prod.map_apply, id, Prod.mk.injEq, List.cons.injEq]
  constructor
  · intro given
    obtain ⟨_, _, member, ⟨rfl, rfl⟩, rfl⟩ := given
    exact ⟨rfl, member⟩
  · intro given
    obtain ⟨rfl, member⟩ := given
    exact ⟨tail, document, member, ⟨rfl, rfl⟩, rfl⟩

theorem getElem?_of_cons_eq_drop {α : Type} {all rest : List α} {value : α}
    (isRest : value :: rest = all.drop index) :
    all[index]? = some value ∧ rest = all.drop (index + 1) := by
  constructor
  · rw [← List.head?_drop, ← isRest, List.head?_cons]
  · rw [← List.tail_drop, ← isRest, List.tail_cons]

/-- A walk from an index of a list on meets what the positions from that index on lead to. -/
theorem Met.mem_iff (walk : Met tree chain index files met) {all : List FilePath}
    (isRest : files = all.drop index) (first : Nat) (tail : List Nat) (document : Table Document) :
    (first :: tail, document) ∈ met ↔
      index ≤ first ∧ MeetsOff tree chain all (first :: tail) document := by
  induction walk generalizing all first tail document with
  | @nil _ index =>
      refine ⟨fun member => (List.not_mem_nil member).elim, fun given => ?_⟩
      obtain ⟨file, found, _⟩ := meetsOff_cons.1 given.2
      have inRange := (List.getElem?_eq_some_iff.1 found).1
      have short := List.drop_eq_nil_iff.1 isRest.symm
      exact absurd given.1 (Nat.not_le.2 (Nat.lt_of_lt_of_le inRange short))
  | @skip _ index file rest _ onChain _ ih =>
      obtain ⟨isFile, isNext⟩ := getElem?_of_cons_eq_drop isRest
      rw [ih isNext]
      refine ⟨fun given => ⟨Nat.le_of_succ_le given.1, given.2⟩, fun given => ⟨?_, given.2⟩⟩
      -- The index of the skipped file leads onto the chain, so it leads to no document.
      refine Nat.lt_of_le_of_ne given.1 fun same => ?_
      exact ((meetsOff_of_getElem? (same ▸ isFile)).1 given.2).1 onChain
  | @visit chain index file rest own below _ fresh read walkBelow walkBeside ihBelow ihBeside =>
      obtain ⟨isFile, isNext⟩ := getElem?_of_cons_eq_drop isRest
      rw [List.mem_append, List.mem_cons, mem_map_cons, walkBelow.mem_iff_of_cons (ihBelow rfl),
        ihBeside isNext]
      by_cases same : first = index
      · subst same
        have passed : ¬ (first + 1 ≤ first ∧ MeetsOff tree chain all (first :: tail) document) :=
          fun given => Nat.not_succ_le_self _ given.1
        rw [or_iff_left passed, and_iff_right (Nat.le_refl first), and_iff_right rfl,
          meetsOff_of_getElem? isFile, and_iff_right fresh]
        refine or_congr_left ⟨fun isOwn => ?_, fun isOwn => ?_⟩
        · cases isOwn
          exact ⟨rfl, read⟩
        · obtain ⟨rfl, again⟩ := isOwn
          cases read.symm.trans again
          rfl
      · have beside : ¬ ((first :: tail, document) = ([index], own)
            ∨ first = index ∧ MeetsOff tree (file :: chain) (importedFiles tree file) tail
              document) := by
          intro given
          rcases given with isOwn | deeper
          · cases isOwn
            exact same rfl
          · exact same deeper.1
        rw [or_iff_right beside]
        exact ⟨fun given => ⟨Nat.le_of_succ_le given.1, given.2⟩,
          fun given => ⟨Nat.lt_of_le_of_ne given.1 (Ne.symm same), given.2⟩⟩

/-- The document of a root and what a walk through its imports meets are the documents that are met
below the root. -/
theorem Met.walksImports (read : readProjectFile tree root = .ok document)
    (walk : Met tree [root] 0 (importedFiles tree root) met) :
    WalksImports tree root (([], document) :: met) := by
  refine ⟨List.pairwise_cons.2 ⟨fun entry member => ?_, walk.ascending⟩,
    fun position other => ?_⟩
  · obtain ⟨first, tail, isPosition, _⟩ := walk.first_le entry member
    exact isPosition ▸ List.nil_lt_cons _ _
  · rw [List.mem_cons, walk.mem_iff_of_cons (walk.mem_iff rfl), meetsAt_iff, Prod.mk.injEq, read,
      Except.ok.injEq, eq_comm (b := document)]

/-- What is met below a root is determined with its order, as the positions ascend. -/
theorem WalksImports.unique {others : List (List Nat × Table Document)}
    (walks : WalksImports tree root met) (walksOthers : WalksImports tree root others) :
    met = others := by
  have distinct : ∀ {entries}, WalksImports tree root entries → entries.Nodup := by
    intro entries walks
    refine List.Pairwise.imp (fun earlier => ?_) walks.ascending
    rintro rfl
    exact List.lt_irrefl _ earlier
  have same : met.Perm others := by
    refine (List.perm_ext_iff_of_nodup (distinct walks) (distinct walksOthers)).2 fun entry => ?_
    rw [walks.mem_iff, walksOthers.mem_iff]
  refine same.eq_of_pairwise (fun entry other _ _ earlier later => ?_) walks.ascending
    walksOthers.ascending
  exact absurd (List.lt_trans earlier later) (List.lt_irrefl _)

/-- Walks end on every set of files that can be read, since each chain grows only up to the number
of files. -/
theorem exists_met
    (readable : ∀ file, Relation.ReflTransGen (Imports tree) root file →
      ∃ document, readProjectFile tree file = .ok document)
    (chain : List FilePath) (index : Nat) (files : List FilePath)
    (imported : ∀ file ∈ files, Relation.ReflTransGen (Imports tree) root file ∧ file.Resolved) :
    ∃ met, Met tree chain index files met := by
  induction size : (filesOffChain tree chain).length using Nat.strongRecOn
    generalizing chain index files with
  | _ size longer =>
      subst size
      induction files generalizing index with
      | nil => exact ⟨[], .nil⟩
      | cons file rest ih =>
          obtain ⟨beside, walkBeside⟩ := ih (index + 1) fun other member =>
            imported other (.tail _ member)
          by_cases onChain : file ∈ chain
          · exact ⟨beside, .skip onChain walkBeside⟩
          · obtain ⟨reached, resolved⟩ := imported file (.head _)
            obtain ⟨document, read⟩ := readable file reached
            obtain ⟨content, found, _⟩ := readProjectFile_eq_ok resolved read
            have fewer := filesOffChain_length_lt resolved.absolute found
              fun given => onChain (List.contains_iff_mem.1 given)
            obtain ⟨below, walkBelow⟩ := longer _ fewer (file :: chain) 0 (importedFiles tree file)
              (fun other member => ⟨reached.tail member, importedFiles_resolved member⟩) rfl
            exact ⟨_, .visit onChain read walkBelow walkBeside⟩

end PipelineOverride
