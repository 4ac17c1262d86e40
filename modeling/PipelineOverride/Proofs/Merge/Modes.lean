import PipelineOverride.Proofs.Compilation.Outcome
import PipelineOverride.Proofs.Document.WellFormed
import PipelineOverride.Proofs.Resolution.Step

/-!
# Output modes

The three output modes of a task of a project describe one override: merging the pieces of the array
mode gives the document of the object mode, and the wrapped mode holds that document alone. The two
ways treat the base of the task differently. In the array mode it is the first piece, in the others
the merge starts from it; these agree since merging a table with distinct keys into nothing gives
the table itself.
-/

set_option autoImplicit false

namespace PipelineOverride

/-!
## Merging into nothing
-/

@[simp] theorem mergeValue_none (value : Document) : mergeValue none value = value := by
  cases value <;> simp [mergeValue]

/-- Fields with distinct keys that a table does not have go to its end, in order. -/
theorem mergeFields_of_fresh {target source : Table Document} (distinct : source.Distinct)
    (fresh : ∀ field ∈ source, target.lookup field.1 = none) :
    mergeFields target source = target ++ source := by
  induction source generalizing target with
  | nil => simp [mergeFields]
  | cons field rest ih =>
      obtain ⟨key, value⟩ := field
      obtain ⟨apart, distinctRest⟩ := List.pairwise_cons.1 distinct
      have absent : target.lookup key = none := fresh _ (.head _)
      have freshRest : ∀ field ∈ rest,
          Table.lookup (target ++ [(key, value)]) field.1 = none := by
        intro field member
        rw [Table.lookup_eq_none_iff]
        intro entry entryMember
        rcases List.mem_append.1 entryMember with old | new
        · exact Table.lookup_eq_none_iff.1 (fresh field (.tail _ member)) entry old
        · exact List.mem_singleton.1 new ▸ apart field member
      rw [mergeFields, absent, mergeValue_none, Table.insert_of_lookup_none absent,
        ih distinctRest freshRest, List.append_assoc, List.singleton_append]

theorem mergeFields_nil_left {source : Table Document} (distinct : source.Distinct) :
    mergeFields [] source = source :=
  mergeFields_of_fresh distinct fun _ _ => rfl

/-!
## Merging one table after another
-/

theorem mergeOnto_mappings (start : Table Document) (tables : List (Table Document)) :
    mergeOnto start (tables.map Document.mapping) = .ok (tables.foldl mergeFields start) := by
  induction tables generalizing start with
  | nil => rfl
  | cons table rest ih => exact ih (mergeFields start table)

theorem mergeOnto_eq_ok_iff {start merged : Table Document} {fragments : List Document} :
    mergeOnto start fragments = .ok merged ↔
      ∃ tables : List (Table Document), fragments = tables.map Document.mapping
        ∧ merged = tables.foldl mergeFields start := by
  constructor
  · intro succeeds
    induction fragments generalizing start with
    | nil =>
        cases succeeds
        exact ⟨[], rfl, rfl⟩
    | cons fragment rest ih =>
        rw [mergeOnto, Except.bind_eq_ok_iff] at succeeds
        obtain ⟨fields, isMapping, onward⟩ := succeeds
        obtain ⟨tables, rfl, rfl⟩ := ih onward
        cases fragment with
        | mapping own =>
            cases isMapping
            exact ⟨fields :: tables, rfl, rfl⟩
        | scalar _ => cases isMapping
        | list _ => cases isMapping
        | set _ => cases isMapping
  · intro given
    obtain ⟨tables, rfl, rfl⟩ := given
    exact mergeOnto_mappings start tables

theorem mapM_toTable_mappings (tables : List (Table Document)) :
    (tables.map Document.mapping).mapM Document.toTable = (.ok tables : Except Failure _) := by
  induction tables with
  | nil => rfl
  | cons table rest ih =>
      rw [List.map_cons, List.mapM_cons, ih]
      rfl

/-!
## Bases
-/

theorem Document.elements_eq_ok {document : Document} {elements : List Document}
    (walked : document.elements = .ok elements) : document.elements? = some elements := by
  rw [Document.elements] at walked
  split at walked
  · rename_i found
    cases walked
    exact found
  · cases walked

theorem Document.toTable_eq_ok {document : Document} {table : Table Document}
    (read : document.toTable = .ok table) :
    document = .mapping table ∨ ∃ elements pairs, document.elements? = some elements
      ∧ elements.mapM Document.pair = .ok pairs ∧ table = Table.ofEntries pairs := by
  cases document with
  | mapping fields =>
      cases read
      exact .inl rfl
  | _ =>
      simp only [Document.toTable, Document.fields?, Except.bind_eq_ok_iff] at read
      obtain ⟨elements, walked, pairs, paired, built⟩ := read
      cases built
      exact .inr ⟨elements, pairs, Document.elements_eq_ok walked, paired, rfl⟩

theorem Document.WellFormed.toTable_distinct {document : Document} {table : Table Document}
    (wellFormed : document.WellFormed) (read : document.toTable = .ok table) :
    table.Distinct := by
  rcases Document.toTable_eq_ok read with rfl | ⟨_, pairs, _, _, rfl⟩
  · cases wellFormed with
    | mapping distinct _ => exact distinct
  · exact Table.ofEntries_distinct pairs

theorem Document.elements?_of_isVoid {document : Document} {elements : List Document}
    (isVoid : document.isVoid = true) (walked : document.elements? = some elements) :
    elements = [] := by
  cases document with
  | scalar value => cases value <;> simp_all [Document.isVoid, Document.elements?]
  | list items => simp_all [Document.isVoid, Document.elements?]
  | set members => simp_all [Document.isVoid, Document.elements?]
  | mapping fields => simp_all [Document.isVoid, Document.elements?]

theorem Document.isVoid_of_no_elements {document : Document}
    (walked : document.elements? = some []) : document.isVoid = true := by
  cases document with
  | scalar value => cases value <;> simp_all [Document.isVoid, Document.elements?]
  | list items => simp_all [Document.isVoid, Document.elements?]
  | set members => simp_all [Document.isVoid, Document.elements?]
  | mapping fields => simp_all [Document.isVoid, Document.elements?]

theorem Document.toTable_of_isVoid {document : Document} {table : Table Document}
    (isVoid : document.isVoid = true) (read : document.toTable = .ok table) : table = [] := by
  rcases Document.toTable_eq_ok read with rfl | ⟨elements, pairs, walked, paired, rfl⟩
  · simpa [Document.isVoid] using isVoid
  · obtain rfl := Document.elements?_of_isVoid isVoid walked
    cases paired
    rfl

/-- The table that merging starts with. A void base counts as none. -/
def startTable (base : Option Document) : Except Failure (Table Document) :=
  match base with
  | some document => if document.isVoid then pure [] else document.toTable
  | none => pure []

theorem mergeFragments_eq_bind (fragments : List Document) (base : Option Document) :
    mergeFragments fragments base = startTable base >>= fun start =>
      mergeOnto start fragments >>= fun merged => .ok (.mapping merged) := by
  cases base with
  | none => rfl
  | some document =>
      simp only [mergeFragments, startTable]
      split <;> rfl

theorem mergeFragments_eq_ok_iff {fragments : List Document} {base : Option Document}
    {merged : Document} : mergeFragments fragments base = .ok merged ↔
      ∃ (start : Table Document) (tables : List (Table Document)), startTable base = .ok start
        ∧ fragments = tables.map Document.mapping
        ∧ merged = .mapping (tables.foldl mergeFields start) := by
  simp only [mergeFragments_eq_bind, Except.bind_eq_ok_iff, mergeOnto_eq_ok_iff]
  constructor
  · intro given
    obtain ⟨start, begun, table, ⟨tables, rfl, rfl⟩, ends⟩ := given
    cases ends
    exact ⟨start, tables, begun, rfl, rfl⟩
  · intro given
    obtain ⟨start, tables, begun, rfl, rfl⟩ := given
    exact ⟨start, begun, _, ⟨tables, rfl, rfl⟩, rfl⟩

/-- Merging mappings into a mapping or nothing succeeds. -/
theorem mergeFragments_mappings (tables : List (Table Document)) (base : Option (Table Document)) :
    mergeFragments (tables.map Document.mapping) (base.map Document.mapping)
      = .ok (.mapping (tables.foldl mergeFields (base.getD []))) := by
  refine mergeFragments_eq_ok_iff.2 ⟨base.getD [], tables, ?_, rfl, rfl⟩
  rcases base with _ | _ | _ <;> rfl

/-- Where a well-formed base gives a table at all, merging that table into nothing gives the table
that merging starts with. -/
theorem mergeFields_nil_of_startTable {base : Document} {table start : Table Document}
    (wellFormed : base.WellFormed) (read : base.toTable = .ok table)
    (begun : startTable (some base) = .ok start) : mergeFields [] table = start := by
  simp only [startTable] at begun
  split at begun
  · rename_i isVoid
    cases begun
    rw [Document.toTable_of_isVoid isVoid read]
    rfl
  · cases read.symm.trans begun
    exact mergeFields_nil_left (wellFormed.toTable_distinct read)

/-!
## Modes
-/

theorem merge_pieces {fragments : List Document} {base : Option Document} {pieces merged : Document}
    (wellFormed : ∀ document, base = some document → document.WellFormed)
    (array : emit fragments base .array = .ok pieces)
    (object : emit fragments base .object = .ok merged) :
    ∃ parts, pieces = .list parts ∧ mergeFragments parts none = .ok merged := by
  obtain ⟨start, tables, begun, rfl, rfl⟩ := mergeFragments_eq_ok_iff.1 object
  simp only [emit, Except.bind_eq_ok_iff] at array
  obtain ⟨all, read, ends⟩ := array
  cases ends
  refine ⟨_, rfl, mergeFragments_eq_ok_iff.2 ⟨[], all, rfl, rfl, ?_⟩⟩
  cases base with
  | none =>
      cases begun
      rw [Option.toList_none, List.nil_append, mapM_toTable_mappings] at read
      cases read
      rfl
  | some document =>
      rw [Option.toList_some, List.singleton_append, List.mapM_cons, mapM_toTable_mappings,
        Except.bind_eq_ok_iff] at read
      obtain ⟨first, readFirst, ends⟩ := read
      cases ends
      rw [List.foldl_cons, mergeFields_nil_of_startTable (wellFormed document rfl) readFirst begun]

theorem emit_wrapped {fragments : List Document} {base : Option Document} {merged : Document}
    (object : emit fragments base .object = .ok merged) :
    emit fragments base .wrapped = .ok (.list [merged]) := by
  rw [emit] at object
  rw [emit, object]
  rfl

theorem emit_array_succeeds {fragments : List Document} {base : Option Document}
    {merged : Document} (object : emit fragments base .object = .ok merged)
    (mapping : ∀ document, base = some document → ∃ fields, document = .mapping fields) :
    ∃ pieces, emit fragments base .array = .ok pieces := by
  obtain ⟨_, tables, _, rfl, _⟩ := mergeFragments_eq_ok_iff.1 object
  cases base with
  | none =>
      rw [emit, Option.toList_none, List.nil_append, mapM_toTable_mappings]
      exact ⟨_, rfl⟩
  | some document =>
      obtain ⟨fields, rfl⟩ := mapping document rfl
      rw [emit, Option.toList_some, List.singleton_append, ← List.map_cons,
        mapM_toTable_mappings]
      exact ⟨_, rfl⟩

/-- The modes of a task of a project describe one override, where it has one: the wrapped mode is
the list of the document of the object mode alone, and the pieces of the array mode merge to that
document, with its keys in the same order. -/
theorem modes_describe_one_override {compiler : Compiler} {selected : SelectedTask}
    {context : TaskContext} (found : compiler.context? selected.taskName = some context)
    (standard : context.builtin = false)
    (wellFormed : ∀ base, context.task.override = some base → base.WellFormed)
    {merged : Document}
    (object : (compiler.compile selected (some .object)).outcome = .ok merged) :
    (compiler.compile selected (some .wrapped)).outcome = .ok (.list [merged])
      ∧ (∀ pieces, (compiler.compile selected (some .array)).outcome = .ok pieces →
        ∃ parts, pieces = .list parts ∧ mergeFragments parts none = .ok merged)
      ∧ ((∀ base, context.task.override = some base → ∃ fields, base = .mapping fields) →
        ∃ pieces, (compiler.compile selected (some .array)).outcome = .ok pieces) := by
  simp only [Compiler.compile_outcome_of_context _ found, standard,
    Compiler.outputMode_of_requested] at object ⊢
  obtain ⟨rendered, renders, object⟩ := Except.bind_eq_ok_iff.1 object
  rw [renders]
  refine ⟨emit_wrapped object, ?_, ?_⟩
  · intro pieces array
    exact merge_pieces wellFormed array object
  · intro mapping
    exact emit_array_succeeds object mapping

/-- A task whose base changes the node `N`. -/
def layeredTask : Task where
  name := "T"
  options := [.text "O"]
  override := some (.mapping [(.text "N", .mapping [(.text "a", .bool true)])])
  entry := noText
  label := noText
  description := noText
  defaultCheck := false
  resource := []
  controller := []

/-- An option whose only case changes the node `N` as well. -/
def layeredOption : OptionDefinition := .select {
  cases := [{
    name := "A"
    label := noText
    description := noText
    options := []
    override := some (.mapping [(.text "N", .mapping [(.text "b", .null)])]) }]
  defaultCase := none
  label := noText
  description := noText }

def layeredCompiler : Compiler where
  project := some ⟨noText, "1", [layeredTask], [(.text "O", layeredOption)]⟩
  catalog := ⟨[], []⟩
  settings := {}

theorem layered_fragments :
    (Compiler.fragments ⟨layeredTask, [(.text "O", layeredOption)], false⟩ []).outcome
      = .ok [.mapping [(.text "N", .mapping [(.text "b", .null)])]] := by
  have arrived : arrive? [(.text "O", layeredOption)] [] (.text "O")
      = some ⟨.text "O", layeredOption⟩ := rfl
  have references : layeredTask.options = [.text "O"] := rfl
  rw [Compiler.fragments_outcome, resolve, references, walk_singleton arrived rfl]
  rfl

theorem layered_modes_describe_one_override :
    (layeredCompiler.compile { taskName := "T" } (some .wrapped)).outcome
        = .ok (.list [.mapping [(.text "N",
            .mapping [(.text "a", .bool true), (.text "b", .null)])]])
      ∧ ∃ parts, Document.list [.mapping [(.text "N", .mapping [(.text "a", .bool true)])],
            .mapping [(.text "N", .mapping [(.text "b", .null)])]] = .list parts
        ∧ mergeFragments parts none
          = .ok (.mapping [(.text "N",
              .mapping [(.text "a", .bool true), (.text "b", .null)])]) := by
  have found : layeredCompiler.context? "T"
      = some ⟨layeredTask, [(.text "O", layeredOption)], false⟩ := rfl
  have wellFormed : ∀ base, layeredTask.override = some base → base.WellFormed := by
    intro base isBase
    cases isBase
    refine .mapping (List.pairwise_singleton ..) fun field member => ?_
    cases List.mem_singleton.1 member
    refine .mapping (List.pairwise_singleton ..) fun field member => ?_
    cases List.mem_singleton.1 member
    exact .scalar
  have object : (layeredCompiler.compile { taskName := "T" } (some .object)).outcome
      = .ok (.mapping [(.text "N", .mapping [(.text "a", .bool true), (.text "b", .null)])]) := by
    rw [Compiler.compile_outcome_of_context _ found, layered_fragments]
    rfl
  obtain ⟨wrapped, pieces, _⟩ := modes_describe_one_override found rfl wellFormed object
  refine ⟨wrapped, pieces _ ?_⟩
  rw [Compiler.compile_outcome_of_context _ found, layered_fragments]
  rfl

end PipelineOverride
