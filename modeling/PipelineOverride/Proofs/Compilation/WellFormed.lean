import PipelineOverride.Proofs.Compilation.Returns
import PipelineOverride.Proofs.Merge.Grouping
import PipelineOverride.Proofs.Substitution.Leaves
import PipelineOverride.Proofs.Validation.Declared

/-!
# Well-formed overrides

An override that is compiled from well-formed parts is well formed. The parts are the overrides of
tasks and cases and what was entered for slots. Templates need not be well formed, since filling one
keeps a single value for each key.
-/

set_option autoImplicit false

namespace PipelineOverride

/-!
## Parts
-/

/-- The overrides of the cases of an option are well formed. -/
def OptionDefinition.WellFormed (definition : OptionDefinition) : Prop :=
  ∀ branch ∈ definition.cases, ∀ payload, branch.override = some payload → payload.WellFormed

/-- The overrides of tasks and of the cases of options are well formed. -/
structure WellFormedParts (tasks : List Task) (options : Registry) : Prop where
  tasks : ∀ task ∈ tasks, ∀ base, task.override = some base → base.WellFormed
  options : ∀ entry ∈ options, entry.2.WellFormed

/-- What was entered for slots is well formed. Every text is. -/
def SelectionStore.WellFormed (store : SelectionStore) : Prop :=
  ∀ entry ∈ store, ∀ values, entry.2 = .input values → ∀ field ∈ values, field.2.WellFormed

/-- All that a compiler can put into an override is well formed. -/
structure Compiler.WellFormed (compiler : Compiler) : Prop where
  project : ∀ project, compiler.project = some project →
    WellFormedParts project.tasks project.options
  catalog : WellFormedParts compiler.catalog.tasks compiler.catalog.options

/-- The override of the task of a context is well formed, and so are those of the cases of the
options it is resolved against. -/
structure TaskContext.WellFormed (context : TaskContext) : Prop where
  base : ∀ document, context.task.override = some document → document.WellFormed
  registry : ∀ entry ∈ context.registry, entry.2.WellFormed

theorem Document.IsText.wellFormed {document : Document} (isText : document.IsText) :
    document.WellFormed := by
  obtain ⟨s, rfl⟩ := isText
  exact .scalar

theorem SelectionStore.TextValues.wellFormed {store : SelectionStore} (texts : store.TextValues) :
    store.WellFormed :=
  fun entry member values isInput field fieldMember =>
    (texts entry member values isInput field fieldMember).wellFormed

theorem Case.ofDocument_wellFormed {document : Document} {branch : Case}
    (wellFormed : document.WellFormed) (read : Case.ofDocument document = .ok branch) :
    ∀ payload, branch.override = some payload → payload.WellFormed := by
  cases wellFormed with
  | mapping _ each =>
      simp only [Case.ofDocument, Document.fields?, pure_bind, Except.bind_eq_ok_iff] at read
      obtain ⟨_, _, _, _, ends⟩ := read
      cases ends
      exact fun payload given => .of_given? each given
  | scalar => cases read
  | set => cases read
  | list _ => cases read

theorem OptionDefinition.ofDocument_wellFormed {document : Document}
    {definition : OptionDefinition} (wellFormed : document.WellFormed)
    (read : OptionDefinition.ofDocument document = .ok definition) : definition.WellFormed := by
  rw [OptionDefinition.ofDocument, Except.bind_eq_ok_iff] at read
  obtain ⟨fields, readFields, read⟩ := read
  have declared : (fields.getD "cases" (.list [])).WellFormed :=
    .of_getD (wellFormed.of_fields readFields) "cases" (.list (List.forall_mem_nil _))
  obtain ⟨kind, _, read⟩ := Except.bind_eq_ok_iff.1 read
  split at read
  · cases read
  · simp only [Except.bind_eq_ok_iff] at read
    obtain ⟨_, _, _, _, ends⟩ := read
    cases ends
    exact List.forall_mem_nil _
  · simp only [Except.bind_eq_ok_iff] at read
    obtain ⟨elements, walked, cases, readCases, ends⟩ := read
    have branches : ∀ branch ∈ cases, ∀ payload, branch.override = some payload →
        payload.WellFormed := by
      intro branch member
      obtain ⟨source, isSource, readBranch⟩ := Except.exists_mem_of_mapM_ok readCases member
      exact Case.ofDocument_wellFormed (declared.of_elements walked source isSource) readBranch
    cases ends
    split <;> exact branches

/-- The parts of a project that was read from a well-formed document are well formed. -/
theorem WellFormedParts.of_document {document : Document} {project : Project}
    (wellFormed : document.WellFormed) (read : Project.ofDocument document = .ok project) :
    WellFormedParts project.tasks project.options := by
  refine ⟨Project.ofDocument_wellFormed wellFormed read, ?_⟩
  simp only [Project.ofDocument, Except.bind_eq_ok_iff] at read
  obtain ⟨fields, readFields, _, _, _, _, options, readOptions, _, _, ends⟩ := read
  cases ends
  have declared : (fields.getD "option" .null).WellFormed :=
    .of_getD (wellFormed.of_fields readFields) "option" .scalar
  rw [Registry.ofDocument] at readOptions
  split at readOptions
  · cases readOptions
    exact List.forall_mem_nil _
  · obtain ⟨entries, readEntries, readOptions⟩ := Except.bind_eq_ok_iff.1 readOptions
    intro entry member
    obtain ⟨source, isSource, _, readDefinition⟩ :=
      exists_related_of_mem (Registry.ofFields_forall₂ readOptions) member
    exact OptionDefinition.ofDocument_wellFormed
      (declared.of_fields readEntries source isSource) readDefinition

/-!
## Templates
-/

theorem Document.rewrite_wellFormed {onKey : Scalar → Scalar} {onText : String → Document}
    (leaf : ∀ s, (onText s).WellFormed) (document : Document) :
    (document.rewrite onKey onText).WellFormed := by
  induction document using Document.induction with
  | scalar value =>
      cases value with
      | text s => exact leaf s
      | null | bool | int | float | moment | bytes => exact .scalar
  | set members => exact .set
  | list items each =>
      rw [rewrite, rewriteItems_eq_map]
      refine .list fun item member => ?_
      obtain ⟨source, isSource, rfl⟩ := List.mem_map.1 member
      exact each source isSource
  | mapping fields each =>
      rw [rewrite, rewriteFields_eq_map]
      refine .mapping (Table.ofEntries_distinct _) (Table.forall_ofEntries fun field member => ?_)
      obtain ⟨source, isSource, rfl⟩ := List.mem_map.1 member
      exact each source isSource

theorem readNumber?_wellFormed {s : String} {number : Document}
    (read : readNumber? s = .ok (some number)) : number.WellFormed := by
  rw [readNumber?] at read
  split at read
  · split at read <;> cases read
    exact .scalar
  · split at read <;> cases read
    exact .scalar
  · cases read

theorem coerce_wellFormed {raw value : Document} {type : SlotType} {name : String}
    (wellFormed : raw.WellFormed) (coerced : coerce raw type name = .ok value) :
    value.WellFormed := by
  cases type with
  | string =>
      cases coerced
      exact wellFormed
  | bool =>
      obtain ⟨truth, _, rfl⟩ := Except.map_eq_ok_iff.1 coerced
      exact .scalar
  | int =>
      rw [coerce] at coerced
      split at coerced
      · obtain ⟨read, isRead, ends⟩ := Except.bind_eq_ok_iff.1 coerced
        cases read with
        | none => cases ends
        | some number =>
            cases ends
            exact readNumber?_wellFormed isRead
      · cases coerced

theorem Document.WellFormed.orIfVoid {document other : Document} (here : document.WellFormed)
    (otherwise : other.WellFormed) : (document.orIfVoid other).WellFormed := by
  rw [Document.orIfVoid]
  split
  · exact otherwise
  · exact here

theorem Slot.rawValue_wellFormed {values : Table Document}
    (entered : ∀ field ∈ values, field.2.WellFormed) (slot : Slot) :
    (slot.rawValue values).WellFormed := by
  have given : ((values.get? slot.name).getD .null).WellFormed :=
    Document.WellFormed.of_getD entered slot.name .scalar
  rw [rawValue]
  refine Document.WellFormed.orIfVoid ?_ .scalar
  split
  · exact .scalar
  · exact given

theorem fillTemplate_wellFormed {body filled : Document} {slots : List Slot}
    {values : Table Document} (entered : ∀ field ∈ values, field.2.WellFormed)
    (fills : fillTemplate body slots values = .ok filled) : filled.WellFormed := by
  rw [eq_rewrite_of_substitute fills]
  apply Document.rewrite_wellFormed
  intro s
  rw [leafAfter, substituteLeaf]
  split
  · rename_i slot raw whole
    obtain ⟨own, _, same⟩ := List.mem_map.1 (List.mem_of_find?_eq_some whole)
    cases same
    cases coerced : coerce (slot.rawValue values) slot.type slot.name with
    | error _ => exact .scalar
    | ok value => exact coerce_wellFormed (slot.rawValue_wellFormed entered) coerced
  · cases substituteText (rawValues slots values) s.toList <;> exact .scalar

/-!
## Fragments
-/

/-- The payload of a fragment, or what was entered for its template, is well formed. -/
inductive Fragment.WellFormed : Fragment → Prop where
  | static {id : Scalar} {payload : Document} : payload.WellFormed → WellFormed (.static id payload)
  | template {id : Scalar} {body : Document} {slots : List Slot} {values : Table Document} :
      (∀ field ∈ values, field.2.WellFormed) → WellFormed (.template id body slots values)

theorem Fragment.WellFormed.kept? {fragment : Fragment} {document : Document}
    (wellFormed : fragment.WellFormed) (kept : fragment.kept? = some document) :
    document.WellFormed := by
  cases wellFormed with
  | static payload =>
      cases kept
      exact payload
  | template entered =>
      exact fillTemplate_wellFormed entered (Except.toOption_eq_some_iff.1 kept)

theorem Site.fragment?_wellFormed {selections : SelectionStore} {site : Site} {fragment : Fragment}
    (entered : selections.WellFormed) (wellFormed : site.definition.WellFormed)
    (found : site.fragment? selections = some fragment) : fragment.WellFormed := by
  rw [Site.fragment?] at found
  split at found
  · rename_i form values isForm effective
    obtain ⟨body, _, rfl⟩ := Option.map_eq_some_iff.1 found
    exact .template (effectiveValue_forall (fun _ => .scalar) entered effective)
  · obtain ⟨branch, active, found⟩ := Option.bind_eq_some_iff.1 found
    obtain ⟨payload, isPayload, rfl⟩ := Option.map_eq_some_iff.1 found
    have member := OptionDefinition.mem_cases_of_activeCase? active
    exact .static (wellFormed branch member payload isPayload)

/-!
## Emitting
-/

theorem Document.WellFormed.pair {document : Document} {entry : Scalar × Document}
    (wellFormed : document.WellFormed) (paired : document.pair = .ok entry) :
    entry.2.WellFormed := by
  rw [Document.pair, Except.bind_eq_ok_iff] at paired
  obtain ⟨elements, walked, paired⟩ := paired
  split at paired
  · split at paired
    · cases paired
      exact wellFormed.of_elements walked _ (.tail _ (.head _))
    · cases paired
  · cases paired

theorem Document.WellFormed.toTable {document : Document} {table : Table Document}
    (wellFormed : document.WellFormed) (read : document.toTable = .ok table) :
    (Document.mapping table).WellFormed := by
  refine .mapping (wellFormed.toTable_distinct read) ?_
  rcases Document.toTable_eq_ok read with rfl | ⟨elements, pairs, isElements, paired, rfl⟩
  · exact wellFormed.of_mapping.2
  · have walked : document.elements = .ok elements := by
      rw [Document.elements, isElements]
    refine Table.forall_ofEntries fun entry member => ?_
    obtain ⟨element, isElement, isEntry⟩ := Except.exists_mem_of_mapM_ok paired member
    exact (wellFormed.of_elements walked element isElement).pair isEntry

theorem mergeFields_wellFormed {target source : Table Document}
    (there : (Document.mapping target).WellFormed)
    (incoming : (Document.mapping source).WellFormed) :
    (Document.mapping (mergeFields target source)).WellFormed :=
  incoming.merge (some (.mapping target)) fun _ isOld => Option.some.inj isOld ▸ there

theorem startTable_wellFormed {base : Option Document} {start : Table Document}
    (wellFormed : ∀ document, base = some document → document.WellFormed)
    (begun : startTable base = .ok start) : (Document.mapping start).WellFormed := by
  have empty : (Document.mapping []).WellFormed := .mapping .nil (List.forall_mem_nil _)
  cases base with
  | none =>
      cases begun
      exact empty
  | some document =>
      rw [startTable] at begun
      split at begun
      · cases begun
        exact empty
      · exact (wellFormed document rfl).toTable begun

theorem mergeFragments_wellFormed {fragments : List Document} {base : Option Document}
    {merged : Document} (each : ∀ fragment ∈ fragments, fragment.WellFormed)
    (started : ∀ document, base = some document → document.WellFormed)
    (merges : mergeFragments fragments base = .ok merged) : merged.WellFormed := by
  obtain ⟨start, tables, begun, rfl, rfl⟩ := mergeFragments_eq_ok_iff.1 merges
  have begins := startTable_wellFormed started begun
  clear begun merges
  induction tables generalizing start with
  | nil => exact begins
  | cons table rest ih =>
      rw [List.map_cons, List.forall_mem_cons] at each
      exact ih _ each.2 (mergeFields_wellFormed begins each.1)

theorem emit_wellFormed {fragments : List Document} {base : Option Document} {mode : OutputMode}
    {document : Document} (each : ∀ fragment ∈ fragments, fragment.WellFormed)
    (started : ∀ document, base = some document → document.WellFormed)
    (emitted : emit fragments base mode = .ok document) : document.WellFormed := by
  cases mode with
  | object => exact mergeFragments_wellFormed each started emitted
  | wrapped =>
      obtain ⟨merged, merges, ends⟩ := Except.bind_eq_ok_iff.1 emitted
      cases ends
      refine .list fun item member => ?_
      obtain rfl := List.mem_singleton.1 member
      exact mergeFragments_wellFormed each started merges
  | array =>
      obtain ⟨tables, read, ends⟩ := Except.bind_eq_ok_iff.1 emitted
      cases ends
      refine .list fun item member => ?_
      obtain ⟨table, isTable, rfl⟩ := List.mem_map.1 member
      obtain ⟨source, isSource, readSource⟩ := Except.exists_mem_of_mapM_ok read isTable
      have wellFormed : source.WellFormed := by
        rcases List.mem_append.1 isSource with isBase | isFragment
        · exact started source (Option.mem_toList.1 isBase)
        · exact each source isFragment
      exact wellFormed.toTable readSource

/-!
## Compilation
-/

namespace Compiler

variable {compiler : Compiler} {selected : SelectedTask} {context : TaskContext}

theorem WellFormed.of_context (wellFormed : compiler.WellFormed) {name : String}
    (found : compiler.context? name = some context) : context.WellFormed := by
  obtain ⟨base, registry⟩ := context?_forall wellFormed.catalog.tasks wellFormed.catalog.options
    (fun project isProject => (wellFormed.project project isProject).tasks)
    (fun project isProject => (wellFormed.project project isProject).options) found
  exact ⟨base, registry⟩

theorem fragments_wellFormed {selections : SelectionStore} {rendered : List Document}
    (wellFormed : context.WellFormed) (entered : selections.WellFormed)
    (renders : (fragments context selections).outcome = .ok rendered) :
    ∀ document ∈ rendered, document.WellFormed := by
  rw [fragments_outcome, Except.bind_eq_ok_iff] at renders
  obtain ⟨resolved, isResolved, renders⟩ := renders
  intro document member
  rw [renderFragments_eq_ok renders] at member
  obtain ⟨fragment, isFragment, kept⟩ := List.mem_filterMap.1 member
  rw [resolve_eq_ok isResolved] at isFragment
  obtain ⟨site, found, isOwn⟩ := exists_site_of_mem_walk [] context.task.options isFragment
  have definition : site.definition.WellFormed := Table.of_lookup wellFormed.registry found
  exact (Site.fragment?_wellFormed entered definition isOwn).kept? kept

/-- What is compiled of well-formed parts is well formed. -/
theorem compile_wellFormed (wellFormed : compiler.WellFormed)
    (entered : selected.values.WellFormed) {requested : Option OutputMode} {document : Document}
    (compiles : (compiler.compile selected requested).outcome = .ok document) :
    document.WellFormed := by
  cases found : compiler.context? selected.taskName with
  | none =>
      rw [compile_outcome_of_missing requested found] at compiles
      cases compiles
      exact .list (List.forall_mem_nil _)
  | some context =>
      rw [compile_outcome_of_context requested found, Except.bind_eq_ok_iff] at compiles
      obtain ⟨rendered, renders, emitted⟩ := compiles
      have parts := wellFormed.of_context found
      exact emit_wellFormed (fragments_wellFormed parts entered renders) parts.base emitted

end Compiler

end PipelineOverride
