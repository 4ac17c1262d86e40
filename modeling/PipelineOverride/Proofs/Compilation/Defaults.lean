import PipelineOverride.Proofs.Compilation.Returns
import PipelineOverride.Proofs.Document.Distinct
import PipelineOverride.Proofs.Resolution.Step

/-!
# Untouched options

Defaults come in at two places: an option without a stored value is resolved with its default value,
and a slot without an entered value is filled with its default. Writing defaults out at either place
changes nothing, so an input option compiles alike when it is left untouched, when an empty value is
stored for it and when all its defaults are.
-/

set_option autoImplicit false

namespace PipelineOverride

/-- The slots of a form for which nothing was entered. An empty text counts as entered. -/
def Form.openSlots (form : Form) (values : Table Document) : List Slot :=
  form.slots.filter fun slot => ((values.get? slot.name).getD .null).isNull

/-- What was entered for a form, with the default of each slot for which nothing was. -/
def Form.complete (form : Form) (values : Table Document) : Table Document :=
  values.insertAll ((form.openSlots values).map fun slot => (.text slot.name, .text slot.default))

/-- In each input option the slots have distinct names. -/
def Registry.DistinctSlots (registry : Registry) : Prop :=
  ∀ id form, registry.lookup id = some (.input form) → (form.slots.map Slot.name).Nodup

/-- Some defined options without a stored value get their default value stored. -/
def SelectionStore.AddsDefaults (registry : Registry) (selections added : SelectionStore) : Prop :=
  ∀ id definition, registry.lookup id = some definition →
    added.lookup id = selections.lookup id
      ∨ selections.lookup id = none ∧ added.lookup id = some definition.defaultValue

/-- Some stored values of input options are completed. -/
def SelectionStore.Completes (registry : Registry) (selections completed : SelectionStore) : Prop :=
  ∀ id definition, registry.lookup id = some definition →
    completed.lookup id = selections.lookup id
      ∨ ∃ form values, definition = .input form ∧ selections.lookup id = some (.input values)
        ∧ completed.lookup id = some (.input (form.complete values))

variable {registry : Registry} {selections others : SelectionStore}

/-!
## Completed values
-/

theorem Form.complete_nil (form : Form) : form.complete [] = form.defaultValues := by
  have allOpen : form.openSlots [] = form.slots := by
    rw [openSlots, List.filter_eq_self]
    exact fun _ _ => rfl
  rw [complete, allOpen]
  rfl

theorem Form.openDefaults_distinct {form : Form}
    (distinct : (form.slots.map Slot.name).Nodup) (values : Table Document) :
    Table.Distinct ((form.openSlots values).map fun slot =>
      (Scalar.text slot.name, Document.text slot.default)) := by
  have apart : form.slots.Pairwise fun earlier later => earlier.name ≠ later.name :=
    List.pairwise_map.1 distinct
  rw [Table.Distinct, List.pairwise_map]
  refine (apart.sublist List.filter_sublist).imp fun differ same => differ ?_
  exact Scalar.same_text.1 same

/-- With distinct slot names a completed value gives each slot the raw value that it had. -/
theorem Form.rawValue_complete {form : Form} (distinct : (form.slots.map Slot.name).Nodup)
    (values : Table Document) {slot : Slot} (member : slot ∈ form.slots) :
    slot.rawValue (form.complete values) = slot.rawValue values := by
  have defaults := form.openDefaults_distinct distinct values
  have found := defaults.lookup_insertAll values (.text slot.name)
  rw [Slot.rawValue, Slot.rawValue, Table.get?, Table.get?, complete, found]
  by_cases isOpen : ((values.get? slot.name).getD .null).isNull = true
  · have isDefault := defaults.lookup_of_mem
      (List.mem_map_of_mem (List.mem_filter.2 ⟨member, isOpen⟩))
    rw [Table.get?] at isOpen
    rw [isDefault, Option.some_or, Option.getD_some, isOpen]
    rfl
  · have absent : Table.lookup ((form.openSlots values).map fun other =>
        (Scalar.text other.name, Document.text other.default)) (.text slot.name) = none := by
      rw [Table.lookup_eq_none_iff]
      intro entry entryMember same
      obtain ⟨other, otherMember, rfl⟩ := List.mem_map.1 entryMember
      obtain ⟨_, otherOpen⟩ := List.mem_filter.1 otherMember
      rw [Scalar.same_text.1 same] at otherOpen
      exact isOpen otherOpen
    rw [absent, Option.none_or]

theorem Form.fillTemplate_complete {form : Form} (distinct : (form.slots.map Slot.name).Nodup)
    (body : Document) (values : Table Document) :
    fillTemplate body form.slots (form.complete values) = fillTemplate body form.slots values := by
  have same : rawValues form.slots (form.complete values) = rawValues form.slots values :=
    List.map_congr_left fun slot member =>
      congrArg (Prod.mk slot) (form.rawValue_complete distinct values member)
  rw [fillTemplate, fillTemplate, same]

/-!
## Walks with other selections
-/

/-- Two walks through a registry run side by side if they visit each option alike and go on from it
with the same references. -/
theorem walk_forall₂ {related : Event → Event → Prop} (refl : ∀ event, related event event)
    (visits : ∀ site : Site, registry.lookup site.id = some site.definition →
      List.Forall₂ related (visit selections site.id site.definition).1
        (visit others site.id site.definition).1
      ∧ site.next others = site.next selections)
    (path : List Scalar) (references : List Document) :
    List.Forall₂ related (walk registry selections path references)
      (walk registry others path references) := by
  induction path, references using walk_induction registry selections with
  | nil path => simp
  | cons path reference rest below beside =>
      rw [walk_cons, walk_cons]
      refine List.rel_append ?_ beside
      cases arrived : arrive? registry path reference with
      | none => exact .cons (refl _) .nil
      | some site =>
          obtain ⟨_, found, _⟩ := arrive?_eq_some_iff.1 arrived
          obtain ⟨visited, next⟩ := visits site found
          simp only [next]
          exact List.rel_append visited (below site arrived)

theorem visit_eq_of_value {site : Site} (value : site.value others = site.value selections) :
    visit others site.id site.definition = visit selections site.id site.definition
      ∧ site.next others = site.next selections := by
  refine ⟨?_, by simp only [Site.next, Site.activeCase?, value]⟩
  simp only [visit, ← Site.value.eq_1, value]

/-- A walk does not change if every option is resolved with the same value. -/
theorem walk_eq_of_values
    (values : ∀ site : Site, registry.lookup site.id = some site.definition →
      site.value others = site.value selections)
    (path : List Scalar) (references : List Document) :
    walk registry others path references = walk registry selections path references := by
  have same : List.Forall₂ (· = ·) (walk registry selections path references)
      (walk registry others path references) := by
    refine walk_forall₂ (fun _ => rfl) (fun site found => ?_) path references
    obtain ⟨visited, next⟩ := visit_eq_of_value (values site found)
    exact ⟨by rw [visited]; exact List.forall₂_same.2 fun _ _ => rfl, next⟩
  exact (List.forall₂_eq_eq_eq ▸ same : _ = _).symm

theorem SelectionStore.AddsDefaults.value {added : SelectionStore}
    (adds : selections.AddsDefaults registry added) {site : Site}
    (found : registry.lookup site.id = some site.definition) :
    site.value added = site.value selections := by
  rcases adds site.id site.definition found with same | ⟨untouched, isDefault⟩
  · simp only [Site.value, effectiveValue, same]
  · simp only [Site.value, effectiveValue, untouched, isDefault, Option.getD_some,
      Option.getD_none]

/-!
## Fragments that are rendered alike
-/

/-- Events that are equal, or fragments that are rendered alike. -/
inductive Event.Alike : Event → Event → Prop where
  | refl {event : Event} : Alike event event
  | fragment {piece other : Fragment} : other.render = piece.render →
      Alike (.fragment piece) (.fragment other)

theorem SelectionStore.Completes.visit {completed : SelectionStore}
    (completes : selections.Completes registry completed) (distinct : registry.DistinctSlots)
    {site : Site} (found : registry.lookup site.id = some site.definition) :
    List.Forall₂ Event.Alike (visit selections site.id site.definition).1
        (PipelineOverride.visit completed site.id site.definition).1
      ∧ site.next completed = site.next selections := by
  rcases completes site.id site.definition found with same | ⟨form, values, isForm, stored, filled⟩
  · have value : site.value completed = site.value selections := by
      simp only [Site.value, effectiveValue, same]
    obtain ⟨visited, next⟩ := visit_eq_of_value value
    exact ⟨by rw [visited]; exact List.forall₂_same.2 fun _ _ => .refl, next⟩
  · have value : site.value selections = .input values := by
      rw [Site.value, effectiveValue, stored, Option.getD_some]
    have valueCompleted : site.value completed = .input (form.complete values) := by
      rw [Site.value, effectiveValue, filled, Option.getD_some]
    rw [visit_form selections site isForm value, visit_form completed site isForm valueCompleted]
    constructor
    · have alike := fun body =>
        form.fillTemplate_complete (distinct site.id form (isForm ▸ found)) body values
      cases form.override with
      | none => exact .nil
      | some body =>
          refine .cons (.fragment ?_) .nil
          simp only [Fragment.render, alike]
    · simp only [Site.next, Site.activeCase?, isForm, value, valueCompleted,
        OptionDefinition.activeCase?]

/-- Reports of alike events say the same, and their fragments are rendered alike one by one. -/
theorem Event.report_alike {events others : List Event} (alike : List.Forall₂ Alike events others) :
    (report others).notices = (report events).notices
      ∧ (report others).outcome.map (List.map Fragment.render)
        = (report events).outcome.map (List.map Fragment.render) := by
  induction alike with
  | nil => exact ⟨rfl, rfl⟩
  | @cons event other events others first rest ih =>
      obtain ⟨notices, outcome⟩ := ih
      have onward : ∀ own other : List Fragment,
          other.map Fragment.render = own.map Fragment.render →
          ((report others).outcome.map (other ++ ·)).map (List.map Fragment.render)
            = ((report events).outcome.map (own ++ ·)).map (List.map Fragment.render) := by
        intro own other same
        cases isOutcome : (report events).outcome <;> cases isOther : (report others).outcome <;>
          simp_all [Except.map]
      cases first with
      | refl =>
          cases ends : event.halts with
          | true =>
              rw [report_cons_of_halts ends, report_cons_of_halts ends]
              exact ⟨rfl, rfl⟩
          | false =>
              rw [report_cons ends, report_cons ends, notices]
              exact ⟨rfl, onward _ _ rfl⟩
      | fragment same => exact ⟨notices, onward [_] [_] (congrArg (fun r => [r]) same)⟩

theorem renderFragments_congr {pieces others : List Fragment}
    (alike : others.map Fragment.render = pieces.map Fragment.render) :
    renderFragments others = renderFragments pieces := by
  induction pieces generalizing others with
  | nil =>
      rw [List.map_nil, List.map_eq_nil_iff] at alike
      rw [alike]
  | cons piece rest ih =>
      obtain ⟨other, othersRest, rfl, first, onward⟩ := List.map_eq_cons_iff.1 alike
      simp only [renderFragments, first, ih onward]

/-!
## Stored defaults
-/

theorem SelectionStore.AddsDefaults.of_insert {id : Scalar} {definition : OptionDefinition}
    (found : registry.lookup id = some definition) (untouched : selections.lookup id = none) :
    selections.AddsDefaults registry (selections.insert id definition.defaultValue) := by
  intro other otherDefinition otherFound
  rw [Table.lookup_insert]
  by_cases same : id.same other = true
  · rw [Table.lookup_congr same, otherFound] at found
    rw [Table.lookup_congr same] at untouched
    obtain rfl := Option.some.inj found
    exact .inr ⟨untouched, if_pos same⟩
  · exact .inl (if_neg same)

theorem SelectionStore.Completes.of_insert (selections : SelectionStore) {id : Scalar} {form : Form}
    (values : Table Document) (found : registry.lookup id = some (.input form)) :
    Completes registry (selections.insert id (.input values))
      (selections.insert id (.input (form.complete values))) := by
  intro other definition otherFound
  rw [Table.lookup_insert, Table.lookup_insert]
  by_cases same : id.same other = true
  · rw [Table.lookup_congr same, otherFound] at found
    exact .inr ⟨form, values, Option.some.inj found, if_pos same, if_pos same⟩
  · exact .inl (by rw [if_neg same, if_neg same])

theorem resolve_addsDefaults {added : SelectionStore}
    (adds : selections.AddsDefaults registry added) (references : List Document) :
    resolve registry added references = resolve registry selections references :=
  congrArg Event.report (walk_eq_of_values (fun _ => adds.value) [] references)

theorem resolve_completes {completed : SelectionStore}
    (completes : selections.Completes registry completed) (distinct : registry.DistinctSlots)
    (references : List Document) :
    (resolve registry completed references).notices
        = (resolve registry selections references).notices
      ∧ (resolve registry completed references).outcome.map (List.map Fragment.render)
        = (resolve registry selections references).outcome.map (List.map Fragment.render) :=
  Event.report_alike
    (walk_forall₂ (fun _ => .refl) (fun _ => completes.visit distinct) [] references)

theorem render_completes {completed : SelectionStore}
    (completes : selections.Completes registry completed) (distinct : registry.DistinctSlots)
    (references : List Document) :
    resolve registry completed references >>= renderFragments
      = resolve registry selections references >>= renderFragments := by
  obtain ⟨notices, outcome⟩ := resolve_completes completes distinct references
  exact Report.bind_congr notices outcome fun _ _ => renderFragments_congr

theorem Compiler.compile_of_fragments {compiler : Compiler} {selected : SelectedTask}
    {context : TaskContext} (requested : Option OutputMode) {values : SelectionStore}
    (found : compiler.context? selected.taskName = some context)
    (same : fragments context values = fragments context selected.values) :
    compiler.compile { selected with values := values } requested
      = compiler.compile selected requested := by
  rw [compile_of_context requested found, ← same]
  exact compile_of_context requested found

/-- Defaults that are written out change nothing. Stored default values of untouched options leave
the fragments as they are. Default texts of slots for which nothing was entered leave what each
fragment is rendered to, and which fragments are dropped. So a task compiles alike whether an input
option is untouched, has an empty value or has all its defaults as its value. -/
theorem untouched_equals_default (distinct : registry.DistinctSlots) (selections : SelectionStore)
    (references : List Document) :
    (∀ added, selections.AddsDefaults registry added →
      resolve registry added references = resolve registry selections references)
    ∧ (∀ completed, selections.Completes registry completed →
      (resolve registry completed references).outcome.map (List.map Fragment.render)
          = (resolve registry selections references).outcome.map (List.map Fragment.render)
        ∧ resolve registry completed references >>= renderFragments
          = resolve registry selections references >>= renderFragments)
    ∧ ∀ (compiler : Compiler) selected context requested id form,
      compiler.context? selected.taskName = some context → context.registry = registry →
      registry.lookup id = some (.input form) → selected.values.lookup id = none →
      let compileWith (values : Table Document) :=
        compiler.compile { selected with values := selected.values.insert id (.input values) }
          requested
      compileWith form.defaultValues = compiler.compile selected requested
        ∧ compileWith [] = compiler.compile selected requested := by
  refine ⟨fun _ adds => resolve_addsDefaults adds references, fun completed completes => ?_,
    fun compiler selected context requested id form isContext isRegistry found untouched => ?_⟩
  · exact ⟨(resolve_completes completes distinct references).2,
      render_completes completes distinct references⟩
  · subst isRegistry
    have spelled : Compiler.fragments context
          (selected.values.insert id (.input form.defaultValues))
        = Compiler.fragments context selected.values := by
      have adds := SelectionStore.AddsDefaults.of_insert found untouched
      exact congrArg (· >>= renderFragments) (resolve_addsDefaults adds _)
    have empty : Compiler.fragments context (selected.values.insert id (.input []))
        = Compiler.fragments context selected.values := by
      have completes := SelectionStore.Completes.of_insert selected.values [] found
      rw [form.complete_nil] at completes
      exact (render_completes completes distinct _).symm.trans spelled
    exact ⟨Compiler.compile_of_fragments requested isContext spelled,
      Compiler.compile_of_fragments requested isContext empty⟩

namespace Bundled

theorem options_distinctSlots : Registry.DistinctSlots options := by
  intro id form found
  obtain ⟨key, member, _⟩ := Table.mem_of_lookup found
  simp only [options, List.mem_cons, Prod.mk.injEq, OptionDefinition.input.injEq, reduceCtorEq,
    and_false, List.not_mem_nil, or_false, false_or] at member
  rcases member with ⟨_, rfl⟩ | ⟨_, rfl⟩ | ⟨_, rfl⟩ <;> decide

/-- The task that waits, untouched. -/
def sleepUntouched : SelectedTask where
  taskName := "__TASKDECK_SLEEP__"

theorem sleepUntouched_alike :
    options.DistinctSlots
      ∧ compiler.compile { sleepUntouched with values := [(sleepSite.id, .input [])] } none
        = compiler.compile sleepUntouched none
      ∧ compiler.compile (sleepSelected "5") none = compiler.compile sleepUntouched none := by
  obtain ⟨_, _, alike⟩ := untouched_equals_default options_distinctSlots [] []
  have found : compiler.context? sleepUntouched.taskName
      = some ⟨customTask "__TASKDECK_SLEEP__" "TASKDECK_SLEEP" "builtin.sleep.label"
          ["__TASKDECK_SLEEP_OPTION__"], options, true⟩ := rfl
  obtain ⟨spelled, empty⟩ := alike compiler sleepUntouched _ none sleepSite.id _ found rfl rfl rfl
  exact ⟨options_distinctSlots, empty, spelled⟩

end Bundled

end PipelineOverride
