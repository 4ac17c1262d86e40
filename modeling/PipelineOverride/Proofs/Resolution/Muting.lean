import PipelineOverride.Proofs.Document.Distinct
import PipelineOverride.Proofs.Resolution.Step

/-!
# Resolution without some templates

Taking the templates of some input options away changes nothing about a resolution but that the
fragments of these options are missing. The walk itself is the same, since an input option has the
same kind and the same default value with and without a template.
-/

set_option autoImplicit false

namespace PipelineOverride

/-- The option without its template, if it is an input option. -/
def OptionDefinition.muted : OptionDefinition → OptionDefinition
  | .input form => .input { form with override := none }
  | definition => definition

/-- The option of an id, without its template if the id is among given ones. -/
def OptionDefinition.mutedAt (ids : List Scalar) (id : Scalar) (definition : OptionDefinition) :
    OptionDefinition :=
  if ids.any fun other => other.same id then definition.muted else definition

/-- A registry with the templates of the input options of some ids set to null. -/
def Registry.mute (ids : List Scalar) (registry : Registry) : Registry :=
  registry.mapEntries (OptionDefinition.mutedAt ids)

/-- Whether a fragment is no template of an option of the ids. -/
def Fragment.survives (ids : List Scalar) : Fragment → Bool
  | .static _ _ => true
  | .template id _ _ _ => !ids.any fun other => other.same id

/-- Whether an event is no template of an option of the ids. -/
def Event.survives (ids : List Scalar) : Event → Bool
  | .fragment piece => piece.survives ids
  | _ => true

variable {ids : List Scalar} {registry : Registry} {selections : SelectionStore}

/-!
## Options
-/

theorem OptionDefinition.mutedAt_congr (key wanted : Scalar) (same : key.same wanted = true) :
    mutedAt ids key = mutedAt ids wanted := by
  have alike : (ids.any fun other => other.same key) = ids.any fun other => other.same wanted := by
    congr 1
    funext other
    rw [Bool.eq_iff_iff]
    exact ⟨fun given => Scalar.same_trans given same,
      fun given => Scalar.same_trans given (Scalar.same_symm same)⟩
  funext definition
  rw [mutedAt, mutedAt, alike]

theorem OptionDefinition.mutedAt_choice {id : Scalar} {definition : OptionDefinition}
    (hasCases : definition.choice?.isSome) : definition.mutedAt ids id = definition := by
  rw [mutedAt]
  split
  · cases definition with
    | input form => cases hasCases
    | _ => rfl
  · rfl

theorem OptionDefinition.mutedAt_form (ids : List Scalar) (id : Scalar) (form : Form) :
    (OptionDefinition.input form).mutedAt ids id = .input { form with
      override := if ids.any fun other => other.same id then none else form.override } := by
  rw [mutedAt]
  split <;> rfl

@[simp] theorem OptionDefinition.mutedAt_kind (ids : List Scalar) (id : Scalar)
    (definition : OptionDefinition) : (definition.mutedAt ids id).kind = definition.kind := by
  rcases definition.choice_or_form with hasCases | ⟨form, rfl⟩
  · rw [mutedAt_choice hasCases]
  · rw [mutedAt_form]
    rfl

@[simp] theorem OptionDefinition.mutedAt_defaultValue (ids : List Scalar) (id : Scalar)
    (definition : OptionDefinition) :
    (definition.mutedAt ids id).defaultValue = definition.defaultValue := by
  rcases definition.choice_or_form with hasCases | ⟨form, rfl⟩
  · rw [mutedAt_choice hasCases]
  · rw [mutedAt_form]
    rfl

/-!
## Sites
-/

/-- A site of the registry with some options muted. -/
def Site.mute (ids : List Scalar) (site : Site) : Site :=
  ⟨site.id, site.definition.mutedAt ids site.id⟩

@[simp] theorem Site.mute_value (ids : List Scalar) (selections : SelectionStore) (site : Site) :
    (site.mute ids).value selections = site.value selections := by
  simp only [Site.value, Site.mute, effectiveValue, OptionDefinition.mutedAt_defaultValue]

/-- A visit of an option with cases yields no template. -/
theorem visit_survives_of_choice {site : Site} (hasCases : site.definition.choice?.isSome) :
    ∀ event ∈ (visit selections site.id site.definition).1, event.survives ids = true := by
  by_cases fits : (site.value selections).kind = site.definition.kind
  · rw [visit_choice selections site hasCases fits]
    intro event member
    cases active : site.activeCase? selections with
    | none =>
        rw [active] at member
        rw [List.mem_singleton.1 member]
        rfl
    | some branch =>
        rw [active] at member
        rcases List.mem_cons.1 member with rfl | member
        · rfl
        · obtain ⟨payload, _, rfl⟩ := Option.map_eq_some_iff.1 (Option.mem_toList.1 member)
          rfl
  · rw [visit_mismatch selections site fits]
    intro event member
    rw [List.mem_singleton.1 member]
    rfl

theorem visit_mute (ids : List Scalar) (selections : SelectionStore) (site : Site) :
    (visit selections (site.mute ids).id (site.mute ids).definition).1
      = (visit selections site.id site.definition).1.filter (Event.survives ids) := by
  rcases site.definition.choice_or_form with hasCases | ⟨form, isForm⟩
  · rw [List.filter_eq_self.2 (visit_survives_of_choice hasCases), Site.mute,
      OptionDefinition.mutedAt_choice hasCases]
  · have isMutedForm : (site.mute ids).definition = .input { form with
        override := if ids.any fun other => other.same site.id then none else form.override } := by
      rw [Site.mute, isForm, OptionDefinition.mutedAt_form]
    by_cases fits : (site.value selections).kind = site.definition.kind
    · rw [isForm] at fits
      obtain ⟨values, entered⟩ := OptionValue.eq_input_of_kind fits
      rw [visit_form selections site isForm entered, visit_form selections (site.mute ids)
        isMutedForm (by rw [Site.mute_value, entered])]
      cases form.override with
      | none => simp
      | some body =>
          by_cases muted : (ids.any fun other => other.same site.id) = true
          · simp [muted, Event.survives, Fragment.survives]
          · simp [muted, Event.survives, Fragment.survives, Site.mute]
    · have mutedFits :
          ((site.mute ids).value selections).kind ≠ (site.mute ids).definition.kind := by
        rw [Site.mute_value, Site.mute, OptionDefinition.mutedAt_kind]
        exact fits
      rw [visit_mismatch selections site fits, visit_mismatch selections _ mutedFits,
        Site.mute_value]
      simp only [Site.mute, OptionDefinition.mutedAt_kind]
      rfl

@[simp] theorem Site.mute_next (ids : List Scalar) (selections : SelectionStore) (site : Site) :
    (site.mute ids).next selections = site.next selections := by
  rcases site.definition.choice_or_form with hasCases | ⟨form, isForm⟩
  · rw [Site.mute, OptionDefinition.mutedAt_choice hasCases]
  · simp only [Site.next, Site.activeCase?, Site.mute, isForm, OptionDefinition.mutedAt_form,
      OptionDefinition.activeCase?]

/-!
## Walks
-/

theorem Registry.lookup_mute (ids : List Scalar) (registry : Registry) (id : Scalar) :
    (registry.mute ids).lookup id
      = (registry.lookup id).map (OptionDefinition.mutedAt ids id) :=
  Table.lookup_mapEntries OptionDefinition.mutedAt_congr registry id

theorem arrive?_mute (ids : List Scalar) (registry : Registry) (path : List Scalar)
    (reference : Document) :
    arrive? (registry.mute ids) path reference
      = (arrive? registry path reference).map (Site.mute ids) := by
  cases isId : reference.scalar? with
  | none => simp only [arrive?, isId, Option.bind_eq_bind, Option.bind_none, Option.map_none]
  | some id =>
      simp only [arrive?, isId, Registry.lookup_mute, Option.bind_eq_bind, Option.bind_some]
      cases registry.lookup id with
      | none => rfl
      | some definition =>
          simp only [Option.map_some, Option.bind_some]
          split <;> rfl

theorem refusal_mute (ids : List Scalar) (registry : Registry) (path : List Scalar)
    (reference : Document) :
    refusal (registry.mute ids) path reference = refusal registry path reference := by
  cases isId : reference.scalar? with
  | none => simp only [refusal, isId]
  | some id =>
      simp only [refusal, isId, Registry.lookup_mute]
      cases registry.lookup id <;> rfl

theorem refusal_survives (registry : Registry) (path : List Scalar) (reference : Document) :
    (refusal registry path reference).survives ids = true := by
  simp only [refusal]
  split
  · rfl
  · split <;> rfl

/-- A walk through a registry with some options muted meets the same events without the templates
of these options. -/
theorem walk_mute (ids : List Scalar) (registry : Registry) (selections : SelectionStore)
    (path : List Scalar) (references : List Document) :
    walk (registry.mute ids) selections path references
      = (walk registry selections path references).filter (Event.survives ids) := by
  induction path, references using walk_induction registry selections with
  | nil path => simp
  | cons path reference rest below beside =>
      rw [walk_cons, walk_cons, List.filter_append, beside, arrive?_mute, refusal_mute]
      cases arrived : arrive? registry path reference with
      | none => simp [refusal_survives]
      | some site =>
          simp only [Option.map_some, visit_mute, Site.mute_next, List.filter_append]
          rw [← below site arrived]
          rfl

/-- Leaving templates out of a walk leaves their fragments out of its report and nothing else. -/
theorem Event.report_filter_survives (ids : List Scalar) (events : List Event) :
    report (events.filter (survives ids))
      = ⟨(report events).notices,
          (report events).outcome.map (List.filter (Fragment.survives ids))⟩ := by
  induction events with
  | nil => rfl
  | cons event rest ih =>
      by_cases kept : survives ids event = true
      · have own : event.fragment?.toList.filter (Fragment.survives ids)
            = event.fragment?.toList := by
          cases event with
          | fragment piece => exact List.filter_cons_of_pos kept
          | _ => rfl
        rw [List.filter_cons_of_pos kept]
        cases ends : event.halts with
        | true =>
            rw [report_cons_of_halts ends, report_cons_of_halts ends]
            rfl
        | false =>
            rw [report_cons ends, report_cons ends, ih]
            cases (report rest).outcome with
            | error failure => rfl
            | ok fragments => simp only [Except.map, List.filter_append, own]
      · rw [List.filter_cons_of_neg kept, ih]
        cases event with
        | fragment piece =>
            rw [report_cons (rfl : (Event.fragment piece).halts = false)]
            cases (report rest).outcome with
            | error failure => rfl
            | ok fragments =>
                have dropped : [piece].filter (Fragment.survives ids) = [] :=
                  List.filter_cons_of_neg kept
                simp only [Except.map, fragment?, Option.toList_some, List.filter_append, dropped,
                  List.nil_append]
                rfl
        | _ => exact absurd rfl kept

theorem resolve_mute (ids : List Scalar) (registry : Registry) (selections : SelectionStore)
    (references : List Document) :
    resolve (registry.mute ids) selections references
      = ⟨(resolve registry selections references).notices,
          (resolve registry selections references).outcome.map
            (List.filter (Fragment.survives ids))⟩ := by
  rw [resolve, walk_mute, Event.report_filter_survives]
  rfl

end PipelineOverride
