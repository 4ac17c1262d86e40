import PipelineOverride.Proofs.Document.Distinct
import PipelineOverride.Proofs.Resolution.Step

/-!
# Resolution without dangling references

A reference to an id that has no definition contributes nothing but a warning. Taking all such
references out of the list of a task and out of every case of a registry leaves the walk as it was,
less these warnings: an option has the same value and the same active case as before, and what is
left of the references leads to the same sites by the same paths.
-/

set_option autoImplicit false

namespace PipelineOverride

/-- A registry keeps a reference unless it is an id that the registry does not define. -/
def Registry.keeps (registry : Registry) (reference : Document) : Bool :=
  reference.scalar?.all fun id => registry.contains id

def Case.prunedBy (base : Registry) (branch : Case) : Case :=
  { branch with options := branch.options.filter base.keeps }

def Choice.prunedBy (base : Registry) (choice : Choice) : Choice :=
  { choice with cases := choice.cases.map (Case.prunedBy base) }

/-- The option with no references in its cases but those that a registry keeps. -/
def OptionDefinition.prunedBy (base : Registry) : OptionDefinition → OptionDefinition
  | .select choice => .select (choice.prunedBy base)
  | .switch choice => .switch (choice.prunedBy base)
  | .input form => .input form

def Registry.prunedBy (registry base : Registry) : Registry :=
  Table.mapEntries (fun _ => OptionDefinition.prunedBy base) registry

def Site.prunedBy (base : Registry) (site : Site) : Site :=
  ⟨site.id, site.definition.prunedBy base⟩

/-- No id is without a definition, among the references and in any case of the registry. -/
structure NoneDangling (registry : Registry) (references : List Document) : Prop where
  here : ∀ reference ∈ references, registry.keeps reference = true
  below : ∀ id definition, registry.lookup id = some definition →
    ∀ reference ∈ definition.references, registry.keeps reference = true

/-- Whether an event tells of an id without a definition. -/
def Event.isUnknown : Event → Bool
  | .unknown _ => true
  | _ => false

variable {base registry : Registry} {selections : SelectionStore} {path : List Scalar}
  {reference : Document} {site : Site}

/-!
## Options
-/

@[simp] theorem OptionDefinition.prunedBy_kind (base : Registry) (definition : OptionDefinition) :
    (definition.prunedBy base).kind = definition.kind := by
  cases definition <;> rfl

@[simp] theorem OptionDefinition.prunedBy_choice? (base : Registry)
    (definition : OptionDefinition) :
    (definition.prunedBy base).choice? = definition.choice?.map (Choice.prunedBy base) := by
  cases definition <;> rfl

@[simp] theorem OptionDefinition.prunedBy_defaultValue (base : Registry)
    (definition : OptionDefinition) :
    (definition.prunedBy base).defaultValue = definition.defaultValue := by
  cases definition with
  | select choice =>
      have names : (choice.prunedBy base).cases.head?.map Case.name
          = choice.cases.head?.map Case.name := by
        simp only [Choice.prunedBy, List.head?_map, Option.map_map]
        rfl
      simp only [prunedBy, defaultValue, Choice.defaultName, names]
      rfl
  | switch choice => rfl
  | input form => rfl

/-- Cases are found by their names, which stay. -/
theorem OptionDefinition.prunedBy_activeCase? (base : Registry) (definition : OptionDefinition)
    (value : OptionValue) :
    (definition.prunedBy base).activeCase? value
      = (definition.activeCase? value).map (Case.prunedBy base) := by
  cases definition <;> cases value <;> try rfl
  · simp only [prunedBy, activeCase?, Choice.find?, Choice.prunedBy, List.find?_map]
    rfl
  · simp only [prunedBy, activeCase?, switchCase?, Choice.prunedBy, List.find?_map]
    rfl

theorem OptionDefinition.keeps_of_mem_prunedBy {definition : OptionDefinition}
    (member : reference ∈ (definition.prunedBy base).references) : base.keeps reference = true := by
  obtain ⟨branch, isCase, member⟩ := List.mem_flatMap.1 member
  rw [cases, prunedBy_choice?] at isCase
  cases isChoice : definition.choice? with
  | none => simp [isChoice] at isCase
  | some choice =>
      rw [isChoice] at isCase
      obtain ⟨unpruned, _, rfl⟩ := List.mem_map.1 isCase
      exact (List.mem_filter.1 member).2

/-!
## Sites
-/

@[simp] theorem Site.prunedBy_value (base : Registry) (selections : SelectionStore) (site : Site) :
    (site.prunedBy base).value selections = site.value selections := by
  simp only [value, prunedBy, effectiveValue, OptionDefinition.prunedBy_defaultValue]

theorem Site.prunedBy_activeCase? (base : Registry) (selections : SelectionStore) (site : Site) :
    (site.prunedBy base).activeCase? selections
      = (site.activeCase? selections).map (Case.prunedBy base) := by
  rw [activeCase?, prunedBy_value]
  exact OptionDefinition.prunedBy_activeCase? base site.definition _

theorem Site.prunedBy_next (base : Registry) (selections : SelectionStore) (site : Site) :
    (site.prunedBy base).next selections = (site.next selections).filter base.keeps := by
  rw [next, next, prunedBy_activeCase?]
  cases site.activeCase? selections <;> rfl

theorem visit_prunedBy (base : Registry) (selections : SelectionStore) (site : Site) :
    (visit selections (site.prunedBy base).id (site.prunedBy base).definition).1
      = (visit selections site.id site.definition).1 := by
  have sameKind : (site.prunedBy base).definition.kind = site.definition.kind :=
    OptionDefinition.prunedBy_kind base site.definition
  by_cases fits : (site.value selections).kind = site.definition.kind
  · rcases site.definition.choice_or_form with hasCases | ⟨form, isForm⟩
    · have hasCasesToo : (site.prunedBy base).definition.choice?.isSome := by
        rw [Site.prunedBy, OptionDefinition.prunedBy_choice?, Option.isSome_map, hasCases]
      rw [visit_choice selections site hasCases fits, visit_choice selections _ hasCasesToo
        (by rw [Site.prunedBy_value, sameKind, fits]), Site.prunedBy_activeCase?,
        Site.prunedBy_value]
      cases site.activeCase? selections <;> rfl
    · rw [Site.prunedBy, isForm]
      rfl
  · rw [visit_mismatch selections site fits, visit_mismatch selections _
      (by rw [Site.prunedBy_value, sameKind]; exact fits), Site.prunedBy_value, sameKind]
    rfl

theorem visit_isUnknown (selections : SelectionStore) (site : Site) :
    ∀ event ∈ (visit selections site.id site.definition).1, event.isUnknown = false := by
  by_cases fits : (site.value selections).kind = site.definition.kind
  · rcases site.definition.choice_or_form with hasCases | ⟨form, isForm⟩
    · rw [visit_choice selections site hasCases fits]
      cases site.activeCase? selections with
      | none => simp [Event.isUnknown]
      | some branch => cases kept : branch.override <;> simp [Site.activation, kept, Event.isUnknown]
    · rw [isForm] at fits
      obtain ⟨values, entered⟩ := OptionValue.eq_input_of_kind fits
      rw [visit_form selections site isForm entered]
      cases form.override <;> simp [Event.isUnknown]
  · rw [visit_mismatch selections site fits]
    simp [Event.isUnknown]

/-!
## Walks
-/

theorem Registry.lookup_prunedBy (registry base : Registry) (id : Scalar) :
    (registry.prunedBy base).lookup id
      = (registry.lookup id).map (OptionDefinition.prunedBy base) :=
  Table.lookup_mapEntries (fun _ _ _ => rfl) registry id

theorem Registry.union_prunedBy (preferred other base : Registry) :
    Table.union (preferred.prunedBy base) (other.prunedBy base)
      = Registry.prunedBy (preferred.union other) base := by
  have alike : ∀ key wanted : Scalar, key.same wanted = true →
      OptionDefinition.prunedBy base = OptionDefinition.prunedBy base := fun _ _ _ => rfl
  exact Table.union_mapEntries alike preferred other

theorem Registry.keeps_eq_false_iff :
    registry.keeps reference = false
      ↔ ∃ id, reference.scalar? = some id ∧ registry.lookup id = none := by
  cases isId : reference.scalar? <;> simp [keeps, isId, Table.contains]

theorem Registry.keeps_prunedBy (registry base : Registry) (reference : Document) :
    (registry.prunedBy base).keeps reference = registry.keeps reference := by
  simp only [keeps, Table.contains, lookup_prunedBy, Option.isSome_map]

/-- Once what dangles is taken out nothing dangles, since the ids themselves all stay. -/
theorem noneDangling_prunedBy (registry : Registry) (references : List Document) :
    NoneDangling (registry.prunedBy registry) (references.filter registry.keeps) := by
  constructor
  case here =>
    intro reference member
    rw [Registry.keeps_prunedBy]
    exact (List.mem_filter.1 member).2
  case below =>
    intro id definition found reference member
    rw [Registry.lookup_prunedBy] at found
    obtain ⟨unpruned, _, rfl⟩ := Option.map_eq_some_iff.1 found
    rw [Registry.keeps_prunedBy]
    exact OptionDefinition.keeps_of_mem_prunedBy member

theorem arrive?_prunedBy (registry base : Registry) (path : List Scalar) (reference : Document) :
    arrive? (registry.prunedBy base) path reference
      = (arrive? registry path reference).map (Site.prunedBy base) := by
  cases isId : reference.scalar? with
  | none => simp only [arrive?, isId, Option.bind_eq_bind, Option.bind_none, Option.map_none]
  | some id =>
      simp only [arrive?, isId, Registry.lookup_prunedBy, Option.bind_eq_bind, Option.bind_some]
      cases registry.lookup id with
      | none => rfl
      | some definition =>
          simp only [Option.map_some, Option.bind_some]
          split <;> rfl

theorem refusal_prunedBy (registry base : Registry) (path : List Scalar) (reference : Document) :
    refusal (registry.prunedBy base) path reference = refusal registry path reference := by
  cases isId : reference.scalar? with
  | none => simp only [refusal, isId]
  | some id =>
      simp only [refusal, isId, Registry.lookup_prunedBy]
      cases registry.lookup id <;> rfl

/-- What is refused for another reason than a missing definition is kept. -/
theorem refusal_isUnknown (registry : Registry) (path : List Scalar) (reference : Document) :
    (refusal registry path reference).isUnknown = !registry.keeps reference := by
  cases isId : reference.scalar? with
  | none => simp [refusal, Registry.keeps, isId, Event.isUnknown]
  | some id =>
      cases found : registry.lookup id <;>
        simp [refusal, Registry.keeps, isId, found, Event.isUnknown, Table.contains]

theorem arrive?_eq_none_of_not_keeps (dangling : registry.keeps reference = false) :
    arrive? registry path reference = none := by
  obtain ⟨id, isId, undefined⟩ := Registry.keeps_eq_false_iff.1 dangling
  simp [arrive?, isId, undefined]

/-- A walk without the dangling references meets the same events, less those of ids without a
definition. -/
theorem walk_prunedBy (registry : Registry) (selections : SelectionStore) (path : List Scalar)
    (references : List Document) :
    walk (registry.prunedBy registry) selections path (references.filter registry.keeps)
      = (walk registry selections path references).filter (!·.isUnknown) := by
  induction path, references using walk_induction registry selections with
  | nil path => simp
  | cons path reference rest below beside =>
      rw [walk_cons, List.filter_append]
      cases kept : registry.keeps reference with
      | false =>
          have unknown := refusal_isUnknown registry path reference
          rw [kept] at unknown
          simp [kept, arrive?_eq_none_of_not_keeps kept, unknown, beside]
      | true =>
          rw [List.filter_cons_of_pos kept, walk_cons, beside, arrive?_prunedBy]
          congr 1
          cases arrived : arrive? registry path reference with
          | none =>
              have known := refusal_isUnknown registry path reference
              rw [kept] at known
              simp [refusal_prunedBy, known]
          | some site =>
              -- Nothing is unknown at the site itself, and below it the induction goes on.
              have here : (visit selections site.id site.definition).1.filter (!·.isUnknown)
                  = (visit selections site.id site.definition).1 :=
                List.filter_eq_self.2 fun event member => by
                  rw [visit_isUnknown selections site event member, Bool.not_false]
              simp only [Option.map_some, visit_prunedBy, Site.prunedBy_next, List.filter_append,
                here, ← below site arrived]
              rfl

theorem Event.report_filter_isUnknown (events : List Event) :
    (report (events.filter (!·.isUnknown))).outcome = (report events).outcome := by
  have ends : (events.filter (!·.isUnknown)).any halts = events.any halts := by
    rw [List.any_filter]
    congr 1
    funext event
    cases event <;> rfl
  have fragments : (events.filter (!·.isUnknown)).filterMap fragment?
      = events.filterMap fragment? := by
    rw [List.filterMap_filter]
    congr 1
    funext event
    cases event <;> rfl
  rw [report_outcome, report_outcome, ends, fragments]

theorem resolve_prunedBy (registry : Registry) (selections : SelectionStore)
    (references : List Document) :
    (resolve (registry.prunedBy registry) selections (references.filter registry.keeps)).outcome
      = (resolve registry selections references).outcome := by
  rw [resolve, walk_prunedBy, Event.report_filter_isUnknown]
  rfl

end PipelineOverride
