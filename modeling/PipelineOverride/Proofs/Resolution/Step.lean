import PipelineOverride.Override.Resolution

/-!
# Steps of a walk

What a walk does at one reference. A reference either leads to a site, an option that is defined and
not on the path yet, or it is refused with one event. At a site the option contributes by itself,
and the walk goes on below it; in both cases the references beside it follow. Everything that is
proved about whole walks uses these equations and never the definition of the walk.
-/

set_option autoImplicit false

namespace PipelineOverride

/-- An option at which a walk arrives. -/
structure Site where
  id : Scalar
  definition : OptionDefinition

namespace Site

/-- The value with which the option of a site is resolved. -/
def value (selections : SelectionStore) (site : Site) : OptionValue :=
  effectiveValue selections site.id site.definition

/-- The case that is active at a site. -/
def activeCase? (selections : SelectionStore) (site : Site) : Option Case :=
  site.definition.activeCase? (site.value selections)

/-- The references below a site, which are those of its active case. -/
def next (selections : SelectionStore) (site : Site) : List Document :=
  ((site.activeCase? selections).map Case.options).getD []

/-- The fragment of a site: the override of its active case, or the template of an input option
with its slots and what was entered for them. -/
def fragment? (selections : SelectionStore) (site : Site) : Option Fragment :=
  match site.definition, site.value selections with
  | .input form, .input values =>
    form.override.map fun body => .template site.id body form.slots values
  | _, _ => (site.activeCase? selections).bind fun branch => branch.override.map (.static site.id)

/-- A site is live if its value has the kind of its option and, where the option has cases, makes
one of them active. -/
structure Live (selections : SelectionStore) (site : Site) : Prop where
  kind : (site.value selections).kind = site.definition.kind
  active : site.definition.choice?.isSome → (site.activeCase? selections).isSome

end Site

theorem OptionDefinition.activeCase?_some_kind {definition : OptionDefinition}
    {value : OptionValue} {branch : Case} (found : definition.activeCase? value = some branch) :
    value.kind = definition.kind := by
  cases definition <;> cases value <;> simp_all [OptionDefinition.activeCase?, kind,
    OptionValue.kind]

/-- Only a live site leads on or contributes anything. -/
theorem Site.live_of_activeCase? {selections : SelectionStore} {site : Site} {branch : Case}
    (found : site.activeCase? selections = some branch) : site.Live selections := by
  refine ⟨OptionDefinition.activeCase?_some_kind found, ?_⟩
  intro _
  simp [found]

theorem Site.live_of_fragment? {selections : SelectionStore} {site : Site} {fragment : Fragment}
    (found : site.fragment? selections = some fragment) : site.Live selections := by
  simp only [Site.fragment?] at found
  split at found
  · rename_i form values isForm isInput
    refine ⟨by rw [isForm, isInput]; rfl, ?_⟩
    simp [isForm, OptionDefinition.choice?]
  · obtain ⟨branch, active, _⟩ := Option.bind_eq_some_iff.1 found
    exact Site.live_of_activeCase? active

theorem Site.live_of_mem_next {selections : SelectionStore} {site : Site} {reference : Document}
    (member : reference ∈ site.next selections) : site.Live selections := by
  cases active : site.activeCase? selections with
  | none => simp [Site.next, active] at member
  | some branch => exact Site.live_of_activeCase? active

/-!
## Visits
-/

/-- What a site with cases contributes once one of its cases is active, and what follows it. -/
def Site.activation (site : Site) (branch : Case) : List Event × List Document :=
  (.active site.id branch.name :: (branch.override.map fun payload =>
    Event.fragment (.static site.id payload)).toList, branch.options)

theorem visit_mismatch (selections : SelectionStore) (site : Site)
    (differs : (site.value selections).kind ≠ site.definition.kind) :
    visit selections site.id site.definition
      = ([.mismatch site.id (site.value selections).kind site.definition.kind], []) := by
  simp only [visit, ← Site.value.eq_1, ne_eq, differs, not_false_eq_true, ↓reduceIte]

theorem visit_form (selections : SelectionStore) (site : Site) {form : Form}
    {values : Table Document} (isForm : site.definition = .input form)
    (entered : site.value selections = .input values) :
    visit selections site.id site.definition
      = ((form.override.map fun body =>
          Event.fragment (.template site.id body form.slots values)).toList, []) := by
  rw [Site.value, isForm] at entered
  simp only [visit, isForm, entered, OptionValue.kind, OptionDefinition.kind, ne_eq,
    not_true_eq_false, ↓reduceIte]
  cases form.override <;> rfl

theorem visit_choice (selections : SelectionStore) (site : Site)
    (hasCases : site.definition.choice?.isSome)
    (fits : (site.value selections).kind = site.definition.kind) :
    visit selections site.id site.definition
      = match site.activeCase? selections with
        | none => ([.noCase site.id (site.value selections)], [])
        | some branch => site.activation branch := by
  obtain ⟨id, definition⟩ := site
  simp only [visit, ← Site.value.eq_1 selections ⟨id, definition⟩, Site.activeCase?, fits, ne_eq,
    not_true_eq_false, ↓reduceIte]
  split
  · cases hasCases
  · generalize OptionDefinition.activeCase? _ (Site.value selections _) = active
    cases active with
    | none => rfl
    | some branch => cases kept : branch.override <;> simp [Site.activation, kept]

theorem OptionDefinition.choice_or_form (definition : OptionDefinition) :
    definition.choice?.isSome ∨ ∃ form, definition = .input form := by
  cases definition with
  | select choice => exact .inl rfl
  | switch choice => exact .inl rfl
  | input form => exact .inr ⟨form, rfl⟩

theorem OptionValue.eq_input_of_kind {value : OptionValue} (kind : value.kind = .input) :
    ∃ values, value = .input values := by
  cases value with
  | input values => exact ⟨values, rfl⟩
  | select _ => cases kind
  | switch _ => cases kind

theorem Site.fragment?_form {selections : SelectionStore} {site : Site} {form : Form}
    {values : Table Document} (isForm : site.definition = .input form)
    (entered : site.value selections = .input values) :
    site.fragment? selections
      = form.override.map fun body => .template site.id body form.slots values := by
  simp only [Site.fragment?, isForm, entered]

theorem Site.fragment?_choice {selections : SelectionStore} {site : Site}
    (hasCases : site.definition.choice?.isSome) :
    site.fragment? selections = (site.activeCase? selections).bind fun branch =>
      branch.override.map (.static site.id) := by
  simp only [Site.fragment?]
  split
  · rename_i isForm _
    simp [isForm, OptionDefinition.choice?] at hasCases
  · rfl

/-- A visit yields exactly the fragment of its site and goes on with the references below it. -/
theorem visit_spec (selections : SelectionStore) (site : Site) :
    (visit selections site.id site.definition).1.filterMap Event.fragment?
        = (site.fragment? selections).toList
      ∧ (visit selections site.id site.definition).2 = site.next selections := by
  by_cases fits : (site.value selections).kind = site.definition.kind
  · rcases site.definition.choice_or_form with hasCases | ⟨form, isForm⟩
    · rw [visit_choice selections site hasCases fits, Site.fragment?_choice hasCases, Site.next]
      cases site.activeCase? selections with
      | none => exact ⟨rfl, rfl⟩
      | some branch =>
          refine ⟨?_, by simp [Site.activation]⟩
          cases kept : branch.override <;>
            simp only [Site.activation, kept, Option.bind_some] <;> rfl
    · rw [isForm] at fits
      obtain ⟨values, entered⟩ := OptionValue.eq_input_of_kind fits
      rw [visit_form selections site isForm entered, Site.fragment?_form isForm entered]
      refine ⟨by cases form.override <;> rfl, ?_⟩
      simp [Site.next, Site.activeCase?, isForm, entered, OptionDefinition.activeCase?]
  · rw [visit_mismatch selections site fits]
    constructor
    · cases found : site.fragment? selections with
      | none => rfl
      | some fragment => exact absurd (Site.live_of_fragment? found).kind fits
    · cases active : site.activeCase? selections with
      | none => simp [Site.next, active]
      | some branch => exact absurd (Site.live_of_activeCase? active).kind fits

/-!
## Walks
-/

/-- The site that a reference leads to below a path. There is none if the reference is no id, if the
id has no definition, or if it is on the path already. -/
def arrive? (registry : Registry) (path : List Scalar) (reference : Document) : Option Site := do
  let id ← reference.scalar?
  let definition ← registry.lookup id
  if path.any fun p => p.same id then none else some ⟨id, definition⟩

theorem arrive?_eq_some_iff {registry : Registry} {path : List Scalar} {reference : Document}
    {site : Site} : arrive? registry path reference = some site ↔
      reference.scalar? = some site.id ∧ registry.lookup site.id = some site.definition
        ∧ ¬ (path.any fun p => p.same site.id) = true := by
  simp only [arrive?, Option.bind_eq_bind, Option.bind_eq_some_iff]
  constructor
  · intro given
    obtain ⟨id, isId, definition, found, arrived⟩ := given
    by_cases onPath : (path.any fun p => p.same id) = true
    · simp [onPath] at arrived
    · rw [if_neg onPath, Option.some.injEq] at arrived
      subst arrived
      exact ⟨isId, found, onPath⟩
  · intro given
    obtain ⟨isId, found, fresh⟩ := given
    exact ⟨site.id, isId, site.definition, found, if_neg fresh⟩

/-- The event with which a reference is refused that leads to no site. -/
def refusal (registry : Registry) (path : List Scalar) (reference : Document) : Event :=
  match reference.scalar? with
  | none => .stray reference
  | some id =>
    match registry.lookup id with
    | none => .unknown id
    | some _ => .cycle id (path ++ [id])

theorem refusal_fragment? (registry : Registry) (path : List Scalar) (reference : Document) :
    (refusal registry path reference).fragment? = none := by
  simp only [refusal]
  split
  · rfl
  · split <;> rfl

@[simp] theorem walk_nil (registry : Registry) (selections : SelectionStore)
    (path : List Scalar) : walk registry selections path [] = [] := by
  rw [walk]

/-- One step of a walk: the events of the first reference, of everything below it, and of the
references beside it. -/
theorem walk_cons (registry : Registry) (selections : SelectionStore) (path : List Scalar)
    (reference : Document) (rest : List Document) :
    walk registry selections path (reference :: rest)
      = (match arrive? registry path reference with
        | some site =>
          (visit selections site.id site.definition).1
            ++ walk registry selections (path ++ [site.id]) (site.next selections)
        | none => [refusal registry path reference])
        ++ walk registry selections path rest := by
  rw [walk]
  congr 1
  cases isId : reference.scalar? with
  | none => simp [arrive?, refusal, isId]
  | some id =>
      simp only [arrive?, refusal, isId, Option.bind_eq_bind, Option.bind_some]
      split
      · rename_i missing
        simp [missing]
      · rename_i definition found
        by_cases onPath : (path.any fun p => p.same id) = true
        · simp [found, onPath]
        · have below := (visit_spec selections ⟨id, definition⟩).2
          simp only at below
          simp [found, onPath, below]

theorem walk_arrived {registry : Registry} {selections : SelectionStore} {path : List Scalar}
    {reference : Document} {site : Site}
    (arrived : arrive? registry path reference = some site) :
    walk registry selections path [reference]
      = (visit selections site.id site.definition).1
        ++ walk registry selections (path ++ [site.id]) (site.next selections) := by
  rw [walk_cons, arrived, walk_nil, List.append_nil]

theorem walk_refused {registry : Registry} {path : List Scalar} {reference : Document}
    (refused : arrive? registry path reference = none) (selections : SelectionStore) :
    walk registry selections path [reference] = [refusal registry path reference] := by
  rw [walk_cons, refused, walk_nil, List.append_nil]

theorem walk_singleton {registry : Registry} {selections : SelectionStore} {path : List Scalar}
    {reference : Document} {site : Site} (arrived : arrive? registry path reference = some site)
    (nothingBelow : site.next selections = []) :
    walk registry selections path [reference]
      = (visit selections site.id site.definition).1 := by
  rw [walk_arrived arrived, nothingBelow, walk_nil, List.append_nil]

/-- Induction along a walk: below the site of the first reference, then beside it. -/
theorem walk_induction (registry : Registry) (selections : SelectionStore)
    {motive : List Scalar → List Document → Prop} (nil : ∀ path, motive path [])
    (cons : ∀ path reference rest,
      (∀ site, arrive? registry path reference = some site →
        motive (path ++ [site.id]) (site.next selections)) →
      motive path rest → motive path (reference :: rest))
    (path : List Scalar) (references : List Document) : motive path references := by
  induction path, references using walk.induct registry selections with
  | case1 path => exact nil path
  | case2 path reference rest below beside =>
      refine cons path reference rest ?_ beside
      intro site arrived
      obtain ⟨_, found, fresh⟩ := arrive?_eq_some_iff.1 arrived
      rw [← (visit_spec selections site).2]
      exact below site.id site.definition found fresh

/-!
## References that are ids
-/

theorem Event.report_cons_of_halts {event : Event} (ends : event.halts = true)
    (rest : List Event) : report (event :: rest) = .fail .wrongKind :=
  if_pos ends

theorem Event.report_cons {event : Event} (goesOn : event.halts = false) (rest : List Event) :
    report (event :: rest) = ⟨event.notice?.toList ++ (report rest).notices,
      (report rest).outcome.map fun fragments => event.fragment?.toList ++ fragments⟩ :=
  if_neg (goesOn ▸ Bool.false_ne_true)

/-- The outcome of a report: a failure if an event ended it, else all fragments. -/
theorem Event.report_outcome (events : List Event) :
    (report events).outcome
      = if events.any halts then .error .wrongKind else .ok (events.filterMap fragment?) := by
  induction events with
  | nil => rfl
  | cons event rest ih =>
      rw [List.any_cons]
      cases ends : event.halts with
      | true =>
          rw [report_cons_of_halts ends]
          rfl
      | false =>
          rw [report_cons ends, ih, Bool.false_or, List.filterMap_cons]
          split <;> cases event.fragment? <;> rfl

/-- What a resolution returns, where it returns, are the fragments of the walk. -/
theorem resolve_eq_ok {registry : Registry} {selections : SelectionStore}
    {references : List Document} {fragments : List Fragment}
    (resolved : (resolve registry selections references).outcome = .ok fragments) :
    fragments = (walk registry selections [] references).filterMap Event.fragment? := by
  rw [resolve, Event.report_outcome] at resolved
  split at resolved
  · cases resolved
  · exact (Except.ok.inj resolved).symm

/-- All references of a list and of the options of a registry are ids, which are texts. -/
structure RefersToIds (registry : Registry) (references : List Document) : Prop where
  here : ∀ reference ∈ references, ∃ id, reference = .text id
  below : ∀ id definition, registry.lookup id = some definition →
    ∀ reference ∈ definition.references, ∃ id, reference = .text id

theorem OptionDefinition.mem_cases_of_activeCase? {definition : OptionDefinition}
    {value : OptionValue} {branch : Case} (found : definition.activeCase? value = some branch) :
    branch ∈ definition.cases := by
  cases definition <;> cases value <;>
    simp only [activeCase?, Choice.find?, switchCase?, reduceCtorEq] at found
  · exact List.mem_of_find?_eq_some found
  · exact List.mem_of_find?_eq_some found

theorem Site.next_subset_references (selections : SelectionStore) (site : Site) :
    site.next selections ⊆ site.definition.references := by
  intro reference member
  cases active : site.activeCase? selections with
  | none => simp [Site.next, active] at member
  | some branch =>
      simp only [Site.next, active, Option.map_some, Option.getD_some] at member
      exact List.mem_flatMap.2
        ⟨branch, OptionDefinition.mem_cases_of_activeCase? active, member⟩

theorem visit_any_halts (selections : SelectionStore) (site : Site) :
    (visit selections site.id site.definition).1.any Event.halts = false := by
  by_cases fits : (site.value selections).kind = site.definition.kind
  · rcases site.definition.choice_or_form with hasCases | ⟨form, isForm⟩
    · rw [visit_choice selections site hasCases fits]
      cases site.activeCase? selections with
      | none => rfl
      | some branch => cases kept : branch.override <;> simp [Site.activation, kept, Event.halts]
    · rw [isForm] at fits
      obtain ⟨values, entered⟩ := OptionValue.eq_input_of_kind fits
      rw [visit_form selections site isForm entered]
      cases form.override <;> rfl
  · rw [visit_mismatch selections site fits]
    rfl

theorem cycle_halts_append {path : List Scalar} {name : String}
    (texts : ∀ id ∈ path, ∃ s, id = .text s) (id : Scalar) :
    (Event.cycle id (path ++ [.text name])).halts = false := by
  rw [Event.halts, List.any_append, Bool.or_eq_false_iff, List.any_eq_false]
  refine ⟨fun passed member => ?_, rfl⟩
  obtain ⟨s, rfl⟩ := texts passed member
  exact Bool.false_ne_true

theorem walk_any_halts (registry : Registry) (selections : SelectionStore)
    (path : List Scalar) (references : List Document) (texts : ∀ id ∈ path, ∃ s, id = .text s)
    (ids : RefersToIds registry references) :
    (walk registry selections path references).any Event.halts = false := by
  induction path, references using walk_induction registry selections with
  | nil path => simp
  | cons path reference rest below beside =>
      obtain ⟨name, rfl⟩ := ids.here reference (.head _)
      rw [walk_cons, List.any_append, Bool.or_eq_false_iff]
      refine ⟨?_, beside texts ⟨fun other member => ids.here other (.tail _ member), ids.below⟩⟩
      split
      · rename_i site arrived
        obtain ⟨isId, found, _⟩ := arrive?_eq_some_iff.1 arrived
        have textsOnward : ∀ id ∈ path ++ [site.id], ∃ s, id = .text s := by
          intro id member
          rcases List.mem_append.1 member with member | isLast
          · exact texts id member
          · exact ⟨name, (List.mem_singleton.1 isLast).trans (Option.some.inj isId).symm⟩
        rw [List.any_append, visit_any_halts, Bool.false_or]
        refine below site arrived textsOnward ⟨fun other member => ?_, ids.below⟩
        exact ids.below site.id site.definition found other
          (site.next_subset_references selections member)
      · simp only [refusal, Document.scalar?, List.any_cons, List.any_nil, Bool.or_false]
        split
        · rfl
        · exact cycle_halts_append texts _

theorem resolve_outcome_of_refersToIds (registry : Registry) (selections : SelectionStore)
    (references : List Document) (ids : RefersToIds registry references) :
    (resolve registry selections references).outcome
      = .ok ((walk registry selections [] references).filterMap Event.fragment?) := by
  rw [resolve, Event.report_outcome,
    walk_any_halts registry selections [] references (List.forall_mem_nil _) ids]
  rfl

end PipelineOverride
