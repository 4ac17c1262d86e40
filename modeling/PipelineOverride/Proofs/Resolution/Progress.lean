import PipelineOverride.Proofs.Document.Distinct
import PipelineOverride.Proofs.Resolution.Lookups
import PipelineOverride.Proofs.Resolution.Preorder

/-!
# Resolution of consistent projects

Resolution skips a reference that has no definition or closes a cycle, and an option whose value is
of another kind or answers to no case. In a consistent project with fitting selections none of this
can happen at any depth: all of the tree of active options is walked through, every option on it
contributes its fragment, and nothing is warned of.
-/

set_option autoImplicit false

namespace PipelineOverride

/-- A reference is the id of an option that is defined. -/
def Defined (registry : Registry) (reference : Document) : Prop :=
  ∃ id, reference.scalar? = some id ∧ (registry.lookup id).isSome

/-- An option answers by itself if some case is active whenever nothing is stored for it and, for a
switch, in either state. -/
inductive OptionDefinition.Answers : OptionDefinition → Prop where
  | select {choice : Choice} : choice.cases ≠ [] →
      ((choice.defaultCase.getD .null).isVoid = true
        ∨ ∃ branch ∈ choice.cases, choice.defaultCase = some (.text branch.name)) →
      Answers (.select choice)
  | switch {choice : Choice} : (∃ branch ∈ choice.cases, branch.name ∈ onSpellings) →
      (∃ branch ∈ choice.cases, branch.name ∈ offSpellings) → Answers (.switch choice)
  | input {form : Form} : Answers (.input form)

/-- All references in cases are defined, no option can be reached from its own cases, and every
option answers by itself. -/
structure Registry.Consistent (registry : Registry) : Prop where
  closed : ∀ id definition, registry.lookup id = some definition →
    ∀ reference ∈ definition.references, Defined registry reference
  acyclic : ∀ id definition, registry.lookup id = some definition →
    ∀ other, Reachable registry definition.references other → ¬ other.same id = true
  answers : ∀ id definition, registry.lookup id = some definition → definition.Answers

/-- What is stored for defined options has their kind and, for a select option, names a case. -/
structure SelectionStore.Fits (selections : SelectionStore) (registry : Registry) : Prop where
  kind : ∀ id definition value, registry.lookup id = some definition →
    selections.lookup id = some value → value.kind = definition.kind
  named : ∀ id choice name, registry.lookup id = some (.select choice) →
    selections.lookup id = some (.select name) →
    ∃ branch ∈ choice.cases, name = .text branch.name

variable {registry : Registry} {selections : SelectionStore} {path : List Scalar}
  {references : List Document}

/-!
## Options that answer
-/

theorem Choice.find?_isSome {choice : Choice} {name : Document}
    (named : ∃ branch ∈ choice.cases, name = .text branch.name) : (choice.find? name).isSome := by
  obtain ⟨branch, member, rfl⟩ := named
  rw [Choice.find?, List.find?_isSome]
  exact ⟨branch, member, by simp [Document.isText, Document.text?]⟩

theorem Choice.find?_defaultName {choice : Choice} (nonempty : choice.cases ≠ [])
    (default : (choice.defaultCase.getD .null).isVoid = true
      ∨ ∃ branch ∈ choice.cases, choice.defaultCase = some (.text branch.name)) :
    (choice.find? choice.defaultName).isSome := by
  apply Choice.find?_isSome
  obtain ⟨first, rest, cases⟩ := List.exists_cons_of_ne_nil nonempty
  have isFirst : Document.text ((choice.cases.head?.map Case.name).getD "") = .text first.name := by
    rw [cases]
    rfl
  simp only [Choice.defaultName, isFirst]
  split
  · exact ⟨first, by simp [cases], rfl⟩
  · rename_i given
    rcases default with isVoid | ⟨branch, member, isDefault⟩
    · exact absurd isVoid given
    · exact ⟨branch, member, by rw [isDefault, Option.getD_some]⟩

theorem switchCase?_isSome {cases : List Case} (on : Bool)
    (spelled : ∃ branch ∈ cases, branch.name ∈ onSpellings)
    (spelledOff : ∃ branch ∈ cases, branch.name ∈ offSpellings) :
    (switchCase? cases on).isSome := by
  rw [switchCase?, List.find?_isSome]
  cases on with
  | true => exact spelled.imp fun _ given => ⟨given.1, List.contains_iff_mem.2 given.2⟩
  | false => exact spelledOff.imp fun _ given => ⟨given.1, List.contains_iff_mem.2 given.2⟩

theorem OptionDefinition.defaultValue_kind (definition : OptionDefinition) :
    definition.defaultValue.kind = definition.kind := by
  cases definition <;> rfl

/-- In a consistent project every site is live: its value has its kind and activates a case. -/
theorem Registry.Consistent.live (consistent : registry.Consistent)
    (fits : selections.Fits registry) {site : Site}
    (found : registry.lookup site.id = some site.definition) : site.Live selections := by
  obtain ⟨id, definition⟩ := site
  have answers := consistent.answers id definition found
  cases stored : selections.lookup id with
  | none =>
      have value : Site.value selections ⟨id, definition⟩ = definition.defaultValue := by
        simp only [Site.value, effectiveValue, stored, Option.getD_none]
      refine ⟨by rw [value]; exact definition.defaultValue_kind, fun hasCases => ?_⟩
      rw [Site.activeCase?, value]
      cases answers with
      | select nonempty default => exact Choice.find?_defaultName nonempty default
      | switch spelled spelledOff => exact switchCase?_isSome _ spelled spelledOff
      | input => cases hasCases
  | some value =>
      have isStored : Site.value selections ⟨id, definition⟩ = value := by
        simp only [Site.value, effectiveValue, stored, Option.getD_some]
      have kind := fits.kind id definition value found stored
      refine ⟨by rw [isStored]; exact kind, fun hasCases => ?_⟩
      rw [Site.activeCase?, isStored]
      cases answers with
      | select _ _ =>
          cases value with
          | select name => exact Choice.find?_isSome (fits.named id _ name found stored)
          | switch _ => cases kind
          | input _ => cases kind
      | switch spelled spelledOff =>
          cases value with
          | switch on => exact switchCase?_isSome on spelled spelledOff
          | select _ => cases kind
          | input _ => cases kind
      | input => cases hasCases

/-!
## Walks without warnings
-/

/-- An event of a walk that skips nothing. -/
inductive Event.Forward : Event → Prop where
  | active {id : Scalar} {caseName : String} : Forward (.active id caseName)
  | fragment {piece : Fragment} : Forward (.fragment piece)

theorem Site.Live.visit_forward {site : Site} (live : site.Live selections) :
    ∀ event ∈ (visit selections site.id site.definition).1, event.Forward := by
  rcases site.definition.choice_or_form with hasCases | ⟨form, isForm⟩
  · obtain ⟨branch, active⟩ := Option.isSome_iff_exists.1 (live.active hasCases)
    rw [visit_choice selections site hasCases live.kind, active]
    intro event member
    rcases List.mem_cons.1 member with rfl | member
    · exact .active
    · obtain ⟨payload, _, rfl⟩ := Option.map_eq_some_iff.1 (Option.mem_toList.1 member)
      exact .fragment
  · have kind := live.kind
    rw [isForm] at kind
    obtain ⟨values, entered⟩ := OptionValue.eq_input_of_kind kind
    rw [visit_form selections site isForm entered]
    intro event member
    obtain ⟨body, _, rfl⟩ := Option.map_eq_some_iff.1 (Option.mem_toList.1 member)
    exact .fragment

/-- References stand below a path if everything that they lead to can be reached from the cases of
each option on the path. -/
def Below (registry : Registry) (path : List Scalar) (references : List Document) : Prop :=
  ∀ passed ∈ path, ∃ definition, registry.lookup passed = some definition
    ∧ ∀ id, Reachable registry references id → Reachable registry definition.references id

theorem Reachable.mono {others : List Document} {id : Scalar}
    (reachable : Reachable registry references id) (included : references ⊆ others) :
    Reachable registry others id := by
  induction reachable with
  | listed member isId => exact .listed (included member) isId
  | nested _ found member isId ih => exact .nested ih found member isId

theorem Reachable.trans {id other : Scalar} {definition : OptionDefinition}
    (leads : Reachable registry references id) (found : registry.lookup id = some definition)
    (onward : Reachable registry definition.references other) :
    Reachable registry references other := by
  induction onward with
  | listed member isId => exact .nested leads found member isId
  | nested _ found' member isId ih => exact .nested ih found' member isId

theorem Below.next {reference : Document} {rest : List Document} {site : Site}
    (below : Below registry path (reference :: rest))
    (arrived : arrive? registry path reference = some site) :
    Below registry (path ++ [site.id]) (site.next selections) := by
  obtain ⟨isId, found, _⟩ := arrive?_eq_some_iff.1 arrived
  have inCases := site.next_subset_references selections
  intro passed member
  rcases List.mem_append.1 member with above | last
  · obtain ⟨definition, foundPassed, leads⟩ := below passed above
    refine ⟨definition, foundPassed, fun id reachable => leads id ?_⟩
    exact .trans (.listed (.head _) isId) found (reachable.mono inCases)
  · rw [List.mem_singleton.1 last]
    exact ⟨site.definition, found, fun id reachable => reachable.mono inCases⟩

/-- A defined reference below a path leads to a site, since the path cannot hold it already. -/
theorem Registry.Consistent.arrives (consistent : registry.Consistent) {reference : Document}
    {rest : List Document} (defined : Defined registry reference)
    (below : Below registry path (reference :: rest)) :
    ∃ site, arrive? registry path reference = some site := by
  obtain ⟨id, isId, isDefined⟩ := defined
  obtain ⟨definition, found⟩ := Option.isSome_iff_exists.1 isDefined
  refine ⟨⟨id, definition⟩, arrive?_eq_some_iff.2 ⟨isId, found, ?_⟩⟩
  intro onPath
  obtain ⟨passed, member, same⟩ := List.any_eq_true.1 onPath
  obtain ⟨_, foundPassed, leads⟩ := below passed member
  refine consistent.acyclic passed _ foundPassed id ?_ (Scalar.same_symm same)
  exact leads id (.listed (.head _) isId)

theorem Registry.Consistent.walk_forward (consistent : registry.Consistent)
    (fits : selections.Fits registry) (path : List Scalar) (references : List Document)
    (defined : ∀ reference ∈ references, Defined registry reference)
    (below : Below registry path references) :
    ∀ event ∈ walk registry selections path references, event.Forward := by
  induction path, references using walk_induction registry selections with
  | nil path => simp
  | cons path reference rest onward beside =>
      obtain ⟨site, arrived⟩ := consistent.arrives (defined _ (.head _)) below
      obtain ⟨_, found, _⟩ := arrive?_eq_some_iff.1 arrived
      have here := (consistent.live fits found).visit_forward
      have deeper := onward site arrived
        (fun nested member => consistent.closed site.id site.definition found nested
          (site.next_subset_references selections member))
        (below.next arrived)
      have belowRest : Below registry path rest := by
        intro passed member
        obtain ⟨definition, foundPassed, leads⟩ := below passed member
        exact ⟨definition, foundPassed, fun id reachable =>
          leads id (reachable.mono (List.subset_cons_self ..))⟩
      have later := beside (fun other member => defined other (.tail _ member)) belowRest
      intro event member
      rw [walk_cons, arrived] at member
      rcases List.mem_append.1 member with first | beside
      · rcases List.mem_append.1 first with own | nested
        · exact here event own
        · exact deeper event nested
      · exact later event beside

theorem Event.report_outcome_of_forward {events : List Event}
    (forward : ∀ event ∈ events, event.Forward) :
    (report events).outcome = .ok (events.filterMap fragment?) := by
  have complete : events.any halts = false := by
    rw [List.any_eq_false]
    intro event member
    cases forward event member <;> exact Bool.false_ne_true
  rw [report_outcome, complete]
  rfl

theorem Event.report_quiet_of_forward {events : List Event}
    (forward : ∀ event ∈ events, event.Forward) :
    ∀ notice ∈ (report events).notices, notice.level = .debug := by
  induction events with
  | nil => exact fun _ member => (List.not_mem_nil member).elim
  | cons event rest ih =>
      have quiet := ih fun later member => forward later (.tail _ member)
      cases forward event (.head _) with
      | active =>
          intro notice member
          rcases List.mem_cons.1 member with rfl | member
          · rfl
          · exact quiet notice member
      | fragment => exact quiet

/-!
## Positions that are never cut
-/

theorem reachable_of_mem_trail {position : List Nat} {trail : List Site}
    (leads : trail? registry selections references position = some trail) :
    ∀ passed ∈ trail, Reachable registry references passed.id
      ∧ registry.lookup passed.id = some passed.definition := by
  induction position generalizing references trail with
  | nil =>
      cases leads
      exact fun _ member => (List.not_mem_nil member).elim
  | cons index tail ih =>
      simp only [trail?, Option.bind_eq_bind, Option.bind_eq_some_iff] at leads
      obtain ⟨reference, listed, id, isId, definition, found, others, onward, ends⟩ := leads
      cases ends
      have first : Reachable registry references id := .listed (List.mem_of_getElem? listed) isId
      intro passed member
      rcases List.mem_cons.1 member with rfl | member
      · exact ⟨first, found⟩
      · obtain ⟨reachable, foundPassed⟩ := ih onward passed member
        refine ⟨first.trans found (reachable.mono ?_), foundPassed⟩
        exact Site.next_subset_references selections ⟨id, definition⟩

/-- In a consistent project every position of the tree of active options is admissible. -/
theorem Registry.Consistent.admissible (consistent : registry.Consistent)
    (fits : selections.Fits registry) {position : List Nat} {trail : List Site}
    (nonempty : position ≠ [])
    (leads : trail? registry selections references position = some trail) :
    Admissible registry selections references position trail := by
  refine ⟨nonempty, leads, ?_, fun site member =>
    consistent.live fits (reachable_of_mem_trail leads site member).2⟩
  clear nonempty
  induction position generalizing references trail with
  | nil =>
      cases leads
      exact .nil
  | cons index tail ih =>
      simp only [trail?, Option.bind_eq_bind, Option.bind_eq_some_iff] at leads
      obtain ⟨_, _, id, _, definition, found, others, onward, ends⟩ := leads
      cases ends
      refine .cons (fun later member same => ?_) (ih onward)
      have reachable := (reachable_of_mem_trail onward later member).1
      refine consistent.acyclic id definition found later.id (reachable.mono ?_)
        (Scalar.same_symm same)
      exact Site.next_subset_references selections ⟨id, definition⟩

/-- Nothing is skipped in a consistent project with fitting selections. Resolution warns of nothing
and returns the fragments that positions contribute, in order; every option of the tree of active
options is live, and it contributes its fragment wherever it has one. -/
theorem resolve_skips_nothing (consistent : registry.Consistent)
    (fits : selections.Fits registry)
    (defined : ∀ reference ∈ references, Defined registry reference) :
    (∀ notice ∈ (resolve registry selections references).notices, notice.level = .debug)
      ∧ ∃ fragments positions,
        (resolve registry selections references).outcome = .ok fragments
        ∧ Enumerates (Contributes registry selections references) positions fragments
        ∧ ∀ position trail site,
          trail? registry selections references position = some trail →
          trail.getLast? = some site →
          site.Live selections ∧ ∀ fragment, site.fragment? selections = some fragment →
            Contributes registry selections references position fragment := by
  have forward := consistent.walk_forward fits [] references defined
    fun _ member => (List.not_mem_nil member).elim
  obtain ⟨positions, enumerates⟩ := walk_enumerates_contributions registry selections references
  refine ⟨Event.report_quiet_of_forward forward, _, positions,
    Event.report_outcome_of_forward forward, enumerates, ?_⟩
  intro position trail site leads isLast
  have nonempty : position ≠ [] := by
    rintro rfl
    cases leads
    cases isLast
  have admissible := consistent.admissible fits nonempty leads
  exact ⟨admissible.live site (List.mem_of_getLast? isLast),
    fun fragment found => ⟨trail, site, admissible, isLast, found⟩⟩

/-!
## A ladder
-/

/-- Options that only refer to options of a lower rank have no cycle. -/
theorem not_same_of_rank (rank : Scalar → Nat)
    (lower : ∀ id definition, registry.lookup id = some definition →
      ∀ reference ∈ definition.references, ∀ nested, reference.scalar? = some nested →
        rank nested.identity < rank id.identity)
    {id other : Scalar} {definition : OptionDefinition}
    (found : registry.lookup id = some definition)
    (reachable : Reachable registry definition.references other) : ¬ other.same id = true := by
  have descends : rank other.identity < rank id.identity := by
    induction reachable with
    | listed member isId => exact lower id definition found _ member _ isId
    | nested _ found' member isId ih =>
        exact Nat.lt_trans (lower _ _ found' _ member _ isId) ih
  intro same
  rw [of_decide_eq_true same] at descends
  exact Nat.lt_irrefl _ descends

/-- A form with a template and without slots. -/
def plainForm (name : String) : OptionDefinition :=
  .input {
    slots := []
    override := some (.mapping [(.text name, .text "{slot}")])
    label := noText
    description := noText }

/-- The switch at the top of the ladder. -/
def ladderSwitch : OptionDefinition :=
  .switch {
    cases := [caseTo "No" [], caseTo "y" ["C"]]
    defaultCase := some (.text "No")
    label := noText
    description := noText }

/-- The choice in the middle of the ladder. -/
def ladderChoice : OptionDefinition :=
  selectAmong [caseTo "first" [], caseTo "second" ["F"]]

/-- A switch that leads to a choice, and a choice that leads to a form. -/
def ladder : Registry :=
  [(.text "S", ladderSwitch), (.text "C", ladderChoice), (.text "F", plainForm "F")]

theorem ladder_cases {id : Scalar} {definition : OptionDefinition}
    (found : ladder.lookup id = some definition) :
    (id.identity = .text "S" ∧ definition = ladderSwitch)
      ∨ (id.identity = .text "C" ∧ definition = ladderChoice)
      ∨ id.identity = .text "F" ∧ definition = plainForm "F" := by
  obtain ⟨key, entry, same⟩ := Table.mem_of_lookup found
  rw [← of_decide_eq_true same]
  simp only [ladder, List.mem_cons, List.not_mem_nil, or_false, Prod.mk.injEq] at entry
  rcases entry with ⟨rfl, rfl⟩ | ⟨rfl, rfl⟩ | ⟨rfl, rfl⟩
  · exact .inl ⟨rfl, rfl⟩
  · exact .inr (.inl ⟨rfl, rfl⟩)
  · exact .inr (.inr ⟨rfl, rfl⟩)

/-- The number of steps that lead down from an id. -/
def ladderRank : Scalar → Nat
  | .text "S" => 2
  | .text "C" => 1
  | _ => 0

theorem ladder_descends {id : Scalar} {definition : OptionDefinition}
    (found : ladder.lookup id = some definition) {reference : Document}
    (member : reference ∈ definition.references) :
    ∃ nested, reference = .text nested ∧ (ladder.lookup (.text nested)).isSome
      ∧ ladderRank (.text nested) < ladderRank id.identity := by
  rcases ladder_cases found with ⟨isId, rfl⟩ | ⟨isId, rfl⟩ | ⟨isId, rfl⟩
  · cases List.mem_singleton.1 member
    exact ⟨"C", rfl, rfl, by rw [isId]; decide⟩
  · cases List.mem_singleton.1 member
    exact ⟨"F", rfl, rfl, by rw [isId]; decide⟩
  · cases member

theorem ladder_consistent : ladder.Consistent := by
  refine ⟨?_, ?_, ?_⟩
  · intro id definition found reference member
    obtain ⟨nested, rfl, isDefined, _⟩ := ladder_descends found member
    exact ⟨.text nested, rfl, isDefined⟩
  · intro id definition found other
    refine not_same_of_rank ladderRank (fun id definition found reference member nested isId => ?_)
      found
    obtain ⟨_, rfl, _, descends⟩ := ladder_descends found member
    cases isId
    exact descends
  · intro id definition found
    rcases ladder_cases found with ⟨_, rfl⟩ | ⟨_, rfl⟩ | ⟨_, rfl⟩
    · exact .switch ⟨caseTo "y" ["C"], by simp, by decide⟩ ⟨caseTo "No" [], by simp, by decide⟩
    · exact .select (List.cons_ne_nil _ _) (.inl rfl)
    · exact .input

/-- The ladder is gone down from both of its upper steps when the switch is on and the second case
is chosen. -/
def ladderSelections : SelectionStore :=
  [(.text "S", .switch true), (.text "C", .select (.text "second"))]

theorem ladderSelections_fits : ladderSelections.Fits ladder := by
  have stored : ∀ {id value}, ladderSelections.lookup id = some value →
      (id.same (.text "S") = true ∧ value = .switch true)
        ∨ id.same (.text "C") = true ∧ value = .select (.text "second") := by
    intro id value found
    obtain ⟨key, entry, same⟩ := Table.mem_of_lookup found
    simp only [ladderSelections, List.mem_cons, List.not_mem_nil, or_false, Prod.mk.injEq]
      at entry
    rcases entry with ⟨rfl, rfl⟩ | ⟨rfl, rfl⟩
    · exact .inl ⟨Scalar.same_symm same, rfl⟩
    · exact .inr ⟨Scalar.same_symm same, rfl⟩
  constructor
  · intro id definition value found isStored
    rcases stored isStored with ⟨same, rfl⟩ | ⟨same, rfl⟩
    · cases (Table.lookup_congr same).symm.trans found
      rfl
    · cases (Table.lookup_congr same).symm.trans found
      rfl
  · intro id choice name found isStored
    rcases stored isStored with ⟨_, isValue⟩ | ⟨same, isValue⟩
    · cases isValue
    · cases isValue
      cases (Table.lookup_congr same).symm.trans found
      exact ⟨caseTo "second" ["F"], by simp, rfl⟩

/-- The form contributes its template both below the switch and below the choice that is listed by
itself. -/
theorem ladder_skips_nothing :
    let references := [Document.text "S", .text "C"]
    let form := Fragment.template (.text "F") (.mapping [(.text "F", .text "{slot}")]) [] []
    (∀ notice ∈ (resolve ladder ladderSelections references).notices, notice.level = .debug)
      ∧ ∃ fragments positions,
        (resolve ladder ladderSelections references).outcome = .ok fragments
        ∧ Enumerates (Contributes ladder ladderSelections references) positions fragments
        ∧ Contributes ladder ladderSelections references [0, 0, 0] form
        ∧ Contributes ladder ladderSelections references [1, 0] form := by
  intro references form
  have defined : ∀ reference ∈ references, Defined ladder reference := by
    intro reference member
    rcases List.mem_cons.1 member with rfl | member
    · exact ⟨.text "S", rfl, rfl⟩
    · rw [List.mem_singleton.1 member]
      exact ⟨.text "C", rfl, rfl⟩
  obtain ⟨quiet, fragments, positions, outcome, enumerates, contributes⟩ :=
    resolve_skips_nothing ladder_consistent ladderSelections_fits defined
  exact ⟨quiet, fragments, positions, outcome, enumerates,
    (contributes [0, 0, 0] _ ⟨.text "F", plainForm "F"⟩ rfl rfl).2 form rfl,
    (contributes [1, 0] _ ⟨.text "F", plainForm "F"⟩ rfl rfl).2 form rfl⟩

end PipelineOverride
