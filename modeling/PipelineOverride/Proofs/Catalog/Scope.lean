import Mathlib.Data.List.Nodup
import PipelineOverride.Proofs.Catalog.Reach
import PipelineOverride.Proofs.Compilation.Isolation
import PipelineOverride.Proofs.Resolution.Steering
import PipelineOverride.Proofs.Validation.Declared

/-!
# The scope of a built-in task

A catalog gives out an option for a task only if the task can reach it. This scope fits resolution:
whatever is selected, all fragments of the task are of options in its scope, and where every case
can be made active and has an override, each option in the scope gives a fragment for some
selections.
-/

set_option autoImplicit false

namespace PipelineOverride

variable {definition : OptionDefinition} {registry : Registry} {catalog : Catalog} {task : Task}

/-- Among items with distinct names, the first of the name of an item is the item itself. -/
theorem find?_eq_some_of_nodup {α : Type} {name : α → String} {items : List α} {item : α}
    (distinct : (items.map name).Nodup) (member : item ∈ items) {test : α → Bool}
    (names : ∀ other, test other = true ↔ name other = name item) :
    items.find? test = some item := by
  have given : (items.find? test).isSome :=
    List.find?_isSome.2 ⟨item, member, (names item).2 rfl⟩
  obtain ⟨found, isFound⟩ := Option.isSome_iff_exists.1 given
  have same := (names found).1 (List.find?_some isFound)
  rw [isFound, List.inj_on_of_nodup_map distinct (List.mem_of_find?_eq_some isFound) member same]

/-!
## Cases that can be selected
-/

/-- No two cases of an option have one name. A switch has two cases, a select option has some. -/
structure OptionDefinition.ProperCases (definition : OptionDefinition) : Prop where
  twoCases : ∀ choice, definition = .switch choice → choice.cases.length = 2
  someCase : ∀ choice, definition = .select choice → choice.cases ≠ []
  names : (definition.cases.map Case.name).Nodup

/-- Every switch has a case with an on spelling and one with an off spelling, and every case and
every form has an override. -/
structure Registry.Expressive (registry : Registry) : Prop where
  on : ∀ id choice, registry.lookup id = some (.switch choice) →
    ∃ branch ∈ choice.cases, branch.name ∈ onSpellings
  off : ∀ id choice, registry.lookup id = some (.switch choice) →
    ∃ branch ∈ choice.cases, branch.name ∈ offSpellings
  cases : ∀ id definition, registry.lookup id = some definition →
    ∀ branch ∈ definition.cases, branch.override.isSome
  forms : ∀ id form, registry.lookup id = some (.input form) → form.override.isSome

theorem OptionDefinition.ProperCases.exists_case (proper : definition.ProperCases)
    (hasCases : definition.choice?.isSome) : ∃ branch, branch ∈ definition.cases := by
  cases definition with
  | select choice => exact List.exists_mem_of_ne_nil _ (proper.someCase choice rfl)
  | switch choice =>
      refine List.exists_mem_of_length_pos ?_
      show 0 < choice.cases.length
      rw [proper.twoCases choice rfl]
      exact Nat.two_pos
  | input form => cases hasCases

theorem not_mem_offSpellings {name : String} (isOn : name ∈ onSpellings) :
    name ∉ offSpellings := by
  revert name
  decide

/-- Of two cases, one spelled on and one spelled off, each is taken in one state of a switch. -/
theorem exists_switchCase? {cases : List Case} (twoCases : cases.length = 2)
    (on : ∃ branch ∈ cases, branch.name ∈ onSpellings)
    (off : ∃ branch ∈ cases, branch.name ∈ offSpellings) :
    ∀ branch ∈ cases, ∃ state, switchCase? cases state = some branch := by
  obtain ⟨first, second, rfl⟩ := List.length_eq_two.1 twoCases
  obtain ⟨onBranch, onMember, isOn⟩ := on
  obtain ⟨offBranch, offMember, isOff⟩ := off
  have notOff : onBranch.name ∉ offSpellings := not_mem_offSpellings isOn
  have notOn : offBranch.name ∉ onSpellings := fun spelledOn => not_mem_offSpellings spelledOn isOff
  have takesOn : switchCase? [first, second] true = some onBranch := by
    simp only [List.mem_cons, List.not_mem_nil, or_false] at onMember offMember
    rcases onMember with rfl | rfl <;> rcases offMember with rfl | rfl <;>
      simp_all [switchCase?]
  have takesOff : switchCase? [first, second] false = some offBranch := by
    simp only [List.mem_cons, List.not_mem_nil, or_false] at onMember offMember
    rcases onMember with rfl | rfl <;> rcases offMember with rfl | rfl <;>
      simp_all [switchCase?]
  intro branch member
  by_cases isOnBranch : branch = onBranch
  · exact ⟨true, isOnBranch ▸ takesOn⟩
  · refine ⟨false, ?_⟩
    rw [takesOff]
    simp only [List.mem_cons, List.not_mem_nil, or_false] at onMember offMember member
    rcases onMember with rfl | rfl <;> rcases offMember with rfl | rfl <;> simp_all

theorem OptionDefinition.ProperCases.selectable {id : Scalar} (proper : definition.ProperCases)
    (expressive : registry.Expressive) (found : registry.lookup id = some definition) :
    definition.Selectable := by
  intro branch member
  cases definition with
  | select choice =>
      refine ⟨.select (.text branch.name), ?_⟩
      refine find?_eq_some_of_nodup proper.names member fun other => ?_
      rw [Document.isText, Document.text?, beq_iff_eq, Option.some.injEq, eq_comm]
  | switch choice =>
      obtain ⟨state, takes⟩ := exists_switchCase? (proper.twoCases choice rfl)
        (expressive.on id choice found) (expressive.off id choice found) branch member
      exact ⟨.switch state, takes⟩
  | input form => cases member

theorem Registry.Expressive.contributesWith (expressive : registry.Expressive) {site : Site}
    (found : registry.lookup site.id = some site.definition)
    (proper : site.definition.ProperCases) : ∃ value, site.ContributesWith value := by
  rcases site.definition.choice_or_form with hasCases | ⟨form, isForm⟩
  · obtain ⟨branch, member⟩ := proper.exists_case hasCases
    obtain ⟨value, activates⟩ := proper.selectable expressive found branch member
    obtain ⟨payload, isOverride⟩ :=
      Option.isSome_iff_exists.1 (expressive.cases site.id _ found branch member)
    refine ⟨value, fun selections isValue => ⟨.static site.id payload, ?_⟩⟩
    have active : site.activeCase? selections = some branch := by
      rw [Site.activeCase?, isValue, activates]
    rw [Site.fragment?_choice hasCases, active, Option.bind_some, isOverride, Option.map_some]
  · obtain ⟨body, isOverride⟩ :=
      Option.isSome_iff_exists.1 (expressive.forms site.id form (isForm ▸ found))
    refine ⟨.input [], fun selections isValue => ⟨.template site.id body form.slots [], ?_⟩⟩
    rw [Site.fragment?_form isForm isValue, isOverride, Option.map_some]

/-!
## Valid catalogs
-/

theorem Catalog.firstOfEachName_names (taken : List String) (tasks : List Task) :
    ((firstOfEachName taken tasks).map Task.name).Nodup
      ∧ ∀ name ∈ (firstOfEachName taken tasks).map Task.name, name ∉ taken := by
  induction tasks generalizing taken with
  | nil => exact ⟨.nil, fun _ none => (List.not_mem_nil none).elim⟩
  | cons task rest ih =>
      rw [firstOfEachName]
      split
      · exact ih taken
      · rename_i free
        obtain ⟨distinct, apart⟩ := ih (task.name :: taken)
        refine ⟨List.nodup_cons.2 ⟨fun again => apart _ again (.head _), distinct⟩, ?_⟩
        intro name member isTaken
        rcases List.mem_cons.1 member with rfl | member
        · exact free (List.contains_iff_mem.2 isTaken)
        · exact apart name member (.tail _ isTaken)

theorem OptionDefinition.ProperCases.input (form : Form) : (input form).ProperCases := by
  constructor
  case twoCases =>
    intro choice isSwitch
    cases isSwitch
  case someCase =>
    intro choice isSelect
    cases isSelect
  case names => exact .nil

theorem Bundled.options_properCases : ∀ entry ∈ options, entry.2.ProperCases := by
  intro entry member
  simp only [options, List.mem_cons, List.not_mem_nil, or_false] at member
  rcases member with rfl | rfl | rfl | rfl
  · exact .input _
  · exact .input _
  · constructor
    case twoCases =>
      intro choice isSwitch
      cases isSwitch
      rfl
    case someCase =>
      intro choice isSelect
      cases isSelect
    case names => decide
  · exact .input _

namespace Catalog.Valid

theorem exists_project (valid : catalog.Valid) :
    ∃ project, catalog = Catalog.ofProject project := by
  rcases valid with rfl | ⟨document, source, _, read⟩
  · exact ⟨Bundled.project, rfl⟩
  · obtain ⟨project, _, isCatalog⟩ := Catalog.ofDocument_eq_ok_iff.1 read
    exact ⟨project, isCatalog.symm⟩

/-- A task of a valid catalog is the one that is found by its name. -/
theorem task?_of_mem (valid : catalog.Valid) (member : task ∈ catalog.tasks) :
    catalog.task? task.name = some task := by
  obtain ⟨project, rfl⟩ := valid.exists_project
  exact find?_eq_some_of_nodup (firstOfEachName_names [] project.tasks).1 member
    fun _ => decide_eq_true_iff

theorem wellShaped (valid : catalog.Valid) : catalog.WellShaped := by
  have loaded : Compiler.Loaded ⟨none, catalog, {}⟩ := by
    constructor
    case project =>
      intro project isProject
      cases isProject
    case catalog =>
      refine valid.imp_right fun given => ?_
      obtain ⟨document, source, _, read⟩ := given
      exact ⟨document, source, read⟩
  exact loaded.catalog_wellShaped

theorem refersToIds (valid : catalog.Valid) (member : task ∈ catalog.tasks) :
    RefersToIds catalog.options task.options :=
  .of_wellShaped valid.wellShaped.options (valid.wellShaped.tasks task member)

theorem properCases (valid : catalog.Valid) {id : Scalar}
    (found : catalog.options.lookup id = some definition) : definition.ProperCases := by
  refine Table.of_lookup ?_ found
  rcases valid with rfl | ⟨document, source, _, read⟩
  · exact Bundled.options_properCases
  · obtain ⟨project, accepted, rfl⟩ := Catalog.ofDocument_eq_ok_iff.1 read
    obtain ⟨fields, rfl⟩ := Project.checked_mapping accepted
    obtain ⟨options, _, declared⟩ := Project.checked_options accepted
    intro entry member
    obtain ⟨declaration, _, _, isDeclared⟩ := exists_related_of_mem declared member
    exact ⟨isDeclared.twoCases, isDeclared.someCase, isDeclared.caseNames⟩

end Catalog.Valid

/-- The ids to which a task refers are texts, and with them all that it can reach. -/
theorem Catalog.Valid.reachable_text (valid : catalog.Valid) (member : task ∈ catalog.tasks)
    {id : Scalar} (reachable : Reachable catalog.options task.options id) :
    ∃ name, id = .text name := by
  have shaped := valid.wellShaped
  have texts : ∀ reference : Document, (∃ name, reference = .text name) →
      ∀ id, reference.scalar? = some id → ∃ name, id = .text name := by
    intro reference isText id isId
    obtain ⟨name, rfl⟩ := isText
    exact ⟨name, (Option.some.inj isId).symm⟩
  cases reachable with
  | listed isReference isId =>
      exact texts _ ((shaped.tasks task member).ids _ isReference) id isId
  | nested _ found isReference isId =>
      have shapedOption : OptionDefinition.WellShaped _ := Table.of_lookup shaped.options found
      exact texts _ (shapedOption.texts _ isReference) id isId

/-!
## Scope and resolution
-/

/-- The scope of a task agrees with its resolution. Every fragment is of an option in the scope. If
every switch has a case of either spelling, and every case and form an override, then every option
in the scope has a fragment for some selections. -/
theorem scope_agrees_with_resolution (valid : catalog.Valid) (member : task ∈ catalog.tasks) :
    (∀ selections, ∃ fragments,
        (resolve catalog.options selections task.options).outcome = .ok fragments
        ∧ ∀ fragment ∈ fragments, (catalog.taskOption? task.name fragment.id).isSome)
      ∧ (catalog.options.Expressive → ∀ id, (catalog.taskOption? task.name id).isSome →
        ∃ (selections : SelectionStore) (fragments : List Fragment), selections.Distinct
          ∧ (resolve catalog.options selections task.options).outcome = .ok fragments
          ∧ ∃ fragment ∈ fragments, fragment.id = id) := by
  have ids := valid.refersToIds member
  have found := valid.task?_of_mem member
  constructor
  · intro selections
    refine ⟨_, resolve_outcome_of_refersToIds _ selections _ ids, fun fragment isFragment => ?_⟩
    obtain ⟨position, trail, site, admissible, isLast, isOwn⟩ := mem_fragments_iff.1 isFragment
    obtain ⟨reachable, defined⟩ :=
      reachable_of_mem_trail admissible.leads site (List.mem_of_getLast? isLast)
    rw [Site.fragment?_id isOwn, Option.isSome_iff_exists]
    exact ⟨site.definition, (Catalog.taskOption?_eq_some_iff found).2
      ⟨⟨site.id, reachable, Scalar.same_self _⟩, defined⟩⟩
  · intro expressive id inScope
    obtain ⟨definition, isOption⟩ := Option.isSome_iff_exists.1 inScope
    obtain ⟨⟨reached, reachable, same⟩, defined⟩ :=
      (Catalog.taskOption?_eq_some_iff found).1 isOption
    obtain ⟨name, rfl⟩ := valid.reachable_text member reachable
    obtain rfl := Scalar.eq_text_of_same same
    obtain ⟨selections, fragment, distinct, isFragment, isId⟩ :=
      reachable.exists_selections defined
        (fun id definition found => (valid.properCases found).selectable expressive found)
        (fun site found => expressive.contributesWith found (valid.properCases found))
    refine ⟨selections, _, distinct, resolve_outcome_of_refersToIds _ selections _ ids, fragment,
      isFragment, ?_⟩
    exact Scalar.eq_text_of_same (Scalar.same_symm isId)

/-!
## A loop
-/

/-- The declaration of a case that leads to options and has an override of its own. -/
def caseDocument (name : String) (ids : List String) : Document := .object [
  ("name", .text name), ("option", .texts ids),
  ("pipeline_override", .object [(name, .bool true)])]

/-- A switch whose on case leads back to the choice from which it is reached, and to a form. -/
def loopSwitch : OptionDefinition := .switch {
  cases := [caseTo "Yes" ["A", "F"], caseTo "No" []]
  defaultCase := none
  label := noText
  description := noText }

/-- The catalog of a task whose options lead back to themselves. -/
def loopCatalog : Catalog where
  tasks := [{ layeredTask with options := [.text "A"], override := none }]
  options := [(.text "A", selectAmong [caseTo "p" [], caseTo "q" ["B"]]),
    (.text "B", loopSwitch), (.text "F", plainForm "F")]

/-- The document of that catalog. -/
def loopDocument : Document := .object [
  ("task", .list [.object [("name", .text "T"), ("option", .texts ["A"])]]),
  ("option", .object [
    ("A", .object [("cases", .list [caseDocument "p" [], caseDocument "q" ["B"]])]),
    ("B", .object [("type", .text "switch"),
      ("cases", .list [caseDocument "Yes" ["A", "F"], caseDocument "No" []])]),
    ("F", .object [("type", .text "input"), ("inputs", .list []),
      ("pipeline_override", .object [("F", .text "{slot}")])])])]

theorem loopCatalog_valid : loopCatalog.Valid := by
  refine .inr ⟨loopDocument, "loop", ?_, ?_⟩
  · decide +kernel
  · have accepted : (Project.checked loopDocument "loop").outcome
        = .ok ⟨noText, "", loopCatalog.tasks, loopCatalog.options⟩ :=
      Project.checked_eq_ok_iff.2 ⟨accepted_iff.2 ⟨by rfl, _, by rfl, by rfl⟩, by rfl⟩
    exact Catalog.ofDocument_eq_ok_iff.2 ⟨_, accepted, rfl⟩

theorem loopCatalog_cases {id : Scalar} {definition : OptionDefinition}
    (found : loopCatalog.options.lookup id = some definition) :
    definition = selectAmong [caseTo "p" [], caseTo "q" ["B"]] ∨ definition = loopSwitch
      ∨ definition = plainForm "F" := by
  obtain ⟨key, member, _⟩ := Table.mem_of_lookup found
  simp only [loopCatalog, List.mem_cons, List.not_mem_nil, or_false, Prod.mk.injEq] at member
  exact member.imp And.right (Or.imp And.right And.right)

theorem loopCatalog_expressive : loopCatalog.options.Expressive := by
  constructor
  · intro id choice found
    rcases loopCatalog_cases found with isChoice | isSwitch | isForm
    · cases isChoice
    · cases isSwitch
      exact ⟨caseTo "Yes" ["A", "F"], by simp, by decide⟩
    · cases isForm
  · intro id choice found
    rcases loopCatalog_cases found with isChoice | isSwitch | isForm
    · cases isChoice
    · cases isSwitch
      exact ⟨caseTo "No" [], by simp, by decide⟩
    · cases isForm
  · intro id definition found branch member
    rcases loopCatalog_cases found with rfl | rfl | rfl
    · rcases List.mem_cons.1 member with rfl | member
      · rfl
      · rw [List.mem_singleton.1 member]
        rfl
    · rcases List.mem_cons.1 member with rfl | member
      · rfl
      · rw [List.mem_singleton.1 member]
        rfl
    · cases member
  · intro id form found
    rcases loopCatalog_cases found with isChoice | isSwitch | isForm
    · cases isChoice
    · cases isSwitch
    · cases isForm
      rfl

/-- By default the task of the loop gives nothing but the override of the first case, but the form
behind the switch is in its scope, and there are selections with which it gives its template. -/
theorem loopCatalog_scope :
    (∀ selections, ∃ fragments,
        (resolve loopCatalog.options selections [.text "A"]).outcome = .ok fragments
        ∧ ∀ fragment ∈ fragments, (loopCatalog.taskOption? "T" fragment.id).isSome)
      ∧ (loopCatalog.taskOption? "T" (.text "F")).isSome
      ∧ ∃ (selections : SelectionStore) (fragments : List Fragment), selections.Distinct
        ∧ (resolve loopCatalog.options selections [.text "A"]).outcome = .ok fragments
        ∧ ∃ fragment ∈ fragments, fragment.id = .text "F" := by
  obtain ⟨within, reaches⟩ :=
    scope_agrees_with_resolution loopCatalog_valid (List.mem_singleton_self _)
  have reachable : Reachable loopCatalog.options [.text "A"] (.text "F") := by
    have choice : Reachable loopCatalog.options [.text "A"] (.text "A") := .listed (.head _) rfl
    have switch : Reachable loopCatalog.options [.text "A"] (.text "B") :=
      choice.nested rfl (.head _) rfl
    exact switch.nested rfl (.tail _ (.head _)) rfl
  have inScope : (loopCatalog.taskOption? "T" (.text "F")).isSome :=
    Option.isSome_iff_exists.2 ⟨plainForm "F", (Catalog.taskOption?_eq_some_iff rfl).2
      ⟨⟨_, reachable, Scalar.same_self _⟩, rfl⟩⟩
  exact ⟨within, inScope, reaches loopCatalog_expressive _ inScope⟩

end PipelineOverride
