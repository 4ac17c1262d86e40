import PipelineOverride.Proofs.Compilation.Containment
import PipelineOverride.Proofs.Resolution.Progress

/-!
# Selections that lead to an option

An option that can be reached through cases can also be made to contribute, if every case on the way
can be selected. A chain of references may pass an option twice, with another case each time, and no
selections can do the same; but without its loops the chain is one that passes every option once.
Along such a descent each option is given the value that makes the next case active, and the walk
that these selections steer goes down the whole of it.
-/

set_option autoImplicit false

namespace PipelineOverride

variable {registry : Registry} {selections others : SelectionStore} {references : List Document}
  {site last : Site} {sites : List Site} {position : List Nat} {fragment : Fragment}

/-!
## Fragments and positions
-/

theorem Contributes.unique {other : Fragment}
    (contributes : Contributes registry selections references position fragment)
    (again : Contributes registry selections references position other) : other = fragment := by
  obtain ⟨trail, site, admissible, isLast, found⟩ := contributes
  obtain ⟨trail', site', admissible', isLast', found'⟩ := again
  cases admissible.leads.symm.trans admissible'.leads
  cases isLast.symm.trans isLast'
  exact Option.some.inj (found'.symm.trans found)

/-- The fragments of a walk are those that some position contributes. -/
theorem mem_fragments_iff :
    fragment ∈ (walk registry selections [] references).filterMap Event.fragment?
      ↔ ∃ position, Contributes registry selections references position fragment := by
  obtain ⟨positions, _, each, complete⟩ :=
    walk_enumerates_contributions registry selections references
  constructor
  · intro member
    obtain ⟨position, _, contributes⟩ := exists_related_of_mem each member
    exact ⟨position, contributes⟩
  · intro given
    obtain ⟨position, contributes⟩ := given
    obtain ⟨other, member, again⟩ :=
      exists_related_of_mem (List.Forall₂.flip each) (complete position fragment contributes)
    exact contributes.unique again ▸ member

/-!
## Descents
-/

/-- A site is listed if one of the references leads to its option. -/
structure Site.Listed (registry : Registry) (references : List Document) (site : Site) : Prop where
  reference : ∃ reference ∈ references, reference.scalar? = some site.id
  defined : registry.lookup site.id = some site.definition

/-- Sites in a row: the first is listed among the references, and each other one among the
references in a case of the site before it. -/
inductive Descent (registry : Registry) : List Document → List Site → Prop where
  | arrive {references : List Document} {site : Site} : site.Listed registry references →
      Descent registry references [site]
  | descend {references : List Document} {site : Site} {branch : Case} {below : List Site} :
      site.Listed registry references → branch ∈ site.definition.cases →
      Descent registry branch.options below → Descent registry references (site :: below)

/-- No option is passed twice. -/
def PassesOnce (sites : List Site) : Prop :=
  sites.Pairwise fun earlier later => ¬ earlier.id.same later.id = true

theorem Descent.ne_nil (descent : Descent registry references sites) : sites ≠ [] := by
  cases descent <;> exact List.cons_ne_nil _ _

theorem Descent.defined (descent : Descent registry references sites) :
    ∀ passed ∈ sites, registry.lookup passed.id = some passed.definition := by
  induction descent with
  | arrive listed => exact fun passed member => List.mem_singleton.1 member ▸ listed.defined
  | descend listed _ _ ih =>
      intro passed member
      rcases List.mem_cons.1 member with rfl | member
      · exact listed.defined
      · exact ih passed member

theorem Descent.extend (descent : Descent registry references sites)
    (isLast : sites.getLast? = some last) {branch : Case} (isCase : branch ∈ last.definition.cases)
    (listed : site.Listed registry branch.options) :
    Descent registry references (sites ++ [site]) := by
  induction descent with
  | arrive here =>
      cases isLast
      exact .descend here isCase (.arrive listed)
  | descend here isBranch onward ih =>
      rw [List.getLast?_cons_of_ne_nil onward.ne_nil] at isLast
      exact .descend here isBranch (ih isLast)

/-- To every option that is reachable there is a descent. -/
theorem Descent.of_reachable {id : Scalar} {definition : OptionDefinition}
    (reachable : Reachable registry references id)
    (defined : registry.lookup id = some definition) :
    ∃ sites, Descent registry references sites ∧ sites.getLast? = some ⟨id, definition⟩ := by
  induction reachable generalizing definition with
  | listed member isId => exact ⟨_, .arrive ⟨⟨_, member, isId⟩, defined⟩, rfl⟩
  | nested _ found member isId ih =>
      obtain ⟨sites, descent, isLast⟩ := ih found
      obtain ⟨branch, isCase, isReference⟩ := List.mem_flatMap.1 member
      have listed : Site.Listed registry branch.options ⟨_, definition⟩ :=
        ⟨⟨_, isReference, isId⟩, defined⟩
      exact ⟨_, descent.extend isLast isCase listed, List.getLast?_concat ..⟩

/-!
## Cutting loops
-/

theorem Descent.from_middle {above below : List Site} (descent : Descent registry references sites)
    (splits : sites = above ++ site :: below) :
    ∃ lower, Descent registry lower (site :: below) := by
  induction descent generalizing above with
  | @arrive references _ listed =>
      cases above with
      | nil =>
          cases splits
          exact ⟨references, .arrive listed⟩
      | cons first rest => simp at splits
  | @descend references _ _ _ listed isCase onward ih =>
      cases above with
      | nil =>
          cases splits
          exact ⟨references, .descend listed isCase onward⟩
      | cons first rest => exact ih (List.cons.inj splits).2

/-- What goes on from an option goes on from any site of the same option. -/
theorem Descent.rejoin {later : Site} {lower : List Document} {below : List Site}
    (listed : site.Listed registry references)
    (descent : Descent registry lower (later :: below)) (same : site.id.same later.id = true) :
    Descent registry references (site :: below) := by
  cases descent with
  | arrive => exact .arrive listed
  | descend lowerListed isCase onward =>
      have definition : site.definition = later.definition := by
        have defined := listed.defined
        rw [Table.lookup_congr same, lowerListed.defined] at defined
        exact (Option.some.inj defined).symm
      exact .descend listed (definition ▸ isCase) onward

/-- Wherever a descent leads, one leads that passes no option twice: where an option is met again,
all that lies between is left out. -/
theorem Descent.exists_passesOnce (descent : Descent registry references sites)
    (isLast : sites.getLast? = some last) :
    ∃ direct final, Descent registry references direct ∧ PassesOnce direct
      ∧ direct.getLast? = some final ∧ final.id.same last.id = true := by
  induction descent with
  | @arrive references site listed =>
      cases isLast
      exact ⟨[site], site, .arrive listed, List.pairwise_singleton .., rfl, Scalar.same_self _⟩
  | @descend references site branch below listed isCase onward ih =>
      rw [List.getLast?_cons_of_ne_nil onward.ne_nil] at isLast
      obtain ⟨direct, final, onwardDirect, once, isFinal, same⟩ := ih isLast
      by_cases again : ∃ later ∈ direct, site.id.same later.id = true
      · obtain ⟨later, member, sameLater⟩ := again
        obtain ⟨above, rest, rfl⟩ := List.append_of_mem member
        obtain ⟨lower, lowerDescent⟩ := onwardDirect.from_middle rfl
        obtain ⟨apart, onceRest⟩ :=
          List.pairwise_cons.1 (once.sublist (List.sublist_append_right ..))
        have onceCut : PassesOnce (site :: rest) :=
          List.pairwise_cons.2 ⟨fun passed isPassed samePassed =>
            apart passed isPassed (Scalar.same_trans (Scalar.same_symm sameLater) samePassed),
            onceRest⟩
        rw [List.getLast?_append_of_ne_nil _ (List.cons_ne_nil _ _)] at isFinal
        cases rest with
        | nil =>
            cases isFinal
            exact ⟨[site], site, .arrive listed, onceCut, rfl, Scalar.same_trans sameLater same⟩
        | cons next rest =>
            exact ⟨_, final, .rejoin listed lowerDescent sameLater, onceCut, isFinal, same⟩
      · refine ⟨site :: direct, final, .descend listed isCase onwardDirect, ?_, ?_, same⟩
        · exact List.pairwise_cons.2
            ⟨fun later member sameLater => again ⟨later, member, sameLater⟩, once⟩
        · rwa [List.getLast?_cons_of_ne_nil onwardDirect.ne_nil]

/-!
## Steering
-/

theorem Site.value_cons_self (selections : SelectionStore) (value : OptionValue) :
    site.value ((site.id, value) :: selections) = value := by
  rw [Site.value, effectiveValue, Table.lookup_cons, if_pos (Scalar.same_self _),
    Option.getD_some]

theorem Site.value_cons_of_not_same {id : Scalar} (value : OptionValue)
    (apart : ¬ id.same site.id = true) :
    site.value ((id, value) :: selections) = site.value selections := by
  rw [Site.value, Site.value, effectiveValue, effectiveValue, Table.lookup_cons, if_neg apart]

theorem Site.fragment?_congr (value : site.value others = site.value selections) :
    site.fragment? others = site.fragment? selections := by
  simp only [Site.fragment?, Site.activeCase?, value]

theorem Site.Live.congr (live : site.Live selections)
    (value : site.value others = site.value selections) : site.Live others := by
  obtain ⟨kind, active⟩ := live
  refine ⟨value ▸ kind, fun hasCases => ?_⟩
  simpa only [Site.activeCase?, value] using active hasCases

/-- A trail depends on the selections only through the values of the options that it passes. -/
theorem trail?_eq_of_values {trail : List Site}
    (leads : trail? registry selections references position = some trail)
    (values : ∀ passed ∈ trail, passed.value others = passed.value selections) :
    trail? registry others references position = some trail := by
  induction position generalizing references trail with
  | nil => exact leads
  | cons index tail ih =>
      simp only [trail?, Option.bind_eq_bind, Option.bind_eq_some_iff] at leads ⊢
      obtain ⟨reference, listed, id, isId, definition, found, below, onward, ends⟩ := leads
      cases ends
      have next : Site.next others ⟨id, definition⟩ = Site.next selections ⟨id, definition⟩ := by
        simp only [Site.next, Site.activeCase?, values _ (.head _)]
      refine ⟨reference, listed, id, isId, definition, found, below, ?_, rfl⟩
      rw [next]
      exact ih onward fun passed member => values passed (.tail _ member)

theorem Site.Listed.exists_index {below : List Site} (listed : site.Listed registry references)
    (onward : trail? registry selections (site.next selections) position = some below) :
    ∃ index, trail? registry selections references (index :: position)
      = some (site :: below) := by
  obtain ⟨⟨reference, member, isId⟩, defined⟩ := listed
  obtain ⟨index, isAt⟩ := List.getElem?_of_mem member
  refine ⟨index, ?_⟩
  simp only [trail?, isAt, isId, defined, Option.bind_eq_bind, Option.bind_some]
  exact Option.bind_eq_some_iff.2 ⟨below, onward, rfl⟩

/-- Every case of an option is active with some value. -/
def OptionDefinition.Selectable (definition : OptionDefinition) : Prop :=
  ∀ branch ∈ definition.cases, ∃ value, definition.activeCase? value = some branch

/-- Whatever is selected elsewhere, an option contributes with a value. -/
def Site.ContributesWith (value : OptionValue) (site : Site) : Prop :=
  ∀ selections, site.value selections = value →
    ∃ fragment, site.fragment? selections = some fragment

/-- A descent that passes no option twice is gone down with some selections, which store a value for
each of its options and for no others. -/
theorem Descent.exists_selections (descent : Descent registry references sites)
    (once : PassesOnce sites) (isLast : sites.getLast? = some last)
    (selectable : ∀ id definition, registry.lookup id = some definition → definition.Selectable)
    {value : OptionValue} (contributes : last.ContributesWith value) :
    ∃ (selections : SelectionStore) (position : List Nat) (fragment : Fragment),
      selections.keys = sites.map Site.id
      ∧ trail? registry selections references position = some sites
      ∧ (∀ passed ∈ sites, passed.Live selections)
      ∧ last.fragment? selections = some fragment := by
  induction descent with
  | @arrive references site listed =>
      cases isLast
      obtain ⟨fragment, found⟩ := contributes _ (site.value_cons_self [] value)
      have ends : trail? registry [(site.id, value)] (site.next [(site.id, value)]) [] = some [] :=
        rfl
      obtain ⟨index, leads⟩ := listed.exists_index ends
      refine ⟨_, [index], fragment, rfl, leads, fun passed member => ?_, found⟩
      rw [List.mem_singleton.1 member]
      exact Site.live_of_fragment? found
  | @descend references site branch below listed isCase onward ih =>
      rw [List.getLast?_cons_of_ne_nil onward.ne_nil] at isLast
      obtain ⟨apart, onceBelow⟩ := List.pairwise_cons.1 once
      obtain ⟨selections, position, fragment, keys, leads, live, found⟩ := ih onceBelow isLast
      obtain ⟨chosen, activates⟩ := selectable site.id site.definition listed.defined branch isCase
      -- The new entry comes first, and it is for another option than all those below.
      have value := site.value_cons_self selections chosen
      have active : site.activeCase? ((site.id, chosen) :: selections) = some branch := by
        rw [Site.activeCase?, value, activates]
      have unchanged : ∀ passed ∈ below,
          passed.value ((site.id, chosen) :: selections) = passed.value selections :=
        fun passed member => passed.value_cons_of_not_same chosen (apart passed member)
      have next : site.next ((site.id, chosen) :: selections) = branch.options := by
        simp only [Site.next, active, Option.map_some, Option.getD_some]
      obtain ⟨index, leadsOn⟩ := listed.exists_index
        (next.symm ▸ trail?_eq_of_values leads unchanged)
      refine ⟨(site.id, chosen) :: selections, index :: position, fragment, ?_, leadsOn, ?_, ?_⟩
      · exact congrArg (site.id :: ·) keys
      · intro passed member
        rcases List.mem_cons.1 member with rfl | member
        · exact Site.live_of_activeCase? active
        · exact (live passed member).congr (unchanged passed member)
      · rw [Site.fragment?_congr (unchanged last (List.mem_of_getLast? isLast)), found]

/-- What can be reached can be made to contribute: wherever every case is active with some value and
every option contributes with some value, there are selections with which a walk yields a fragment
of the option. -/
theorem Reachable.exists_selections {id : Scalar} {definition : OptionDefinition}
    (reachable : Reachable registry references id)
    (defined : registry.lookup id = some definition)
    (selectable : ∀ id definition, registry.lookup id = some definition → definition.Selectable)
    (contributes : ∀ site : Site, registry.lookup site.id = some site.definition →
      ∃ value, site.ContributesWith value) :
    ∃ (selections : SelectionStore) (fragment : Fragment), selections.Distinct
      ∧ fragment ∈ (walk registry selections [] references).filterMap Event.fragment?
      ∧ fragment.id.same id = true := by
  obtain ⟨sites, descent, isLast⟩ := Descent.of_reachable reachable defined
  obtain ⟨direct, final, directDescent, once, isFinal, same⟩ := descent.exists_passesOnce isLast
  have finalDefined := directDescent.defined final (List.mem_of_getLast? isFinal)
  obtain ⟨value, contributesWith⟩ := contributes final finalDefined
  obtain ⟨selections, position, fragment, keys, leads, live, found⟩ :=
    directDescent.exists_selections once isFinal selectable contributesWith
  have admissible : Admissible registry selections references position direct := by
    refine ⟨?_, leads, once, live⟩
    rintro rfl
    cases leads
    cases isFinal
  refine ⟨selections, fragment, ?_, ?_, ?_⟩
  · rw [Table.distinct_iff_keys, keys, List.pairwise_map]
    exact once
  · exact mem_fragments_iff.2 ⟨position, direct, final, admissible, isFinal, found⟩
  · rw [Site.fragment?_id found]
    exact same

end PipelineOverride
