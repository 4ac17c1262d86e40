import Mathlib.Data.List.Forall2
import PipelineOverride.Proofs.Document.Distinct
import PipelineOverride.Proofs.Resolution.Step

/-!
# Resolution as a walk in pre-order

A position names an option in the tree of active options: the index of a reference, then the index
of a reference of the case that is active there, and so on. Resolution gives the fragments of the
admissible positions, one for each, in lexicographic order with shorter positions first. Cycles need
no mention of a visited set here: a position is not admissible if it passes an option twice.
-/

set_option autoImplicit false

namespace PipelineOverride

/-- The sites that are passed when the indices of a position are followed from references on. There
are none if an index is out of range, or leads to something that is no defined option. -/
def trail? (registry : Registry) (selections : SelectionStore) :
    List Document → List Nat → Option (List Site)
  | _, [] => some []
  | references, index :: rest => do
    let reference ← references[index]?
    let id ← reference.scalar?
    let definition ← registry.lookup id
    let site : Site := ⟨id, definition⟩
    let others ← trail? registry selections (site.next selections) rest
    return site :: others

/-- A position is admissible if it leads along defined options that are pairwise distinct, each
with a value of its kind and, where it has cases, with an active one. -/
structure Admissible (registry : Registry) (selections : SelectionStore)
    (references : List Document) (position : List Nat) (trail : List Site) : Prop where
  nonempty : position ≠ []
  leads : trail? registry selections references position = some trail
  distinct : trail.Pairwise fun earlier later => ¬ earlier.id.same later.id = true
  live : ∀ site ∈ trail, site.Live selections

/-- A position contributes the fragment of the last option on its trail. -/
def Contributes (registry : Registry) (selections : SelectionStore) (references : List Document)
    (position : List Nat) (fragment : Fragment) : Prop :=
  ∃ trail site, Admissible registry selections references position trail
    ∧ trail.getLast? = some site ∧ site.fragment? selections = some fragment

/-!
## Contributions below a path
-/

/-- What a position contributes to a walk below a path, which none of its sites may be on. -/
private def ContributesBelow (registry : Registry) (selections : SelectionStore)
    (path : List Scalar) (references : List Document) (position : List Nat)
    (fragment : Fragment) : Prop :=
  ∃ trail site, Admissible registry selections references position trail
    ∧ (∀ passed ∈ trail, ¬ (path.any fun id => id.same passed.id) = true)
    ∧ trail.getLast? = some site ∧ site.fragment? selections = some fragment

variable {registry : Registry} {selections : SelectionStore} {path : List Scalar}
  {references rest : List Document} {reference : Document} {tail position : List Nat}
  {trail : List Site} {fragment : Fragment}

private theorem contributesBelow_nil :
    ContributesBelow registry selections [] references position fragment
      ↔ Contributes registry selections references position fragment := by
  simp [ContributesBelow, Contributes]

theorem trail?_length (leads : trail? registry selections references position = some trail) :
    trail.length = position.length := by
  induction position generalizing references trail with
  | nil => cases leads; rfl
  | cons index tail ih =>
      simp only [trail?, Option.bind_eq_bind, Option.bind_eq_some_iff] at leads
      obtain ⟨_, _, _, _, _, _, others, onward, ends⟩ := leads
      cases ends
      simp [ih onward]

theorem trail?_cons_zero (registry : Registry) (selections : SelectionStore)
    (reference : Document) (rest : List Document) (tail : List Nat) (trail : List Site) :
    trail? registry selections (reference :: rest) (0 :: tail) = some trail ↔
      ∃ site others, reference.scalar? = some site.id
        ∧ registry.lookup site.id = some site.definition
        ∧ trail? registry selections (site.next selections) tail = some others
        ∧ trail = site :: others := by
  simp only [trail?, List.getElem?_cons_zero, Option.bind_eq_bind, Option.bind_some,
    Option.bind_eq_some_iff]
  constructor
  · intro given
    obtain ⟨id, isId, definition, found, others, onward, ends⟩ := given
    cases ends
    exact ⟨⟨id, definition⟩, others, isId, found, onward, rfl⟩
  · intro given
    obtain ⟨site, others, isId, found, onward, rfl⟩ := given
    exact ⟨site.id, isId, site.definition, found, others, onward, rfl⟩

theorem trail?_cons_succ (registry : Registry) (selections : SelectionStore)
    (reference : Document) (rest : List Document) (index : Nat) (tail : List Nat) :
    trail? registry selections (reference :: rest) ((index + 1) :: tail)
      = trail? registry selections rest (index :: tail) := by
  simp only [trail?, List.getElem?_cons_succ]

private theorem not_contributesBelow_empty :
    ¬ ContributesBelow registry selections path references [] fragment := by
  intro given
  obtain ⟨_, _, admissible, _⟩ := given
  exact admissible.nonempty rfl

private theorem contributesBelow_cons_succ (index : Nat) :
    ContributesBelow registry selections path (reference :: rest) ((index + 1) :: tail) fragment
      ↔ ContributesBelow registry selections path rest (index :: tail) fragment := by
  constructor
  · intro given
    obtain ⟨trail, site, ⟨_, leads, distinct, live⟩, found⟩ := given
    rw [trail?_cons_succ] at leads
    exact ⟨trail, site, ⟨List.cons_ne_nil _ _, leads, distinct, live⟩, found⟩
  · intro given
    obtain ⟨trail, site, ⟨_, leads, distinct, live⟩, found⟩ := given
    rw [← trail?_cons_succ] at leads
    exact ⟨trail, site, ⟨List.cons_ne_nil _ _, leads, distinct, live⟩, found⟩

/-- A site off a path keeps the sites below it off the longer path exactly if they are off the path
and are other options than the site. -/
private theorem off_append_iff {site passed : Site} :
    ¬ ((path ++ [site.id]).any fun id => id.same passed.id) = true
      ↔ ¬ (path.any fun id => id.same passed.id) = true
        ∧ ¬ site.id.same passed.id = true := by
  simp [List.any_append, not_or]

/-- At the first reference a walk contributes the fragment of the site, and then what its site
contributes below the path that ends with it. -/
private theorem contributesBelow_cons_zero :
    ContributesBelow registry selections path (reference :: rest) (0 :: tail) fragment
      ↔ ∃ site, arrive? registry path reference = some site
        ∧ (tail = [] ∧ site.fragment? selections = some fragment
          ∨ ContributesBelow registry selections (path ++ [site.id]) (site.next selections)
              tail fragment) := by
  constructor
  · intro given
    obtain ⟨trail, last, ⟨_, leads, distinct, live⟩, off, isLast, found⟩ := given
    obtain ⟨site, others, isId, defined, onward, rfl⟩ := (trail?_cons_zero ..).1 leads
    rw [List.pairwise_cons] at distinct
    have arrived : arrive? registry path reference = some site :=
      arrive?_eq_some_iff.2 ⟨isId, defined, off site (.head _)⟩
    refine ⟨site, arrived, ?_⟩
    cases tail with
    | nil =>
        cases onward
        cases isLast
        exact .inl ⟨rfl, found⟩
    | cons index tail =>
        have more : others ≠ [] := by
          intro none
          simpa [none] using trail?_length onward
        rw [List.getLast?_cons_of_ne_nil more] at isLast
        refine .inr ⟨others, last, ⟨List.cons_ne_nil _ _, onward, distinct.2, ?_⟩, ?_, isLast,
          found⟩
        · exact fun passed member => live passed (.tail _ member)
        · intro passed member
          exact off_append_iff.2 ⟨off passed (.tail _ member), distinct.1 passed member⟩
  · intro given
    obtain ⟨site, arrived, ⟨rfl, found⟩ | ⟨others, last, admissible, off, isLast, found⟩⟩ := given
    · obtain ⟨isId, defined, fresh⟩ := arrive?_eq_some_iff.1 arrived
      refine ⟨[site], site, ⟨List.cons_ne_nil _ _, ?_, List.pairwise_singleton .., ?_⟩, ?_, rfl,
        found⟩
      · exact (trail?_cons_zero ..).2 ⟨site, [], isId, defined, rfl, rfl⟩
      · exact fun passed member => List.mem_singleton.1 member ▸ Site.live_of_fragment? found
      · exact fun passed member => List.mem_singleton.1 member ▸ fresh
    · obtain ⟨isId, defined, fresh⟩ := arrive?_eq_some_iff.1 arrived
      obtain ⟨nonempty, onward, distinct, live⟩ := admissible
      have more : others ≠ [] := by
        intro none
        have short := trail?_length onward
        rw [none] at short
        exact nonempty (List.length_eq_zero_iff.1 short.symm)
      have leadsOn : ∃ next, next ∈ site.next selections := by
        refine List.exists_mem_of_ne_nil _ fun none => ?_
        rw [none] at onward
        cases tail with
        | nil => exact nonempty rfl
        | cons index tail => simp [trail?] at onward
      refine ⟨site :: others, last, ⟨List.cons_ne_nil _ _, ?_, ?_, ?_⟩, ?_, ?_, found⟩
      · exact (trail?_cons_zero ..).2 ⟨site, others, isId, defined, onward, rfl⟩
      · exact List.pairwise_cons.2
          ⟨fun passed member => (off_append_iff.1 (off passed member)).2, distinct⟩
      · intro passed given
        rcases given with _ | ⟨_, member⟩
        · obtain ⟨next, member⟩ := leadsOn
          exact Site.live_of_mem_next member
        · exact live passed member
      · intro passed given
        rcases given with _ | ⟨_, member⟩
        · exact fresh
        · exact (off_append_iff.1 (off passed member)).1
      · rw [List.getLast?_cons_of_ne_nil more]
        exact isLast

/-!
## Listing contributions in order
-/

/-- Positions and fragments list a relation if the positions ascend, each stands beside a fragment
that it is related to, and no related position is left out. -/
structure Enumerates (related : List Nat → Fragment → Prop) (positions : List (List Nat))
    (fragments : List Fragment) : Prop where
  ascending : positions.Pairwise (· < ·)
  each : List.Forall₂ related positions fragments
  complete : ∀ position fragment, related position fragment → position ∈ positions

/-- The position of the same option once one more reference stands in front. -/
private def advance : List Nat → List Nat
  | [] => []
  | index :: tail => (index + 1) :: tail

private theorem advance_lt_advance {left right : List Nat} (earlier : left < right) :
    advance left < advance right := by
  cases earlier with
  | nil => exact List.nil_lt_cons _ _
  | rel less => exact .rel (Nat.succ_lt_succ less)
  | cons later => exact .cons later

private theorem enumerates_nil :
    Enumerates (ContributesBelow registry selections path []) [] [] := by
  refine ⟨List.Pairwise.nil, .nil, ?_⟩
  intro given fragment contributes
  rcases given with _ | ⟨index, tail⟩
  · exact absurd contributes not_contributesBelow_empty
  · obtain ⟨trail, site, admissible, _⟩ := contributes
    simpa [trail?] using admissible.leads

private theorem ContributesBelow.nonempty
    (contributes : ContributesBelow registry selections path references position fragment) :
    ∃ index tail, position = index :: tail := by
  cases position with
  | nil => exact absurd contributes not_contributesBelow_empty
  | cons index tail => exact ⟨index, tail, rfl⟩

private theorem enumerates_nonempty {positions : List (List Nat)} {fragments : List Fragment}
    (enumerates : Enumerates (ContributesBelow registry selections path references) positions
      fragments) :
    ∀ position ∈ positions, ∃ index tail, position = index :: tail := by
  have each := enumerates.each.imp fun position fragment contributes =>
    (⟨ContributesBelow.nonempty contributes, contributes⟩ : _ ∧ ContributesBelow _ _ _ _ _ _)
  exact ((List.forall₂_and_left _ _).1 each).1

/-- What is contributed below the first reference comes before what the others contribute. -/
private theorem enumerates_cons {tails positions : List (List Nat)} {first others : List Fragment}
    (below : Enumerates (fun tail => ContributesBelow registry selections path (reference :: rest)
      (0 :: tail)) tails first)
    (beside : Enumerates (ContributesBelow registry selections path rest) positions others) :
    Enumerates (ContributesBelow registry selections path (reference :: rest))
      (tails.map (List.cons 0) ++ positions.map advance) (first ++ others) := by
  constructor
  · rw [List.pairwise_append, List.pairwise_map, List.pairwise_map]
    refine ⟨below.ascending.imp fun earlier => .cons earlier,
      beside.ascending.imp advance_lt_advance, ?_⟩
    intro left leftMember right rightMember
    obtain ⟨tail, _, rfl⟩ := List.mem_map.1 leftMember
    obtain ⟨position, member, rfl⟩ := List.mem_map.1 rightMember
    obtain ⟨index, tail', rfl⟩ := enumerates_nonempty beside position member
    exact .rel (Nat.succ_pos index)
  · refine List.rel_append ?_ ?_
    · exact List.forall₂_map_left_iff.2 below.each
    · refine List.forall₂_map_left_iff.2 (beside.each.imp fun position fragment contributes => ?_)
      obtain ⟨index, tail, rfl⟩ := contributes.nonempty
      exact (contributesBelow_cons_succ index).2 contributes
  · intro given fragment contributes
    rcases given with _ | ⟨_ | index, tail⟩
    · exact absurd contributes not_contributesBelow_empty
    · refine List.mem_append_left _ (List.mem_map.2 ⟨tail, ?_, rfl⟩)
      exact below.complete tail fragment contributes
    · refine List.mem_append_right _ (List.mem_map.2 ⟨index :: tail, ?_, rfl⟩)
      exact beside.complete _ fragment ((contributesBelow_cons_succ index).1 contributes)

private theorem enumerates_site {site : Site} {positions : List (List Nat)} {nested : List Fragment}
    (arrived : arrive? registry path reference = some site)
    (below : Enumerates (ContributesBelow registry selections (path ++ [site.id])
      (site.next selections)) positions nested) :
    Enumerates
      (fun tail => ContributesBelow registry selections path (reference :: rest) (0 :: tail))
      (((site.fragment? selections).map fun _ => []).toList ++ positions)
      ((site.fragment? selections).toList ++ nested) := by
  have nestedEach : List.Forall₂ (fun tail => ContributesBelow registry selections path
      (reference :: rest) (0 :: tail)) positions nested :=
    below.each.imp fun position fragment contributes =>
      contributesBelow_cons_zero.2 ⟨site, arrived, .inr contributes⟩
  cases found : site.fragment? selections with
  | none =>
      refine ⟨below.ascending, nestedEach, ?_⟩
      intro tail fragment contributes
      obtain ⟨site', arrived', own | contributes⟩ := contributesBelow_cons_zero.1 contributes
      · cases arrived.symm.trans arrived'
        exact absurd own.2 (by simp [found])
      · cases arrived.symm.trans arrived'
        exact below.complete tail fragment contributes
  | some own =>
      refine ⟨?_, .cons ?_ nestedEach, ?_⟩
      · refine List.pairwise_cons.2 ⟨fun position member => ?_, below.ascending⟩
        obtain ⟨index, tail, rfl⟩ := enumerates_nonempty below position member
        exact List.nil_lt_cons _ _
      · exact contributesBelow_cons_zero.2 ⟨site, arrived, .inl ⟨rfl, found⟩⟩
      · intro tail fragment contributes
        obtain ⟨site', arrived', own | contributes⟩ := contributesBelow_cons_zero.1 contributes
        · exact own.1 ▸ List.mem_cons_self
        · cases arrived.symm.trans arrived'
          exact .tail _ (below.complete tail fragment contributes)

/-- The fragments of a walk are what the positions below its path contribute, in order. -/
private theorem walk_enumerates (registry : Registry) (selections : SelectionStore)
    (path : List Scalar) (references : List Document) :
    ∃ positions, Enumerates (ContributesBelow registry selections path references) positions
      ((walk registry selections path references).filterMap Event.fragment?) := by
  induction path, references using walk_induction registry selections with
  | nil path => exact ⟨[], by simpa using enumerates_nil⟩
  | cons path reference rest below beside =>
      obtain ⟨positions, others⟩ := beside
      rw [walk_cons, List.filterMap_append]
      -- Positions that begin with zero lead below the first reference, all others beside it.
      cases arrived : arrive? registry path reference with
      | none =>
          have none : Enumerates (fun tail => ContributesBelow registry selections path
              (reference :: rest) (0 :: tail)) [] [] := by
            refine ⟨List.Pairwise.nil, .nil, fun tail fragment contributes => ?_⟩
            obtain ⟨site, arrived', _⟩ := contributesBelow_cons_zero.1 contributes
            cases arrived.symm.trans arrived'
          exact ⟨_, by simpa [refusal_fragment?] using enumerates_cons none others⟩
      | some site =>
          obtain ⟨tails, nested⟩ := below site arrived
          have first : Enumerates (fun tail => ContributesBelow registry selections path
              (reference :: rest) (0 :: tail)) _ _ := enumerates_site arrived nested
          rw [← (visit_spec selections site).1, ← List.filterMap_append] at first
          exact ⟨_, enumerates_cons first others⟩

/-- The fragments of a walk from the top are what the positions contribute, in order. -/
theorem walk_enumerates_contributions (registry : Registry) (selections : SelectionStore)
    (references : List Document) :
    ∃ positions, Enumerates (Contributes registry selections references) positions
      ((walk registry selections [] references).filterMap Event.fragment?) := by
  obtain ⟨positions, ascending, each, complete⟩ :=
    walk_enumerates registry selections [] references
  refine ⟨positions, ascending, ?_, ?_⟩
  · exact each.imp fun _ _ => contributesBelow_nil.1
  · exact fun position fragment => complete position fragment ∘ contributesBelow_nil.2

/-- Resolution gives exactly one fragment for each admissible position whose last option has an
override, in lexicographic order. It gives a result wherever all references are ids. -/
theorem resolve_enumerates_contributions (registry : Registry) (selections : SelectionStore)
    (references : List Document) :
    (RefersToIds registry references →
      ∃ fragments, (resolve registry selections references).outcome = .ok fragments)
    ∧ ∀ fragments, (resolve registry selections references).outcome = .ok fragments →
      ∃ positions, Enumerates (Contributes registry selections references) positions fragments := by
  constructor
  · intro ids
    exact ⟨_, resolve_outcome_of_refersToIds registry selections references ids⟩
  · intro fragments resolved
    have same : (walk registry selections [] references).filterMap Event.fragment? = fragments := by
      rw [resolve, Event.report_outcome] at resolved
      split at resolved
      · cases resolved
      · exact Except.ok.inj resolved
    obtain ⟨positions, ascending, each, complete⟩ :=
      walk_enumerates registry selections [] references
    rw [same] at each
    refine ⟨positions, ascending, ?_, ?_⟩
    · exact each.imp fun _ _ => contributesBelow_nil.1
    · exact fun position fragment => complete position fragment ∘ contributesBelow_nil.2

/-!
## A diamond with a way back
-/

/-- A case with an override of its own that leads to options. -/
def leadingCase (name : String) (options : List String) : Case where
  name := name
  label := noText
  description := noText
  options := options.map .text
  override := some (.object [(name, .bool true)])

def diamondTop : OptionDefinition :=
  .select ⟨[leadingCase "both" ["left", "right"]], none, noText, noText⟩

/-- The left way, which is closed by default. -/
def diamondLeft : OptionDefinition :=
  .switch ⟨[leadingCase "No" [], leadingCase "Yes" ["bottom"]], some (.text "No"), noText, noText⟩

def diamondRight : OptionDefinition :=
  .select ⟨[leadingCase "through" ["bottom"]], none, noText, noText⟩

def diamondBottom : OptionDefinition :=
  .select ⟨[leadingCase "back" ["top"]], none, noText, noText⟩

/-- Two ways lead from the top to the bottom, which leads back to the top. -/
def diamond : Registry := [(.text "top", diamondTop), (.text "left", diamondLeft),
  (.text "right", diamondRight), (.text "bottom", diamondBottom)]

def openedLeft : SelectionStore := [(.text "left", .switch true)]

def diamondFragments : List Fragment := [
  .static (.text "top") (.object [("both", .bool true)]),
  .static (.text "left") (.object [("Yes", .bool true)]),
  .static (.text "bottom") (.object [("back", .bool true)]),
  .static (.text "right") (.object [("through", .bool true)]),
  .static (.text "bottom") (.object [("back", .bool true)])]

theorem diamond_refersToIds : RefersToIds diamond [.text "top"] := by
  have each : ∀ entry ∈ diamond, ∀ reference ∈ entry.2.references,
      ∃ id, reference = .text id := by
    simp [diamond, diamondTop, diamondLeft, diamondRight, diamondBottom,
      OptionDefinition.references, OptionDefinition.cases, OptionDefinition.choice?, leadingCase]
  constructor
  · exact fun reference member => ⟨"top", List.mem_singleton.1 member⟩
  · intro id definition found
    obtain ⟨key, member, _⟩ := Table.mem_of_lookup found
    exact each (key, definition) member

/-- On either way the bottom is reached, and the way back to the top is cut there. -/
theorem diamond_bottom {way : String} (isWay : way = "left" ∨ way = "right") :
    walk diamond openedLeft [.text "top", .text way] [.text "bottom"] = [
      .active (.text "bottom") "back",
      .fragment (.static (.text "bottom") (.object [("back", .bool true)])),
      .cycle (.text "top") [.text "top", .text way, .text "bottom", .text "top"]] := by
  have arrived : arrive? diamond [.text "top", .text way] (.text "bottom")
      = some ⟨.text "bottom", diamondBottom⟩ := by
    rcases isWay with rfl | rfl <;> rfl
  have back : Site.next openedLeft ⟨.text "bottom", diamondBottom⟩ = [.text "top"] := rfl
  have cut : arrive? diamond [.text "top", .text way, .text "bottom"] (.text "top") = none := rfl
  rw [walk_arrived arrived, back, List.cons_append, List.cons_append, List.nil_append,
    walk_refused cut]
  rfl

theorem diamond_walk : walk diamond openedLeft [] [.text "top"] = [
    .active (.text "top") "both",
    .fragment (.static (.text "top") (.object [("both", .bool true)])),
    .active (.text "left") "Yes",
    .fragment (.static (.text "left") (.object [("Yes", .bool true)])),
    .active (.text "bottom") "back",
    .fragment (.static (.text "bottom") (.object [("back", .bool true)])),
    .cycle (.text "top") [.text "top", .text "left", .text "bottom", .text "top"],
    .active (.text "right") "through",
    .fragment (.static (.text "right") (.object [("through", .bool true)])),
    .active (.text "bottom") "back",
    .fragment (.static (.text "bottom") (.object [("back", .bool true)])),
    .cycle (.text "top") [.text "top", .text "right", .text "bottom", .text "top"]] := by
  have top : arrive? diamond [] (.text "top") = some ⟨.text "top", diamondTop⟩ := rfl
  have ways : Site.next openedLeft ⟨.text "top", diamondTop⟩ = [.text "left", .text "right"] := rfl
  have left : arrive? diamond [.text "top"] (.text "left") = some ⟨.text "left", diamondLeft⟩ :=
    rfl
  have right : arrive? diamond [.text "top"] (.text "right")
      = some ⟨.text "right", diamondRight⟩ := rfl
  have belowLeft : Site.next openedLeft ⟨.text "left", diamondLeft⟩ = [.text "bottom"] := rfl
  have belowRight : Site.next openedLeft ⟨.text "right", diamondRight⟩ = [.text "bottom"] := rfl
  rw [walk_arrived top, ways, List.nil_append, walk_cons, left, walk_arrived right]
  simp only [belowLeft, belowRight, List.cons_append, List.nil_append,
    diamond_bottom (.inl rfl), diamond_bottom (.inr rfl)]
  rfl

theorem diamond_resolved :
    (resolve diamond openedLeft [.text "top"]).outcome = .ok diamondFragments := by
  rw [resolve, Event.report_outcome, diamond_walk]
  rfl

/-- The bottom contributes once on each way, and the stored value opens the left one. -/
theorem diamond_enumerated :
    (∃ fragments, (resolve diamond openedLeft [.text "top"]).outcome = .ok fragments)
      ∧ ∃ positions, Enumerates (Contributes diamond openedLeft [.text "top"]) positions
        diamondFragments := by
  obtain ⟨returns, enumerates⟩ :=
    resolve_enumerates_contributions diamond openedLeft [.text "top"]
  exact ⟨returns diamond_refersToIds, enumerates diamondFragments diamond_resolved⟩

end PipelineOverride
