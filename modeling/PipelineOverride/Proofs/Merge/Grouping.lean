import Mathlib.Data.Fintype.EquivFin
import PipelineOverride.Proofs.Document.Alike
import PipelineOverride.Proofs.Merge.Paths

/-!
# Merging fragments ahead of time

Two fragments may be merged into one before the target is known, unless the first one has a value
that is no mapping where the second one has a mapping. Such a value clears away the mapping of the
target if the fragments come one after another; merged ahead of time it is gone itself, and what the
target has there comes through.
-/

set_option autoImplicit false

namespace PipelineOverride

/-- A value of the first document that is no mapping is at a path that leads to a mapping in the
second one. Both have mappings on the whole way to it, since paths lead through nothing else. -/
def Document.Interrupts (left right : Document) : Prop :=
  ∃ path value fields, left.at? path = some value ∧ value.fields? = none ∧
    right.at? path = some (.mapping fields)

/-- Merging two fragments into a target one after another is related to merging them ahead of
time. -/
def MergesAhead (related : Document → Document → Prop) (target left right : Table Document) :
    Prop :=
  ∃ stepwise ahead,
    (deepMerge (.mapping target) (.mapping left) >>= fun first => deepMerge first (.mapping right))
        = .ok stepwise ∧
      (deepMerge (.mapping left) (.mapping right) >>= fun both => deepMerge (.mapping target) both)
        = .ok ahead ∧
      related stepwise ahead

theorem mergesAhead_iff {related : Document → Document → Prop}
    {target left right : Table Document} : MergesAhead related target left right ↔
      related (.mapping (mergeFields (mergeFields target left) right))
        (.mapping (mergeFields target (mergeFields left right))) := by
  constructor
  · intro given
    obtain ⟨stepwise, ahead, merges, mergesAhead, isRelated⟩ := given
    cases merges
    cases mergesAhead
    exact isRelated
  · intro isRelated
    exact ⟨_, _, rfl, rfl, isRelated⟩

/-!
## What merging keeps
-/

section Kept

variable {target source : Table Document} {existing : Option Document} {holds : Document → Prop}

theorem Table.Distinct.mergeFields (distinct : target.Distinct) (source : Table Document) :
    (mergeFields target source).Distinct := by
  induction source generalizing target with
  | nil => rwa [PipelineOverride.mergeFields]
  | cons field rest ih => exact ih distinct.insert

theorem contains_mergeFields (distinct : source.Distinct) (key : Scalar) :
    (mergeFields target source).contains key = (target.contains key || source.contains key) := by
  rw [Table.contains, lookup_mergeFields distinct, Table.contains, Table.contains]
  cases source.lookup key <;> simp

theorem forall_mergeFields
    (merged : ∀ field ∈ source, ∀ existing, (∀ old, existing = some old → holds old) →
      holds (mergeValue existing field.2))
    (there : ∀ field ∈ target, holds field.2) :
    ∀ field ∈ mergeFields target source, holds field.2 := by
  induction source generalizing target with
  | nil => rwa [mergeFields]
  | cons field rest ih =>
      refine ih (fun later member => merged later (.tail _ member)) (Table.forall_insert there ?_)
      exact merged field (.head _) _ fun old found => Table.of_lookup there found

theorem fieldsBefore_wellFormed (old : ∀ document, existing = some document → document.WellFormed) :
    (Document.mapping (fieldsBefore existing)).WellFormed := by
  rcases existing with _ | _ | _ | _ | fields
  case some.mapping => exact old _ rfl
  all_goals exact .mapping .nil fun _ member => by cases member

theorem Document.WellFormed.merge {value : Document} (wellFormed : value.WellFormed) :
    ∀ existing, (∀ old, existing = some old → old.WellFormed) →
      (mergeValue existing value).WellFormed := by
  induction wellFormed with
  | scalar =>
      intro _ _
      exact .scalar
  | set =>
      intro _ _
      exact .set
  | list each _ =>
      intro _ _
      exact .list each
  | mapping distinct _ ih =>
      intro existing old
      obtain ⟨beforeDistinct, before⟩ := (fieldsBefore_wellFormed old).of_mapping
      rw [mergeValue_mapping distinct]
      exact .mapping (beforeDistinct.mergeFields _) (forall_mergeFields ih before)

end Kept

/-!
## Without an interruption
-/

section Grouped

variable {target left right : Table Document}

/-- Whether tables may be grouped is decided under their common keys. -/
theorem mergeFields_assoc_of (targetDistinct : target.Distinct) (leftDistinct : left.Distinct)
    (rightDistinct : right.Distinct)
    (common : ∀ key value other, left.lookup key = some value → right.lookup key = some other →
      mergeValue (some (mergeValue (target.lookup key) value)) other
        = mergeValue (target.lookup key) (mergeValue (some value) other)) :
    mergeFields (mergeFields target left) right = mergeFields target (mergeFields left right) := by
  have aheadDistinct := leftDistinct.mergeFields right
  refine ((targetDistinct.mergeFields left).mergeFields right).ext ?_ fun key => ?_
  · simp only [keys_mergeFields leftDistinct, keys_mergeFields rightDistinct,
      keys_mergeFields aheadDistinct, contains_mergeFields leftDistinct, List.filter_append,
      List.filter_filter, List.append_assoc, Bool.not_or]
  · simp only [lookup_mergeFields leftDistinct, lookup_mergeFields rightDistinct,
      lookup_mergeFields aheadDistinct]
    cases found : left.lookup key with
    | none => cases right.lookup key <;> simp only [mergeValue_none]
    | some value =>
        cases foundOther : right.lookup key with
        | none => rfl
        | some other => exact congrArg some (common key value other found foundOther)

theorem Document.Interrupts.of_child {left right value other : Document} {key : Scalar}
    (inside : value.Interrupts other) (found : left.child? key = some value)
    (foundOther : right.child? key = some other) : left.Interrupts right := by
  obtain ⟨path, inner, fields, isInner, noMapping, isMapping⟩ := inside
  refine ⟨key :: path, inner, fields, ?_, noMapping, ?_⟩
  · rw [at?_cons_of_child? found, isInner]
  · rw [at?_cons_of_child? foundOther, isMapping]

theorem mergeValue_assoc {other : Document} (otherWellFormed : other.WellFormed) :
    ∀ (existing : Option Document) (value : Document),
      (∀ old, existing = some old → old.WellFormed) → value.WellFormed →
      ¬ value.Interrupts other →
      mergeValue (some (mergeValue existing value)) other
        = mergeValue existing (mergeValue (some value) other) := by
  induction otherWellFormed with
  | scalar | set | list =>
      intro existing value _ _ _
      simp only [mergeValue]
  | @mapping fields distinct _ ih =>
      intro existing value old wellFormed uninterrupted
      cases wellFormed with
      | scalar | set | list => exact absurd ⟨[], _, fields, rfl, rfl, rfl⟩ uninterrupted
      | @mapping own ownDistinct each =>
          obtain ⟨beforeDistinct, before⟩ := (fieldsBefore_wellFormed old).of_mapping
          rw [mergeValue_mappings ownDistinct distinct, mergeValue,
            mergeValue_mapping (ownDistinct.mergeFields fields)]
          refine congrArg Document.mapping
            (mergeFields_assoc_of beforeDistinct ownDistinct distinct ?_)
          intro key inner otherInner found foundOther
          obtain ⟨_, member, _⟩ := Table.mem_of_lookup foundOther
          exact ih _ member _ inner (fun old isOld => Table.of_lookup before isOld)
            (Table.of_lookup each found)
            fun inside => uninterrupted (inside.of_child found foundOther)

end Grouped

/-!
## With an interruption
-/

namespace Document

/-- A document at the end of a path, with nothing beside the path. -/
def under : List Scalar → Document → Document
  | [], inner => inner
  | key :: rest, inner => .mapping [(key, under rest inner)]

variable {document other inner : Document} {path : List Scalar}

theorem at?_under (path : List Scalar) (inner : Document) :
    (under path inner).at? path = some inner := by
  induction path with
  | nil => rfl
  | cons key rest ih =>
      have found : (under (key :: rest) inner).child? key = some (under rest inner) := by
        simp only [under, child?, fields?, Option.bind_some, Table.lookup_cons, Scalar.same_self,
          if_true]
      rw [at?_cons_of_child? found, ih]

theorem at?_append_singleton (path : List Scalar) (key : Scalar) :
    document.at? (path ++ [key]) = (document.at? path).bind fun last => last.child? key := by
  induction path generalizing document with
  | nil => cases found : document.child? key <;> simp [at?, found]
  | cons first rest ih =>
      rw [List.cons_append, at?, at?, Option.bind_assoc]
      exact congrArg _ (funext fun child => ih)

theorem IsJson.under (json : inner.IsJson)
    (texts : ∀ key ∈ path, ∃ name, key = Scalar.text name) : (under path inner).IsJson := by
  induction path with
  | nil => exact json
  | cons key rest ih =>
      have below := ih fun later member => texts later (.tail _ member)
      refine .object (List.pairwise_singleton ..) ?_ ?_
      · exact List.forall_mem_singleton.2 (texts key (.head _))
      · exact List.forall_mem_singleton.2 below

theorem IsJson.texts_of_at? (json : document.IsJson) (found : document.at? path = some inner) :
    ∀ key ∈ path, ∃ name, key = Scalar.text name := by
  induction path generalizing document with
  | nil => exact fun _ member => by cases member
  | cons key rest ih =>
      obtain ⟨child, isChild, below⟩ := Option.bind_eq_some_iff.1 found
      cases json with
      | @object fields _ texts each =>
          obtain ⟨own, member, same⟩ :=
            Table.mem_of_lookup (isChild : fields.lookup key = some child)
          obtain ⟨name, isName⟩ := texts _ member
          refine List.forall_mem_cons.2 ⟨⟨name, ?_⟩, ih (each _ member) below⟩
          exact Scalar.eq_text_of_same (isName ▸ same)
      | null | bool | int | float | text | list => cases isChild

theorem Alike.child? (alike : document.Alike other) (key : Scalar) :
    Option.Rel Alike (document.child? key) (other.child? key) := by
  cases alike with
  | scalar | set | list => exact .none
  | mapping sameKeys each => exact alike_mapping_iff.1 (.mapping sameKeys each) key

theorem Alike.at? (alike : document.Alike other) (path : List Scalar) :
    Option.Rel Alike (document.at? path) (other.at? path) := by
  induction path generalizing document other with
  | nil => exact .some alike
  | cons key rest ih =>
      have children := alike.child? key
      rw [Document.at?, Document.at?]
      generalize document.child? key = here, other.child? key = there at children
      cases children with
      | none => exact .none
      | some alikeBelow => exact ih alikeBelow

end Document

theorem Table.exists_fresh_name (fields : Table Document) :
    ∃ name, fields.lookup (.text name) = none := by
  obtain ⟨name, fresh⟩ := Infinite.exists_notMem_finset
    (fields.keys.filterMap fun key => (Document.scalar key).text?).toFinset
  refine ⟨name, lookup_eq_none_iff.2 fun field member same => fresh ?_⟩
  rw [List.mem_toFinset, List.mem_filterMap]
  refine ⟨field.1, List.mem_map_of_mem member, ?_⟩
  rw [Scalar.eq_text_of_same (Scalar.same_symm same)]
  rfl

/-- A target with a new key where the interruption is tells the two ways of merging apart. -/
theorem at?_of_interruption {left right value : Document} {path : List Scalar}
    {fields : Table Document} {name : String} (leftWellFormed : left.WellFormed)
    (rightWellFormed : right.WellFormed) (isValue : left.at? path = some value)
    (noMapping : value.fields? = none) (isMapping : right.at? path = some (.mapping fields))
    (fresh : fields.lookup (.text name) = none) :
    let target := Document.under path (.mapping [(.text name, .null)])
    (mergeValue (some (mergeValue (some target) left)) right).at? (path ++ [.text name]) = none ∧
      (mergeValue (some target) (mergeValue (some left) right)).at? (path ++ [.text name])
        = some .null := by
  intro target
  have distinct := (rightWellFormed.at? isMapping).of_mapping.1
  have apart : ∀ own, some value ≠ some (.mapping own) := by
    intro own same
    cases same
    cases noMapping
  have cleared : mergeValue (some value) (.mapping fields) = .mapping fields := by
    rw [mergeValue_mapping distinct, fieldsBefore_of_no_mapping apart,
      mergeFields_nil_left distinct]
  have aheadWellFormed : (mergeValue (some left) right).WellFormed :=
    rightWellFormed.merge _ fun old isOld => Option.some.inj isOld ▸ leftWellFormed
  have ahead : (mergeValue (some left) right).at? path = some (.mapping fields) := by
    rw [at?_mergeValue_of_some rightWellFormed isMapping, Option.bind_some, isValue, cleared]
  have stepwise : (mergeValue (some (mergeValue (some target) left)) right).at? path
      = some (.mapping fields) := by
    rw [at?_mergeValue_of_some rightWellFormed isMapping, Option.bind_some,
      at?_mergeValue_of_some leftWellFormed isValue, mergeValue_of_no_mapping noMapping, cleared]
  have through : (mergeValue (some target) (mergeValue (some left) right)).at? path
      = some (.mapping (mergeFields [(.text name, .null)] fields)) := by
    rw [at?_mergeValue_of_some aheadWellFormed ahead, Option.bind_some, Document.at?_under,
      mergeValue]
  rw [Document.at?_append_singleton, Document.at?_append_singleton, stepwise, through]
  refine ⟨fresh, ?_⟩
  simp only [Document.child?, Document.fields?, Option.bind_some, lookup_mergeFields distinct,
    fresh, Table.lookup_cons, Scalar.same_self, if_true]

/-!
## The condition
-/

section Condition

variable {left right : Table Document}

theorem mergesAhead_of_uninterrupted (leftWellFormed : (Document.mapping left).WellFormed)
    (rightWellFormed : (Document.mapping right).WellFormed)
    (uninterrupted : ¬ (Document.mapping left).Interrupts (.mapping right))
    {target : Table Document} (targetWellFormed : (Document.mapping target).WellFormed) :
    MergesAhead (· = ·) target left right := by
  have assoc := mergeValue_assoc rightWellFormed (some (.mapping target)) (.mapping left)
    (fun old isOld => Option.some.inj isOld ▸ targetWellFormed) leftWellFormed uninterrupted
  simp only [mergeValue] at assoc
  exact mergesAhead_iff.2 assoc

theorem not_interrupts_of_mergesAhead (leftJson : (Document.mapping left).IsJson)
    (rightWellFormed : (Document.mapping right).WellFormed)
    (alike : ∀ target : Table Document, (Document.mapping target).IsJson →
      MergesAhead Document.Alike target left right) :
    ¬ (Document.mapping left).Interrupts (.mapping right) := by
  intro interrupts
  obtain ⟨path, value, fields, isValue, noMapping, isMapping⟩ := interrupts
  obtain ⟨name, fresh⟩ := Table.exists_fresh_name fields
  obtain ⟨cleared, through⟩ := at?_of_interruption leftJson.wellFormed rightWellFormed isValue
    noMapping isMapping fresh
  have leafJson : (Document.mapping [(.text name, .null)]).IsJson :=
    .object (List.pairwise_singleton ..) (List.forall_mem_singleton.2 ⟨name, rfl⟩)
      (List.forall_mem_singleton.2 .null)
  have targetJson := leafJson.under (leftJson.texts_of_at? isValue)
  cases path with
  | nil =>
      cases isValue
      cases noMapping
  | cons key rest =>
      have merged := mergesAhead_iff.1 (alike _ targetJson)
      have below := merged.at? ((key :: rest) ++ [.text name])
      simp only [Document.under, mergeValue] at cleared through
      rw [cleared, through] at below
      cases below

theorem MergesAhead.alike {target : Table Document} (same : MergesAhead (· = ·) target left right) :
    MergesAhead Document.Alike target left right :=
  mergesAhead_iff.2 (mergesAhead_iff.1 same ▸ .refl _)

/-- Two fragments may be merged ahead of time, whatever the target is, exactly if the first one does
not interrupt the second one. Then the result is the same down to the order of keys; otherwise it
differs even without that order. -/
theorem mergesAhead_iff_not_interrupts (leftJson : (Document.mapping left).IsJson)
    (rightJson : (Document.mapping right).IsJson) :
    ((∀ target : Table Document, (Document.mapping target).IsJson →
        MergesAhead (· = ·) target left right) ↔
          ¬ (Document.mapping left).Interrupts (.mapping right))
      ∧ ((∀ target : Table Document, (Document.mapping target).IsJson →
        MergesAhead Document.Alike target left right) ↔
          ¬ (Document.mapping left).Interrupts (.mapping right)) := by
  have grouped : ¬ (Document.mapping left).Interrupts (.mapping right) →
      ∀ target : Table Document, (Document.mapping target).IsJson →
        MergesAhead (· = ·) target left right := fun uninterrupted _ targetJson =>
    mergesAhead_of_uninterrupted leftJson.wellFormed rightJson.wellFormed uninterrupted
      targetJson.wellFormed
  have told := not_interrupts_of_mergesAhead leftJson rightJson.wellFormed
  constructor
  · refine ⟨fun same => told fun target targetJson => ?_, grouped⟩
    exact (same target targetJson).alike
  · refine ⟨told, fun uninterrupted target targetJson => ?_⟩
    exact (grouped uninterrupted target targetJson).alike

end Condition

/-- A field that is set to a number and then to a mapping clears what the target has there. -/
theorem number_interrupts_fields :
    (Document.mapping [(.text "N", .mapping [(.text "p", .int 0)])]).Interrupts
        (.mapping [(.text "N", .mapping [(.text "p", .mapping [(.text "x", .null)])])])
      ∧ ¬ ∀ target : Table Document, (Document.mapping target).IsJson →
        MergesAhead Document.Alike target [(.text "N", .mapping [(.text "p", .int 0)])]
          [(.text "N", .mapping [(.text "p", .mapping [(.text "x", .null)])])] := by
  have texts : ∀ names : List String, ∀ key ∈ names.map Scalar.text, ∃ name, key = .text name := by
    intro names key member
    obtain ⟨name, _, rfl⟩ := List.mem_map.1 member
    exact ⟨name, rfl⟩
  have leftJson := Document.IsJson.under (.int : (Document.int 0).IsJson) (texts ["N", "p"])
  have rightJson := Document.IsJson.under (.null : Document.null.IsJson) (texts ["N", "p", "x"])
  have interrupts : (Document.mapping [(.text "N", .mapping [(.text "p", .int 0)])]).Interrupts
      (.mapping [(.text "N", .mapping [(.text "p", .mapping [(.text "x", .null)])])]) :=
    ⟨[.text "N", .text "p"], .int 0, [(.text "x", .null)], rfl, rfl, rfl⟩
  refine ⟨interrupts, fun ahead => ?_⟩
  exact (mergesAhead_iff_not_interrupts leftJson rightJson).2.1 ahead interrupts

end PipelineOverride
