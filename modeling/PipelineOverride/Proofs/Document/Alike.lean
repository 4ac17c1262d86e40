import Mathlib.Data.Option.Basic
import PipelineOverride.Document.Basic
import PipelineOverride.Proofs.Document.Distinct

/-!
# Documents up to the order of keys

Two documents are alike if they differ in the order of the keys of their mappings only. Tables are
compared by what they lead to under every key, so that nothing is asked of the way in which their
entries are listed.
-/

set_option autoImplicit false

namespace PipelineOverride

/-- Equality of documents without the order of keys. The items of lists keep their order. -/
inductive Document.Alike : Document → Document → Prop where
  | scalar {value : Scalar} : Alike (.scalar value) (.scalar value)
  | set {members : List Scalar} : Alike (.set members) (.set members)
  | list {items others : List Document} : items.length = others.length →
      (∀ (i : Nat) (item other : Document), items[i]? = some item → others[i]? = some other →
        Alike item other) →
      Alike (.list items) (.list others)
  | mapping {fields others : Table Document} :
      (∀ key, fields.contains key = others.contains key) →
      (∀ key value other, fields.lookup key = some value → others.lookup key = some other →
        Alike value other) →
      Alike (.mapping fields) (.mapping others)

/-- Two tables lead to alike values under every key. -/
def Table.Alike (fields others : Table Document) : Prop :=
  ∀ key, Option.Rel Document.Alike (fields.lookup key) (others.lookup key)

theorem Document.alike_mapping_iff {fields others : Table Document} :
    (Document.mapping fields).Alike (.mapping others) ↔ fields.Alike others := by
  constructor
  · intro alike key
    cases alike with
    | mapping sameKeys each =>
        have same := sameKeys key
        simp only [Table.contains] at same
        cases found : fields.lookup key with
        | none =>
            rw [found] at same
            have foundOther : others.lookup key = none := by simpa using same.symm
            rw [foundOther]
            exact .none
        | some value =>
            rw [found] at same
            obtain ⟨other, foundOther⟩ := Option.isSome_iff_exists.1 same.symm
            rw [foundOther]
            exact .some (each key value other found foundOther)
  · intro alike
    refine .mapping (fun key => ?_) fun key value other found foundOther => ?_
    · have related := alike key
      rw [Table.contains, Table.contains]
      generalize fields.lookup key = here, others.lookup key = there at related
      cases related <;> rfl
    · have related := alike key
      rw [found, foundOther] at related
      cases related with
      | some here => exact here

/-!
## Equivalence
-/

/-- Induction on the items and values of a document. -/
theorem Document.induction {holds : Document → Prop} (scalar : ∀ value, holds (.scalar value))
    (list : ∀ items : List Document, (∀ item ∈ items, holds item) → holds (.list items))
    (set : ∀ members, holds (.set members))
    (mapping : ∀ fields : Table Document, (∀ field ∈ fields, holds field.2) →
      holds (.mapping fields))
    (document : Document) : holds document :=
  @Document.rec holds (fun items => ∀ item ∈ items, holds item)
    (fun fields => ∀ field ∈ fields, holds field.2) (fun field => holds field.2)
    scalar list set mapping
    (List.forall_mem_nil _) (fun _ _ first others => List.forall_mem_cons.2 ⟨first, others⟩)
    (List.forall_mem_nil _) (fun _ _ first others => List.forall_mem_cons.2 ⟨first, others⟩)
    (fun _ _ value => value) document

namespace Document.Alike

variable {document other last : Document}

theorem refl (document : Document) : document.Alike document := by
  induction document using Document.induction with
  | scalar _ => exact .scalar
  | set _ => exact .set
  | list items each =>
      refine .list rfl fun i item other found foundOther => ?_
      cases found.symm.trans foundOther
      exact each item (List.mem_of_getElem? found)
  | mapping fields each =>
      refine .mapping (fun _ => rfl) fun key value other found foundOther => ?_
      cases found.symm.trans foundOther
      obtain ⟨_, member, _⟩ := Table.mem_of_lookup found
      exact each _ member

theorem refl_option (found : Option Document) : Option.Rel Document.Alike found found := by
  cases found with
  | none => exact .none
  | some value => exact .some (refl value)

theorem trans (first : document.Alike other) (second : other.Alike last) :
    document.Alike last := by
  induction first generalizing last with
  | scalar => exact second
  | set => exact second
  | @list items middle length _ ih =>
      cases second with
      | @list _ others lengthAfter each =>
          refine .list (length.trans lengthAfter) fun i item other found foundOther => ?_
          have bound : i < middle.length := by
            rw [lengthAfter]
            exact (List.getElem?_eq_some_iff.1 foundOther).1
          have foundMiddle := List.getElem?_eq_getElem bound
          exact ih i item _ found foundMiddle (each i _ other foundMiddle foundOther)
  | @mapping fields middle sameKeys _ ih =>
      cases second with
      | @mapping _ others sameAfter each =>
          refine .mapping (fun key => (sameKeys key).trans (sameAfter key)) ?_
          intro key value other found foundOther
          have present : middle.contains key = true := by
            rw [← sameKeys key, Table.contains, found]
            rfl
          obtain ⟨inner, foundMiddle⟩ := Option.isSome_iff_exists.1 present
          exact ih key value inner found foundMiddle (each key inner other foundMiddle foundOther)

end Document.Alike

namespace Table.Alike

variable {table other last : Table Document}

theorem refl (table : Table Document) : table.Alike table :=
  fun _ => Document.Alike.refl_option _

theorem trans (first : table.Alike other) (second : other.Alike last) : table.Alike last :=
  Document.alike_mapping_iff.1
    ((Document.alike_mapping_iff.2 first).trans (Document.alike_mapping_iff.2 second))

end Table.Alike

end PipelineOverride
