import PipelineOverride.Proofs.Document.Alike
import PipelineOverride.Proofs.Document.WellFormed

/-!
# Rewritten documents

A document is rewritten by changing its keys and its texts. If two keys of one mapping become the
same, the later field decides, so an earlier one is lost with everything below it. All other parts
are found, rewritten, at the place that the changed keys lead to.
-/

set_option autoImplicit false

namespace PipelineOverride

namespace Document

/-- A step into a document, to the value of a key or to an item of a list. -/
inductive Step where
  | key (key : Scalar)
  | item (index : Nat)

/-- A step into the rewritten document. -/
def Step.rewrite (onKey : Scalar → Scalar) : Step → Step
  | .key own => .key (onKey own)
  | .item index => .item index

def enter? : Document → Step → Option Document
  | .mapping fields, .key key => Table.lookup fields key
  | .list items, .item index => items[index]?
  | _, _ => none

/-- What is at a place of a document. -/
def place? : Document → List Step → Option Document
  | document, [] => some document
  | document, step :: rest => (document.enter? step).bind fun inner => inner.place? rest

section Rewrite

variable (onKey : Scalar → Scalar) (onText : String → Document)

mutual

/-- A document with its keys and its texts changed. Where two keys become one, the later field
decides. -/
def rewrite : Document → Document
  | .scalar (.text s) => onText s
  | .scalar value => .scalar value
  | .set members => .set members
  | .list items => .list (rewriteItems items)
  | .mapping fields => .mapping (Table.ofEntries (rewriteFields fields))

def rewriteItems : List Document → List Document
  | [] => []
  | item :: rest => item.rewrite :: rewriteItems rest

def rewriteFields : List (Scalar × Document) → List (Scalar × Document)
  | [] => []
  | (key, value) :: rest => (onKey key, value.rewrite) :: rewriteFields rest

end

theorem rewriteItems_eq_map (items : List Document) :
    rewriteItems onKey onText items = items.map (rewrite onKey onText) := by
  induction items with
  | nil => rfl
  | cons item rest ih => rw [rewriteItems, ih, List.map_cons]

theorem rewriteFields_eq_map (fields : List (Scalar × Document)) :
    rewriteFields onKey onText fields
      = fields.map fun field => (onKey field.1, field.2.rewrite onKey onText) := by
  induction fields with
  | nil => rfl
  | cons field rest ih => rw [rewriteFields, ih, List.map_cons]

end Rewrite

end Document

/-- What is at a place of a document, if it keeps its place when keys change: no later field of a
mapping on the way gets the same key. -/
inductive KeptAt (onKey : Scalar → Scalar) : Document → List Document.Step → Document → Prop where
  | here {document : Document} : KeptAt onKey document [] document
  | item {items : List Document} {index : Nat} {item inner : Document} {rest : List Document.Step} :
      items[index]? = some item → KeptAt onKey item rest inner →
      KeptAt onKey (.list items) (.item index :: rest) inner
  | field {before after : List (Scalar × Document)} {key : Scalar} {value inner : Document}
      {rest : List Document.Step} :
      (∀ later ∈ after, ¬ (onKey later.1).same (onKey key) = true) →
      KeptAt onKey value rest inner →
      KeptAt onKey (.mapping (before ++ (key, value) :: after)) (.key key :: rest) inner

/-- No two keys of one mapping become the same. -/
inductive KeysStayApart (onKey : Scalar → Scalar) : Document → Prop where
  | scalar {value : Scalar} : KeysStayApart onKey (.scalar value)
  | set {members : List Scalar} : KeysStayApart onKey (.set members)
  | list {items : List Document} : (∀ item ∈ items, KeysStayApart onKey item) →
      KeysStayApart onKey (.list items)
  | mapping {fields : Table Document} :
      fields.Pairwise (fun earlier later => ¬ (onKey later.1).same (onKey earlier.1) = true) →
      (∀ field ∈ fields, KeysStayApart onKey field.2) → KeysStayApart onKey (.mapping fields)

variable {onKey : Scalar → Scalar} {onText : String → Document} {body inner : Document}
  {position : List Document.Step}

/-- What keeps its place is there after rewriting, rewritten itself. -/
theorem KeptAt.placed (kept : KeptAt onKey body position inner) :
    (body.rewrite onKey onText).place? (position.map (Document.Step.rewrite onKey))
      = some (inner.rewrite onKey onText) := by
  induction kept with
  | here => rfl
  | @item items index item _ _ found _ ih =>
      have rewritten : (items.map (Document.rewrite onKey onText))[index]?
          = some (item.rewrite onKey onText) := by
        rw [List.getElem?_map, found, Option.map_some]
      rw [Document.rewrite, Document.rewriteItems_eq_map, List.map_cons, Document.Step.rewrite,
        Document.place?, Document.enter?, rewritten, Option.bind_some, ih]
  | @field before after key value _ _ last _ ih =>
      have lastAfter : ∀ later ∈ after.map fun field =>
          (onKey field.1, field.2.rewrite onKey onText),
          ¬ later.1.same (onKey key) = true := by
        intro later member
        obtain ⟨field, fieldMember, rfl⟩ := List.mem_map.1 member
        exact last field fieldMember
      rw [Document.rewrite, Document.rewriteFields_eq_map, List.map_append, List.map_cons,
        List.map_cons, Document.Step.rewrite, Document.place?, Document.enter?,
        Table.lookup_ofEntries_of_last lastAfter, Option.bind_some, ih]

/-- Where keys stay apart, everything keeps its place. -/
theorem KeysStayApart.kept (json : body.IsJson) (apart : KeysStayApart onKey body)
    (there : body.place? position = some inner) : KeptAt onKey body position inner := by
  induction position generalizing body with
  | nil =>
      cases there
      exact .here
  | cons step rest ih =>
      obtain ⟨child, isChild, below⟩ := Option.bind_eq_some_iff.1 there
      cases apart with
      | scalar | set => cases step <;> cases isChild
      | @list items eachApart =>
          cases json with
          | list each =>
              cases step with
              | key _ => cases isChild
              | item index =>
                  have member := List.mem_of_getElem? (isChild : items[index]? = some child)
                  exact .item isChild (ih (each child member) (eachApart child member) below)
      | @mapping fields fieldsApart eachApart =>
          cases json with
          | object _ texts each =>
              cases step with
              | item _ => cases isChild
              | key wanted =>
                  obtain ⟨key, member, same⟩ :=
                    Table.mem_of_lookup (isChild : Table.lookup fields wanted = some child)
                  obtain ⟨name, isName⟩ := texts _ member
                  obtain rfl : wanted = key :=
                    (Scalar.eq_text_of_same (isName ▸ same)).trans isName.symm
                  have keptBelow := ih (each _ member) (eachApart _ member) below
                  obtain ⟨before, after, rfl⟩ := List.append_of_mem member
                  refine .field (fun later laterMember => ?_) keptBelow
                  have fromHere := (List.pairwise_append.1 fieldsApart).2.1
                  exact (List.pairwise_cons.1 fromHere).1 later laterMember

/-!
## Where the parts of a rewritten document come from
-/

/-- A list splits in one way at the last element with a property. -/
theorem split_at_last_unique {α : Type} (holds : α → Prop) {before after others rest : List α}
    {last other : α} (split : before ++ last :: after = others ++ other :: rest)
    (here : holds last) (ends : ∀ later ∈ after, ¬ holds later)
    (there : holds other) (endsThere : ∀ later ∈ rest, ¬ holds later) :
    last = other ∧ after = rest := by
  induction before generalizing others with
  | nil =>
      cases others with
      | nil =>
          cases split
          exact ⟨rfl, rfl⟩
      | cons first others =>
          cases split
          exact absurd there (ends other (List.mem_append_right others (.head rest)))
  | cons first before ih =>
      cases others with
      | nil =>
          cases split
          exact absurd here (endsThere last (List.mem_append_right before (.head after)))
      | cons _ others => exact ih (List.cons.inj split).2

/-- Different places that are kept lead to different places of the rewritten document. -/
theorem KeptAt.unique {other : Document} {otherPosition : List Document.Step}
    (kept : KeptAt onKey body position inner) (keptOther : KeptAt onKey body otherPosition other)
    (same : position.map (Document.Step.rewrite onKey)
      = otherPosition.map (Document.Step.rewrite onKey)) :
    position = otherPosition ∧ inner = other := by
  induction kept generalizing otherPosition with
  | here =>
      obtain rfl := List.map_eq_nil_iff.1 same.symm
      cases keptOther
      exact ⟨rfl, rfl⟩
  | @item items index item inner rest found _ ih =>
      cases keptOther with
      | here => cases same
      | @item _ otherIndex otherItem _ otherRest foundOther below =>
          rw [List.map_cons, List.map_cons] at same
          obtain ⟨sameStep, sameRest⟩ := List.cons.inj same
          cases sameStep
          cases found.symm.trans foundOther
          obtain ⟨rfl, rfl⟩ := ih below sameRest
          exact ⟨rfl, rfl⟩
  | @field before after key value inner rest last _ ih =>
      generalize split : before ++ (key, value) :: after = fields at keptOther
      cases keptOther with
      | here => cases same
      | @field others otherAfter otherKey otherValue _ otherRest otherLast below =>
          rw [List.map_cons, List.map_cons] at same
          obtain ⟨sameStep, sameRest⟩ := List.cons.inj same
          -- Each of the two fields is the last one whose key becomes this key.
          have sameKey : onKey otherKey = onKey key := (Document.Step.key.inj sameStep).symm
          rw [sameKey] at otherLast
          have isLast : (onKey otherKey).same (onKey key) = true :=
            sameKey ▸ Scalar.same_self (onKey key)
          obtain ⟨isField, _⟩ := split_at_last_unique
            (fun field => (onKey field.1).same (onKey key) = true)
            split (Scalar.same_self (onKey key)) last isLast otherLast
          cases isField
          obtain ⟨rfl, rfl⟩ := ih below sameRest
          exact ⟨rfl, rfl⟩

/-- Every part of the rewritten document comes from a part that is kept, as long as texts become
scalars and keys that are texts remain texts. -/
theorem exists_kept_of_placed {place : List Document.Step} {found : Document}
    (plain : ∀ leaf, ∃ value, onText leaf = .scalar value)
    (textual : ∀ name, ∃ newName, onKey (.text name) = .text newName) (json : body.IsJson)
    (there : (body.rewrite onKey onText).place? place = some found) :
    ∃ position inner, KeptAt onKey body position inner ∧
      position.map (Document.Step.rewrite onKey) = place ∧
      found = inner.rewrite onKey onText := by
  induction place generalizing body with
  | nil =>
      cases there
      exact ⟨[], body, .here, rfl, rfl⟩
  | cons step rest ih =>
      obtain ⟨child, isChild, below⟩ := Option.bind_eq_some_iff.1 there
      cases json with
      | null | bool | int | float => cases step <;> cases isChild
      | @text s =>
          obtain ⟨value, isScalar⟩ := plain s
          rw [Document.rewrite, isScalar] at isChild
          cases step <;> cases isChild
      | @list items each =>
          rw [Document.rewrite, Document.rewriteItems_eq_map] at isChild
          cases step with
          | key _ => cases isChild
          | item index =>
              rw [Document.enter?, List.getElem?_map, Option.map_eq_some_iff] at isChild
              obtain ⟨item, isItem, rfl⟩ := isChild
              obtain ⟨position, inner, kept, rfl, isFound⟩ :=
                ih (each item (List.mem_of_getElem? isItem)) below
              exact ⟨.item index :: position, inner, .item isItem kept, rfl, isFound⟩
      | @object fields _ texts each =>
          rw [Document.rewrite, Document.rewriteFields_eq_map] at isChild
          cases step with
          | item _ => cases isChild
          | key wanted =>
              rw [Document.enter?, Table.lookup_ofEntries_eq_some_iff] at isChild
              obtain ⟨before, newKey, after, split, same, ends⟩ := isChild
              obtain ⟨earlier, fromHere, rfl, rfl, isRest⟩ := List.map_eq_append_iff.1 split
              obtain ⟨⟨key, value⟩, later, rfl, isField, rfl⟩ := List.map_eq_cons_iff.1 isRest
              cases isField
              have member : (key, value) ∈ earlier ++ (key, value) :: later :=
                List.mem_append_right earlier (.head later)
              obtain ⟨name, isName⟩ := texts _ member
              obtain ⟨newName, isNew⟩ := textual name
              obtain rfl : key = .text name := isName
              obtain rfl : wanted = onKey (.text name) :=
                (Scalar.eq_text_of_same (isNew ▸ same)).trans isNew.symm
              obtain ⟨position, inner, kept, rfl, isFound⟩ := ih (each _ member) below
              refine ⟨.key (.text name) :: position, inner, .field ?_ kept, rfl, isFound⟩
              intro field fieldMember
              exact ends _ (List.mem_map_of_mem fieldMember)

/-!
## Lost fields
-/

theorem KeptAt.keysStayApart (kept : KeptAt onKey body position inner)
    (apart : KeysStayApart onKey body) : KeysStayApart onKey inner := by
  induction kept with
  | here => exact apart
  | item found _ ih =>
      cases apart with
      | list each => exact ih (each _ (List.mem_of_getElem? found))
  | @field before after key value _ _ _ _ ih =>
      cases apart with
      | mapping _ each => exact ih (each (key, value) (List.mem_append_right before (.head after)))

/-- Keys stay apart everywhere if they do in the mappings that are kept. -/
theorem keysStayApart_iff : KeysStayApart onKey body ↔ ∀ position fields,
    KeptAt onKey body position (.mapping fields) → fields.Pairwise fun earlier later =>
      ¬ (onKey later.1).same (onKey earlier.1) = true := by
  constructor
  · intro apart position fields kept
    cases kept.keysStayApart apart with
    | mapping fieldsApart _ => exact fieldsApart
  · intro each
    induction body using Document.induction with
    | scalar _ => exact .scalar
    | set _ => exact .set
    | list items ih =>
        refine .list fun item member => ih item member fun position fields kept => ?_
        obtain ⟨index, found⟩ := List.mem_iff_getElem?.1 member
        exact each (.item index :: position) fields (.item found kept)
    | mapping fields ih =>
        -- As the keys of this mapping stay apart, every field of it is kept.
        have fieldsApart := each [] fields .here
        refine .mapping fieldsApart fun field member =>
          ih field member fun position inner kept => ?_
        obtain ⟨before, after, rfl⟩ := List.append_of_mem member
        have fromHere := (List.pairwise_append.1 fieldsApart).2.1
        exact each (.key field.1 :: position) inner
          (.field (fun later => (List.pairwise_cons.1 fromHere).1 later) kept)

theorem rewriteFields_distinct_iff {fields : Table Document} :
    Table.Distinct (Document.rewriteFields onKey onText fields) ↔
      fields.Pairwise fun earlier later => ¬ (onKey later.1).same (onKey earlier.1) = true := by
  rw [Table.Distinct, Document.rewriteFields_eq_map, List.pairwise_map]
  constructor
  · exact fun apart => apart.imp fun differ same => differ (Scalar.same_symm same)
  · exact fun apart => apart.imp fun differ same => differ (Scalar.same_symm same)

end PipelineOverride
