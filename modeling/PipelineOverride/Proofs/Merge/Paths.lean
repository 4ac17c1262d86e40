import PipelineOverride.Proofs.Merge.Modes

/-!
# Merging path by path

What a deep merge has at a path of keys depends on what the two sides have there and on the way
there, and on nothing else. The order of the keys depends on the two mappings at the path alone.
-/

set_option autoImplicit false

namespace PipelineOverride

/-! ### Paths -/

namespace Document

def child? (document : Document) (key : Scalar) : Option Document :=
  document.fields?.bind fun fields => fields.lookup key

/-- The value at a path of keys, all but the last of which lead to mappings. -/
def at? : Document → List Scalar → Option Document
  | document, [] => some document
  | document, key :: rest => (document.child? key).bind fun child => child.at? rest

/-- The longest part of a path that a document has a value at, and that value. -/
structure LongestDefined (document : Document) (path front : List Scalar)
    (last : Document) : Prop where
  leads : front <+: path
  defined : document.at? front = some last
  longest : ∀ longer, longer <+: path → front.length < longer.length →
    document.at? longer = none

variable {document child last : Document} {key : Scalar} {path front : List Scalar}

theorem exists_eq_mapping (isMapping : document.fields?.isSome) :
    ∃ fields, document = .mapping fields := by
  cases document with
  | mapping fields => exact ⟨fields, rfl⟩
  | scalar | list | set => cases isMapping

theorem at?_cons_of_child? (found : document.child? key = some child) (path : List Scalar) :
    document.at? (key :: path) = child.at? path := by
  rw [at?, found, Option.bind_some]

theorem at?_cons_of_no_child (missing : document.child? key = none) (path : List Scalar) :
    document.at? (key :: path) = none := by
  rw [at?, missing, Option.bind_none]

/-- Where the first key leads nowhere, only the root is defined. -/
theorem LongestDefined.root (missing : document.child? key = none) :
    document.LongestDefined (key :: path) [] document where
  leads := List.nil_prefix
  defined := rfl
  longest longer leads long := by
    cases longer with
    | nil => simp at long
    | cons first rest =>
        obtain ⟨rfl, _⟩ := List.cons_prefix_cons.1 leads
        exact at?_cons_of_no_child missing rest

theorem LongestDefined.cons (below : child.LongestDefined path front last)
    (found : document.child? key = some child) :
    document.LongestDefined (key :: path) (key :: front) last where
  leads := List.cons_prefix_cons.2 ⟨rfl, below.leads⟩
  defined := by rw [at?_cons_of_child? found, below.defined]
  longest longer leads long := by
    cases longer with
    | nil => simp at long
    | cons first rest =>
        obtain ⟨rfl, leadsRest⟩ := List.cons_prefix_cons.1 leads
        rw [at?_cons_of_child? found]
        exact below.longest rest leadsRest (by simpa using long)

theorem LongestDefined.unique {front other : List Scalar} {last found : Document}
    (first : document.LongestDefined path front last)
    (second : document.LongestDefined path other found) : front = other ∧ last = found := by
  have notLonger : front.length ≤ other.length := by
    by_contra longer
    have missing := second.longest front first.leads (by omega)
    cases first.defined.symm.trans missing
  have notShorter : other.length ≤ front.length := by
    by_contra longer
    have missing := first.longest other second.leads (by omega)
    cases second.defined.symm.trans missing
  obtain rfl : front = other :=
    (List.prefix_of_prefix_length_le first.leads second.leads notLonger).eq_of_length
      (Nat.le_antisymm notLonger notShorter)
  exact ⟨rfl, Option.some.inj (first.defined.symm.trans second.defined)⟩

end Document

/-! ### Fields -/

variable {target source : Table Document}

/-- A merge has under a key what the two sides have there, merged where both have something. -/
theorem lookup_mergeFields (distinct : source.Distinct) (wanted : Scalar) :
    (mergeFields target source).lookup wanted
      = match source.lookup wanted with
        | some value => some (mergeValue (target.lookup wanted) value)
        | none => target.lookup wanted := by
  induction source generalizing target with
  | nil => rfl
  | cons entry rest ih =>
      obtain ⟨key, value⟩ := entry
      obtain ⟨apart, distinctRest⟩ := List.pairwise_cons.1 distinct
      rw [mergeFields, ih distinctRest, Table.lookup_cons, Table.lookup_insert]
      by_cases same : key.same wanted = true
      · rw [if_pos same, if_pos same, Table.lookup_eq_none_of_apart apart same,
          Table.lookup_congr same]
      · rw [if_neg same, if_neg same]

/-- The keys of a merge are those of the target, then the new ones of the source. -/
theorem keys_mergeFields (distinct : source.Distinct) :
    (mergeFields target source).keys
      = target.keys ++ source.keys.filter fun key => !target.contains key := by
  induction source generalizing target with
  | nil => simp [mergeFields, Table.keys]
  | cons entry rest ih =>
      obtain ⟨key, value⟩ := entry
      obtain ⟨apart, distinctRest⟩ := List.pairwise_cons.1 distinct
      have stillNew : ∀ merged : Document,
          (Table.keys rest).filter (fun later => !(target.insert key merged).contains later)
            = (Table.keys rest).filter fun later => !target.contains later := by
        intro merged
        refine List.filter_congr fun later member => ?_
        obtain ⟨field, fieldMember, rfl⟩ := List.mem_map.1 member
        rw [Table.contains_insert, Bool.eq_false_iff.2 (apart field fieldMember), Bool.false_or]
      rw [mergeFields, ih distinctRest, stillNew, Table.keys_insert, List.append_assoc]
      cases new : target.contains key <;> simp [Table.keys, new]

/-! ### One level -/

section Level

variable {existing : Option Document} {value inner : Document} {key : Scalar}

/-- The fields that an incoming mapping is merged with: none, unless a mapping is there. -/
def fieldsBefore (existing : Option Document) : Table Document :=
  (existing.bind Document.fields?).getD []

theorem mergeValue_mapping {fields : Table Document} (distinct : fields.Distinct) :
    mergeValue existing (.mapping fields)
      = .mapping (mergeFields (fieldsBefore existing) fields) := by
  rcases existing with _ | (_ | _ | _ | own)
  case some.mapping => simp only [mergeValue, fieldsBefore]; rfl
  all_goals simp [mergeValue, fieldsBefore, Document.fields?, mergeFields_nil_left distinct]

theorem mergeValue_mappings {own fields : Table Document} (ownDistinct : own.Distinct)
    (distinct : fields.Distinct) :
    mergeValue (some (mergeValue existing (.mapping own))) (.mapping fields)
      = .mapping (mergeFields (mergeFields (fieldsBefore existing) own) fields) := by
  rw [mergeValue_mapping distinct, mergeValue_mapping ownDistinct]
  rfl

theorem fieldsBefore_of_no_mapping (noMapping : ∀ own, existing ≠ some (.mapping own)) :
    fieldsBefore existing = [] := by
  rcases existing with _ | (_ | _ | _ | own)
  case some.mapping => exact absurd rfl (noMapping own)
  all_goals rfl

theorem lookup_fieldsBefore :
    (fieldsBefore existing).lookup key = existing.bind fun old => old.child? key := by
  rcases existing with _ | (_ | _ | _ | _) <;> rfl

theorem mergeValue_of_no_mapping (noMapping : value.fields? = none) :
    mergeValue existing value = value := by
  cases value with
  | mapping => cases noMapping
  | scalar | list | set => rw [mergeValue]

theorem child?_mergeValue_of_some (wellFormed : value.WellFormed)
    (found : value.child? key = some inner) :
    (mergeValue existing value).child? key
      = some (mergeValue (existing.bind fun old => old.child? key) inner) := by
  cases wellFormed with
  | scalar | set | list => cases found
  | @mapping fields distinct _ =>
      have here : fields.lookup key = some inner := found
      rw [mergeValue_mapping distinct, ← lookup_fieldsBefore]
      simp only [Document.child?, Document.fields?, Option.bind_some, lookup_mergeFields distinct,
        here]

/-- Where nothing comes in under a key, what is there stays if a mapping came in around it. -/
theorem child?_mergeValue_of_none (wellFormed : value.WellFormed)
    (missing : value.child? key = none) :
    (mergeValue existing value).child? key
      = if value.fields?.isSome then existing.bind fun old => old.child? key else none := by
  cases wellFormed with
  | scalar | set | list => rfl
  | @mapping fields distinct _ =>
      have nothing : fields.lookup key = none := missing
      rw [mergeValue_mapping distinct, ← lookup_fieldsBefore]
      simp only [Document.child?, Document.fields?, Option.bind_some, lookup_mergeFields distinct,
        nothing, Option.isSome_some, if_true]

end Level

/-! ### Paths into a merge -/

theorem Document.WellFormed.child? {document child : Document} {key : Scalar}
    (wellFormed : document.WellFormed) (found : document.child? key = some child) :
    child.WellFormed := by
  cases wellFormed with
  | scalar | set | list => cases found
  | mapping _ each => exact Table.of_lookup each found

theorem Document.WellFormed.at? {document inner : Document} {path : List Scalar}
    (wellFormed : document.WellFormed) (found : document.at? path = some inner) :
    inner.WellFormed := by
  induction path generalizing document with
  | nil =>
      obtain rfl : document = inner := Option.some.inj found
      exact wellFormed
  | cons key rest ih =>
      obtain ⟨child, isChild, foundBelow⟩ := Option.bind_eq_some_iff.1 found
      exact ih (wellFormed.child? isChild) foundBelow

section Value

variable {existing : Option Document} {value inner : Document} {path : List Scalar}

theorem at?_mergeValue_of_some (wellFormed : value.WellFormed)
    (found : value.at? path = some inner) :
    (mergeValue existing value).at? path
      = some (mergeValue (existing.bind fun old => old.at? path) inner) := by
  induction path generalizing existing value with
  | nil =>
      obtain rfl : value = inner := Option.some.inj found
      cases existing <;> rfl
  | cons key rest ih =>
      obtain ⟨child, isChild, foundBelow⟩ := Option.bind_eq_some_iff.1 found
      rw [Document.at?_cons_of_child? (child?_mergeValue_of_some wellFormed isChild),
        ih (wellFormed.child? isChild) foundBelow, Option.bind_assoc]
      rfl

/-- Where nothing comes in at a path, the last value on the way decides whether what is there
stays. -/
theorem at?_mergeValue_of_none (wellFormed : value.WellFormed)
    (missing : value.at? path = none) :
    ∃ front last, value.LongestDefined path front last ∧
      (mergeValue existing value).at? path
        = if last.fields?.isSome then existing.bind fun old => old.at? path else none := by
  induction path generalizing existing value with
  | nil => cases missing
  | cons key rest ih =>
      cases isChild : value.child? key with
      | none =>
          -- The value itself is the last on the way.
          refine ⟨[], value, .root isChild, ?_⟩
          rw [Document.at?, child?_mergeValue_of_none wellFormed isChild]
          split
          · exact Option.bind_assoc ..
          · rfl
      | some child =>
          rw [Document.at?_cons_of_child? isChild] at missing
          obtain ⟨front, last, below, merged⟩ := @ih
            (existing.bind fun old => old.child? key) child (wellFormed.child? isChild) missing
          refine ⟨key :: front, last, below.cons isChild, ?_⟩
          rw [Document.at?_cons_of_child? (child?_mergeValue_of_some wellFormed isChild), merged,
            Option.bind_assoc]
          rfl

end Value

/-! ### The merge -/

/-- What a merge has at a path. -/
structure MergedAt (target source merged : Document) (path : List Scalar) : Prop where
  /-- A value that is no mapping replaces what is there. -/
  replaced : ∀ value, source.at? path = some value → value.fields? = none →
    merged.at? path = some value
  /-- A mapping is merged into a mapping, which keeps its keys in their order and gets the new ones
  after them. -/
  joined : ∀ own fields : Table Document, target.at? path = some (.mapping own) →
    source.at? path = some (.mapping fields) →
    ∃ both : Table Document, deepMerge (.mapping own) (.mapping fields) = .ok (.mapping both) ∧
      merged.at? path = some (.mapping both) ∧
      both.keys = own.keys ++ fields.keys.filter fun key => !own.contains key
  /-- A mapping replaces what is no mapping, or enters where nothing is. -/
  entered : ∀ fields, source.at? path = some (.mapping fields) →
    (∀ own, target.at? path ≠ some (.mapping own)) → merged.at? path = some (.mapping fields)
  /-- Where nothing comes in, what is there stays if mappings came in all the way, and is gone if
  something else did. -/
  passed : source.at? path = none → ∃ front last, source.LongestDefined path front last ∧
    merged.at? path = if last.fields?.isSome then target.at? path else none

/-- A deep merge of mappings is determined path by path. -/
theorem deepMerge_merged_at_every_path (target : Table Document) {source : Table Document}
    (wellFormed : (Document.mapping source).WellFormed) :
    ∃ merged, deepMerge (.mapping target) (.mapping source) = .ok merged ∧
      ∀ path, MergedAt (.mapping target) (.mapping source) merged path := by
  have merge : deepMerge (.mapping target) (.mapping source)
      = .ok (mergeValue (some (.mapping target)) (.mapping source)) := by
    rw [mergeValue]
    rfl
  refine ⟨_, merge, fun path => ?_⟩
  have fieldsDistinct : ∀ fields : Table Document,
      (Document.mapping source).at? path = some (.mapping fields) → Table.Distinct fields := by
    intro fields found
    cases wellFormed.at? found with
    | mapping distinct _ => exact distinct
  constructor
  case replaced =>
    intro value found noMapping
    rw [at?_mergeValue_of_some wellFormed found, mergeValue_of_no_mapping noMapping]
  case joined =>
    intro own fields foundOwn found
    refine ⟨mergeFields own fields, rfl, ?_, keys_mergeFields (fieldsDistinct fields found)⟩
    rw [at?_mergeValue_of_some wellFormed found, Option.bind_some, foundOwn, mergeValue]
  case entered =>
    intro fields found noMapping
    have distinct := fieldsDistinct fields found
    rw [at?_mergeValue_of_some wellFormed found, Option.bind_some, mergeValue_mapping distinct,
      fieldsBefore_of_no_mapping noMapping, mergeFields_nil_left distinct]
  case passed =>
    intro missing
    exact at?_mergeValue_of_none wellFormed missing

def layeredTarget : Table Document :=
  [(.text "N", .mapping [(.text "a", .int 1), (.text "b", .int 2)]),
    (.text "k", .mapping [(.text "d", .bool true)])]

def layeredSource : Table Document :=
  [(.text "N", .mapping [(.text "c", .mapping []), (.text "a", .null)]), (.text "k", .int 7)]

theorem layered_merged_at_every_path :
    ∃ merged, deepMerge (.mapping layeredTarget) (.mapping layeredSource) = .ok merged ∧
      merged.at? [.text "N", .text "a"] = some .null ∧
      merged.at? [.text "N", .text "b"] = some (.int 2) ∧
      merged.at? [.text "N", .text "c"] = some (.mapping []) ∧
      merged.at? [.text "k", .text "d"] = none ∧
      ∃ both : Table Document, merged.at? [.text "N"] = some (.mapping both) ∧
        both.keys = [.text "a", .text "b", .text "c"] := by
  have wellFormed : (Document.mapping layeredSource).WellFormed := by decide
  obtain ⟨merged, merges, atPath⟩ :=
    deepMerge_merged_at_every_path layeredTarget wellFormed
  refine ⟨merged, merges, (atPath _).replaced _ rfl rfl, ?_, ?_, ?_, ?_⟩
  · obtain ⟨front, last, here, stays⟩ := (atPath [.text "N", .text "b"]).passed rfl
    obtain ⟨_, rfl⟩ := here.unique (.cons (.root rfl) rfl)
    exact stays
  · exact (atPath _).entered _ rfl fun own there => by cases there
  · obtain ⟨front, last, here, gone⟩ := (atPath [.text "k", .text "d"]).passed rfl
    obtain ⟨_, rfl⟩ := here.unique (.cons (.root rfl) rfl)
    exact gone
  · obtain ⟨both, _, there, keys⟩ := (atPath [.text "N"]).joined _ _ rfl rfl
    exact ⟨both, there, keys⟩

end PipelineOverride
