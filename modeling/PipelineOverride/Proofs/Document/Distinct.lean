import Mathlib.Data.List.Induction
import PipelineOverride.Document.Table

/-!
# Tables with distinct keys

The operations on tables never put one key in twice, so every table that they build has distinct
keys. Of such a table, putting in its entries one after another gives back the table itself.
-/

set_option autoImplicit false

namespace PipelineOverride.Table

variable {α : Type} {table : Table α} {key : Scalar} {value : α}

/-- No two entries have the same key. -/
def Distinct (table : Table α) : Prop :=
  List.Pairwise (fun earlier later => ¬ earlier.1.same later.1 = true) table

instance decidableDistinct (table : Table α) : Decidable (Distinct table) :=
  inferInstanceAs (Decidable (List.Pairwise _ _))

theorem distinct_iff_keys :
    Distinct table ↔ (keys table).Pairwise fun earlier later => ¬ earlier.same later = true := by
  rw [Distinct, keys, List.pairwise_map]

theorem lookup_eq_none_iff {wanted : Scalar} :
    lookup table wanted = none ↔ ∀ entry ∈ table, ¬ entry.1.same wanted = true := by
  induction table with
  | nil => simp
  | cons entry rest ih =>
      rw [lookup_cons]
      by_cases same : entry.1.same wanted = true
      · simp [same]
      · simp [same, ih]

theorem lookup_congr {wanted other : Scalar} (same : wanted.same other = true) :
    lookup table wanted = lookup table other := by
  have alike : ∀ key : Scalar, key.same wanted = key.same other := by
    intro key
    rw [Bool.eq_iff_iff]
    exact ⟨fun given => Scalar.same_trans given same,
      fun given => Scalar.same_trans given (Scalar.same_symm same)⟩
  induction table with
  | nil => rfl
  | cons entry rest ih => rw [lookup_cons, lookup_cons, alike, ih]

/-- A key that one entry has is not among entries apart from it. -/
theorem lookup_eq_none_of_apart {entry : Scalar × α}
    (apart : ∀ later ∈ table, ¬ entry.1.same later.1 = true)
    (same : entry.1.same key = true) : lookup table key = none :=
  lookup_eq_none_iff.2 fun later member sameLater =>
    apart later member (Scalar.same_trans same (Scalar.same_symm sameLater))

theorem mem_of_lookup {wanted : Scalar} (found : lookup table wanted = some value) :
    ∃ key, (key, value) ∈ table ∧ key.same wanted = true := by
  induction table with
  | nil => cases found
  | cons entry rest ih =>
      rw [lookup_cons] at found
      by_cases same : entry.1.same wanted = true
      · rw [if_pos same] at found
        cases found
        exact ⟨entry.1, .head _, same⟩
      · rw [if_neg same] at found
        obtain ⟨key, member, keySame⟩ := ih found
        exact ⟨key, .tail _ member, keySame⟩

theorem insert_of_lookup_none (fresh : lookup table key = none) :
    insert table key value = table ++ [(key, value)] := by
  induction table with
  | nil => rfl
  | cons entry rest ih =>
      rw [lookup_eq_none_iff] at fresh
      have other := fresh entry (.head _)
      have freshRest := fun entry member => fresh entry (.tail _ member)
      simp only [insert, if_neg other, ih (lookup_eq_none_iff.2 freshRest), List.cons_append]

/-- Putting in what is there already changes nothing. -/
theorem insert_of_lookup (found : lookup table key = some value) :
    insert table key value = table := by
  induction table with
  | nil => cases found
  | cons entry rest ih =>
      obtain ⟨own, old⟩ := entry
      rw [lookup_cons] at found
      rw [insert]
      by_cases same : own.same key = true
      · rw [if_pos same] at found
        rw [if_pos same, Option.some.inj found]
      · rw [if_neg same] at found
        rw [if_neg same, ih found]

theorem contains_insert {wanted : Scalar} : contains (insert table key value) wanted
    = (key.same wanted || contains table wanted) := by
  rw [contains, lookup_insert]
  cases key.same wanted <;> rfl

/-- A key keeps its place if it is there, and goes to the end if it is new. -/
theorem keys_insert : keys (insert table key value)
    = keys table ++ if contains table key then [] else [key] := by
  induction table with
  | nil => rfl
  | cons entry rest ih =>
      obtain ⟨own, old⟩ := entry
      rw [insert, contains, lookup_cons]
      by_cases same : own.same key = true
      · simp [same, keys]
      · rw [if_neg same, if_neg same]
        exact congrArg (own :: ·) ih

/-- Putting a value in never brings in a key that is neither there nor the one given. -/
theorem exists_same_of_mem_insert {entry : Scalar × α} (member : entry ∈ insert table key value) :
    (∃ old ∈ table, old.1 = entry.1) ∨ entry.1 = key := by
  induction table with
  | nil => exact .inr (congrArg Prod.fst (List.mem_singleton.1 member))
  | cons first rest ih =>
      simp only [insert] at member
      split at member
      · rcases List.mem_cons.1 member with rfl | member
        · exact .inl ⟨first, .head _, rfl⟩
        · exact .inl ⟨entry, .tail _ member, rfl⟩
      · rcases List.mem_cons.1 member with rfl | member
        · exact .inl ⟨_, .head _, rfl⟩
        · rcases ih member with ⟨old, oldMember, same⟩ | same
          · exact .inl ⟨old, .tail _ oldMember, same⟩
          · exact .inr same

theorem Distinct.lookup_of_mem (distinct : Distinct table) (member : (key, value) ∈ table) :
    lookup table key = some value := by
  induction table with
  | nil => cases member
  | cons entry rest ih =>
      obtain ⟨apart, distinctRest⟩ := List.pairwise_cons.1 distinct
      rw [lookup_cons]
      rcases List.mem_cons.1 member with rfl | member
      · rw [if_pos (Scalar.same_self key)]
      · rw [if_neg (apart _ member), ih distinctRest member]

/-- A table with distinct keys is determined by its keys in order and what they lead to. -/
theorem Distinct.ext {other : Table α} (distinct : Distinct table)
    (sameKeys : keys table = keys other)
    (sameValues : ∀ key, lookup table key = lookup other key) : table = other := by
  induction table generalizing other with
  | nil => exact (List.map_eq_nil_iff.1 sameKeys.symm).symm
  | cons entry rest ih =>
      obtain ⟨key, value⟩ := entry
      obtain ⟨apart, distinctRest⟩ := List.pairwise_cons.1 distinct
      rcases other with _ | ⟨⟨otherKey, otherValue⟩, others⟩
      · cases sameKeys
      · obtain ⟨rfl, sameRest⟩ := List.cons.inj sameKeys
        have here := sameValues key
        simp only [lookup_cons, Scalar.same_self, if_true, Option.some.injEq] at here
        have restEqual : rest = others := by
          refine ih distinctRest sameRest fun wanted => ?_
          have below := sameValues wanted
          rw [lookup_cons, lookup_cons] at below
          by_cases same : key.same wanted = true
          · -- The key of the first entry is in neither rest, as both have the same keys.
            have otherApart : ∀ later ∈ others, ¬ (key, value).1.same later.1 = true := by
              intro later member
              have isKey : later.1 ∈ others.map Prod.fst := List.mem_map_of_mem member
              rw [← sameRest] at isKey
              obtain ⟨field, fieldMember, isField⟩ := List.mem_map.1 isKey
              exact isField ▸ apart field fieldMember
            rw [lookup_eq_none_of_apart apart same, lookup_eq_none_of_apart otherApart same]
          · rwa [if_neg same, if_neg same] at below
        rw [here, restEqual]

theorem Distinct.insert (distinct : Distinct table) : Distinct (insert table key value) := by
  induction table with
  | nil => exact List.pairwise_singleton ..
  | cons entry rest ih =>
      obtain ⟨apart, distinctRest⟩ := List.pairwise_cons.1 distinct
      simp only [Table.insert]
      split
      · exact List.pairwise_cons.2 ⟨apart, distinctRest⟩
      · rename_i other
        refine List.pairwise_cons.2 ⟨fun later member => ?_, ih distinctRest⟩
        rcases exists_same_of_mem_insert member with ⟨old, oldMember, same⟩ | same
        · exact same ▸ apart old oldMember
        · exact same ▸ other

theorem Distinct.insertAll (distinct : Distinct table) (entries : List (Scalar × α)) :
    Distinct (insertAll table entries) := by
  induction entries generalizing table with
  | nil => exact distinct
  | cons entry rest ih => exact ih distinct.insert

theorem ofEntries_distinct (entries : List (Scalar × α)) : Distinct (ofEntries entries) :=
  Distinct.insertAll List.Pairwise.nil entries

theorem lookup_insertAll_of_absent {entries : List (Scalar × α)}
    (absent : ∀ entry ∈ entries, ¬ entry.1.same key = true) (table : Table α) :
    lookup (insertAll table entries) key = lookup table key := by
  induction entries generalizing table with
  | nil => rfl
  | cons entry rest ih =>
      have onward := ih (fun later member => absent later (.tail _ member))
        (Table.insert table entry.1 entry.2)
      rw [lookup_insert, if_neg (absent entry (.head _))] at onward
      exact onward

/-- Of the entries of one key the last one decides. -/
theorem lookup_ofEntries_of_last {after : List (Scalar × α)}
    (last : ∀ later ∈ after, ¬ later.1.same key = true) (before : List (Scalar × α)) :
    lookup (ofEntries (before ++ (key, value) :: after)) key = some value := by
  have inserted := lookup_insertAll_of_absent last
    (Table.insert (insertAll [] before) key value)
  rw [lookup_insert, if_pos (Scalar.same_self key)] at inserted
  rw [ofEntries, insertAll, List.foldl_append]
  exact inserted

theorem exists_last {entries : List (Scalar × α)} {wanted : Scalar}
    (held : ∃ entry ∈ entries, entry.1.same wanted = true) :
    ∃ before last after, entries = before ++ last :: after ∧ last.1.same wanted = true ∧
      ∀ later ∈ after, ¬ later.1.same wanted = true := by
  induction entries with
  | nil =>
      obtain ⟨_, member, _⟩ := held
      cases member
  | cons first rest ih =>
      by_cases again : ∃ entry ∈ rest, entry.1.same wanted = true
      · obtain ⟨before, last, after, rfl, same, ends⟩ := ih again
        exact ⟨first :: before, last, after, rfl, same, ends⟩
      · obtain ⟨entry, member, same⟩ := held
        rcases List.mem_cons.1 member with rfl | member
        · exact ⟨[], entry, rest, rfl, same, fun later isLater sameLater =>
            again ⟨later, isLater, sameLater⟩⟩
        · exact absurd ⟨entry, member, same⟩ again

/-- What a key has in a table of entries is what the last of its entries says. -/
theorem lookup_ofEntries_eq_some_iff {entries : List (Scalar × α)} {wanted : Scalar} :
    lookup (ofEntries entries) wanted = some value ↔
      ∃ before key after, entries = before ++ (key, value) :: after ∧ key.same wanted = true ∧
        ∀ later ∈ after, ¬ later.1.same wanted = true := by
  constructor
  · intro found
    by_cases held : ∃ entry ∈ entries, entry.1.same wanted = true
    · obtain ⟨before, ⟨key, other⟩, after, rfl, same, ends⟩ := exists_last held
      have last : ∀ later ∈ after, ¬ later.1.same key = true :=
        fun later member sameLater => ends later member (Scalar.same_trans sameLater same)
      have isLast : lookup (ofEntries (before ++ (key, other) :: after)) key = some other :=
        lookup_ofEntries_of_last last before
      rw [lookup_congr same, found] at isLast
      cases isLast
      exact ⟨before, key, after, rfl, same, ends⟩
    · have absent : ∀ entry ∈ entries, ¬ entry.1.same wanted = true :=
        fun entry member same => held ⟨entry, member, same⟩
      rw [ofEntries, lookup_insertAll_of_absent absent] at found
      cases found
  · intro given
    obtain ⟨before, key, after, rfl, same, ends⟩ := given
    have last : ∀ later ∈ after, ¬ later.1.same key = true :=
      fun later member sameLater => ends later member (Scalar.same_trans sameLater same)
    rw [← lookup_congr same]
    exact lookup_ofEntries_of_last last before

theorem ofEntries_append_singleton (entries : List (Scalar × α)) (entry : Scalar × α) :
    ofEntries (entries ++ [entry]) = Table.insert (ofEntries entries) entry.1 entry.2 := by
  rw [ofEntries, insertAll, List.foldl_append]
  rfl

theorem contains_ofEntries_iff {entries : List (Scalar × α)} {wanted : Scalar} :
    contains (ofEntries entries) wanted = true ↔ ∃ entry ∈ entries, entry.1.same wanted = true := by
  rw [contains, Option.isSome_iff_exists]
  constructor
  · intro found
    obtain ⟨value, isValue⟩ := found
    obtain ⟨before, key, after, rfl, same, _⟩ := lookup_ofEntries_eq_some_iff.1 isValue
    exact ⟨(key, value), List.mem_append_right before (.head after), same⟩
  · intro held
    obtain ⟨before, last, after, split, same, ends⟩ := exists_last held
    exact ⟨last.2, lookup_ofEntries_eq_some_iff.2 ⟨before, last.1, after, split, same, ends⟩⟩

theorem length_insert : (Table.insert table key value).length
    = table.length + if contains table key then 0 else 1 := by
  have keyCount : ∀ other : Table α, other.keys.length = other.length :=
    fun other => List.length_map Prod.fst
  rw [← keyCount, keys_insert, List.length_append, keyCount]
  split <;> rfl

theorem length_ofEntries_le (entries : List (Scalar × α)) :
    (ofEntries entries).length ≤ entries.length := by
  induction entries using List.reverseRecOn with
  | nil => exact Nat.le_refl 0
  | append_singleton entries entry ih =>
      rw [ofEntries_append_singleton, length_insert, List.length_append, List.length_singleton]
      split <;> omega

theorem distinct_append_singleton {entry : Scalar × α} : Distinct (table ++ [entry]) ↔
    Distinct table ∧ ∀ earlier ∈ table, ¬ earlier.1.same entry.1 = true := by
  simp only [Distinct, List.pairwise_append, List.pairwise_singleton, List.mem_singleton,
    forall_eq, true_and]

/-- Putting the entries of a table with distinct keys in one after another builds it again. -/
theorem Distinct.ofEntries_eq (distinct : Distinct table) : ofEntries table = table := by
  induction table using List.reverseRecOn with
  | nil => rfl
  | append_singleton earlier last ih =>
      obtain ⟨distinctEarlier, apart⟩ := distinct_append_singleton.1 distinct
      rw [ofEntries_append_singleton, ih distinctEarlier]
      exact insert_of_lookup_none (lookup_eq_none_iff.2 apart)

/-- A table has as many entries as were put into it exactly if their keys are distinct. -/
theorem length_ofEntries_eq_iff {entries : List (Scalar × α)} :
    (ofEntries entries).length = entries.length ↔ Distinct entries := by
  -- From the end, since the last entry is put into the table of all the others.
  induction entries using List.reverseRecOn with
  | nil => exact iff_of_true rfl .nil
  | append_singleton entries entry ih =>
      have bounded := length_ofEntries_le entries
      rw [distinct_append_singleton, ← ih, ofEntries_append_singleton, length_insert,
        List.length_append, List.length_singleton]
      by_cases repeated : contains (ofEntries entries) entry.1 = true
      · obtain ⟨earlier, member, same⟩ := contains_ofEntries_iff.1 repeated
        rw [if_pos repeated]
        refine iff_of_false ?_ fun given => given.2 earlier member same
        omega
      · have fresh : ∀ earlier ∈ entries, ¬ earlier.1.same entry.1 = true :=
          fun earlier member same => repeated (contains_ofEntries_iff.2 ⟨earlier, member, same⟩)
        rw [if_neg repeated]
        constructor
        · intro grown
          exact ⟨by omega, fresh⟩
        · intro given
          have kept := given.1
          omega

/-- Entries with distinct keys that are put into a table decide the values of their keys. -/
theorem Distinct.lookup_insertAll {entries : Table α} (distinct : Distinct entries)
    (other : Table α) (key : Scalar) :
    lookup (Table.insertAll other entries) key = (lookup entries key).or (lookup other key) := by
  induction entries generalizing other with
  | nil => rfl
  | cons entry rest ih =>
      obtain ⟨apart, distinctRest⟩ := List.pairwise_cons.1 distinct
      have onward := ih distinctRest (Table.insert other entry.1 entry.2)
      simp only [Table.insertAll, List.foldl_cons] at onward ⊢
      rw [onward, lookup_insert, lookup_cons]
      by_cases same : entry.1.same key = true
      · rw [if_pos same, if_pos same, lookup_eq_none_of_apart apart same, Option.none_or,
          Option.some_or]
      · rw [if_neg same, if_neg same]

theorem Distinct.lookup_union {preferred : Table α} (distinct : Distinct preferred)
    (other : Table α) (key : Scalar) :
    lookup (Table.union preferred other) key = (lookup preferred key).or (lookup other key) :=
  distinct.lookup_insertAll other key

/-!
## Removed keys
-/

theorem erase_insert (table : Table α) (key : Scalar) (value : α) :
    erase (Table.insert table key value) key = erase table key := by
  induction table with
  | nil => exact List.filter_cons_of_neg (by simp [Scalar.same_self])
  | cons entry rest ih =>
      rw [Table.insert]
      by_cases same : entry.1.same key = true
      · rw [if_pos same, erase, erase, List.filter_cons_of_neg (by simp [same]),
          List.filter_cons_of_neg (by simp [same])]
      · rw [if_neg same, erase, erase, List.filter_cons_of_pos (by simp [same]),
          List.filter_cons_of_pos (by simp [same])]
        exact congrArg (entry :: ·) ih

theorem erase_comm (table : Table α) (key other : Scalar) :
    erase (erase table key) other = erase (erase table other) key := by
  simp only [erase, List.filter_filter, Bool.and_comm]

theorem erase_erase (table : Table α) (key : Scalar) :
    erase (erase table key) key = erase table key := by
  simp only [erase, List.filter_filter, Bool.and_self]

theorem lookup_erase (table : Table α) (key wanted : Scalar) :
    lookup (erase table key) wanted = if key.same wanted then none else lookup table wanted := by
  induction table with
  | nil => simp [erase]
  | cons entry rest ih =>
      obtain ⟨own, value⟩ := entry
      rw [erase] at ih ⊢
      by_cases removed : own.same key = true
      · rw [List.filter_cons_of_neg (by simp [removed]), ih, lookup_cons]
        by_cases same : own.same wanted = true
        · have alike := Scalar.same_trans (Scalar.same_symm removed) same
          rw [if_pos alike, if_pos alike]
        · rw [if_neg same]
      · rw [List.filter_cons_of_pos (by simp [removed]), lookup_cons, lookup_cons, ih]
        by_cases same : own.same wanted = true
        · have apart : ¬ key.same wanted = true := fun alike =>
            removed (Scalar.same_trans same (Scalar.same_symm alike))
          rw [if_pos same, if_pos same, if_neg apart]
        · rw [if_neg same, if_neg same]

/-!
## Values that are changed in place
-/

variable {β : Type}

/-- A table with every value changed in a way that depends on its key. -/
def mapEntries (change : Scalar → α → β) (table : Table α) : Table β :=
  List.map (fun entry => (entry.1, change entry.1 entry.2)) table

variable {change : Scalar → α → β}

theorem lookup_mapEntries
    (alike : ∀ key wanted : Scalar, key.same wanted = true → change key = change wanted)
    (table : Table α) (wanted : Scalar) :
    lookup (mapEntries change table) wanted = (lookup table wanted).map (change wanted) := by
  induction table with
  | nil => rfl
  | cons entry rest ih =>
      simp only [mapEntries, List.map_cons] at ih ⊢
      rw [lookup_cons, lookup_cons, ih]
      by_cases same : entry.1.same wanted = true
      · rw [if_pos same, if_pos same, alike entry.1 wanted same, Option.map_some]
      · rw [if_neg same, if_neg same]

theorem insert_mapEntries
    (alike : ∀ key wanted : Scalar, key.same wanted = true → change key = change wanted)
    (table : Table α) (key : Scalar) (value : α) :
    insert (mapEntries change table) key (change key value)
      = mapEntries change (insert table key value) := by
  induction table with
  | nil => rfl
  | cons entry rest ih =>
      simp only [mapEntries, List.map_cons, Table.insert] at ih ⊢
      by_cases same : entry.1.same key = true
      · rw [if_pos same, if_pos same, List.map_cons, alike entry.1 key same]
      · rw [if_neg same, if_neg same, List.map_cons, ih]

theorem union_mapEntries
    (alike : ∀ key wanted : Scalar, key.same wanted = true → change key = change wanted)
    (preferred other : Table α) :
    union (mapEntries change preferred) (mapEntries change other)
      = mapEntries change (union preferred other) := by
  simp only [union, insertAll]
  induction preferred generalizing other with
  | nil => rfl
  | cons entry rest ih =>
      have onward := ih (Table.insert other entry.1 entry.2)
      rw [← insert_mapEntries alike] at onward
      exact onward

/-!
## Values
-/

variable {holds : α → Prop}

theorem forall_insert (here : ∀ entry ∈ table, holds entry.2) (given : holds value) :
    ∀ entry ∈ Table.insert table key value, holds entry.2 := by
  induction table with
  | nil => exact fun entry member => List.mem_singleton.1 member ▸ given
  | cons first rest ih =>
      have restHolds := fun entry member => here entry (.tail _ member)
      simp only [Table.insert]
      split
      · intro entry given
        rcases given with _ | ⟨_, member⟩
        · exact given
        · exact restHolds entry member
      · intro entry given
        rcases given with _ | ⟨_, member⟩
        · exact here _ (.head _)
        · exact ih restHolds entry member

theorem forall_insertAll {entries : List (Scalar × α)} (here : ∀ entry ∈ table, holds entry.2)
    (given : ∀ entry ∈ entries, holds entry.2) :
    ∀ entry ∈ Table.insertAll table entries, holds entry.2 := by
  induction entries generalizing table with
  | nil => exact here
  | cons entry rest ih =>
      exact ih (forall_insert here (given entry (.head _)))
        fun later member => given later (.tail _ member)

theorem forall_ofEntries {entries : List (Scalar × α)}
    (given : ∀ entry ∈ entries, holds entry.2) :
    ∀ entry ∈ Table.ofEntries entries, holds entry.2 :=
  forall_insertAll (fun _ member => (List.not_mem_nil member).elim) given

theorem forall_union {preferred other : Table α} (left : ∀ entry ∈ preferred, holds entry.2)
    (right : ∀ entry ∈ other, holds entry.2) :
    ∀ entry ∈ Table.union preferred other, holds entry.2 :=
  forall_insertAll right left

theorem of_lookup {wanted : Scalar} (here : ∀ entry ∈ table, holds entry.2)
    (found : lookup table wanted = some value) : holds value := by
  obtain ⟨key, member, _⟩ := mem_of_lookup found
  exact here (key, value) member

end PipelineOverride.Table
