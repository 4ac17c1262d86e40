import PipelineOverride.Document.Scalar

/-!
# Tables

Association lists in order of insertion, keyed by scalars. Putting a value under a key that is
already there replaces the value and keeps the key with its place; a new key goes to the end.
-/

set_option autoImplicit false

namespace PipelineOverride

/-- Entries in order of insertion. The functions below never put one key in twice. -/
abbrev Table (α : Type) := List (Scalar × α)

namespace Table

variable {α β : Type}

def lookup : Table α → Scalar → Option α
  | [], _ => none
  | (key, value) :: rest, wanted => if key.same wanted then some value else lookup rest wanted

/-- The value under a text. -/
def get? (table : Table α) (name : String) : Option α :=
  lookup table (.text name)

def contains (table : Table α) (key : Scalar) : Bool :=
  (lookup table key).isSome

def keys (table : Table α) : List Scalar :=
  List.map Prod.fst table

def insert : Table α → Scalar → α → Table α
  | [], key, value => [(key, value)]
  | (key', value') :: rest, key, value =>
    if key'.same key then (key', value) :: rest else (key', value') :: insert rest key value

def erase (table : Table α) (key : Scalar) : Table α :=
  List.filter (fun entry => !entry.1.same key) table

/-- Puts entries in one after another. -/
def insertAll (table : Table α) (entries : List (Scalar × α)) : Table α :=
  entries.foldl (fun table entry => insert table entry.1 entry.2) table

/-- The table of a list of entries, where later entries replace earlier ones. -/
def ofEntries (entries : List (Scalar × α)) : Table α :=
  insertAll [] entries

/-- The two tables together, where `preferred` decides the value of a common key. The keys of
`other` come first. -/
def union (preferred other : Table α) : Table α :=
  insertAll other preferred

@[simp] theorem lookup_nil (key : Scalar) : lookup ([] : Table α) key = none := rfl

theorem lookup_cons (key : Scalar) (value : α) (rest : Table α) (wanted : Scalar) :
    lookup ((key, value) :: rest) wanted =
      if key.same wanted then some value else lookup rest wanted := rfl

/-- After a value is put under a key, the same key gives it and any other gives what it gave. -/
theorem lookup_insert (table : Table α) (key wanted : Scalar) (value : α) :
    lookup (insert table key value) wanted =
      if key.same wanted then some value else lookup table wanted := by
  induction table with
  | nil => simp [insert, lookup_cons]
  | cons entry rest ih =>
    obtain ⟨key', value'⟩ := entry
    simp only [insert]
    by_cases h : key'.same key
    · by_cases h' : key.same wanted
      · simp [h, lookup_cons, h', Scalar.same_trans h h']
      · have h'' : ¬ key'.same wanted = true := fun e =>
          h' (Scalar.same_trans (Scalar.same_symm h) e)
        simp [h, lookup_cons, h', h'']
    · by_cases h' : key.same wanted
      · have h'' : ¬ key'.same wanted = true := fun e =>
          h (Scalar.same_trans e (Scalar.same_symm h'))
        simp [h, lookup_cons, h', h'', ih]
      · simp [h, lookup_cons, h', ih]

end Table

end PipelineOverride
