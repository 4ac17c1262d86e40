import PipelineOverride.Json.Printer
import PipelineOverride.Proofs.Document.Alike
import PipelineOverride.Proofs.Document.WellFormed
import PipelineOverride.Proofs.Json.Integer

/-!
# Reading back what was written

The JSON text of a document is read as the document that was written, with its keys in their order.
Floating-point numbers are left out, and so are integers of more digits than are read and keys that
are no texts, since these are read back as texts. Sets, moments and byte strings may occur: a
document that holds one has no text at all.
-/

set_option autoImplicit false

namespace PipelineOverride

/-- No floating-point number, and no integer of more digits than are read. -/
def Scalar.Plain : Scalar → Prop
  | .float _ => False
  | .int value => value.natAbs < Nat.pow 10 Json.maxDigits
  | _ => True

/-- All keys of a document are texts and all its scalars are plain. -/
inductive Document.Plain : Document → Prop where
  | scalar {value : Scalar} : value.Plain → Plain (.scalar value)
  | set {members : List Scalar} : Plain (.set members)
  | list {items : List Document} : (∀ item ∈ items, Plain item) → Plain (.list items)
  | mapping {fields : Table Document} : (∀ field ∈ fields, ∃ name, field.1 = .text name) →
      (∀ field ∈ fields, Plain field.2) → Plain (.mapping fields)

namespace Json

open Text (hexDigit hexDigits)

variable {cs rest chars : List Char} {document : Document} {fuel : Nat}

/-!
## Strings
-/

theorem hexValue?_hexDigit {d : Nat} (small : d < 16) : hexValue? (hexDigit d) = some d := by
  have each : ∀ d < 16, hexValue? (hexDigit d) = some d := by decide
  exact each d small

theorem hexFour?_hexDigits {n : Nat} (short : n < 0x10000) (rest : List Char) :
    hexFour? (hexDigits 4 n ++ rest) = some (n, rest) := by
  have small : ∀ m, m % 16 < 16 := fun m => Nat.mod_lt m (by decide)
  simp only [hexDigits, List.nil_append, List.cons_append, hexFour?,
    hexValue?_hexDigit (small _), Option.bind_eq_bind, Option.bind_some, Option.pure_def,
    Option.some.injEq, Prod.mk.injEq, and_true]
  omega

theorem pairUnits_of_lt {unit : Nat} (below : unit < 0xd800) (rest : List Char) :
    pairUnits unit rest = (Char.ofNat unit, rest) := by
  have notHigh : ¬ 0xd800 ≤ unit := by omega
  have notLow : ¬ 0xdc00 ≤ unit := by omega
  simp [pairUnits, notHigh, notLow]

theorem stringBody?_unit {unit : Nat} {c : Char} {after onward : List Char}
    (read : hexFour? cs = some (unit, after)) (paired : pairUnits unit after = (c, onward)) :
    stringBody? (fuel + 1) ('\\' :: 'u' :: cs)
      = (stringBody? fuel onward).map fun (body, rest) => (c :: body, rest) := by
  have escaped : stringBody? (fuel + 1) ('\\' :: 'u' :: cs)
      = (hexFour? cs).bind fun first =>
          (stringBody? fuel (pairUnits first.1 first.2).2).bind fun others =>
            some ((pairUnits first.1 first.2).1 :: others.1, others.2) := rfl
  rw [escaped, read, Option.map_eq_bind, Option.bind_some, paired]
  rfl

/-- Each character of a string is read back in one step, however it is escaped. -/
theorem stringBody?_escapeChar (c : Char) (fuel : Nat) (rest : List Char) :
    stringBody? (fuel + 1) (escapeChar c ++ rest)
      = (stringBody? fuel rest).map fun (body, after) => (c :: body, after) := by
  rw [escapeChar]
  split_ifs with marks newline carriage tab backspace feed control
  · simp only [Bool.or_eq_true, decide_eq_true_eq] at marks
    rcases marks with rfl | rfl <;> rfl
  · subst newline
    rfl
  · subst carriage
    rfl
  · subst tab
    rfl
  · obtain rfl : c = '\x08' := Char.toNat_inj.1 backspace
    rfl
  · obtain rfl : c = '\x0c' := Char.toNat_inj.1 feed
    rfl
  · have unit := hexFour?_hexDigits (show c.toNat < 0x10000 by omega) rest
    have single := pairUnits_of_lt (show c.toNat < 0xd800 by omega) rest
    rw [Char.ofNat_toNat] at single
    exact stringBody?_unit unit single
  · simp only [Bool.or_eq_true, decide_eq_true_eq, not_or] at marks
    rw [List.singleton_append, stringBody?.eq_def]
    simp only [if_neg marks.1, if_neg marks.2, if_neg control]

theorem stringBody?_escaped (body : List Char) (enough : body.length < fuel) (rest : List Char) :
    stringBody? fuel (body.flatMap escapeChar ++ '"' :: rest) = some (body, rest) := by
  induction body generalizing fuel with
  | nil =>
      obtain ⟨fuel, rfl⟩ := Nat.exists_eq_succ_of_ne_zero (Nat.ne_zero_of_lt enough)
      rfl
  | cons c body ih =>
      obtain ⟨fuel, rfl⟩ := Nat.exists_eq_succ_of_ne_zero (Nat.ne_zero_of_lt enough)
      rw [List.flatMap_cons, List.append_assoc, stringBody?_escapeChar,
        ih (Nat.lt_of_succ_lt_succ enough)]
      rfl

theorem length_le_length_escaped (body : List Char) :
    body.length ≤ (body.flatMap escapeChar).length := by
  have escaped : ∀ c, 1 ≤ (escapeChar c).length := by
    intro c
    rw [escapeChar]
    split_ifs <;> simp
  induction body with
  | nil => exact Nat.le_refl 0
  | cons c body ih =>
      rw [List.flatMap_cons, List.length_cons, List.length_append]
      have first := escaped c
      omega

theorem string?_escaped (s : String) (rest : List Char) :
    string? (s.toList.flatMap escapeChar ++ '"' :: rest) = some (s, rest) := by
  have bounded := length_le_length_escaped s.toList
  have enough : s.toList.length < (s.toList.flatMap escapeChar ++ '"' :: rest).length + 1 := by
    rw [List.length_append]
    omega
  rw [string?, stringBody?_escaped s.toList enough, Option.map_some]
  exact congrArg (fun read => some (read, rest)) String.ofList_toList

/-!
## Scalars
-/

theorem value?_null (fuel : Nat) (rest : List Char) :
    value? strict (fuel + 1) ("null".toList ++ rest) = some (.null, rest) := rfl

theorem value?_bool (value : Bool) (fuel : Nat) (rest : List Char) :
    value? strict (fuel + 1) ((if value then "true".toList else "false".toList) ++ rest)
      = some (.bool value, rest) := by
  cases value <;> rfl

theorem stringChars_append (s : String) (rest : List Char) :
    stringChars escapeChar s ++ rest = '"' :: (s.toList.flatMap escapeChar ++ '"' :: rest) := by
  rw [stringChars, List.append_assoc, List.cons_append, List.singleton_append]

theorem value?_text (s : String) (fuel : Nat) (rest : List Char) :
    value? strict (fuel + 1) (stringChars escapeChar s ++ rest) = some (.text s, rest) := by
  rw [stringChars_append, value?, if_pos rfl, string?_escaped, Option.map_some]

/-!
## Containers
-/

/-- What a value starts with is neither a blank nor the bracket that closes a list. -/
theorem starts_of_value? {found : Document × List Char}
    (read : value? strict fuel cs = some found) :
    strict.next cs = cs ∧ closes? strict ']' cs = none := by
  rcases fuel with _ | fuel
  · cases read
  rcases cs with _ | ⟨c, more⟩
  · cases read
  have notBlank : c ∉ blanks := by
    intro member
    simp only [blanks, List.mem_cons, List.not_mem_nil, or_false] at member
    rcases member with rfl | rfl | rfl | rfl <;> cases read
  have opens : c ≠ ']' := by
    rintro rfl
    cases read
  constructor
  · rw [next_eq_dropWhile, List.dropWhile_cons_of_neg (by simpa using notBlank)]
  · rw [closes?, if_neg opens]
    rfl

theorem starts_of_items? {found : List Document × List Char}
    (read : items? strict fuel cs = some found) :
    strict.next cs = cs ∧ closes? strict ']' cs = none := by
  rcases fuel with _ | fuel
  · cases read
  rw [items?, Option.bind_eq_bind, Option.bind_eq_some_iff] at read
  obtain ⟨first, readFirst, _⟩ := read
  exact starts_of_value? readFirst

theorem starts_of_fields? {found : Table Document × List Char}
    (read : fields? strict fuel cs = some found) :
    strict.next cs = cs ∧ closes? strict '\x7d' cs = none := by
  rcases fuel with _ | fuel
  · cases read
  rw [fields?.eq_def] at read
  split at read
  · cases read
  · split at read
    · exact ⟨rfl, rfl⟩
    · cases read

section Pieces

variable {item value : Document} {items : List Document} {name : String} {fields : Table Document}
  {others : List Char}

theorem items?_last (read : value? strict fuel cs = some (item, ']' :: rest)) :
    items? strict (fuel + 1) cs = some ([item], rest) := by
  rw [items?, read]
  rfl

theorem items?_more (read : value? strict fuel cs = some (item, ',' :: others))
    (readOthers : items? strict fuel others = some (items, rest)) :
    items? strict (fuel + 1) cs = some (item :: items, rest) := by
  have comma : strict.next (',' :: others) = ',' :: others := rfl
  have stays : closes? strict ']' (',' :: others) = none := rfl
  rw [items?, read]
  simp only [Option.bind_eq_bind, Option.bind_some, comma, stays, (starts_of_items? readOthers).1,
    readOthers]
  rfl

theorem value?_list (read : items? strict fuel cs = some (items, rest)) :
    value? strict (fuel + 1) ('[' :: cs) = some (.list items, rest) := by
  obtain ⟨starts, opens⟩ := starts_of_items? read
  rw [value?, if_neg (by decide), if_pos rfl]
  simp only [starts, opens, read, Option.map_some]

theorem fields?_last (read : value? strict fuel cs = some (value, '\x7d' :: rest)) :
    fields? strict (fuel + 1) (stringChars escapeChar name ++ ':' :: cs)
      = some ([(.text name, value)], rest) := by
  have colon : strict.next (':' :: cs) = ':' :: cs := rfl
  rw [stringChars_append, fields?, string?_escaped]
  simp only [Option.bind_eq_bind, Option.bind_some, colon, (starts_of_value? read).1, read]
  rfl

theorem fields?_more (read : value? strict fuel cs = some (value, ',' :: others))
    (readOthers : fields? strict fuel others = some (fields, rest)) :
    fields? strict (fuel + 1) (stringChars escapeChar name ++ ':' :: cs)
      = some ((.text name, value) :: fields, rest) := by
  have colon : strict.next (':' :: cs) = ':' :: cs := rfl
  have comma : strict.next (',' :: others) = ',' :: others := rfl
  have stays : closes? strict '\x7d' (',' :: others) = none := rfl
  rw [stringChars_append, fields?, string?_escaped]
  simp only [Option.bind_eq_bind, Option.bind_some, colon, (starts_of_value? read).1, read, comma,
    stays, (starts_of_fields? readOthers).1, readOthers]
  rfl

theorem value?_mapping (read : fields? strict fuel cs = some (fields, rest)) :
    value? strict (fuel + 1) ('\x7b' :: cs) = some (.mapping (Table.ofEntries fields), rest) := by
  obtain ⟨starts, opens⟩ := starts_of_fields? read
  rw [value?, if_neg (by decide), if_neg (by decide), if_pos rfl]
  simp only [starts, opens, read, Option.map_some]

end Pieces

/-!
## Documents
-/

/-- The text of a document is read as the document, whatever follows it that does not go on with a
number. Each step of the reader takes a character, so there must be as many steps. -/
def ReadsBack (document : Document) : Prop :=
  ∀ chars, compactChars? escapeChar document = some chars →
    ∀ fuel rest, chars.length < fuel → EndsNumber rest →
      value? strict fuel (chars ++ rest) = some (document, rest)

theorem readsBack_scalar {value : Scalar} (plain : value.Plain) : ReadsBack (.scalar value) := by
  intro chars written fuel rest enough ends
  obtain ⟨fuel, rfl⟩ := Nat.exists_eq_succ_of_ne_zero (Nat.ne_zero_of_lt enough)
  cases value with
  | null =>
      cases written
      exact value?_null fuel rest
  | bool b =>
      cases written
      exact value?_bool b fuel rest
  | int n =>
      cases written
      have literal := integerLiteral_intText plain (by decide) (Nat.le_refl maxDigits)
      exact value?_of_number? (number?_literal literal ends)
  | text s =>
      cases written
      exact value?_text s fuel rest
  | float x => exact plain.elim
  | moment m => cases written
  | bytes data => cases written

theorem endsNumber_cons {c : Char} (mark : c = ',' ∨ c = ']' ∨ c = '\x7d') :
    EndsNumber (c :: rest) := by
  intro head isHead
  cases isHead
  rcases mark with rfl | rfl | rfl <;> decide

theorem items?_compact {item : Document} {items : List Document} {first others : List Char}
    (each : ∀ document ∈ item :: items, ReadsBack document)
    (written : compactChars? escapeChar item = some first)
    (writtenOthers : compactItems? escapeChar items = some others)
    (enough : first.length + others.length + 1 < fuel) (rest : List Char) :
    items? strict fuel (first ++ (others ++ ']' :: rest)) = some (item :: items, rest) := by
  induction items generalizing item first others fuel with
  | nil =>
      obtain ⟨fuel, rfl⟩ := Nat.exists_eq_succ_of_ne_zero (Nat.ne_zero_of_lt enough)
      cases writtenOthers
      have ends : EndsNumber (']' :: rest) := endsNumber_cons (.inr (.inl rfl))
      exact items?_last (each item (.head _) first written fuel _ (by omega) ends)
  | cons second more ih =>
      obtain ⟨fuel, rfl⟩ := Nat.exists_eq_succ_of_ne_zero (Nat.ne_zero_of_lt enough)
      simp only [compactItems?, Option.bind_eq_bind, Option.bind_eq_some_iff, Option.pure_def,
        Option.some.injEq] at writtenOthers
      obtain ⟨next, writtenNext, last, writtenLast, rfl⟩ := writtenOthers
      simp only [List.cons_append, List.append_assoc, List.length_cons, List.length_append]
        at enough ⊢
      have onward := ih (fun document member => each document (.tail _ member)) writtenNext
        writtenLast (show next.length + last.length + 1 < fuel by omega)
      have ends : EndsNumber (',' :: (next ++ (last ++ ']' :: rest))) := endsNumber_cons (.inl rfl)
      exact items?_more (each item (.head _) first written fuel _ (by omega) ends) onward

theorem fields?_compact {name : String} {value : Document} {fields : Table Document}
    {first others : List Char}
    (keys : ∀ field ∈ (.text name, value) :: fields, ∃ name, field.1 = Scalar.text name)
    (each : ∀ field ∈ (.text name, value) :: fields, ReadsBack field.2)
    (written : compactChars? escapeChar value = some first)
    (writtenOthers : compactFields? escapeChar fields = some others)
    (enough : first.length + others.length + 1 < fuel) (rest : List Char) :
    fields? strict fuel
        (stringChars escapeChar name ++ ':' :: (first ++ (others ++ '\x7d' :: rest)))
      = some ((.text name, value) :: fields, rest) := by
  induction fields generalizing name value first others fuel with
  | nil =>
      obtain ⟨fuel, rfl⟩ := Nat.exists_eq_succ_of_ne_zero (Nat.ne_zero_of_lt enough)
      cases writtenOthers
      have ends : EndsNumber ('\x7d' :: rest) := endsNumber_cons (.inr (.inr rfl))
      exact fields?_last (each _ (.head _) first written fuel _ (by omega) ends)
  | cons field more ih =>
      obtain ⟨fuel, rfl⟩ := Nat.exists_eq_succ_of_ne_zero (Nat.ne_zero_of_lt enough)
      obtain ⟨key, inner⟩ := field
      obtain ⟨second, rfl⟩ := keys _ (.tail _ (.head _))
      simp only [compactFields?, keyChars?, Option.bind_eq_bind, Option.bind_eq_some_iff,
        Option.pure_def, Option.some.injEq, exists_eq_left'] at writtenOthers
      obtain ⟨next, writtenNext, last, writtenLast, rfl⟩ := writtenOthers
      simp only [List.cons_append, List.append_assoc, List.length_cons, List.length_append]
        at enough ⊢
      have onward := ih (fun field member => keys field (.tail _ member))
        (fun field member => each field (.tail _ member)) writtenNext writtenLast
        (show next.length + last.length + 1 < fuel by omega)
      exact fields?_more
        (each _ (.head _) first written fuel _ (by omega) (endsNumber_cons (.inl rfl))) onward

theorem readsBack_list {items : List Document} (each : ∀ item ∈ items, ReadsBack item) :
    ReadsBack (.list items) := by
  intro chars written fuel rest enough _
  obtain ⟨fuel, rfl⟩ := Nat.exists_eq_succ_of_ne_zero (Nat.ne_zero_of_lt enough)
  cases items with
  | nil =>
      cases written
      rfl
  | cons item others =>
      simp only [compactChars?, Option.bind_eq_bind, Option.bind_eq_some_iff, Option.pure_def,
        Option.some.injEq] at written
      obtain ⟨first, writtenFirst, last, writtenLast, rfl⟩ := written
      simp only [List.cons_append, List.append_assoc, List.length_cons, List.length_append,
        List.length_nil, List.nil_append] at enough ⊢
      exact value?_list (items?_compact each writtenFirst writtenLast (by omega) rest)

/-- The keys of a mapping must be distinct, since the reader keeps one value for each key. -/
theorem readsBack_mapping {fields : Table Document} (distinct : fields.Distinct)
    (keys : ∀ field ∈ fields, ∃ name, field.1 = .text name)
    (each : ∀ field ∈ fields, ReadsBack field.2) : ReadsBack (.mapping fields) := by
  intro chars written fuel rest enough _
  obtain ⟨fuel, rfl⟩ := Nat.exists_eq_succ_of_ne_zero (Nat.ne_zero_of_lt enough)
  cases fields with
  | nil =>
      cases written
      rfl
  | cons field others =>
      obtain ⟨key, value⟩ := field
      obtain ⟨name, rfl⟩ := keys _ (.head _)
      simp only [compactChars?, keyChars?, Option.bind_eq_bind, Option.bind_eq_some_iff,
        Option.pure_def, Option.some.injEq, exists_eq_left'] at written
      obtain ⟨first, writtenFirst, last, writtenLast, rfl⟩ := written
      simp only [List.cons_append, List.append_assoc, List.length_cons, List.length_append,
        List.length_nil, List.nil_append] at enough ⊢
      have read := value?_mapping (fields?_compact keys each writtenFirst writtenLast
        (show first.length + last.length + 1 < fuel by omega) rest)
      rwa [distinct.ofEntries_eq] at read

theorem readsBack_of_plain (plain : document.Plain) (wellFormed : document.WellFormed) :
    ReadsBack document := by
  induction plain with
  | scalar plain => exact readsBack_scalar plain
  | set =>
      intro chars written
      cases written
  | list _ ih =>
      cases wellFormed with
      | list wellFormed =>
          exact readsBack_list fun item member => ih item member (wellFormed item member)
  | mapping keys _ ih =>
      obtain ⟨distinct, wellFormed⟩ := wellFormed.of_mapping
      exact readsBack_mapping distinct keys fun field member =>
        ih field member (wellFormed field member)

/-- What is read of the text of a plain document is the document itself. -/
theorem read?_compact? {text : String} (plain : document.Plain) (wellFormed : document.WellFormed)
    (written : compact? document = some text) : read? strict text = some document := by
  obtain ⟨chars, isChars, rfl⟩ := Option.map_eq_some_iff.1 written
  have ends : EndsNumber [] := fun _ none => by cases none
  have read := readsBack_of_plain plain wellFormed chars isChars (chars.length + 1) []
    (Nat.lt_succ_self _) ends
  rw [List.append_nil] at read
  rw [read?, String.toList_ofList, readChars?, (starts_of_value? read).1, read]
  rfl

/-!
## What has a text
-/

section Written

variable {escape : Char → List Char}

theorem compactItems?_isSome_iff {items : List Document} :
    (compactItems? escape items).isSome ↔ ∀ item ∈ items, (compactChars? escape item).isSome := by
  induction items with
  | nil => exact iff_of_true rfl (List.forall_mem_nil _)
  | cons item rest ih =>
      rw [List.forall_mem_cons, ← ih, compactItems?]
      cases compactChars? escape item <;> cases compactItems? escape rest <;> simp

theorem compactFields?_isSome_iff {fields : Table Document}
    (keys : ∀ field ∈ fields, ∃ name, field.1 = .text name) :
    (compactFields? escape fields).isSome
      ↔ ∀ field ∈ fields, (compactChars? escape field.2).isSome := by
  induction fields with
  | nil => exact iff_of_true rfl (List.forall_mem_nil _)
  | cons field rest ih =>
      obtain ⟨key, value⟩ := field
      obtain ⟨name, rfl⟩ := keys _ (.head _)
      rw [List.forall_mem_cons, ← ih fun field member => keys field (.tail _ member),
        compactFields?]
      cases compactChars? escape value <;> cases compactFields? escape rest <;> simp [keyChars?]

theorem compactChars?_list_isSome_iff {items : List Document} :
    (compactChars? escape (.list items)).isSome
      ↔ ∀ item ∈ items, (compactChars? escape item).isSome := by
  cases items with
  | nil => exact iff_of_true rfl (List.forall_mem_nil _)
  | cons item rest =>
      rw [List.forall_mem_cons, ← compactItems?_isSome_iff, compactChars?]
      cases compactChars? escape item <;> cases compactItems? escape rest <;> simp

theorem compactChars?_mapping_isSome_iff {fields : Table Document}
    (keys : ∀ field ∈ fields, ∃ name, field.1 = .text name) :
    (compactChars? escape (.mapping fields)).isSome
      ↔ ∀ field ∈ fields, (compactChars? escape field.2).isSome := by
  cases fields with
  | nil => exact iff_of_true rfl (List.forall_mem_nil _)
  | cons field rest =>
      obtain ⟨key, value⟩ := field
      obtain ⟨name, rfl⟩ := keys _ (.head _)
      rw [List.forall_mem_cons,
        ← compactFields?_isSome_iff fun field member => keys field (.tail _ member), compactChars?]
      cases compactChars? escape value <;> cases compactFields? escape rest <;> simp [keyChars?]

theorem compactChars?_isSome_iff (plain : document.Plain) (wellFormed : document.WellFormed) :
    (compactChars? escape document).isSome ↔ document.IsJson := by
  induction plain with
  | @scalar value _ =>
      cases value with
      | null => exact iff_of_true rfl .null
      | bool _ => exact iff_of_true rfl .bool
      | int _ => exact iff_of_true rfl .int
      | float _ => exact iff_of_true rfl .float
      | text _ => exact iff_of_true rfl .text
      | moment _ => exact iff_of_false Bool.false_ne_true nofun
      | bytes _ => exact iff_of_false Bool.false_ne_true nofun
  | set => exact iff_of_false Bool.false_ne_true nofun
  | @list items _ ih =>
      rw [compactChars?_list_isSome_iff]
      cases wellFormed with
      | list wellFormed =>
          constructor
          · intro written
            exact .list fun item member => (ih item member (wellFormed item member)).1
              (written item member)
          · intro json item member
            cases json with
            | list json => exact (ih item member (wellFormed item member)).2 (json item member)
  | @mapping fields keys _ ih =>
      obtain ⟨distinct, wellFormed⟩ := wellFormed.of_mapping
      rw [compactChars?_mapping_isSome_iff keys]
      constructor
      · intro written
        exact .object distinct keys fun field member =>
          (ih field member (wellFormed field member)).1 (written field member)
      · intro json field member
        cases json with
        | object _ _ json => exact (ih field member (wellFormed field member)).2 (json field member)

end Written

/-- A plain document has a text exactly if it is a JSON value: sets, moments and byte strings have
none. -/
theorem compact?_isSome_iff (plain : document.Plain) (wellFormed : document.WellFormed) :
    (compact? document).isSome ↔ document.IsJson := by
  rw [compact?, Option.isSome_map]
  exact compactChars?_isSome_iff plain wellFormed

end Json

end PipelineOverride
