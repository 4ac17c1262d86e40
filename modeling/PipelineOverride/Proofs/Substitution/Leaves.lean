import PipelineOverride.Proofs.Document.Rewriting
import PipelineOverride.Proofs.Substitution.RawText
import PipelineOverride.Proofs.Substitution.Simultaneous

/-!
# The leaves of a filled template

A template is refused exactly if one of its leaves is the whole placeholder of a slot whose value
does not fit, and the first such leaf says why. If it is filled, each whole placeholder is a value
of the type of its slot, at the place that its keys lead to after substitution. A field loses its
place only to a later field of the same mapping whose key has become the same.
-/

set_option autoImplicit false

namespace PipelineOverride

/-!
## Values of slots
-/

/-- The value that the text of a slot stands for where the placeholder is a whole leaf. -/
inductive SlotType.Denotes : SlotType → String → Document → Prop where
  | integer {raw : String} {n : Int} :
      Json.read? Json.strict (SlotType.int.form raw) = some (.int n) →
      Decimal.Binary64.overflows n = false → Denotes .int raw (.int n)
  | float {raw : String} {x : Decimal.Binary64} :
      Json.read? Json.strict (SlotType.int.form raw) = some (.float x) →
      x.isFinite = true → Denotes .int raw (.float x)
  | truth {raw : String} : Denotes .bool raw (.bool (trueTexts.contains (Text.lower raw)))
  | string {raw : String} : Denotes .string raw (.text raw)

theorem readNumber?_eq_ok_some_iff {s : String} {number : Document} :
    readNumber? s = .ok (some number) ↔
      (∃ n, Json.read? Json.strict s = some (.int n) ∧ Decimal.Binary64.overflows n = false ∧
          number = .int n) ∨
        ∃ x, Json.read? Json.strict s = some (.float x) ∧ x.isFinite = true ∧
          number = .float x := by
  rw [readNumber?]
  constructor
  · intro read
    split at read
    · rename_i n written
      split at read
      · cases read
      · rename_i fits
        cases read
        exact .inl ⟨n, written, Bool.eq_false_iff.2 fits, rfl⟩
    · rename_i x written
      split at read
      · rename_i finite
        cases read
        exact .inr ⟨x, written, finite, rfl⟩
      · cases read
    · cases read
  · intro given
    rcases given with ⟨n, written, fits, rfl⟩ | ⟨x, written, finite, rfl⟩
    · simp only [written, fits, Bool.false_eq_true, if_false]
    · simp only [written, finite, if_true]

/-- A text is coerced to the value that it stands for, and to nothing else. -/
theorem coerce_eq_ok_iff {raw name : String} {type : SlotType} {value : Document} :
    coerce (.text raw) type name = .ok value ↔ type.Denotes raw value := by
  cases type with
  | int =>
      rw [coerce_int_text, Except.bind_eq_ok_iff]
      constructor
      · intro given
        obtain ⟨number, read, ends⟩ := given
        cases number with
        | none => cases ends
        | some number =>
            cases ends
            rcases readNumber?_eq_ok_some_iff.1 read
              with ⟨n, written, fits, rfl⟩ | ⟨x, written, finite, rfl⟩
            · exact .integer written fits
            · exact .float written finite
      · intro denotes
        refine ⟨some value, readNumber?_eq_ok_some_iff.2 ?_, rfl⟩
        cases denotes with
        | integer written fits => exact .inl ⟨_, written, fits, rfl⟩
        | float written finite => exact .inr ⟨_, written, finite, rfl⟩
  | bool =>
      rw [coerce, coerceBool_text]
      constructor
      · intro given
        cases given
        exact .truth
      · intro denotes
        cases denotes
        rfl
  | string =>
      rw [coerce]
      constructor
      · intro given
        cases given
        exact .string
      · intro denotes
        cases denotes
        rfl

/-!
## Refused leaves
-/

/-- A leaf is the placeholder of a slot, the first declared one of its name. -/
def WholePlaceholder (declared : List Slot) (leaf : String) (slot : Slot) : Prop :=
  leaf = slot.placeholder ∧ ∃ earlier later, declared = earlier ++ slot :: later ∧
    ∀ other ∈ earlier, other.name ≠ slot.name

/-- A leaf is a whole placeholder, and the value of its slot does not fit. -/
def Refused (declared : List Slot) (values : Table Document) (leaf : String)
    (failure : Failure) : Prop :=
  ∃ slot, WholePlaceholder declared leaf slot ∧
    coerce (slot.rawValue values) slot.type slot.name = .error failure

section Refused

variable {declared : List Slot} {values : Table Document} {leaf : String} {slot : Slot}

theorem Slot.placeholder_eq_iff {slot other : Slot} :
    slot.placeholder = other.placeholder ↔ slot.name = other.name := by
  constructor
  · intro same
    exact Slot.name_eq_of_placeholder (congrArg String.toList same)
  · intro same
    rw [Slot.placeholder, Slot.placeholder, same]

theorem wholeSlot?_eq_some_iff {raw : Document} :
    wholeSlot? (rawValues declared values) leaf = some (slot, raw) ↔
      WholePlaceholder declared leaf slot ∧ raw = slot.rawValue values := by
  rw [wholeSlot?, rawValues, List.find?_map, Option.map_eq_some_iff, WholePlaceholder]
  simp only [List.find?_eq_some_iff_append, Function.comp_apply, decide_eq_true_eq, Prod.mk.injEq]
  constructor
  · intro given
    obtain ⟨found, ⟨isLeaf, earlier, later, split, differ⟩, rfl, isRaw⟩ := given
    refine ⟨⟨isLeaf, earlier, later, split, fun other member same => ?_⟩, isRaw.symm⟩
    have apart := differ other member
    rw [Bool.not_eq_true', decide_eq_false_iff_not] at apart
    exact apart (isLeaf.trans (Slot.placeholder_eq_iff.2 same.symm))
  · intro given
    obtain ⟨⟨isLeaf, earlier, later, split, differ⟩, isRaw⟩ := given
    refine ⟨slot, ⟨isLeaf, earlier, later, split, fun other member => ?_⟩, rfl, isRaw.symm⟩
    rw [Bool.not_eq_true', decide_eq_false_iff_not]
    intro isOther
    exact differ other member (Slot.placeholder_eq_iff.1 (isOther.symm.trans isLeaf))

theorem substituteLeaf_whole (whole : WholePlaceholder declared leaf slot) :
    substituteLeaf (rawValues declared values) leaf
      = coerce (slot.rawValue values) slot.type slot.name := by
  have isWhole : wholeSlot? (rawValues declared values) leaf = some (slot, slot.rawValue values) :=
    wholeSlot?_eq_some_iff.2 ⟨whole, rfl⟩
  rw [substituteLeaf, isWhole]

theorem leafFailure?_eq_some_iff {failure : Failure} :
    leafFailure? (rawValues declared values) leaf = some failure ↔
      Refused declared values leaf failure := by
  rw [leafFailure?, Option.bind_eq_some_iff, Refused]
  constructor
  · intro given
    obtain ⟨⟨slot, raw⟩, whole, fails⟩ := given
    obtain ⟨isWhole, rfl⟩ := wholeSlot?_eq_some_iff.1 whole
    exact ⟨slot, isWhole, failure?_eq_some_iff.1 fails⟩
  · intro given
    obtain ⟨slot, isWhole, fails⟩ := given
    exact ⟨(slot, slot.rawValue values), wholeSlot?_eq_some_iff.2 ⟨isWhole, rfl⟩,
      failure?_eq_some_iff.2 fails⟩

theorem leafFailure?_eq_none_iff : leafFailure? (rawValues declared values) leaf = none ↔
    ∀ failure, ¬ Refused declared values leaf failure := by
  rw [Option.eq_none_iff_forall_ne_some]
  exact forall_congr' fun failure => not_congr leafFailure?_eq_some_iff

end Refused

/-!
## Filled templates
-/

section Filled

variable {slots : List (Slot × Document)}

/-- The key that a key of a template becomes. -/
def keyAfter (slots : List (Slot × Document)) (key : Scalar) : Scalar :=
  (substituteKey slots key).toOption.getD key

/-- What a leaf of a template becomes. -/
def leafAfter (slots : List (Slot × Document)) (leaf : String) : Document :=
  (substituteLeaf slots leaf).toOption.getD (.text leaf)

theorem keyAfter_of_ok {key newKey : Scalar} (filled : substituteKey slots key = .ok newKey) :
    keyAfter slots key = newKey := by
  rw [keyAfter, filled]
  rfl

theorem leafAfter_of_ok {leaf : String} {value : Document}
    (filled : substituteLeaf slots leaf = .ok value) : leafAfter slots leaf = value := by
  rw [leafAfter, filled]
  rfl

mutual

/-- A filled template is the template with its keys and leaves rewritten. -/
theorem eq_rewrite_of_substitute : ∀ {body result : Document},
    substitute slots body = .ok result → result = body.rewrite (keyAfter slots) (leafAfter slots)
  | .scalar (.text _), _, filled => by
      rw [substitute] at filled
      rw [Document.rewrite, leafAfter_of_ok filled]
  | .scalar .null, _, filled => by cases filled; rfl
  | .scalar (.bool _), _, filled => by cases filled; rfl
  | .scalar (.int _), _, filled => by cases filled; rfl
  | .scalar (.float _), _, filled => by cases filled; rfl
  | .scalar (.moment _), _, filled => by cases filled; rfl
  | .scalar (.bytes _), _, filled => by cases filled; rfl
  | .set _, _, filled => by cases filled; rfl
  | .list _, _, filled => by
      rw [substitute] at filled
      obtain ⟨results, filledItems, rfl⟩ := Except.map_eq_ok_iff.1 filled
      rw [Document.rewrite, eq_rewrite_of_substituteItems filledItems]
  | .mapping _, _, filled => by
      rw [substitute] at filled
      obtain ⟨entries, filledFields, rfl⟩ := Except.map_eq_ok_iff.1 filled
      rw [Document.rewrite, eq_rewrite_of_substituteFields filledFields]

theorem eq_rewrite_of_substituteItems : ∀ {items results : List Document},
    substituteItems slots items = .ok results →
      results = Document.rewriteItems (keyAfter slots) (leafAfter slots) items
  | [], _, filled => by cases filled; rfl
  | _ :: _, _, filled => by
      simp only [substituteItems, Except.bind_eq_ok_iff] at filled
      obtain ⟨first, filledFirst, others, filledOthers, ends⟩ := filled
      cases ends
      rw [Document.rewriteItems, eq_rewrite_of_substitute filledFirst,
        eq_rewrite_of_substituteItems filledOthers]

theorem eq_rewrite_of_substituteFields : ∀ {fields entries : List (Scalar × Document)},
    substituteFields slots fields = .ok entries →
      entries = Document.rewriteFields (keyAfter slots) (leafAfter slots) fields
  | [], _, filled => by cases filled; rfl
  | (_, _) :: _, _, filled => by
      simp only [substituteFields, Except.bind_eq_ok_iff] at filled
      obtain ⟨newKey, filledKey, value, filledValue, others, filledOthers, ends⟩ := filled
      cases ends
      rw [Document.rewriteFields, keyAfter_of_ok filledKey, eq_rewrite_of_substitute filledValue,
        eq_rewrite_of_substituteFields filledOthers]

end

end Filled

section Template

variable {body : Document} {declared : List Slot} {values : Table Document}

theorem fillTemplate_eq_error_iff (texts : TextValues values) {failure : Failure} :
    fillTemplate body declared values = .error failure ↔
      ∃ before leaf after, body.leaves = before ++ leaf :: after ∧
        Refused declared values leaf failure ∧
        ∀ earlier ∈ before, ∀ other, ¬ Refused declared values earlier other := by
  rw [← failure?_eq_some_iff, fillTemplate, substitute_failure? (rawValues_texts texts declared),
    List.findSome?_eq_some_iff]
  simp only [leafFailure?_eq_some_iff, leafFailure?_eq_none_iff]

/-- A template is refused exactly if one of its leaves is. -/
theorem fillTemplate_fails_iff (texts : TextValues values) :
    (∃ failure, fillTemplate body declared values = .error failure) ↔
      ∃ leaf ∈ body.leaves, ∃ failure, Refused declared values leaf failure := by
  have fails := substitute_failure? (rawValues_texts texts declared) body
  constructor
  · intro given
    obtain ⟨failure, isFailure⟩ := given
    rw [fillTemplate, ← failure?_eq_some_iff, fails] at isFailure
    obtain ⟨leaf, member, refused⟩ := List.exists_of_findSome?_eq_some isFailure
    exact ⟨leaf, member, failure, leafFailure?_eq_some_iff.1 refused⟩
  · intro given
    obtain ⟨leaf, member, failure, refused⟩ := given
    cases outcome : fillTemplate body declared values with
    | error other => exact ⟨other, rfl⟩
    | ok result =>
        rw [fillTemplate] at outcome
        rw [outcome, failure?_ok, eq_comm, List.findSome?_eq_none_iff] at fails
        exact absurd refused (leafFailure?_eq_none_iff.1 (fails leaf member) failure)

/-- The leaf is the value that its text was coerced to. -/
theorem leafAfter_whole (texts : TextValues values) {leaf : String} {slot : Slot}
    {result : Document} (filled : fillTemplate body declared values = .ok result)
    (member : leaf ∈ body.leaves) (whole : WholePlaceholder declared leaf slot) :
    coerce (slot.rawValue values) slot.type slot.name
      = .ok (leafAfter (rawValues declared values) leaf) := by
  cases outcome : coerce (slot.rawValue values) slot.type slot.name with
  | error failure =>
      have refused := (fillTemplate_fails_iff texts).2
        ⟨leaf, member, failure, slot, whole, outcome⟩
      obtain ⟨other, isOther⟩ := refused
      cases filled.symm.trans isOther
  | ok value => rw [leafAfter_of_ok ((substituteLeaf_whole whole).trans outcome)]

/-- A document is a template filled with the values of its slots. Each whole placeholder is the
value that was entered, in the type of its slot. It stands where the keys above it lead to after
substitution, unless a later field of the same mapping has taken the place of one of them. -/
structure FilledWith (declared : List Slot) (values : Table Document) (body result : Document) :
    Prop where
  rewritten : result = body.rewrite (keyAfter (rawValues declared values))
    (leafAfter (rawValues declared values))
  coerced : ∀ leaf ∈ body.leaves, ∀ slot, WholePlaceholder declared leaf slot →
    ∃ raw value, slot.rawValue values = .text raw ∧
      coerce (.text raw) slot.type slot.name = .ok value ∧ slot.type.Denotes raw value ∧
      leafAfter (rawValues declared values) leaf = value
  placed : ∀ position leaf,
    KeptAt (keyAfter (rawValues declared values)) body position (.text leaf) →
      result.place? (position.map (Document.Step.rewrite (keyAfter (rawValues declared values))))
        = some (leafAfter (rawValues declared values) leaf)
  kept : body.IsJson → KeysStayApart (keyAfter (rawValues declared values)) body →
    ∀ position inner, body.place? position = some inner →
      KeptAt (keyAfter (rawValues declared values)) body position inner

theorem filledWith_of_ok (texts : TextValues values) {result : Document}
    (filled : fillTemplate body declared values = .ok result) :
    FilledWith declared values body result := by
  have rewritten := eq_rewrite_of_substitute filled
  refine ⟨rewritten, ?_, ?_, ?_⟩
  · intro leaf member slot whole
    obtain ⟨raw, isRaw⟩ := slot.rawValue_text texts
    have coerced := leafAfter_whole texts filled member whole
    rw [isRaw] at coerced
    exact ⟨raw, _, isRaw, coerced, coerce_eq_ok_iff.1 coerced, rfl⟩
  · intro position leaf kept
    rw [rewritten]
    exact kept.placed
  · intro json apart position inner there
    exact apart.kept json there

/-- A template is refused exactly if a leaf is the whole placeholder of a slot whose value does not
fit, and then with the failure of the first such leaf. Keys, longer texts and other slots are never
the reason. Otherwise the template is filled. -/
theorem filling_decided_by_leaves (texts : TextValues values) :
    ((∃ failure, fillTemplate body declared values = .error failure) ↔
        ∃ leaf ∈ body.leaves, ∃ failure, Refused declared values leaf failure)
      ∧ (∀ failure, fillTemplate body declared values = .error failure ↔
        ∃ before leaf after, body.leaves = before ++ leaf :: after ∧
          Refused declared values leaf failure ∧
          ∀ earlier ∈ before, ∀ other, ¬ Refused declared values earlier other)
      ∧ ∀ result, fillTemplate body declared values = .ok result →
        FilledWith declared values body result :=
  ⟨fillTemplate_fails_iff texts, fun _ => fillTemplate_eq_error_iff texts,
    fun _ filled => filledWith_of_ok texts filled⟩

end Template

/-- A count and a stage, as the slots of one option. -/
def stageSlots : List Slot :=
  [{ Slot.plain "count" with type := .int }, Slot.plain "stage"]

/-- The whole placeholder of the count below a key with the placeholder of the stage, and the count
inside a longer text. -/
def stageTemplate : Document :=
  .object [("Enter\x7bstage\x7d",
    .list [.text "\x7bcount\x7d times", .object [("repeat", .text "\x7bcount\x7d")]])]

def stageValues (count : String) : Table Document :=
  [(.text "count", .text count), (.text "stage", .text "Cave")]

theorem stageValues_texts (count : String) : TextValues (stageValues count) := by
  intro entry member
  simp only [stageValues, List.mem_cons, List.not_mem_nil, or_false] at member
  rcases member with rfl | rfl
  · exact ⟨count, rfl⟩
  · exact ⟨"Cave", rfl⟩

theorem stageTemplate_filled : fillTemplate stageTemplate stageSlots (stageValues "7")
    = .ok (.object [("EnterCave",
      .list [.text "7 times", .object [("repeat", .int 7)]])]) := by
  have coerced : coerce (.text "7") .int "count" = .ok (.int 7) :=
    coerce_eq_ok_iff.2 (.integer rfl (by decide +kernel))
  have count : substituteLeaf (rawValues stageSlots (stageValues "7")) "\x7bcount\x7d"
      = .ok (.int 7) := coerced
  simp only [fillTemplate, stageTemplate, Document.object, List.map_cons, List.map_nil, substitute,
    substituteItems, substituteFields, count]
  rfl

theorem stageTemplate_decided_by_leaves :
    fillTemplate stageTemplate stageSlots (stageValues "many")
        = .error (.slot ⟨"count", "many", .int⟩)
      ∧ ∃ result, fillTemplate stageTemplate stageSlots (stageValues "7") = .ok result
        ∧ FilledWith stageSlots (stageValues "7") stageTemplate result
        ∧ result.place? [.key (.text "EnterCave"), .item 1, .key (.text "repeat")]
          = some (.int 7) := by
  constructor
  · refine ((filling_decided_by_leaves (stageValues_texts "many")).2.1 _).2
      ⟨["\x7bcount\x7d times"], "\x7bcount\x7d", [], rfl, ?_, ?_⟩
    · exact leafFailure?_eq_some_iff.1 rfl
    · intro earlier member
      obtain rfl := List.mem_singleton.1 member
      exact leafFailure?_eq_none_iff.1 rfl
  · refine ⟨_, stageTemplate_filled, ?_, rfl⟩
    exact (filling_decided_by_leaves (stageValues_texts "7")).2.2 _ stageTemplate_filled

end PipelineOverride
