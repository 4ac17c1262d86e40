import PipelineOverride.Proofs.Substitution.Failure
import PipelineOverride.Proofs.Substitution.InTurn

/-!
# Entered text and placeholders

Substitution replaces slot after slot over the running text, so what was entered for an earlier slot
is searched for the placeholders of later ones. The text comes out as if all slots were replaced at
once exactly as long as this search finds nothing new, or as later slots undo what it did.
-/

set_option autoImplicit false

namespace PipelineOverride

/-- A slot with the text that was entered for it. -/
abbrev Entry := Slot × String

/-- A name without braces. -/
def BraceFree (name : String) : Prop :=
  '\x7b' ∉ name.toList ∧ '\x7d' ∉ name.toList

/-- The placeholder of a slot with its text form. -/
def Entry.replacement (entry : Entry) : Replacement where
  pattern := entry.1.placeholder.toList
  text := (entry.1.type.form entry.2).toList

/-- Entries as substitution takes them. -/
def withRawTexts (entries : List Entry) : List (Slot × Document) :=
  entries.map fun entry => (entry.1, .text entry.2)

/-- A text with the placeholders of all entries replaced at once. -/
def simultaneous (entries : List Entry) (s : String) : String :=
  String.ofList (replaceEach (entries.map Entry.replacement) s.toList)

/-- Substitution makes one text of another, as a key and as a leaf that is no whole placeholder. -/
def FillsTo (entries : List Entry) (s result : String) : Prop :=
  substituteKey (withRawTexts entries) (.text s) = .ok (.text result)
    ∧ (wholeSlot? (withRawTexts entries) s = none →
      substituteLeaf (withRawTexts entries) s = .ok (.text result))

variable {entries : List Entry}

theorem Slot.placeholder_toList (slot : Slot) :
    slot.placeholder.toList = '\x7b' :: (slot.name.toList ++ ['\x7d']) := by
  simp [Slot.placeholder, String.toList_append]

theorem Slot.placeholder_bracketed {slot : Slot} (braceFree : BraceFree slot.name) :
    Bracketed slot.placeholder.toList :=
  ⟨slot.name.toList, braceFree.1, braceFree.2, slot.placeholder_toList⟩

theorem Slot.name_eq_of_placeholder {slot other : Slot}
    (same : slot.placeholder.toList = other.placeholder.toList) : slot.name = other.name := by
  rw [Slot.placeholder_toList, Slot.placeholder_toList, List.cons.injEq] at same
  exact String.toList_injective (List.append_cancel_right same.2)

theorem placeholders_of_entries (distinct : (entries.map fun entry => entry.1.name).Nodup)
    (braceFree : ∀ entry ∈ entries, BraceFree entry.1.name) :
    Placeholders (entries.map Entry.replacement) := by
  constructor
  · intro replacement member
    obtain ⟨entry, isEntry, rfl⟩ := List.mem_map.1 member
    exact Slot.placeholder_bracketed (braceFree entry isEntry)
  · rw [List.map_map]
    refine List.Pairwise.map _ (fun first second differ same => ?_) (List.pairwise_map.1 distinct)
    exact differ (Slot.name_eq_of_placeholder same)

theorem replaceAll_of_not_occursIn {pattern cs : List Char} (text : List Char)
    (absent : occursIn pattern cs = false) : replaceAll pattern text cs = cs := by
  induction cs with
  | nil => rfl
  | cons c rest ih =>
      rw [occursIn, Bool.or_eq_false_iff] at absent
      have onward := ih absent.2
      rw [replaceAll] at onward ⊢
      rw [replaceFrom, if_neg (Bool.eq_false_iff.1 absent.1), onward]

theorem substituteText_eq_replaceInTurn (entries : List Entry) (cs : List Char) :
    substituteText (withRawTexts entries) cs
      = .ok (replaceInTurn (entries.map Entry.replacement) cs) := by
  induction entries generalizing cs with
  | nil => rfl
  | cons entry rest ih =>
      obtain ⟨slot, raw⟩ := entry
      simp only [withRawTexts, List.map_cons] at ih ⊢
      rw [substituteText, textForm_text, Except.ok_bind]
      by_cases present : occursIn slot.placeholder.toList cs = true
      · rw [if_pos present, ih]
        rfl
      · have unchanged := replaceAll_of_not_occursIn (slot.type.form raw).toList
          (Bool.eq_false_iff.2 present)
        rw [if_neg present, ih, replaceInTurn, replaceInTurn, List.foldl_cons,
          Entry.replacement, unchanged]

theorem fillsTo_iff {s result : String} : FillsTo entries s result ↔
    replaceInTurn (entries.map Entry.replacement) s.toList = result.toList := by
  have filled := substituteText_eq_replaceInTurn entries s.toList
  constructor
  · intro given
    obtain ⟨asKey, _⟩ := given
    rw [substituteKey, filled] at asKey
    simp only [Except.map, Except.ok.injEq, Scalar.text.injEq] at asKey
    rw [← asKey, String.toList_ofList]
  · intro same
    rw [same] at filled
    constructor
    · rw [substituteKey, filled, Except.map, String.ofList_toList]
    · intro noWhole
      rw [substituteLeaf, noWhole]
      simp only [filled, Except.map, String.ofList_toList]

/-- Substitution replaces all placeholders at once exactly if the text is undisturbed, or spoiled
and then restored by later slots. It does so for every initial part of the slots exactly if the text
is undisturbed. What is replaced at once does not depend on the order of the slots. -/
theorem fills_simultaneously_iff (distinct : (entries.map fun entry => entry.1.name).Nodup)
    (braceFree : ∀ entry ∈ entries, BraceFree entry.1.name) (s : String) :
    (FillsTo entries s (simultaneous entries s) ↔
        Undisturbed (entries.map Entry.replacement) s.toList
          ∨ Restored (entries.map Entry.replacement) s.toList)
      ∧ ((∀ first, first <+: entries → FillsTo first s (simultaneous first s)) ↔
        Undisturbed (entries.map Entry.replacement) s.toList)
      ∧ ∀ others : List Entry, others.Perm entries →
        simultaneous others s = simultaneous entries s := by
  have placeholders := placeholders_of_entries distinct braceFree
  refine ⟨?_, ?_, ?_⟩
  · rw [← replaceInTurn_eq_replaceEach_iff placeholders, fillsTo_iff, simultaneous,
      String.toList_ofList]
  · rw [← replaceInTurn_initial_iff placeholders]
    simp only [fillsTo_iff, simultaneous, String.toList_ofList]
    constructor
    · intro agrees first starts
      obtain ⟨own, ownStarts, rfl⟩ := List.prefix_map_iff.1 starts
      exact agrees own ownStarts
    · intro agrees first starts
      exact agrees _ (starts.map Entry.replacement)
  · intro others perm
    rw [simultaneous, simultaneous, replaceEach_perm placeholders (perm.map Entry.replacement)]

/-- A slot for any text, without a default. -/
def Slot.plain (name : String) : Slot where
  name := name
  default := ""
  type := .string
  verify := none
  patternMessage := noText
  label := noText
  description := noText
  inputType := noText

theorem fills_simultaneously_of_other_braces :
    FillsTo [(Slot.plain "a", "say \x7bnot\x7d"), (Slot.plain "b", "X")] "[\x7ba\x7d]"
      (simultaneous [(Slot.plain "a", "say \x7bnot\x7d"), (Slot.plain "b", "X")]
        "[\x7ba\x7d]") := by
  refine (fills_simultaneously_iff (by decide) (fun entry member => ?_) _).1.2 (.inl ?_)
  · simp only [List.mem_cons, List.not_mem_nil, or_false] at member
    rcases member with rfl | rfl
    · exact ⟨by decide, by decide⟩
    · exact ⟨by decide, by decide⟩
  · intro earlier replacement later split
    right
    rcases earlier with _ | ⟨first, _ | ⟨second, _ | ⟨third, rest⟩⟩⟩
    · rw [replaceEach_nil]
    · cases split
      decide
    · cases split
    · cases split

/-- A value that names a later slot is replaced, and the other order gives another text. -/
theorem value_with_placeholder_is_replaced :
    FillsTo [(Slot.plain "a", "\x7bb\x7d"), (Slot.plain "b", "X")] "[\x7ba\x7d]" "[X]"
      ∧ FillsTo [(Slot.plain "b", "X"), (Slot.plain "a", "\x7bb\x7d")] "[\x7ba\x7d]"
        "[\x7bb\x7d]"
      ∧ simultaneous [(Slot.plain "a", "\x7bb\x7d"), (Slot.plain "b", "X")] "[\x7ba\x7d]"
        = "[\x7bb\x7d]" := by
  refine ⟨fillsTo_iff.2 ?_, fillsTo_iff.2 ?_, ?_⟩
  · decide
  · decide
  · decide

end PipelineOverride
