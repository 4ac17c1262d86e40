import Mathlib.Data.List.Nodup
import PipelineOverride.Override.Substitution

/-!
# Replacing placeholders

Placeholders begin and end with a brace and have none inside, so two of them in one text are the
same or apart. Replacing several of them at once is a single scan of the text from the left: at each
position either one placeholder begins, or the character is copied. Everything about such scans
follows from these two equations by induction along the scan.
-/

set_option autoImplicit false

namespace PipelineOverride

/-!
## Braces
-/

/-- A text that begins and ends with a brace and has none inside. -/
def Bracketed (pattern : List Char) : Prop :=
  ∃ name : List Char, '\x7b' ∉ name ∧ '\x7d' ∉ name ∧ pattern = '\x7b' :: (name ++ ['\x7d'])

theorem eq_of_append_closing {first second more others : List Char}
    (firstOpen : '\x7d' ∉ first) (secondOpen : '\x7d' ∉ second)
    (same : first ++ '\x7d' :: more = second ++ '\x7d' :: others) : first = second := by
  induction first generalizing second with
  | nil =>
      cases second with
      | nil => rfl
      | cons d second =>
          cases same
          exact absurd (.head _) secondOpen
  | cons c first ih =>
      cases second with
      | nil =>
          cases same
          exact absurd (.head _) firstOpen
      | cons d second =>
          simp only [List.cons_append, List.cons.injEq] at same
          obtain ⟨rfl, same⟩ := same
          rw [ih (fun member => firstOpen (.tail _ member))
            (fun member => secondOpen (.tail _ member)) same]

namespace Bracketed

variable {pattern other rest : List Char}

theorem ne_nil (bracketed : Bracketed pattern) : pattern ≠ [] := by
  obtain ⟨name, _, _, rfl⟩ := bracketed
  exact List.cons_ne_nil _ _

theorem exists_cons (bracketed : Bracketed pattern) :
    ∃ tail, '\x7b' ∉ tail ∧ pattern = '\x7b' :: tail := by
  obtain ⟨name, noOpening, _, rfl⟩ := bracketed
  refine ⟨name ++ ['\x7d'], ?_, rfl⟩
  intro member
  rcases List.mem_append.1 member with inName | isClosing
  · exact noOpening inName
  · exact absurd (List.mem_singleton.1 isClosing) (by decide)

theorem not_starts_of_ne (bracketed : Bracketed pattern) {c : Char} (differs : c ≠ '\x7b') :
    ¬ pattern <+: c :: rest := by
  intro starts
  obtain ⟨tail, _, rfl⟩ := bracketed.exists_cons
  exact differs (List.cons_prefix_cons.1 starts).1.symm

/-- Two placeholders at the start of one text are the same. -/
theorem unique_at_start (bracketed : Bracketed pattern) (otherBracketed : Bracketed other)
    (starts : pattern <+: rest) (otherStarts : other <+: rest) : pattern = other := by
  obtain ⟨name, _, noClosing, rfl⟩ := bracketed
  obtain ⟨otherName, _, otherNoClosing, rfl⟩ := otherBracketed
  obtain ⟨more, rfl⟩ := starts
  obtain ⟨others, same⟩ := otherStarts
  simp only [List.cons_append, List.append_assoc, List.cons.injEq, true_and,
    List.nil_append] at same
  rw [eq_of_append_closing otherNoClosing noClosing same]

/-- A placeholder does not reach into a later one. -/
theorem starts_before (bracketed : Bracketed pattern) (later : Bracketed other)
    {c : Char} {cs : List Char} (starts : pattern <+: c :: (cs ++ (other ++ rest))) :
    pattern <+: c :: cs := by
  obtain ⟨tail, noOpening, rfl⟩ := bracketed.exists_cons
  obtain ⟨laterTail, _, rfl⟩ := later.exists_cons
  rw [List.cons_prefix_cons] at starts
  obtain ⟨rfl, starts⟩ := starts
  refine List.cons_prefix_cons.2 ⟨rfl, ?_⟩
  rcases List.prefix_or_prefix_of_prefix starts (List.prefix_append cs _) with inside | beyond
  · exact inside
  · obtain ⟨more, rfl⟩ := beyond
    rw [List.prefix_append_right_inj] at starts
    cases more with
    | nil => simp
    | cons d more =>
        obtain ⟨rfl, _⟩ := List.cons_prefix_cons.1 starts
        exact absurd (List.mem_append_right cs (.head _)) noOpening

end Bracketed

/-!
## Scans
-/

/-- A pattern with the text that takes its place. -/
structure Replacement where
  pattern : List Char
  text : List Char

/-- Replaces all patterns at once. The first `skipped` characters belong to a pattern that is
already replaced. -/
def replaceEachFrom (replacements : List Replacement) : Nat → List Char → List Char
  | _, [] => []
  | skipped + 1, _ :: rest => replaceEachFrom replacements skipped rest
  | 0, c :: rest =>
    match replacements.find? fun replacement => replacement.pattern.isPrefixOf (c :: rest) with
    | some replacement =>
      replacement.text ++ replaceEachFrom replacements (replacement.pattern.length - 1) rest
    | none => c :: replaceEachFrom replacements 0 rest

/-- Replaces all patterns in one scan of a text from the left, and copies everything else. -/
def replaceEach (replacements : List Replacement) (cs : List Char) : List Char :=
  replaceEachFrom replacements 0 cs

/-- The patterns of replacements are distinct placeholders. -/
structure Placeholders (replacements : List Replacement) : Prop where
  bracketed : ∀ replacement ∈ replacements, Bracketed replacement.pattern
  distinct : (replacements.map Replacement.pattern).Nodup

variable {replacements : List Replacement} {replacement : Replacement}

theorem Placeholders.single (bracketed : Bracketed replacement.pattern) :
    Placeholders [replacement] := by
  constructor
  · intro other member
    rw [List.mem_singleton.1 member]
    exact bracketed
  · exact List.nodup_singleton _

theorem Placeholders.initial {first : List Replacement}
    (placeholders : Placeholders replacements) (starts : first <+: replacements) :
    Placeholders first := by
  constructor
  · exact fun replacement member => placeholders.bracketed replacement (starts.subset member)
  · exact placeholders.distinct.sublist (starts.sublist.map Replacement.pattern)

theorem Placeholders.perm {others : List Replacement} (placeholders : Placeholders replacements)
    (perm : others.Perm replacements) : Placeholders others := by
  constructor
  · exact fun replacement member => placeholders.bracketed replacement (perm.mem_iff.1 member)
  · exact (perm.map Replacement.pattern).nodup_iff.2 placeholders.distinct

theorem replaceAll_eq_replaceEach (pattern text cs : List Char) :
    replaceAll pattern text cs = replaceEach [⟨pattern, text⟩] cs := by
  have scans : ∀ skipped, replaceFrom pattern text skipped cs
      = replaceEachFrom [⟨pattern, text⟩] skipped cs := by
    induction cs with
    | nil => intro skipped; cases skipped <;> rfl
    | cons c rest ih =>
        intro skipped
        cases skipped with
        | succ skipped => exact ih skipped
        | zero =>
            simp only [replaceFrom, replaceEachFrom, List.find?_cons, List.find?_nil, ih]
            cases pattern.isPrefixOf (c :: rest) <;> rfl
  exact scans 0

theorem replaceEachFrom_skip (replacements : List Replacement) (skipped rest : List Char) :
    replaceEachFrom replacements skipped.length (skipped ++ rest)
      = replaceEach replacements rest := by
  induction skipped with
  | nil => rfl
  | cons c skipped ih => exact ih

theorem replaceEach_copy {c : Char} {rest : List Char}
    (free : ∀ replacement ∈ replacements, ¬ replacement.pattern <+: c :: rest) :
    replaceEach replacements (c :: rest) = c :: replaceEach replacements rest := by
  have none : replacements.find? (fun replacement =>
      replacement.pattern.isPrefixOf (c :: rest)) = none := by
    rw [List.find?_eq_none]
    intro replacement member starts
    exact free replacement member (List.isPrefixOf_iff_prefix.1 starts)
  rw [replaceEach, replaceEachFrom, none]
  rfl

theorem replaceEach_nil (cs : List Char) : replaceEach [] cs = cs := by
  induction cs with
  | nil => rfl
  | cons c rest ih =>
      rw [replaceEach_copy fun _ member => (List.not_mem_nil member).elim, ih]

theorem Placeholders.unique_at_start (placeholders : Placeholders replacements)
    {other : Replacement} {cs : List Char} (member : replacement ∈ replacements)
    (otherMember : other ∈ replacements) (starts : replacement.pattern <+: cs)
    (otherStarts : other.pattern <+: cs) : replacement = other :=
  List.inj_on_of_nodup_map placeholders.distinct member otherMember
    ((placeholders.bracketed _ member).unique_at_start (placeholders.bracketed _ otherMember) starts
      otherStarts)

theorem replaceEach_hit (placeholders : Placeholders replacements)
    (member : replacement ∈ replacements) (rest : List Char) :
    replaceEach replacements (replacement.pattern ++ rest)
      = replacement.text ++ replaceEach replacements rest := by
  obtain ⟨tail, _, isCons⟩ := (placeholders.bracketed _ member).exists_cons
  have found : replacements.find? (fun other =>
      other.pattern.isPrefixOf ('\x7b' :: (tail ++ rest))) = some replacement := by
    have starts : replacement.pattern <+: '\x7b' :: (tail ++ rest) := by
      rw [isCons]
      exact List.prefix_append _ _
    cases search : replacements.find? (fun other =>
        other.pattern.isPrefixOf ('\x7b' :: (tail ++ rest))) with
    | none =>
        have free := List.find?_eq_none.1 search replacement member
        exact absurd (List.isPrefixOf_iff_prefix.2 starts) free
    | some other =>
        have begins := List.find?_some search
        have otherStarts := List.isPrefixOf_iff_prefix.1 begins
        have otherMember := List.mem_of_find?_eq_some search
        rw [placeholders.unique_at_start member otherMember starts otherStarts]
  rw [isCons, replaceEach, List.cons_append, replaceEachFrom, found]
  simp only [isCons, List.length_cons, Nat.add_sub_cancel]
  rw [replaceEachFrom_skip]

/-- Induction along a scan. -/
theorem scan_induction (placeholders : Placeholders replacements) {motive : List Char → Prop}
    (nil : motive [])
    (hit : ∀ replacement ∈ replacements, ∀ rest, motive rest →
      motive (replacement.pattern ++ rest))
    (copy : ∀ c rest, (∀ replacement ∈ replacements, ¬ replacement.pattern <+: c :: rest) →
      motive rest → motive (c :: rest))
    (cs : List Char) : motive cs := by
  induction length : cs.length using Nat.strongRecOn generalizing cs with
  | ind count ih =>
      cases cs with
      | nil => exact nil
      | cons c rest =>
          by_cases starts : ∃ replacement ∈ replacements, replacement.pattern <+: c :: rest
          · obtain ⟨replacement, member, more, split⟩ := starts
            rw [← split]
            have shorter : more.length < count := by
              rw [← length, ← split, List.length_append]
              have := List.length_pos_iff.2 (placeholders.bracketed _ member).ne_nil
              omega
            exact hit replacement member more (ih more.length shorter more rfl)
          · have free : ∀ replacement ∈ replacements, ¬ replacement.pattern <+: c :: rest :=
              fun replacement member begins => starts ⟨replacement, member, begins⟩
            have shorter : rest.length < count := by
              rw [← length, List.length_cons]
              omega
            exact copy c rest free (ih rest.length shorter rest rfl)

theorem replaceEach_copy_all (placeholders : Placeholders replacements) {cs : List Char}
    (noOpening : '\x7b' ∉ cs) (rest : List Char) :
    replaceEach replacements (cs ++ rest) = cs ++ replaceEach replacements rest := by
  induction cs with
  | nil => rfl
  | cons c cs ih =>
      have notOpening : c ≠ '\x7b' := fun opens => noOpening (opens ▸ .head _)
      have free : ∀ replacement ∈ replacements, ¬ replacement.pattern <+: c :: (cs ++ rest) :=
        fun replacement member =>
          (placeholders.bracketed replacement member).not_starts_of_ne notOpening
      rw [List.cons_append, replaceEach_copy free, List.cons_append,
        ih fun member => noOpening (.tail _ member)]

theorem replaceEach_foreign (placeholders : Placeholders replacements) {pattern : List Char}
    (bracketed : Bracketed pattern)
    (foreign : ∀ replacement ∈ replacements, replacement.pattern ≠ pattern) (rest : List Char) :
    replaceEach replacements (pattern ++ rest) = pattern ++ replaceEach replacements rest := by
  have here : pattern <+: pattern ++ rest := List.prefix_append _ _
  have free : ∀ replacement ∈ replacements, ¬ replacement.pattern <+: pattern ++ rest := by
    intro replacement member starts
    exact foreign replacement member
      ((placeholders.bracketed _ member).unique_at_start bracketed starts here)
  obtain ⟨tail, noOpening, rfl⟩ := bracketed.exists_cons
  rw [List.cons_append] at free ⊢
  rw [replaceEach_copy free, replaceEach_copy_all placeholders noOpening, List.cons_append]

/-- A placeholder splits a scan into what comes before it and what comes after it. -/
theorem replaceEach_append_hit (placeholders : Placeholders replacements)
    (member : replacement ∈ replacements) (before after : List Char) :
    replaceEach replacements (before ++ (replacement.pattern ++ after))
      = replaceEach replacements before
        ++ (replacement.text ++ replaceEach replacements after) := by
  induction before using scan_induction placeholders with
  | nil => exact replaceEach_hit placeholders member after
  | hit other otherMember rest ih =>
      rw [List.append_assoc, replaceEach_hit placeholders otherMember, ih,
        replaceEach_hit placeholders otherMember, List.append_assoc]
  | copy c rest free ih =>
      have stillFree : ∀ other ∈ replacements,
          ¬ other.pattern <+: c :: (rest ++ (replacement.pattern ++ after)) := by
        intro other otherMember starts
        exact free other otherMember
          ((placeholders.bracketed _ otherMember).starts_before
            (placeholders.bracketed _ member) starts)
      rw [List.cons_append, replaceEach_copy stillFree, ih, replaceEach_copy free,
        List.cons_append]

theorem replaceEach_perm (placeholders : Placeholders replacements) {others : List Replacement}
    (perm : others.Perm replacements) (cs : List Char) :
    replaceEach others cs = replaceEach replacements cs := by
  have otherPlaceholders := placeholders.perm perm
  induction cs using scan_induction placeholders with
  | nil => rfl
  | hit replacement member rest ih =>
      rw [replaceEach_hit otherPlaceholders (perm.mem_iff.2 member),
        replaceEach_hit placeholders member, ih]
  | copy c rest free ih =>
      have otherFree : ∀ replacement ∈ others, ¬ replacement.pattern <+: c :: rest :=
        fun replacement member => free replacement (perm.mem_iff.1 member)
      rw [replaceEach_copy otherFree, replaceEach_copy free, ih]

/-!
## Occurrences
-/

/-- The number of positions at which a pattern begins in a text. -/
def occurrences (pattern : List Char) : List Char → Nat
  | [] => 0
  | c :: rest =>
    if pattern.isPrefixOf (c :: rest) then occurrences pattern rest + 1
    else occurrences pattern rest

variable {pattern : List Char}

theorem occurrences_copy {c : Char} {rest : List Char} (free : ¬ pattern <+: c :: rest) :
    occurrences pattern (c :: rest) = occurrences pattern rest := by
  rw [occurrences, if_neg]
  intro starts
  exact free (List.isPrefixOf_iff_prefix.1 starts)

theorem occurrences_copy_all (bracketed : Bracketed pattern) {cs : List Char}
    (noOpening : '\x7b' ∉ cs) (rest : List Char) :
    occurrences pattern (cs ++ rest) = occurrences pattern rest := by
  induction cs with
  | nil => rfl
  | cons c cs ih =>
      have notOpening : c ≠ '\x7b' := fun opens => noOpening (opens ▸ .head _)
      have free : ¬ pattern <+: c :: (cs ++ rest) := bracketed.not_starts_of_ne notOpening
      rw [List.cons_append, occurrences_copy free, ih fun member => noOpening (.tail _ member)]

theorem occurrences_hit (bracketed : Bracketed pattern) (rest : List Char) :
    occurrences pattern (pattern ++ rest) = occurrences pattern rest + 1 := by
  have here : pattern <+: pattern ++ rest := List.prefix_append _ _
  obtain ⟨tail, noOpening, isCons⟩ := bracketed.exists_cons
  rw [isCons, List.cons_append, ← isCons] at here ⊢
  rw [occurrences, if_pos (List.isPrefixOf_iff_prefix.2 here),
    occurrences_copy_all bracketed noOpening]

theorem occurrences_foreign (bracketed : Bracketed pattern) {other : List Char}
    (otherBracketed : Bracketed other) (foreign : other ≠ pattern) (rest : List Char) :
    occurrences pattern (other ++ rest) = occurrences pattern rest := by
  have free : ¬ pattern <+: other ++ rest := by
    intro starts
    exact foreign (otherBracketed.unique_at_start bracketed (List.prefix_append _ _) starts)
  obtain ⟨tail, noOpening, rfl⟩ := otherBracketed.exists_cons
  rw [List.cons_append] at free ⊢
  rw [occurrences_copy free, occurrences_copy_all bracketed noOpening]

end PipelineOverride
