import Mathlib.Data.List.Induction
import PipelineOverride.Proofs.Substitution.Placeholder

/-!
# Replacing in turn

Replacing one pattern after another over the running text, against replacing all of them at once. A
step keeps the two together exactly if its pattern occurs in the running text as often as in the
original one, or if it puts the pattern in its own place. This is read off both texts side by side:
they have the same gaps, and only occurrences inside the gaps can tell them apart.
-/

set_option autoImplicit false

namespace PipelineOverride

/-!
## One replacement
-/

section Single

variable {replacement : Replacement} {cs : List Char}

theorem length_replaceEach_single (bracketed : Bracketed replacement.pattern) (cs : List Char) :
    (replaceEach [replacement] cs).length
        + occurrences replacement.pattern cs * replacement.pattern.length
      = cs.length + occurrences replacement.pattern cs * replacement.text.length := by
  have placeholders := Placeholders.single bracketed
  induction cs using scan_induction placeholders with
  | nil => simp [replaceEach, replaceEachFrom, occurrences]
  | hit other member rest ih =>
      rw [List.mem_singleton.1 member]
      rw [replaceEach_hit placeholders (.head _), occurrences_hit bracketed, List.length_append,
        List.length_append, Nat.add_mul, Nat.add_mul]
      omega
  | copy c rest free ih =>
      rw [replaceEach_copy free, occurrences_copy (free replacement (.head _)),
        List.length_cons, List.length_cons]
      omega

theorem occurrences_append_hit {pattern : List Char} (bracketed : Bracketed pattern)
    (before after : List Char) : occurrences pattern (before ++ (pattern ++ after))
      = occurrences pattern before + 1 + occurrences pattern after := by
  have placeholders : Placeholders [⟨pattern, []⟩] := .single bracketed
  induction before using scan_induction placeholders with
  | nil =>
      rw [List.nil_append, occurrences_hit bracketed, occurrences]
      omega
  | hit other member rest ih =>
      rw [List.mem_singleton.1 member]
      rw [List.append_assoc, occurrences_hit bracketed, ih, occurrences_hit bracketed]
      omega
  | copy c rest free ih =>
      have absent : ¬ pattern <+: c :: rest := free ⟨pattern, []⟩ (.head _)
      have stillAbsent : ¬ pattern <+: c :: (rest ++ (pattern ++ after)) := fun starts =>
        absent (bracketed.starts_before bracketed starts)
      rw [List.cons_append, occurrences_copy stillAbsent, ih, occurrences_copy absent]

theorem replaceEach_single_of_absent (bracketed : Bracketed replacement.pattern)
    (absent : occurrences replacement.pattern cs = 0) : replaceEach [replacement] cs = cs := by
  have placeholders := Placeholders.single bracketed
  induction cs using scan_induction placeholders with
  | nil => rfl
  | hit other member rest ih =>
      rw [List.mem_singleton.1 member, occurrences_hit bracketed] at absent
      cases absent
  | copy c rest free ih =>
      rw [occurrences_copy (free replacement (.head _))] at absent
      rw [replaceEach_copy free, ih absent]

theorem replaceEach_single_of_same (bracketed : Bracketed replacement.pattern)
    (same : replacement.text = replacement.pattern) : replaceEach [replacement] cs = cs := by
  have placeholders := Placeholders.single bracketed
  induction cs using scan_induction placeholders with
  | nil => rfl
  | hit other member rest ih =>
      rw [List.mem_singleton.1 member, replaceEach_hit placeholders (.head _), ih, same]
  | copy c rest free ih => rw [replaceEach_copy free, ih]

theorem exists_split_of_occurrences {pattern : List Char} (bracketed : Bracketed pattern)
    (present : occurrences pattern cs ≠ 0) : ∃ before after, cs = before ++ (pattern ++ after) := by
  have placeholders : Placeholders [⟨pattern, []⟩] := .single bracketed
  induction cs using scan_induction placeholders with
  | nil => exact absurd rfl present
  | hit other member rest ih =>
      rw [List.mem_singleton.1 member]
      exact ⟨[], rest, rfl⟩
  | copy c rest free ih =>
      rw [occurrences_copy (free ⟨pattern, []⟩ (.head _))] at present
      obtain ⟨before, after, rfl⟩ := ih present
      exact ⟨c :: before, after, rfl⟩

/-- A replacement changes every text in which its pattern occurs, unless it puts the pattern in its
own place. -/
theorem replaceEach_single_eq_self_iff (bracketed : Bracketed replacement.pattern) :
    replaceEach [replacement] cs = cs ↔
      replacement.text = replacement.pattern ∨ occurrences replacement.pattern cs = 0 := by
  constructor
  · intro unchanged
    by_cases present : occurrences replacement.pattern cs = 0
    · exact .inr present
    · left
      have total := length_replaceEach_single bracketed cs
      rw [unchanged] at total
      have sameLength : replacement.text.length = replacement.pattern.length :=
        (Nat.eq_of_mul_eq_mul_left (Nat.pos_of_ne_zero present) (Nat.add_left_cancel total)).symm
      obtain ⟨before, after, rfl⟩ := exists_split_of_occurrences bracketed present
      rw [replaceEach_append_hit (.single bracketed) (.head _)] at unchanged
      have beforeLength : (replaceEach [replacement] before).length = before.length := by
        have part := length_replaceEach_single bracketed before
        rw [sameLength] at part
        exact Nat.add_right_cancel part
      have onward := (List.append_inj unchanged beforeLength).2
      exact (List.append_inj onward sameLength).1
  · intro given
    rcases given with same | absent
    · exact replaceEach_single_of_same bracketed same
    · exact replaceEach_single_of_absent bracketed absent

end Single

/-!
## Two scans side by side
-/

/-- The same gaps with a pattern between them in the first text, and what replaces it in the second
one, so many times. -/
inductive Woven (replacement : Replacement) : List Char → List Char → Nat → Prop where
  | done (last : List Char) : Woven replacement last last 0
  | hit (gap : List Char) {running result : List Char} {count : Nat} :
      Woven replacement running result count →
      Woven replacement (gap ++ (replacement.pattern ++ running))
        (gap ++ (replacement.text ++ result)) (count + 1)

namespace Woven

variable {replacement : Replacement} {running result : List Char} {count : Nat}

theorem prepend (woven : Woven replacement running result count) (cs : List Char) :
    Woven replacement (cs ++ running) (cs ++ result) count := by
  cases woven with
  | done => exact .done (cs ++ running)
  | hit gap rest =>
      have longer := Woven.hit (cs ++ gap) rest
      rw [List.append_assoc, List.append_assoc] at longer
      exact longer

theorem length_eq (woven : Woven replacement running result count) :
    result.length + count * replacement.pattern.length
      = running.length + count * replacement.text.length := by
  induction woven with
  | done last => simp
  | hit gap _ ih =>
      simp only [List.length_append, Nat.add_mul]
      omega

theorem le_occurrences (woven : Woven replacement running result count)
    (bracketed : Bracketed replacement.pattern) :
    count ≤ occurrences replacement.pattern running := by
  induction woven with
  | done last => exact Nat.zero_le _
  | hit gap _ ih =>
      rw [occurrences_append_hit bracketed]
      omega

/-- Replacing the pattern in the first text gives the second one exactly if the gaps are free of
it. -/
theorem replaceEach_eq_iff (woven : Woven replacement running result count)
    (bracketed : Bracketed replacement.pattern) :
    replaceEach [replacement] running = result ↔
      replacement.text = replacement.pattern
        ∨ occurrences replacement.pattern running = count := by
  induction woven with
  | done last => exact replaceEach_single_eq_self_iff bracketed
  | @hit gap running result count rest ih =>
      have atLeast := rest.le_occurrences bracketed
      rw [replaceEach_append_hit (.single bracketed) (.head _), occurrences_append_hit bracketed]
      constructor
      · intro same
        by_cases trivial : replacement.text = replacement.pattern
        · exact .inl trivial
        right
        have gapLength := length_replaceEach_single bracketed gap
        by_cases sameLength : replacement.text.length = replacement.pattern.length
        · -- Nothing changes its length, so the gaps of both texts can be compared one by one.
          rw [sameLength] at gapLength
          obtain ⟨gapSame, onward⟩ := List.append_inj same (Nat.add_right_cancel gapLength)
          have gapFree := (replaceEach_single_eq_self_iff bracketed).1 gapSame
          have runningExact := ih.1 (List.append_cancel_left onward)
          rw [gapFree.resolve_left trivial, runningExact.resolve_left trivial]
          omega
        · -- Every occurrence found too much changes the length by the same amount.
          have runningLength := length_replaceEach_single bracketed running
          have resultLength := rest.length_eq
          have total := congrArg List.length same
          simp only [List.length_append] at total
          obtain ⟨extra, more⟩ := Nat.exists_eq_add_of_le atLeast
          rw [more] at runningLength ⊢
          have balance : (occurrences replacement.pattern gap + extra) * replacement.text.length
              = (occurrences replacement.pattern gap + extra) * replacement.pattern.length := by
            simp only [Nat.add_mul] at runningLength ⊢
            omega
          by_cases none : occurrences replacement.pattern gap + extra = 0
          · omega
          · exact absurd (Nat.eq_of_mul_eq_mul_left (Nat.pos_of_ne_zero none) balance) sameLength
      · intro given
        rcases given with trivial | equal
        · rw [ih.2 (.inl trivial), replaceEach_single_of_same bracketed trivial]
        · have gapFree : occurrences replacement.pattern gap = 0 := by omega
          have runningExact : occurrences replacement.pattern running = count := by omega
          rw [ih.2 (.inr runningExact), replaceEach_single_of_absent bracketed gapFree]

end Woven

/-- A scan without a last replacement and one with it differ in that replacement only, where its
pattern occurs in the original text. -/
theorem woven_replaceEach {earlier : List Replacement} {replacement : Replacement}
    (placeholders : Placeholders (earlier ++ [replacement])) (cs : List Char) :
    Woven replacement (replaceEach earlier cs) (replaceEach (earlier ++ [replacement]) cs)
      (occurrences replacement.pattern cs) := by
  have last : replacement ∈ earlier ++ [replacement] :=
    List.mem_append_right earlier (.head _)
  have earlierMember : ∀ other ∈ earlier, other ∈ earlier ++ [replacement] :=
    fun other member => List.mem_append_left _ member
  have bracketed := placeholders.bracketed replacement last
  have foreign : ∀ other ∈ earlier, other.pattern ≠ replacement.pattern := by
    have distinct := placeholders.distinct
    rw [List.map_append, List.nodup_append] at distinct
    intro other member
    exact distinct.2.2 _ (List.mem_map_of_mem member) _ (.head _)
  have earlierPlaceholders := placeholders.initial (List.prefix_append earlier [replacement])
  -- Only where the last pattern begins do the scans part; anything else extends a gap.
  induction cs using scan_induction placeholders with
  | nil => exact .done []
  | hit other member rest ih =>
      rw [replaceEach_hit placeholders member]
      rcases List.mem_append.1 member with isEarlier | isLast
      · have otherBracketed := placeholders.bracketed other member
        rw [replaceEach_hit earlierPlaceholders isEarlier,
          occurrences_foreign bracketed otherBracketed (foreign other isEarlier)]
        exact ih.prepend other.text
      · rw [List.mem_singleton.1 isLast]
        rw [replaceEach_foreign earlierPlaceholders bracketed foreign, occurrences_hit bracketed]
        exact .hit [] ih
  | copy c rest free ih =>
      have earlierFree : ∀ other ∈ earlier, ¬ other.pattern <+: c :: rest :=
        fun other member => free other (earlierMember other member)
      rw [replaceEach_copy free, replaceEach_copy earlierFree,
        occurrences_copy (free replacement last)]
      exact ih.prepend [c]

/-- Replacing a pattern keeps the gaps between all its occurrences. -/
theorem woven_iff_replaceAll {replacement : Replacement} {running result : List Char}
    (bracketed : Bracketed replacement.pattern) :
    Woven replacement running result (occurrences replacement.pattern running)
      ↔ replaceAll replacement.pattern replacement.text running = result := by
  rw [replaceAll_eq_replaceEach]
  constructor
  · exact fun woven => (woven.replaceEach_eq_iff bracketed).2 (.inr rfl)
  · rintro rfl
    have single : Placeholders ([] ++ [replacement]) := .single bracketed
    have woven := woven_replaceEach single running
    rw [replaceEach_nil] at woven
    exact woven

/-!
## One replacement after another
-/

/-- Replaces one pattern after another over the running text. -/
def replaceInTurn (replacements : List Replacement) (cs : List Char) : List Char :=
  replacements.foldl (fun running replacement =>
    replaceAll replacement.pattern replacement.text running) cs

/-- After the earlier replacements one meets its pattern as often as it is in the original text, or
it puts the pattern in its own place. -/
def Steady (earlier : List Replacement) (replacement : Replacement) (cs : List Char) : Prop :=
  replacement.text = replacement.pattern
    ∨ occurrences replacement.pattern (replaceEach earlier cs)
      = occurrences replacement.pattern cs

/-- Every replacement is steady after those before it. -/
def Undisturbed (replacements : List Replacement) (cs : List Char) : Prop :=
  ∀ earlier replacement later, replacements = earlier ++ replacement :: later →
    Steady earlier replacement cs

/-- Replacements turn a text into another one if each puts its text in place of all occurrences of
its pattern and keeps the gaps between them. -/
inductive TurnsInto : List Replacement → List Char → List Char → Prop where
  | done (cs : List Char) : TurnsInto [] cs cs
  | step {replacement : Replacement} {later : List Replacement} {running next result : List Char} :
      Woven replacement running next (occurrences replacement.pattern running) →
      TurnsInto later next result → TurnsInto (replacement :: later) running result

/-- A replacement is the first that changes the text and meets its pattern more often than in the
original text. It spoils the text, and what the later ones put in place of their patterns, which are
now in the spoiled text, makes it the right one again. -/
structure RestoredAfter (earlier : List Replacement) (replacement : Replacement)
    (later : List Replacement) (cs : List Char) : Prop where
  undisturbed : Undisturbed earlier cs
  changes : replacement.text ≠ replacement.pattern
  more : occurrences replacement.pattern cs
    < occurrences replacement.pattern (replaceEach earlier cs)
  followed : later ≠ []
  turns : ∃ spoiled, Woven replacement (replaceEach earlier cs) spoiled
      (occurrences replacement.pattern (replaceEach earlier cs))
    ∧ TurnsInto later spoiled (replaceEach (earlier ++ replacement :: later) cs)

/-- The text is spoiled by some replacement and restored by those after it. -/
def Restored (replacements : List Replacement) (cs : List Char) : Prop :=
  ∃ earlier replacement later, replacements = earlier ++ replacement :: later
    ∧ RestoredAfter earlier replacement later cs

theorem turnsInto_iff {later : List Replacement} {running result : List Char}
    (bracketed : ∀ replacement ∈ later, Bracketed replacement.pattern) :
    TurnsInto later running result ↔ replaceInTurn later running = result := by
  induction later generalizing running with
  | nil =>
      constructor
      · rintro ⟨⟩
        rfl
      · rintro rfl
        exact .done running
  | cons replacement later ih =>
      obtain ⟨first, others⟩ := List.forall_mem_cons.1 bracketed
      rw [replaceInTurn, List.foldl_cons]
      constructor
      · intro turns
        cases turns with
        | step woven onward =>
            rw [(woven_iff_replaceAll first).1 woven]
            exact (ih others).1 onward
      · intro same
        exact .step ((woven_iff_replaceAll first).2 rfl) ((ih others).2 same)

theorem replaceInTurn_append_cons (earlier : List Replacement) (replacement : Replacement)
    (later : List Replacement) (cs : List Char) :
    replaceInTurn (earlier ++ replacement :: later) cs
      = replaceInTurn later
          (replaceAll replacement.pattern replacement.text (replaceInTurn earlier cs)) := by
  rw [replaceInTurn, List.foldl_append, List.foldl_cons]
  rfl

theorem undisturbed_nil (cs : List Char) : Undisturbed [] cs := by
  intro earlier replacement later split
  exact absurd split.symm (List.append_ne_nil_of_right_ne_nil _ (List.cons_ne_nil _ _))

theorem undisturbed_append_singleton_iff {earlier : List Replacement} {replacement : Replacement}
    {cs : List Char} : Undisturbed (earlier ++ [replacement]) cs ↔
      Undisturbed earlier cs ∧ Steady earlier replacement cs := by
  constructor
  · intro undisturbed
    refine ⟨fun first other later split => ?_, undisturbed earlier replacement [] rfl⟩
    apply undisturbed first other (later ++ [replacement])
    rw [split, List.append_assoc, List.cons_append]
  · intro given first other later split
    obtain ⟨undisturbed, steady⟩ := given
    rcases List.eq_nil_or_concat later with rfl | ⟨rest, last, rfl⟩
    · obtain ⟨rfl, same⟩ := List.append_inj' split rfl
      cases same
      exact steady
    · rw [List.concat_eq_append, ← List.cons_append, ← List.append_assoc] at split
      exact undisturbed first other rest (List.append_inj' split rfl).1

/-- The step from the replacements before one to those with it. -/
theorem replaceAll_replaceEach_iff {earlier : List Replacement} {replacement : Replacement}
    (placeholders : Placeholders (earlier ++ [replacement])) (cs : List Char) :
    replaceAll replacement.pattern replacement.text (replaceEach earlier cs)
        = replaceEach (earlier ++ [replacement]) cs ↔ Steady earlier replacement cs := by
  have bracketed := placeholders.bracketed replacement (List.mem_append_right earlier (.head _))
  rw [replaceAll_eq_replaceEach]
  exact (woven_replaceEach placeholders cs).replaceEach_eq_iff bracketed

variable {replacements : List Replacement}

theorem replaceInTurn_of_undisturbed (placeholders : Placeholders replacements) {cs : List Char}
    (undisturbed : Undisturbed replacements cs) :
    replaceInTurn replacements cs = replaceEach replacements cs := by
  induction replacements using List.reverseRecOn with
  | nil => exact (replaceEach_nil cs).symm
  | append_singleton earlier replacement ih =>
      obtain ⟨before, steady⟩ := undisturbed_append_singleton_iff.1 undisturbed
      have earlierPlaceholders := placeholders.initial (List.prefix_append earlier [replacement])
      rw [replaceInTurn_append_cons, ih earlierPlaceholders before]
      exact (replaceAll_replaceEach_iff placeholders cs).2 steady

/-- Up to each replacement, replacing in turn gives the same as replacing at once exactly if the
text is undisturbed. -/
theorem replaceInTurn_initial_iff (placeholders : Placeholders replacements) (cs : List Char) :
    (∀ first, first <+: replacements → replaceInTurn first cs = replaceEach first cs) ↔
      Undisturbed replacements cs := by
  constructor
  · intro agrees earlier replacement later split
    have startsLonger : earlier ++ [replacement] <+: replacements :=
      ⟨later, by rw [split, List.append_assoc, List.singleton_append]⟩
    have starts : earlier <+: replacements := (List.prefix_append _ _).trans startsLonger
    have whole := agrees _ startsLonger
    rw [replaceInTurn_append_cons, agrees earlier starts] at whole
    exact (replaceAll_replaceEach_iff (placeholders.initial startsLonger) cs).1 whole
  · intro undisturbed first given
    obtain ⟨rest, rfl⟩ := given
    apply replaceInTurn_of_undisturbed (placeholders.initial (List.prefix_append first rest))
    intro earlier replacement later split
    apply undisturbed earlier replacement (later ++ rest)
    rw [split, List.append_assoc, List.cons_append]

theorem undisturbed_or_first (replacements : List Replacement) (cs : List Char) :
    Undisturbed replacements cs ∨ ∃ earlier replacement later,
      replacements = earlier ++ replacement :: later ∧ Undisturbed earlier cs
        ∧ ¬ Steady earlier replacement cs := by
  induction replacements using List.reverseRecOn with
  | nil => exact .inl (undisturbed_nil cs)
  | append_singleton initial last ih =>
      rcases ih with undisturbed | ⟨earlier, replacement, later, rfl, before, disturbed⟩
      · by_cases steady : Steady initial last cs
        · exact .inl (undisturbed_append_singleton_iff.2 ⟨undisturbed, steady⟩)
        · exact .inr ⟨initial, last, [], rfl, undisturbed, steady⟩
      · refine .inr ⟨earlier, replacement, later ++ [last], ?_, before, disturbed⟩
        rw [List.append_assoc, List.cons_append]

/-- Replacing in turn gives the same as replacing at once exactly if the text is undisturbed, or if
it is spoiled and then restored. -/
theorem replaceInTurn_eq_replaceEach_iff (placeholders : Placeholders replacements)
    (cs : List Char) : replaceInTurn replacements cs = replaceEach replacements cs ↔
      Undisturbed replacements cs ∨ Restored replacements cs := by
  constructor
  · intro agrees
    rcases undisturbed_or_first replacements cs with
      undisturbed | ⟨earlier, replacement, later, rfl, before, disturbed⟩
    · exact .inl undisturbed
    · right
      have startsLonger : earlier ++ [replacement] <+: earlier ++ replacement :: later :=
        ⟨later, by rw [List.append_assoc, List.singleton_append]⟩
      have longer := placeholders.initial startsLonger
      have earlierPlaceholders := placeholders.initial (List.prefix_append earlier _)
      have bracketed := longer.bracketed replacement (List.mem_append_right earlier (.head _))
      have bracketedLater : ∀ other ∈ later, Bracketed other.pattern := fun other member =>
        placeholders.bracketed other (List.mem_append_right earlier (.tail _ member))
      have more := (woven_replaceEach longer cs).le_occurrences bracketed
      have differs : occurrences replacement.pattern cs
          ≠ occurrences replacement.pattern (replaceEach earlier cs) :=
        fun same => disturbed (.inr same.symm)
      rw [replaceInTurn_append_cons,
        replaceInTurn_of_undisturbed earlierPlaceholders before] at agrees
      have followed : later ≠ [] := by
        rintro rfl
        exact disturbed ((replaceAll_replaceEach_iff longer cs).1 agrees)
      refine ⟨earlier, replacement, later, rfl, before, fun same => disturbed (.inl same),
        by omega, followed, _, (woven_iff_replaceAll bracketed).2 rfl, ?_⟩
      exact (turnsInto_iff bracketedLater).2 agrees
  · intro given
    rcases given with undisturbed | ⟨earlier, replacement, later, rfl, restored⟩
    · exact replaceInTurn_of_undisturbed placeholders undisturbed
    · obtain ⟨spoiled, woven, turns⟩ := restored.turns
      have earlierPlaceholders := placeholders.initial (List.prefix_append earlier _)
      have bracketed : ∀ other ∈ replacement :: later, Bracketed other.pattern :=
        fun other member => placeholders.bracketed other (List.mem_append_right earlier member)
      obtain ⟨first, others⟩ := List.forall_mem_cons.1 bracketed
      rw [replaceInTurn_append_cons,
        replaceInTurn_of_undisturbed earlierPlaceholders restored.undisturbed,
        (woven_iff_replaceAll first).1 woven]
      exact (turnsInto_iff others).1 turns

end PipelineOverride
