import PipelineOverride.Proofs.Json.Integer
import PipelineOverride.Proofs.Substitution.Failure

/-!
# What integer slots accept

An empty text stands for zero in an integer slot. Any other text that has no fraction is accepted
exactly if it writes an integer within the range of floating-point numbers. Integers out of that
range and texts that write no integer fail in different ways.
-/

set_option autoImplicit false

namespace PipelineOverride

open Json (WritesInteger HasFraction)

variable {raw slot : String} {n : Int}

theorem overflows_iff : Decimal.Binary64.overflows n = true
    ↔ Nat.pow 2 1024 - Nat.pow 2 970 ≤ n.natAbs := by
  rw [Decimal.Binary64.overflows, decide_eq_true_iff]

theorem overflows_eq_false_iff : Decimal.Binary64.overflows n = false
    ↔ n.natAbs < Nat.pow 2 1024 - Nat.pow 2 970 := by
  rw [← Nat.not_le, ← overflows_iff, Bool.not_eq_true]

theorem Json.WritesInteger.unique {m : Int} (writes : WritesInteger raw m)
    (other : WritesInteger raw n) : n = m := by
  have read := read?_eq_int_iff.2 writes
  rw [read?_eq_int_iff.2 other] at read
  cases read
  rfl

theorem not_writesInteger_empty : ¬ WritesInteger "" n := by
  rw [← Json.read?_eq_int_iff, read?_empty]
  exact Option.some_ne_none _ ∘ Eq.symm

theorem form_of_nonempty (nonempty : raw ≠ "") : SlotType.int.form raw = raw :=
  if_neg (mt String.isEmpty_iff.1 nonempty)

theorem coerce_int_empty : coerce (.text "") .int slot = .ok (.int 0) := by
  have read : readNumber? "0" = .ok (some (.int 0)) := by
    rw [readNumber?, read?_zero]
    simp only [not_overflows_zero, Bool.false_eq_true, if_false]
  rw [coerce_int_text]
  exact congrArg (· >>= _) read

theorem coerce_int_of_writes (writes : WritesInteger raw n) : coerce (.text raw) .int slot
    = if Decimal.Binary64.overflows n then .error .tooLarge else .ok (.int n) := by
  have nonempty : raw ≠ "" := by
    rintro rfl
    exact not_writesInteger_empty writes
  rw [coerce_int_text, form_of_nonempty nonempty, readNumber?, Json.read?_eq_int_iff.2 writes]
  simp only
  split <;> rfl

/-- A text that writes neither an integer nor a fraction writes no finite number at all. -/
theorem readNumber?_of_not_writes (whole : ¬ HasFraction raw.toList)
    (never : ∀ n, ¬ WritesInteger raw n) : readNumber? raw = .ok none := by
  rw [readNumber?]
  split
  · rename_i n read
    exact absurd (Json.read?_eq_int_iff.1 read) (never n)
  · rename_i x read
    by_cases finite : x.isFinite = true
    · exact absurd (Json.hasFraction_of_read?_float read finite) whole
    · rw [if_neg finite]
  · rfl

theorem coerce_int_of_not_writes (whole : ¬ HasFraction raw.toList) (nonempty : raw ≠ "")
    (never : ∀ n, ¬ WritesInteger raw n) :
    coerce (.text raw) .int slot = .error (.slot ⟨slot, raw, .int⟩) := by
  rw [coerce_int_text, form_of_nonempty nonempty, readNumber?_of_not_writes whole never]
  rfl

/-- Of the texts without a fraction, an integer slot accepts the empty one as zero and those that
write an integer which is not too large. A literal that is too large has a failure of its own, and
all other texts are refused. -/
theorem int_slot_accepts_exactly (whole : ¬ HasFraction raw.toList) (slot : String) :
    (∀ n, coerce (.text raw) .int slot = .ok (.int n) ↔
        raw = "" ∧ n = 0 ∨ WritesInteger raw n ∧ n.natAbs < Nat.pow 2 1024 - Nat.pow 2 970)
      ∧ (coerce (.text raw) .int slot = .error .tooLarge ↔
        ∃ n, WritesInteger raw n ∧ Nat.pow 2 1024 - Nat.pow 2 970 ≤ n.natAbs)
      ∧ (coerce (.text raw) .int slot = .error (.slot ⟨slot, raw, .int⟩) ↔
        raw ≠ "" ∧ ∀ n, ¬ WritesInteger raw n) := by
  simp only [← overflows_iff, ← overflows_eq_false_iff]
  by_cases empty : raw = ""
  · subst empty
    simp only [coerce_int_empty, not_writesInteger_empty, true_and, false_and, or_false,
      exists_false, reduceCtorEq, ne_eq, not_true_eq_false, and_true, Except.ok.injEq,
      Document.scalar.injEq, Scalar.int.injEq]
    exact fun n => eq_comm
  · by_cases writes : ∃ m, WritesInteger raw m
    · obtain ⟨m, writes⟩ := writes
      have only : ∀ n, WritesInteger raw n ↔ n = m :=
        fun n => ⟨fun other => writes.unique other, fun same => same ▸ writes⟩
      simp only [only, empty, false_and, false_or, exists_eq_left, forall_eq, and_false,
        iff_false]
      rw [coerce_int_of_writes writes]
      by_cases large : Decimal.Binary64.overflows m = true
      · rw [if_pos large]
        refine ⟨fun n => ⟨fun given => (by cases given), ?_⟩, iff_of_true rfl large,
          fun given => (by cases given)⟩
        rintro ⟨rfl, small⟩
        rw [large] at small
        cases small
      · rw [if_neg large]
        refine ⟨fun n => ⟨fun given => ?_, ?_⟩, iff_of_false (fun given => (by cases given)) large,
          fun given => (by cases given)⟩
        · cases given
          exact ⟨rfl, Bool.eq_false_iff.2 large⟩
        · rintro ⟨rfl, _⟩
          rfl
    · have never : ∀ n, ¬ WritesInteger raw n := not_exists.1 writes
      rw [coerce_int_of_not_writes whole empty never]
      simp [never, empty]

theorem negative_between_blanks_accepted :
    ¬ HasFraction " -12\n".toList ∧ coerce (.text " -12\n") .int "count" = .ok (.int (-12)) := by
  have whole : ¬ HasFraction " -12\n".toList := by
    simp [HasFraction]
  have numeral : Json.Numeral ['1', '2'] := Json.numeral_toDigits 12
  have writes : WritesInteger " -12\n" (-12) :=
    ⟨[' '], _, ['\n'], rfl, .negative numeral (by decide), by simp [Json.blanks],
      by simp [Json.blanks]⟩
  have small : (-12 : Int).natAbs < Nat.pow 2 1024 - Nat.pow 2 970 := by decide +kernel
  exact ⟨whole, ((int_slot_accepts_exactly whole "count").1 (-12)).2 (.inr ⟨writes, small⟩)⟩

end PipelineOverride
