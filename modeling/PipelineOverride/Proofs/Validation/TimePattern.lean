import PipelineOverride.Catalog.Bundled
import PipelineOverride.Proofs.Pattern.Turns
import PipelineOverride.Proofs.Substitution.Integers
import PipelineOverride.Validation.InputCheck

/-!
# Verified times

What the pattern of the time to wait lets through, and which of it an integer slot reads. The
pattern asks for a digit from one to nine and then for digits, by which it means those of every
script, and it does not mind a line feed at the end. An integer is written in ASCII digits only, and
not with more of them than are read.
-/

set_option autoImplicit false

namespace PipelineOverride

open Text (isAsciiDigit isDecimalDigit)
open Json (Numeral IntegerLiteral WritesInteger HasFraction)

/-- A text of decimal digits, of which the first is one from one to nine, and at most one line feed
behind them. -/
structure DigitLine (s : String) (digits : List Char) : Prop where
  line : s.toList = digits ∨ s.toList = digits ++ ['\n']
  leading : ∃ first others, digits = first :: others ∧ '1' ≤ first ∧ first ≤ '9'
  digits : ∀ c ∈ digits, isDecimalDigit c = true

variable {s : String} {digits rest : List Char} {c : Char} {n : Int}

/-!
## Digits
-/

theorem isAsciiDigit_iff : isAsciiDigit c = true ↔ 48 ≤ c.toNat ∧ c.toNat ≤ 57 := by
  simp only [isAsciiDigit, Bool.and_eq_true, decide_eq_true_eq, Char.le_def, UInt32.le_iff_toNat_le]
  exact Iff.rfl

theorem isDecimalDigit_of_isAsciiDigit (ascii : isAsciiDigit c = true) :
    isDecimalDigit c = true := by
  obtain ⟨least, most⟩ := isAsciiDigit_iff.1 ascii
  rw [isDecimalDigit, Text.digitRanges, Text.Ranges.mem, if_neg (Nat.not_lt.2 least), if_pos most]

theorem not_isDecimalDigit_of_blank (blank : c ∈ Json.blanks) : isDecimalDigit c = false := by
  simp only [Json.blanks, List.mem_cons, List.not_mem_nil, or_false] at blank
  rcases blank with rfl | rfl | rfl | rfl <;> decide

theorem takeWhile_isDecimalDigit (all : ∀ c ∈ digits, isDecimalDigit c = true)
    (none : ∀ c ∈ rest, isDecimalDigit c = false) :
    (digits ++ rest).takeWhile isDecimalDigit = digits := by
  rw [List.takeWhile_append_of_pos all]
  cases rest with
  | nil => rw [List.takeWhile_nil, List.append_nil]
  | cons c others =>
      rw [List.takeWhile_cons_of_neg (by simp [none c (.head _)]), List.append_nil]

theorem DigitLine.exists_after (line : DigitLine s digits) :
    ∃ after, s.toList = digits ++ after ∧ ∀ c ∈ after, c ∈ Json.blanks := by
  rcases line.line with alone | ended
  · exact ⟨[], by simpa using alone, by simp⟩
  · exact ⟨['\n'], ended, by simp [Json.blanks]⟩

/-- The digits of a line are found by leaving out line feeds. -/
theorem DigitLine.eq_filter (line : DigitLine s digits) :
    s.toList.filter (· != '\n') = digits := by
  have kept : digits.filter (· != '\n') = digits := by
    refine List.filter_eq_self.2 fun c member => ?_
    have digit := line.digits c member
    rw [bne_iff_ne]
    rintro rfl
    exact absurd digit (by decide)
  rcases line.line with alone | ended
  · rw [alone, kept]
  · rw [ended, List.filter_append, kept]
    exact List.append_nil digits

theorem DigitLine.not_hasFraction (line : DigitLine s digits) : ¬ HasFraction s.toList := by
  intro given
  obtain ⟨c, member, isMark⟩ := given
  obtain ⟨after, isLine, blank⟩ := line.exists_after
  rw [isLine, List.mem_append] at member
  rcases member with member | member
  · have digit := line.digits c member
    rcases isMark with rfl | rfl | rfl <;> exact absurd digit (by decide)
  · have isBlank := blank c member
    rcases isMark with rfl | rfl | rfl <;> exact absurd isBlank (by decide)

/-- The number of a line has as many places as there are digits. -/
theorem DigitLine.pow_le (line : DigitLine s digits) :
    Nat.pow 10 (digits.length - 1) ≤ Nat.ofDigitChars 10 digits 0 := by
  obtain ⟨first, others, rfl, least, _⟩ := line.leading
  have positive : 1 ≤ 10 * 0 + (first.toNat - '0'.toNat) := by
    have : '1'.toNat ≤ first.toNat := UInt32.le_iff_toNat_le.1 (Char.le_def.1 least)
    simp only [Char.reduceToNat] at this ⊢
    omega
  rw [Nat.ofDigitChars_cons, Nat.ofDigitChars_eq_ofDigitChars_zero, List.length_cons,
    Nat.add_sub_cancel]
  exact Nat.le_add_right_of_le (Nat.le_mul_of_pos_right _ positive)

theorem DigitLine.nonempty (line : DigitLine s digits) : s ≠ "" := by
  rintro rfl
  obtain ⟨first, others, rfl, _⟩ := line.leading
  rcases line.line with alone | ended
  · cases alone
  · cases ended

theorem DigitLine.positive (line : DigitLine s digits) : 1 ≤ Nat.ofDigitChars 10 digits 0 :=
  le_trans (Nat.one_le_pow _ _ (by decide)) line.pow_le

/-!
## The integer of a line
-/

theorem Json.Numeral.isAsciiDigit (numeral : Numeral digits) :
    ∀ c ∈ digits, isAsciiDigit c = true := by
  cases numeral with
  | zero => simp [Text.isAsciiDigit]
  | positive _ allDigits => exact allDigits

/-- A line of digits writes an integer exactly if they are digits of ASCII and not too many. -/
theorem DigitLine.writesInteger_iff (line : DigitLine s digits) :
    WritesInteger s n ↔ (∀ c ∈ digits, isAsciiDigit c = true) ∧ digits.length ≤ Json.maxDigits
      ∧ n = Nat.ofDigitChars 10 digits 0 := by
  obtain ⟨after, isLine, blank⟩ := line.exists_after
  obtain ⟨first, others, isDigits, least, _⟩ := line.leading
  constructor
  · intro writes
    obtain ⟨before, literal, behind, whole, isLiteral, blankBefore, blankBehind⟩ := writes
    have atStart : ∀ c more, before ++ (literal ++ behind) = c :: more → c = first := by
      intro c more starts
      rw [← whole, isLine, isDigits] at starts
      cases starts
      rfl
    have digit : isDecimalDigit first = true := line.digits first (isDigits ▸ .head _)
    cases before with
    | cons c more =>
        rw [atStart c _ rfl] at blankBefore
        rw [not_isDecimalDigit_of_blank (blankBefore first (.head _))] at digit
        cases digit
    | nil =>
        cases isLiteral with
        | negative _ _ =>
            obtain rfl := atStart '-' _ rfl
            exact absurd digit (by decide)
        | plain numeral short =>
            have ascii := numeral.isAsciiDigit
            -- Both sides of the blanks are found by taking decimal digits off the text.
            have same : digits = literal := by
              rw [← takeWhile_isDecimalDigit line.digits
                  fun c member => not_isDecimalDigit_of_blank (blank c member),
                ← isLine, whole, List.nil_append,
                takeWhile_isDecimalDigit
                  (fun c member => isDecimalDigit_of_isAsciiDigit (ascii c member))
                  fun c member => not_isDecimalDigit_of_blank (blankBehind c member)]
            exact ⟨same ▸ ascii, same ▸ short, same ▸ rfl⟩
  · intro given
    obtain ⟨ascii, short, rfl⟩ := given
    have notZero : first ≠ '0' := by
      rintro rfl
      exact absurd least (by decide)
    have numeral : Numeral digits := isDigits ▸ .positive notZero (isDigits ▸ ascii)
    exact ⟨[], digits, after, isLine, .plain numeral short, nofun, blank⟩

/-!
## The pattern
-/

namespace Pattern

/-- The pattern of the time to wait. -/
def time : Pattern :=
  .both (.both (.both (.place .textStart) (.char (.among false [.range 49 57] .exact)))
    (.repeated 0 none .greedy (.char (.among false [.named .digit false false] .exact))))
    (.place .lastLineEnd)

theorem readPattern_time : readPattern "^[1-9]\\d*$" = .ok (some time) := by
  have chars : "^[1-9]\\d*$".toList = ['^', '[', '1', '-', '9', ']', '\\', 'd', '*', '$'] := rfl
  have written : ofText "^[1-9]\\d*$" = .ok time := by
    rw [ofText, chars]
    rfl
  rw [readPattern, written]

theorem passes_oneToNine : (CharTest.among false [.range 49 57] .exact).passes c = true ↔
    '1' ≤ c ∧ c ≤ '9' := by
  simp only [CharTest.passes, List.any_cons, List.any_nil, Member.holds, Folding.partners,
    Bool.or_false, Bool.bne_false, Bool.and_eq_true, decide_eq_true_eq, Char.le_def,
    UInt32.le_iff_toNat_le]
  exact Iff.rfl

theorem passes_digit : (CharTest.among false [.named .digit false false] .exact).passes c
    = isDecimalDigit c := by
  simp [CharTest.passes, Member.holds, CharClass.holds]

/-- A match of the pattern asks for a first digit, for digits behind it and for the end there. -/
theorem time_occursIn_iff_run : time.occursIn s = true ↔
    (∃ first, s.toList[0]? = some first ∧ '1' ≤ first ∧ first ≤ '9')
      ∧ ∃ passed rest, s.toList.drop 1 = passed ++ rest
        ∧ (∀ c ∈ passed, isDecimalDigit c = true)
        ∧ Place.lastLineEnd.holds s.toList.toArray (passed.length + 1) = true := by
  rw [occursIn_iff]
  simp only [time, run_both, run_place_isSome, run_char_isSome, run_repeated_char_isSome,
    passes_iff_exists, passes_oneToNine, passes_digit, MatchState.skip, Option.isSome_some,
    and_true, List.getElem?_toArray, Place.holds, beq_iff_eq]
  constructor
  · intro matched
    obtain ⟨_, _, rfl, isFirst, _, ⟨passed, rest, follows, rfl, each⟩, ends⟩ := matched
    exact ⟨isFirst, passed, rest, follows, each, by rwa [Nat.zero_add, Nat.add_comm] at ends⟩
  · intro given
    obtain ⟨isFirst, passed, rest, follows, each, ends⟩ := given
    refine ⟨0, Nat.zero_le _, rfl, isFirst, _, ⟨passed, rest, follows, rfl, each⟩, ?_⟩
    rwa [Nat.zero_add, Nat.add_comm]

/-- The pattern of the time to wait matches lines of digits and nothing else. -/
theorem time_occursIn_iff : time.occursIn s = true ↔ ∃ digits, DigitLine s digits := by
  rw [time_occursIn_iff_run]
  constructor
  · intro given
    obtain ⟨⟨first, isFirst, least, most⟩, passed, rest, follows, each, ends⟩ := given
    obtain ⟨inside, isHead⟩ := List.getElem?_eq_some_iff.1 isFirst
    have whole : s.toList = (first :: passed) ++ rest := by
      rw [List.cons_append, ← follows, ← isHead, ← List.drop_eq_getElem_cons inside, List.drop_zero]
    rw [whole, ← List.length_cons, holds_lastLineEnd_iff] at ends
    have leading : isAsciiDigit first = true := by
      simpa [isAsciiDigit] using And.intro (Char.le_trans (by decide) least) most
    refine ⟨first :: passed, ?_, ⟨first, passed, rfl, least, most⟩, ?_⟩
    · rw [whole]
      rcases ends with rfl | rfl
      · exact .inl (List.append_nil _)
      · exact .inr rfl
    · exact List.forall_mem_cons.2 ⟨isDecimalDigit_of_isAsciiDigit leading, each⟩
  · intro given
    obtain ⟨digits, line⟩ := given
    obtain ⟨first, others, rfl, least, most⟩ := line.leading
    obtain ⟨rest, whole, atEnd⟩ : ∃ rest, s.toList = (first :: others) ++ rest
        ∧ (rest = [] ∨ rest = ['\n']) := by
      rcases line.line with alone | ended
      · exact ⟨[], by rw [alone, List.append_nil], .inl rfl⟩
      · exact ⟨['\n'], ended, .inr rfl⟩
    have others : ∀ c ∈ others, isDecimalDigit c = true := (List.forall_mem_cons.1 line.digits).2
    refine ⟨⟨first, by rw [whole]; rfl, least, most⟩, _, rest, by rw [whole]; rfl, others, ?_⟩
    rw [whole]
    exact holds_lastLineEnd_iff.2 atEnd

end Pattern

theorem sleepSlot_check (nonempty : s ≠ "") : Bundled.sleepSlot.check (.text s)
    = .ok (if Pattern.time.occursIn s then none
      else some (.text "builtin.sleep.inputError")) := by
  simp only [Slot.check, Bundled.sleepSlot, Option.getD_some, isVoid_text_of_ne nonempty]
  rw [Pattern.readPattern_time]
  rfl

/-- A time that is not empty is verified exactly if it is a line of digits. -/
theorem sleepSlot_check_iff (nonempty : s ≠ "") :
    Bundled.sleepSlot.check (.text s) = .ok none ↔ ∃ digits, DigitLine s digits := by
  rw [sleepSlot_check nonempty, ← Pattern.time_occursIn_iff]
  by_cases matched : Pattern.time.occursIn s = true <;> simp [matched]

end PipelineOverride
