import Mathlib.Data.List.TakeWhile
import PipelineOverride.Json.Reader

/-!
# Integers written as JSON

A text is read as an integer exactly if it holds one integer literal with blanks around it: an
optional minus sign and either one zero or digits of which the first is not zero, no more of them
than are read at all. A finite floating-point number is only read where there is a decimal point or
an exponent.
-/

set_option autoImplicit false

namespace PipelineOverride.Json

open Text (isAsciiDigit digitsValue)

/-- The blanks that may stand around a value. -/
def blanks : List Char := [' ', '\t', '\n', '\r']

/-- The digits of a natural number. None but the number zero starts with a zero. -/
inductive Numeral : List Char → Prop where
  | zero : Numeral ['0']
  | positive {first : Char} {others : List Char} : first ≠ '0' →
      (∀ c ∈ first :: others, isAsciiDigit c = true) → Numeral (first :: others)

/-- An integer literal and the integer that it denotes. -/
inductive IntegerLiteral : List Char → Int → Prop where
  | plain {digits : List Char} : Numeral digits → digits.length ≤ maxDigits →
      IntegerLiteral digits (Nat.ofDigitChars 10 digits 0)
  | negative {digits : List Char} : Numeral digits → digits.length ≤ maxDigits →
      IntegerLiteral ('-' :: digits) (-(Nat.ofDigitChars 10 digits 0))

/-- A text holds an integer literal and nothing else but blanks around it. -/
def WritesInteger (s : String) (n : Int) : Prop :=
  ∃ before literal after, s.toList = before ++ (literal ++ after) ∧ IntegerLiteral literal n ∧
    (∀ c ∈ before, c ∈ blanks) ∧ ∀ c ∈ after, c ∈ blanks

/-- A text does not go on with a number that stands before it. -/
def EndsNumber (rest : List Char) : Prop :=
  ∀ c ∈ rest.head?, isAsciiDigit c = false ∧ c ≠ '.' ∧ c ≠ 'e' ∧ c ≠ 'E'

/-- A text has a decimal point or a letter that marks an exponent. -/
def HasFraction (cs : List Char) : Prop :=
  ∃ c ∈ cs, c = '.' ∨ c = 'e' ∨ c = 'E'

/-!
## The parts of a number
-/

variable {cs digits rest literal : List Char} {value : Scalar} {n : Int} {negative : Bool}

theorem digitsValue_eq_ofDigitChars (cs : List Char) :
    digitsValue cs = Nat.ofDigitChars 10 cs 0 := by
  simp only [digitsValue, Nat.ofDigitChars, Nat.mul_comm]

theorem spanDigits_append (allDigits : ∀ c ∈ digits, isAsciiDigit c = true)
    (ends : EndsNumber rest) : spanDigits (digits ++ rest) = (digits, rest) := by
  rw [spanDigits, List.takeWhile_append_of_pos allDigits, List.dropWhile_append_of_pos allDigits]
  cases rest with
  | nil => simp
  | cons c more =>
      have notDigit := (ends c rfl).1
      simp [notDigit]

theorem wholePart?_sound (read : wholePart? cs = some (digits, rest)) :
    Numeral digits ∧ cs = digits ++ rest := by
  rw [wholePart?.eq_def] at read
  split at read
  · cases read
    exact ⟨.zero, rfl⟩
  · rename_i notZero
    rw [spanDigits] at read
    by_cases empty : (cs.takeWhile isAsciiDigit).isEmpty = true
    · simp only [if_pos empty] at read
      cases read
    · simp only [if_neg empty] at read
      cases read
      have whole : cs = cs.takeWhile isAsciiDigit ++ cs.dropWhile isAsciiDigit :=
        List.takeWhile_append_dropWhile.symm
      refine ⟨?_, whole⟩
      have allDigits : ∀ c ∈ cs.takeWhile isAsciiDigit, isAsciiDigit c = true :=
        fun c member => List.mem_takeWhile_imp member
      cases taken : cs.takeWhile isAsciiDigit with
      | nil => exact absurd (List.isEmpty_iff.2 taken) empty
      | cons first others =>
          rw [taken] at whole allDigits
          refine .positive (fun isZero => ?_) allDigits
          exact notZero _ (by rw [whole, isZero]; rfl)

theorem wholePart?_numeral (numeral : Numeral digits) (ends : EndsNumber rest) :
    wholePart? (digits ++ rest) = some (digits, rest) := by
  cases numeral with
  | zero => rfl
  | positive notZero allDigits =>
      rw [wholePart?.eq_def]
      split
      · rename_i same
        cases same
        exact absurd rfl notZero
      · rw [spanDigits_append allDigits ends]
        rfl

theorem decimalPlaces_cases (cs : List Char) :
    decimalPlaces cs = ([], cs) ∨ (decimalPlaces cs).1 ≠ [] ∧ HasFraction cs := by
  rw [decimalPlaces.eq_def]
  split
  · rename_i more
    by_cases empty : (spanDigits more).1.isEmpty = true
    · exact .inl (if_pos empty)
    · refine .inr ⟨?_, '.', .head _, .inl rfl⟩
      simp only [if_neg empty]
      exact mt List.isEmpty_iff.2 empty
  · exact .inl rfl

theorem exponentPart_cases (cs : List Char) :
    exponentPart cs = (none, cs) ∨ (exponentPart cs).1 ≠ none ∧ HasFraction cs := by
  cases cs with
  | nil => exact .inl rfl
  | cons e rest =>
      unfold exponentPart
      by_cases mark : e = 'e' ∨ e = 'E'
      · simp only [Bool.or_eq_true, decide_eq_true_eq, if_pos mark]
        -- Whatever the sign is, only the digits after it make an exponent.
        split
        all_goals
          split
          · exact .inl rfl
          · exact .inr ⟨Option.some_ne_none _, e, .head _, .inr mark⟩
      · exact .inl (by simp [mark])

theorem decimalPlaces_of_ends (ends : EndsNumber rest) : decimalPlaces rest = ([], rest) := by
  rw [decimalPlaces.eq_def]
  split
  · exact absurd rfl (ends _ rfl).2.1
  · rfl

theorem exponentPart_of_ends (ends : EndsNumber rest) : exponentPart rest = (none, rest) := by
  cases rest with
  | nil => rfl
  | cons c more =>
      obtain ⟨_, _, notLower, notUpper⟩ := ends c rfl
      unfold exponentPart
      simp [notLower, notUpper]

/-!
## Numbers
-/

/-- What is read after a sign is an integer, unless there are decimal places or an exponent. -/
theorem unsigned?_cases (read : unsigned? negative cs = some (value, rest)) :
    (∃ digits, Numeral digits ∧ digits.length ≤ maxDigits ∧ cs = digits ++ rest ∧
        value = .int (if negative then -(digitsValue digits : Int) else digitsValue digits))
      ∨ (∃ x, value = .float x) ∧ HasFraction cs := by
  rw [unsigned?, Option.bind_eq_bind, Option.bind_eq_some_iff] at read
  obtain ⟨⟨digits, afterWhole⟩, readWhole, read⟩ := read
  obtain ⟨numeral, rfl⟩ := wholePart?_sound readWhole
  simp only at read
  rcases decimalPlaces_cases afterWhole with noPlaces | ⟨places, mark⟩
  · rw [noPlaces] at read
    simp only at read
    rcases exponentPart_cases afterWhole with noExponent | ⟨exponent, mark⟩
    · rw [noExponent] at read
      simp only [List.isEmpty_nil, Option.isNone_none, Bool.and_self, if_true] at read
      split at read
      · cases read
      · rename_i short
        cases read
        exact .inl ⟨digits, numeral, Nat.le_of_not_lt short, rfl, rfl⟩
    · obtain ⟨c, member, isMark⟩ := mark
      refine .inr ⟨?_, c, List.mem_append_right _ member, isMark⟩
      simp only [List.isEmpty_nil, Bool.true_and, Option.isNone_iff_eq_none, if_neg exponent]
        at read
      cases read
      exact ⟨_, rfl⟩
  · obtain ⟨c, member, isMark⟩ := mark
    refine .inr ⟨?_, c, List.mem_append_right _ member, isMark⟩
    have notEmpty : (decimalPlaces afterWhole).1.isEmpty = false := by
      rw [List.isEmpty_eq_false_iff]
      exact places
    simp only [notEmpty, Bool.false_and, Bool.false_eq_true, if_false] at read
    cases read
    exact ⟨_, rfl⟩

theorem unsigned?_numeral (negative : Bool) (numeral : Numeral digits)
    (short : digits.length ≤ maxDigits) (ends : EndsNumber rest) :
    unsigned? negative (digits ++ rest)
      = some (.int (if negative then -(digitsValue digits : Int) else digitsValue digits),
        rest) := by
  rw [unsigned?, wholePart?_numeral numeral ends, Option.bind_eq_bind, Option.bind_some]
  simp only [decimalPlaces_of_ends ends, exponentPart_of_ends ends]
  exact if_neg (Nat.not_lt.2 short)

/-- A number that is read is what an integer literal denotes, or has a fraction. -/
theorem number?_cases (read : number? cs = some (value, rest)) :
    (∃ literal n, IntegerLiteral literal n ∧ cs = literal ++ rest ∧ value = .int n)
      ∨ (∃ x, value = .float x) ∧ HasFraction cs := by
  rw [number?.eq_def] at read
  split at read
  · rename_i unsigned
    rcases unsigned?_cases read with ⟨digits, numeral, short, rfl, rfl⟩ | ⟨isFloat, mark⟩
    · refine .inl ⟨'-' :: digits, _, .negative numeral short, rfl, ?_⟩
      rw [if_pos rfl, digitsValue_eq_ofDigitChars]
    · obtain ⟨c, member, isMark⟩ := mark
      exact .inr ⟨isFloat, c, .tail _ member, isMark⟩
  · rcases unsigned?_cases read with ⟨digits, numeral, short, rfl, rfl⟩ | given
    · refine .inl ⟨digits, _, .plain numeral short, rfl, ?_⟩
      rw [if_neg Bool.false_ne_true, digitsValue_eq_ofDigitChars]
    · exact .inr given

theorem Numeral.head_ne_minus (numeral : Numeral digits) (after : List Char) :
    ∀ more, digits ++ after ≠ '-' :: more := by
  intro more same
  cases numeral with
  | zero => cases same
  | positive _ allDigits =>
      cases same
      exact absurd (allDigits '-' (.head _)) (by decide)

theorem number?_literal (isLiteral : IntegerLiteral literal n) (ends : EndsNumber rest) :
    number? (literal ++ rest) = some (.int n, rest) := by
  cases isLiteral with
  | plain numeral short =>
      rw [number?.eq_2 _ (numeral.head_ne_minus rest), unsigned?_numeral _ numeral short ends,
        if_neg Bool.false_ne_true, digitsValue_eq_ofDigitChars]
  | negative numeral short =>
      rw [List.cons_append, number?, unsigned?_numeral _ numeral short ends, if_pos rfl,
        digitsValue_eq_ofDigitChars]

/-!
## Whole texts
-/

theorem after?_eq_some_iff {word : List Char} :
    after? word cs = some rest ↔ cs = word ++ rest := by
  induction word generalizing cs with
  | nil => simp [after?, eq_comm]
  | cons w ws ih =>
      cases cs with
      | nil => simp [after?]
      | cons c more =>
          rw [after?]
          by_cases same : w = c
          · simp [same, ih]
          · simp [same, Ne.symm same]

/-- No word starts like a number, not even minus infinity, whose sign no digit follows. -/
theorem number?_word {word : List Char} (isWord : (word, value) ∈ words strict)
    (rest : List Char) : number? (word ++ rest) = none := by
  simp only [words, strict, if_true, List.cons_append, List.nil_append, List.mem_cons,
    List.not_mem_nil, or_false, Prod.mk.injEq] at isWord
  rcases isWord with ⟨rfl, _⟩ | ⟨rfl, _⟩ | ⟨rfl, _⟩ | ⟨rfl, _⟩ | ⟨rfl, _⟩ | ⟨rfl, _⟩ <;> rfl

theorem atom?_of_number? {found : Scalar × List Char} (read : number? cs = some found) :
    atom? strict cs = some found := by
  rw [atom?]
  split
  · rename_i other isWord
    obtain ⟨⟨word, named⟩, member, follows⟩ := List.exists_of_findSome?_eq_some isWord
    obtain ⟨after, isAfter, _⟩ := Option.map_eq_some_iff.1 follows
    rw [after?_eq_some_iff.1 isAfter, number?_word member] at read
    cases read
  · exact read

theorem atom?_cases (read : atom? strict cs = some (value, rest)) :
    (∃ word, (word, value) ∈ words strict) ∨ number? cs = some (value, rest) := by
  rw [atom?] at read
  split at read
  · rename_i other isWord
    obtain ⟨⟨word, named⟩, member, follows⟩ := List.exists_of_findSome?_eq_some isWord
    obtain ⟨after, _, isOther⟩ := Option.map_eq_some_iff.1 follows
    cases read
    cases isOther
    exact .inl ⟨word, member⟩
  · exact .inr read

theorem value?_of_number? {fuel : Nat} (read : number? cs = some (value, rest)) :
    value? strict (fuel + 1) cs = some (.scalar value, rest) := by
  cases cs with
  | nil => cases read
  | cons c more =>
      have notQuote : c ≠ '"' := by rintro rfl; cases read
      have notBracket : c ≠ '[' := by rintro rfl; cases read
      have notBrace : c ≠ '\x7b' := by rintro rfl; cases read
      rw [value?, if_neg notQuote, if_neg notBracket, if_neg notBrace, atom?_of_number? read]
      rfl

theorem value?_scalar_cases {fuel : Nat}
    (read : value? strict fuel cs = some (.scalar value, rest)) :
    (∃ s, value = .text s) ∨ atom? strict cs = some (value, rest) := by
  cases fuel with
  | zero => cases read
  | succ fuel =>
      cases cs with
      | nil => cases read
      | cons c more =>
          rw [value?] at read
          split at read
          · obtain ⟨found, _, isText⟩ := Option.map_eq_some_iff.1 read
            cases isText
            exact .inl ⟨_, rfl⟩
          · split at read
            · simp only at read
              split at read
              · cases read
              · obtain ⟨found, _, isList⟩ := Option.map_eq_some_iff.1 read
                cases isList
            · split at read
              · simp only at read
                split at read
                · cases read
                · obtain ⟨found, _, isMapping⟩ := Option.map_eq_some_iff.1 read
                  cases isMapping
              · obtain ⟨⟨found, after⟩, isAtom, same⟩ := Option.map_eq_some_iff.1 read
                cases same
                exact .inr isAtom

theorem next_eq_dropWhile (cs : List Char) :
    strict.next cs = cs.dropWhile fun c => decide (c ∈ blanks) := by
  induction cs with
  | nil => rfl
  | cons c rest ih =>
      rw [Dialect.next] at ih ⊢
      have isBlank : strict.isBlank c = decide (c ∈ blanks) := by
        simp only [Dialect.isBlank, strict, blanks, Bool.false_and, Bool.or_false, Bool.or_assoc,
          List.mem_cons, List.not_mem_nil, or_false, Bool.decide_or, beq_eq_decide]
      rw [Dialect.skip, isBlank, List.dropWhile_cons, ih]
      simp [strict]

theorem next_eq_nil_iff : (strict.next rest).isEmpty = true ↔ ∀ c ∈ rest, c ∈ blanks := by
  rw [next_eq_dropWhile, List.isEmpty_iff, List.dropWhile_eq_nil_iff]
  simp only [decide_eq_true_eq]

theorem readChars?_of_number? (read : number? (strict.next cs) = some (value, rest))
    (blank : ∀ c ∈ rest, c ∈ blanks) : readChars? strict cs = some (.scalar value) := by
  rw [readChars?, value?_of_number? read]
  exact if_pos (next_eq_nil_iff.2 blank)

/-- Scalars are texts, words and numbers, and nothing but blanks follows them. -/
theorem readChars?_scalar_cases (read : readChars? strict cs = some (.scalar value)) :
    (∃ s, value = .text s) ∨ (∃ word, (word, value) ∈ words strict)
      ∨ ∃ rest, number? (strict.next cs) = some (value, rest) ∧ ∀ c ∈ rest, c ∈ blanks := by
  rw [readChars?] at read
  split at read
  · rename_i document rest readValue
    split at read
    · rename_i ends
      cases read
      rcases value?_scalar_cases readValue with isText | isAtom
      · exact .inl isText
      · rcases atom?_cases isAtom with isWord | isNumber
        · exact .inr (.inl isWord)
        · exact .inr (.inr ⟨rest, isNumber, next_eq_nil_iff.1 ends⟩)
    · cases read
  · cases read

theorem IntegerLiteral.next_append (isLiteral : IntegerLiteral literal n) (rest : List Char) :
    strict.next (literal ++ rest) = literal ++ rest := by
  rw [next_eq_dropWhile]
  cases isLiteral with
  | negative _ _ => rfl
  | plain numeral _ =>
      cases numeral with
      | zero => rfl
      | @positive first _ _ allDigits =>
          have notBlank : first ∉ blanks := by
            intro member
            have digit := allDigits first (.head _)
            simp only [blanks, List.mem_cons, List.not_mem_nil, or_false] at member
            rcases member with rfl | rfl | rfl | rfl <;> exact absurd digit (by decide)
          simp [notBlank]

theorem endsNumber_of_blanks (blank : ∀ c ∈ rest, c ∈ blanks) : EndsNumber rest := by
  intro c isHead
  have member := blank c (List.mem_of_mem_head? isHead)
  simp only [blanks, List.mem_cons, List.not_mem_nil, or_false] at member
  rcases member with rfl | rfl | rfl | rfl <;> decide

/-- A text is read as an integer exactly if it writes that integer. -/
theorem read?_eq_int_iff {s : String} :
    read? strict s = some (.int n) ↔ WritesInteger s n := by
  rw [read?]
  constructor
  · intro read
    rcases readChars?_scalar_cases read with ⟨_, isText⟩ | ⟨_, isWord⟩ | ⟨rest, isNumber, blank⟩
    · cases isText
    · simp [words, strict] at isWord
    · rcases number?_cases isNumber with ⟨literal, m, isLiteral, isNext, same⟩ | ⟨⟨_, same⟩, _⟩
      · cases same
        have whole := (List.takeWhile_append_dropWhile (p := fun c => decide (c ∈ blanks))
          (l := s.toList)).symm
        rw [← next_eq_dropWhile, isNext] at whole
        exact ⟨_, literal, rest, whole, isLiteral,
          fun c member => of_decide_eq_true
            (List.mem_takeWhile_imp (p := fun c => decide (c ∈ blanks)) member), blank⟩
      · cases same
  · intro writes
    obtain ⟨before, literal, after, whole, isLiteral, blankBefore, blankAfter⟩ := writes
    have isNext : strict.next s.toList = literal ++ after := by
      rw [whole, next_eq_dropWhile, List.dropWhile_append_of_pos
        (fun c member => decide_eq_true (blankBefore c member)), ← next_eq_dropWhile,
        isLiteral.next_append]
    refine readChars?_of_number? ?_ blankAfter
    rw [isNext, number?_literal isLiteral (endsNumber_of_blanks blankAfter)]

/-- Every finite floating-point number is written with a decimal point or an exponent. -/
theorem hasFraction_of_read?_float {s : String} {x : Decimal.Binary64}
    (read : read? strict s = some (.float x)) (finite : x.isFinite = true) :
    HasFraction s.toList := by
  rcases readChars?_scalar_cases read with ⟨_, isText⟩ | ⟨_, isWord⟩ | ⟨rest, isNumber, _⟩
  · cases isText
  · simp only [words, strict, if_true, List.cons_append, List.nil_append, List.mem_cons,
      List.not_mem_nil, or_false, Prod.mk.injEq, reduceCtorEq, and_false, Scalar.float.injEq,
      false_or] at isWord
    rcases isWord with ⟨_, rfl⟩ | ⟨_, rfl⟩ | ⟨_, rfl⟩ <;> cases finite
  · rcases number?_cases isNumber with ⟨_, _, _, _, same⟩ | ⟨_, c, member, isMark⟩
    · cases same
    · rw [next_eq_dropWhile] at member
      exact ⟨c, (List.dropWhile_sublist _).mem member, isMark⟩

/-!
## Integers in base ten
-/

theorem isAsciiDigit_of_isDigit {c : Char} (digit : c.isDigit = true) : isAsciiDigit c = true := by
  simpa [isAsciiDigit, Char.isDigit, Char.le_def, ge_iff_le] using digit

/-- The digits of a number in base ten do not start with a zero, unless it is the number zero. -/
theorem numeral_toDigits (n : Nat) : Numeral (Nat.toDigits 10 n) := by
  have allDigits : ∀ m, ∀ c ∈ Nat.toDigits 10 m, isAsciiDigit c = true := fun m c member =>
    isAsciiDigit_of_isDigit (Nat.isDigit_of_mem_toDigits (by decide) (by decide) member)
  induction n using Nat.strongRecOn with
  | ind n ih =>
      by_cases small : n < 10
      · have single := allDigits n
        rw [Nat.toDigits_of_lt_base small] at single ⊢
        by_cases isZero : n = 0
        · subst isZero
          exact .zero
        · exact .positive (mt Nat.digitChar_eq_zero.1 isZero) single
      · have leading := ih (n / 10) (by omega)
        have value := Nat.ofDigitChars_ten_toDigits (n := n / 10)
        have whole := allDigits n
        rw [Nat.toDigits_of_base_le (by decide) (Nat.le_of_not_lt small)] at whole ⊢
        generalize Nat.toDigits 10 (n / 10) = digits at leading value whole ⊢
        cases leading with
        | zero =>
            have isZero : n / 10 = 0 := value.symm.trans rfl
            omega
        | positive notZero _ => exact .positive notZero whole

theorem integerLiteral_intText {n : Int} {places : Nat} (bounded : n.natAbs < Nat.pow 10 places)
    (positive : 0 < places) (few : places ≤ maxDigits) :
    IntegerLiteral (Decimal.intText n).toList n := by
  have length : ∀ m : Nat, m < Nat.pow 10 places → (Nat.toDigits 10 m).length ≤ maxDigits :=
    fun m short => le_trans ((Nat.length_toDigits_le_iff (by decide) positive).2 short) few
  cases n with
  | ofNat m =>
      have written : (Decimal.intText (.ofNat m)).toList = Nat.toDigits 10 m := by
        simp [Decimal.intText, Decimal.natText]
      have denotes := IntegerLiteral.plain (numeral_toDigits m) (length m bounded)
      rwa [Nat.ofDigitChars_ten_toDigits, ← written] at denotes
  | negSucc m =>
      have written : (Decimal.intText (.negSucc m)).toList = '-' :: Nat.toDigits 10 (m + 1) := by
        simp [Decimal.intText, Decimal.natText]
      have denotes := IntegerLiteral.negative (numeral_toDigits (m + 1)) (length (m + 1) bounded)
      rwa [Nat.ofDigitChars_ten_toDigits, ← written] at denotes

/-- The text of an integer in base ten writes it, if there are not too many digits. -/
theorem writesInteger_intText {n : Int} {places : Nat} (bounded : n.natAbs < Nat.pow 10 places)
    (positive : 0 < places) (few : places ≤ maxDigits) : WritesInteger (Decimal.intText n) n := by
  have literal := integerLiteral_intText bounded positive few
  exact ⟨[], _, [], (List.append_nil _).symm, literal, by simp, by simp⟩

theorem read?_one_zeros {count : Nat} (short : count < maxDigits) :
    read? strict (String.ofList ('1' :: List.replicate count '0'))
      = some (.int (Nat.pow 10 count : Nat)) := by
  have numeral : Numeral ('1' :: List.replicate count '0') := by
    refine .positive (by decide) fun c member => ?_
    rcases List.mem_cons.1 member with rfl | member
    · rfl
    · rw [List.eq_of_mem_replicate member]
      rfl
  have value : Nat.ofDigitChars 10 ('1' :: List.replicate count '0') 0 = Nat.pow 10 count := by
    rw [Nat.ofDigitChars_cons, Nat.ofDigitChars_replicate_zero]
    exact Nat.mul_one _
  have enough : ('1' :: List.replicate count '0').length ≤ maxDigits := by
    rw [List.length_cons, List.length_replicate]
    omega
  have denotes := IntegerLiteral.plain numeral enough
  rw [value] at denotes
  exact read?_eq_int_iff.2 ⟨[], _, [], by simp, denotes, by simp, by simp⟩

end PipelineOverride.Json
