import PipelineOverride.Pattern.Matcher

/-!
# Turns of a character

When a pattern matches, as far as that does not depend on the groups: each part of a pattern is
described by the states in which what follows it is asked. A greedy repetition of one character that
is free to end gives back turn after turn, so it matches exactly if what follows matches after some
number of turns, however many the repetition prefers.
-/

set_option autoImplicit false

namespace PipelineOverride.Pattern

variable {text : Array Char} {test : CharTest} {state : MatchState} {next : Continuation}

/-- The state some characters further on. -/
def MatchState.skip (state : MatchState) (count : Nat) : MatchState :=
  { state with place := state.place + count }

/-- The characters from a place on, as many as counted, are there and pass a test. -/
def Passes (text : Array Char) (test : CharTest) (place count : Nat) : Prop :=
  ∀ i < count, ∃ c, text[place + i]? = some c ∧ test.passes c = true

theorem passes_succ_iff {place count : Nat} :
    Passes text test place (count + 1) ↔
      (∃ c, text[place]? = some c ∧ test.passes c = true)
        ∧ Passes text test (place + 1) count := by
  simp only [Passes, Nat.forall_lt_succ_left, Nat.add_zero, Nat.add_assoc, Nat.add_comm 1]

/-- On a list of characters these are a part of what comes from the place on. -/
theorem passes_iff_exists {cs : List Char} {place count : Nat} :
    Passes cs.toArray test place count ↔ ∃ passed rest, cs.drop place = passed ++ rest
      ∧ passed.length = count ∧ ∀ c ∈ passed, test.passes c = true := by
  induction count generalizing place with
  | zero =>
      refine ⟨fun _ => ⟨[], _, rfl, rfl, fun _ never => absurd never List.not_mem_nil⟩, ?_⟩
      exact fun _ i never => absurd never (Nat.not_lt_zero i)
  | succ count ih =>
      rw [passes_succ_iff, ih, List.getElem?_toArray]
      constructor
      · intro given
        obtain ⟨⟨c, isThere, passes⟩, passed, rest, follows, isLong, each⟩ := given
        obtain ⟨inside, isFirst⟩ := List.getElem?_eq_some_iff.1 isThere
        refine ⟨c :: passed, rest, ?_, congrArg Nat.succ isLong, ?_⟩
        · rw [List.drop_eq_getElem_cons inside, isFirst, follows, List.cons_append]
        · exact List.forall_mem_cons.2 ⟨passes, each⟩
      · intro given
        obtain ⟨passed, rest, follows, isLong, each⟩ := given
        cases passed with
        | nil => cases isLong
        | cons c passed =>
            obtain ⟨passes, each⟩ := List.forall_mem_cons.1 each
            have isThere : cs[place]? = some c := by
              rw [← Nat.add_zero place, ← List.getElem?_drop, follows]
              rfl
            have onward : cs.drop (place + 1) = passed ++ rest := by
              rw [← List.drop_drop, follows]
              rfl
            exact ⟨⟨c, isThere, passes⟩, passed, rest, onward, Nat.succ.inj isLong, each⟩

/-- The end of the last line is the end of the text or before the line feed that ends it. -/
theorem holds_lastLineEnd_iff {before rest : List Char} :
    Place.lastLineEnd.holds (before ++ rest).toArray before.length = true ↔
      rest = [] ∨ rest = ['\n'] := by
  simp only [Place.holds, List.size_toArray, List.length_append, List.getElem?_toArray,
    Bool.or_eq_true, Bool.and_eq_true, beq_iff_eq]
  cases rest with
  | nil => simp
  | cons c others => cases others <;> simp

theorem run_both (first second : Pattern) : run text (.both first second) state next
    = run text first state fun state => run text second state next := by
  rw [run]

theorem run_place_isSome {kind : Place} :
    (run text (.place kind) state next).isSome = true ↔
      kind.holds text state.place = true ∧ (next state).isSome = true := by
  rw [run]
  by_cases holds : kind.holds text state.place = true <;> simp [holds]

theorem run_char_isSome :
    (run text (.char test) state next).isSome = true ↔
      (∃ c, text[state.place]? = some c ∧ test.passes c = true)
        ∧ (next (state.skip 1)).isSome = true := by
  rw [run]
  cases found : text[state.place]? with
  | none => simp
  | some c => by_cases passes : test.passes c = true <;> simp [passes, MatchState.skip]

/-- With enough fuel for the rest of the text, free greedy turns of a character match exactly if
what follows matches after some of them. -/
theorem greedyTurns_char_isSome {fuel count : Nat} {last : Option Nat}
    (enough : text.size < state.place + fuel) (moved : last ≠ some state.place) :
    (greedyTurns (run text (.char test)) 0 none fuel count last state next).isSome = true ↔
      ∃ turns, Passes text test state.place turns ∧ (next (state.skip turns)).isSome = true := by
  induction fuel generalizing count last state with
  | zero =>
      have beyond : text[state.place]? = none := Array.getElem?_eq_none (by omega)
      rw [greedyTurns]
      constructor
      · exact fun matched => ⟨0, fun i never => absurd never (Nat.not_lt_zero i), matched⟩
      · intro given
        obtain ⟨turns, passes, matched⟩ := given
        cases turns with
        | zero => exact matched
        | succ turns =>
            obtain ⟨c, isThere, _⟩ := (passes_succ_iff.1 passes).1
            rw [beyond] at isThere
            cases isThere
  | succ fuel ih =>
      have onward : (run text (.char test) state fun after =>
            greedyTurns (run text (.char test)) 0 none fuel (count + 1) (some state.place) after
              next).isSome = true ↔
          ∃ turns, Passes text test state.place (turns + 1)
            ∧ (next (state.skip (turns + 1))).isSome = true := by
        have further : text.size < (state.skip 1).place + fuel := by
          simp only [MatchState.skip]
          omega
        have movedOn : some state.place ≠ some (state.skip 1).place := by
          simp [MatchState.skip]
        rw [run_char_isSome, ih further movedOn, ← exists_and_left]
        refine exists_congr fun turns => ?_
        rw [passes_succ_iff, and_assoc]
        simp only [MatchState.skip, Nat.add_assoc, Nat.add_comm 1]
      have free : (last != some state.place) = true := by simpa using moved
      rw [greedyTurns, if_neg (Nat.not_lt_zero count), Option.all_none, free, Bool.and_self,
        if_pos rfl]
      constructor
      · intro matched
        split at matched
        · rename_i found isFound
          obtain ⟨turns, given⟩ := onward.1 (by rw [isFound]; rfl)
          exact ⟨turns + 1, given⟩
        · exact ⟨0, fun i never => absurd never (Nat.not_lt_zero i), matched⟩
      · intro given
        obtain ⟨turns, passes, matched⟩ := given
        split
        · rfl
        · rename_i notFound
          cases turns with
          | zero => exact matched
          | succ turns =>
              have found := onward.2 ⟨turns, passes, matched⟩
              rw [notFound] at found
              cases found

theorem run_repeated_char_isSome :
    (run text (.repeated 0 none .greedy (.char test)) state next).isSome = true ↔
      ∃ turns, Passes text test state.place turns ∧ (next (state.skip turns)).isSome = true := by
  rw [run]
  exact greedyTurns_char_isSome (by omega) (Option.some_ne_none _).symm

theorem occursIn_iff {pattern : Pattern} {s : String} :
    pattern.occursIn s = true ↔ ∃ place ≤ s.toList.length,
      (run s.toList.toArray pattern ⟨place, []⟩ some).isSome = true := by
  simp only [occursIn, List.any_eq_true, List.mem_range, List.size_toArray, Nat.lt_succ_iff]

end PipelineOverride.Pattern
