import PipelineOverride.Pattern.Basic

/-!
# Matching

A pattern is matched by going through the ways to match it in order of preference and taking the
first one with which everything behind it can be matched too. `run` takes what is behind as a
function. A repetition that is free to end does not try another turn from the place where its last
free turn began, so it ends on every text.
-/

set_option autoImplicit false

namespace PipelineOverride.Pattern

/-- A place in a text, and what the groups matched before it, the latest first. -/
structure MatchState where
  place : Nat
  groups : List (Nat × Nat × Nat)

/-- Where a group matched last. -/
def MatchState.group? (state : MatchState) (number : Nat) : Option (Nat × Nat) :=
  (state.groups.find? fun entry => entry.1 = number).map Prod.snd

/-- What is matched behind a pattern. -/
abbrev Continuation := MatchState → Option MatchState

def Place.holds (text : Array Char) (here : Nat) : Place → Bool
  | .textStart => here == 0
  | .textEnd => here == text.size
  | .lineStart => here == 0 || text[here - 1]? == some '\n'
  | .lineEnd => here == text.size || text[here]? == some '\n'
  | .lastLineEnd => here == text.size || (here + 1 == text.size && text[here]? == some '\n')
  | .wordEdge negated ascii =>
    let isWord := fun (c : Option Char) => c.any (CharClass.word.holds ascii)
    let before := if here = 0 then false else isWord text[here - 1]?
    text.size != 0 && ((before != isWord text[here]?) != negated)

/-- The place after the text of a group, if it comes next. -/
def textAgain? (text : Array Char) (folding : Folding) (start stop here : Nat) : Option Nat :=
  let length := stop - start
  if here + length ≤ text.size
      && (List.range length).all fun i =>
        (text[start + i]?).map folding.fold == (text[here + i]?).map folding.fold
  then some (here + length)
  else none

/-- Turns of a body, more rather than fewer, `fuel` of them at most. -/
def greedyTurns (body : MatchState → Continuation → Option MatchState) (least : Nat)
    (most : Option Nat) : Nat → Nat → Option Nat → MatchState → Continuation → Option MatchState
  | 0, _, _, state, next => next state
  | fuel + 1, count, last, state, next =>
    if count < least then
      body state fun state => greedyTurns body least most fuel (count + 1) last state next
    else if most.all (count < ·) && last != some state.place then
      match body state fun after =>
          greedyTurns body least most fuel (count + 1) (some state.place) after next with
      | some found => some found
      | none => next state
    else next state

/-- Turns of a body, fewer rather than more, `fuel` of them at most. -/
def lazyTurns (body : MatchState → Continuation → Option MatchState) (least : Nat)
    (most : Option Nat) : Nat → Nat → Option Nat → MatchState → Continuation → Option MatchState
  | 0, _, _, state, next => next state
  | fuel + 1, count, last, state, next =>
    if count < least then
      body state fun state => lazyTurns body least most fuel (count + 1) last state next
    else
      match next state with
      | some found => some found
      | none =>
        if most.all (count < ·) && last != some state.place then
          body state fun after =>
            lazyTurns body least most fuel (count + 1) (some state.place) after next
        else none

/-- As many turns of a body as there are, `fuel` of them at most, each taken in its first way. -/
def allTurns (body : MatchState → Option MatchState) (least : Nat) (most : Option Nat) :
    Nat → Nat → MatchState → Option MatchState
  | 0, _, state => some state
  | fuel + 1, count, state =>
    if count < least then
      match body state with
      | some after => allTurns body least most fuel (count + 1) after
      | none => none
    else if most.all (count < ·) then
      match body state with
      | some after =>
        if after.place = state.place then some after
        else allTurns body least most fuel (count + 1) after
      | none => some state
    else some state

/-- The state after the first way to match a pattern with which `next` succeeds. -/
def run (text : Array Char) : Pattern → MatchState → Continuation → Option MatchState
  | .empty, state, next => next state
  | .char test, state, next =>
    match text[state.place]? with
    | some c => if test.passes c then next { state with place := state.place + 1 } else none
    | none => none
  | .place kind, state, next => if kind.holds text state.place then next state else none
  | .both first second, state, next =>
    run text first state fun state => run text second state next
  | .either first second, state, next =>
    match run text first state next with
    | some found => some found
    | none => run text second state next
  | .group number body, state, next =>
    run text body state fun after =>
      next { after with groups := (number, state.place, after.place) :: after.groups }
  | .again number folding, state, next =>
    match state.group? number with
    | some (start, stop) =>
      match textAgain? text folding start stop state.place with
      | some stop => next { state with place := stop }
      | none => none
    | none => none
  | .repeated least most order body, state, next =>
    let fuel := least + (text.size - state.place) + 2
    match order with
    | .greedy => greedyTurns (run text body) least most fuel 0 none state next
    | .lazy => lazyTurns (run text body) least most fuel 0 none state next
    | .possessive =>
      match allTurns (fun state => run text body state some) least most fuel 0 state with
      | some after => next after
      | none => none
  | .look behind negated body, state, next =>
    let width := behind.getD 0
    let found :=
      if state.place < width then none
      else run text body { state with place := state.place - width } some
    match found, negated with
    | some after, false => next { after with place := state.place }
    | none, true => next state
    | _, _ => none
  | .atomic body, state, next =>
    match run text body state some with
    | some after => next after
    | none => none
  | .ifGroup number yes no, state, next =>
    if (state.group? number).isSome then run text yes state next else run text no state next

/-- Whether a pattern matches anywhere in a text. -/
def occursIn (pattern : Pattern) (s : String) : Bool :=
  let text := s.toList.toArray
  (List.range (text.size + 1)).any fun place => (run text pattern ⟨place, []⟩ some).isSome

end PipelineOverride.Pattern
