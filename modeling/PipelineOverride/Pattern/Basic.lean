import PipelineOverride.Text.Blank
import PipelineOverride.Text.Case
import PipelineOverride.Text.Digit
import PipelineOverride.Text.Word

/-!
# Patterns

Regular expressions as trees. All options of a pattern, such as whether letter case matters, are
settled in its nodes, so that the meaning of a node does not depend on where it stands.
-/

set_option autoImplicit false

namespace PipelineOverride

namespace Pattern

/-- How letter case matters. -/
inductive Folding where
  | exact
  /-- The letters of ASCII are compared without regard to case. -/
  | ascii
  /-- All characters are compared without regard to case. -/
  | full
  deriving DecidableEq, Repr

/-- The classes of characters that have a name. -/
inductive CharClass where
  | digit
  | blank
  | word
  deriving DecidableEq, Repr

inductive Member where
  | point (code : Nat)
  | range (first last : Nat)
  /-- The characters of a class, or all others. The class is that of ASCII or that of all
  scripts. -/
  | named (cls : CharClass) (negated ascii : Bool)
  deriving DecidableEq, Repr

inductive CharTest where
  /-- Any character, or any but a line feed. -/
  | any (lineFeed : Bool)
  | among (negated : Bool) (members : List Member) (folding : Folding)
  deriving DecidableEq, Repr

/-- A place between characters. -/
inductive Place where
  | textStart
  | textEnd
  | lineStart
  | lineEnd
  /-- The end of the text, or before a line feed that ends it. -/
  | lastLineEnd
  /-- The edge of a word, or any other place of a text that is not empty. -/
  | wordEdge (negated ascii : Bool)
  deriving DecidableEq, Repr

/-- In which order the numbers of repetitions are tried. -/
inductive Repetition where
  | greedy
  | lazy
  /-- As many as possible, without going back. -/
  | possessive
  deriving DecidableEq, Repr

end Pattern

open Pattern in
inductive Pattern where
  | empty
  | char (test : CharTest)
  | place (place : Place)
  | both (first second : Pattern)
  | either (first second : Pattern)
  | group (number : Nat) (body : Pattern)
  /-- The text that a group matched. -/
  | again (number : Nat) (folding : Folding)
  | repeated (least : Nat) (most : Option Nat) (order : Repetition) (body : Pattern)
  /-- What follows, or what comes before if a width is given, without moving on. -/
  | look (behind : Option Nat) (negated : Bool) (body : Pattern)
  /-- The first way to match, without going back into it. -/
  | atomic (body : Pattern)
  /-- One of two patterns, by whether a group has matched. -/
  | ifGroup (number : Nat) (yes no : Pattern)
  deriving Repr, Inhabited

namespace Pattern

def CharClass.holds (cls : CharClass) (ascii : Bool) (c : Char) : Bool :=
  match cls with
  | .digit => if ascii then Text.isAsciiDigit c else Text.isDecimalDigit c
  | .blank =>
    if ascii then c == ' ' || (9 ≤ c.toNat && c.toNat ≤ 13) else Text.isBlank c
  | .word => if ascii then c.isAlphanum || c == '_' else Text.isWord c

/-- A character as it is compared. -/
def Folding.fold (folding : Folding) (c : Char) : Char :=
  match folding with
  | .exact => c
  | .ascii => c.toLower
  | .full => Text.foldChar c

/-- The code points that count as equal to a character. -/
def Folding.partners (folding : Folding) (c : Char) : List Nat :=
  match folding with
  | .exact => [c.toNat]
  | .ascii => [c.toNat, c.toLower.toNat, c.toUpper.toNat]
  | .full => Text.foldPartners c

def Member.holds (folding : Folding) (c : Char) : Member → Bool
  | .point code => (folding.partners c).contains code
  | .range first last => (folding.partners c).any fun code => first ≤ code && code ≤ last
  | .named cls negated ascii => cls.holds ascii c != negated

def CharTest.passes (c : Char) : CharTest → Bool
  | .any lineFeed => lineFeed || c != '\n'
  | .among negated members folding => (members.any fun m => m.holds folding c) != negated

end Pattern

end PipelineOverride
