import PipelineOverride.Decimal.Literal
import PipelineOverride.Pattern.Basic

/-!
# Reading patterns

Patterns are written with the usual operators, named groups, look around a place, atomic groups,
conditions and comments. Options hold for the whole pattern when they stand at its start, and inside
a group otherwise. What looks back must have one width.
-/

set_option autoImplicit false

namespace PipelineOverride.Pattern

/-- Why a text is no pattern. -/
inductive Fault where
  | malformed
  /-- A number of repetitions beyond the limit. -/
  | tooMany
  /-- A number with too many digits, or options that exclude each other. -/
  | impossible
  deriving DecidableEq, Repr

/-- The options of a part of a pattern. -/
structure Flags where
  ignoreCase : Bool := false
  multiline : Bool := false
  dotAll : Bool := false
  verbose : Bool := false
  ascii : Bool := false
  /-- Whether the characters of all scripts are asked for. -/
  unicode : Bool := false
  /-- Whether repetitions are excluded. -/
  template : Bool := false

/-- How letter case matters under options. -/
def Flags.folding (flags : Flags) : Folding :=
  if !flags.ignoreCase then .exact else if flags.ascii then .ascii else .full

/-- Sets an option by its letter, none if there is no such letter. -/
def Flags.set? (flags : Flags) (letter : Char) (value : Bool) : Option Flags :=
  match letter with
  | 'i' => some { flags with ignoreCase := value }
  | 'm' => some { flags with multiline := value }
  | 's' => some { flags with dotAll := value }
  | 'x' => some { flags with verbose := value }
  | 'a' => some { flags with ascii := value }
  | 'u' => some { flags with unicode := value }
  | 't' => some { flags with template := value }
  | _ => none

/-- The letters of options. The last one of them is not for texts. -/
def flagLetters : List Char := ['i', 'm', 's', 'x', 'a', 'u', 't', 'L']

/-- The letters of the options that choose the characters of classes. -/
def scriptLetters : List Char := ['a', 'u', 'L']

/-- Options inside a group, from those around it. -/
def Flags.scoped (flags : Flags) (added removed : List Char) : Flags :=
  let base :=
    if added.any scriptLetters.contains then { flags with ascii := false, unicode := false }
    else flags
  let withAdded := added.foldl (fun flags c => (flags.set? c true).getD flags) base
  removed.foldl (fun flags c => (flags.set? c false).getD flags) withAdded

/-- The limit of repetitions, which also stands for no limit in widths. -/
def repeatLimit : Nat := 4294967295

def groupLimit : Nat := 2147483647

/-- What kind of item a repetition would follow. -/
inductive PieceKind where
  | place
  | repeated
  | other
  deriving DecidableEq

/-- A part of a pattern with the least and the greatest number of characters that it takes. -/
structure Piece where
  pattern : Pattern
  kind : PieceKind := .other
  low : Nat := 1
  high : Nat := 1

def Piece.row (pieces : List Piece) : Piece where
  pattern :=
    match pieces.map Piece.pattern with
    | [] => .empty
    | [single] => single
    | first :: rest => rest.foldl .both first
  low := min (pieces.foldl (fun sum piece => sum + piece.low) 0) (repeatLimit - 1)
  high := min (pieces.foldl (fun sum piece => sum + piece.high) 0) repeatLimit

/-- The piece of two alternatives. -/
def Piece.or (a b : Piece) : Piece where
  pattern := .either a.pattern b.pattern
  low := min a.low b.low
  high := max a.high b.high

/-- How far a pattern is read. -/
structure ParseState where
  rest : List Char
  /-- The options of the whole pattern. -/
  flags : Flags := {}
  /-- The widths of the groups from the first one on, none while a group is open. -/
  groups : List (Option (Nat × Nat)) := []
  names : List (String × Nat) := []
  /-- The groups that were there when a look back began. -/
  lookBehind : Option Nat := none
  /-- The groups that conditions name by number. -/
  conditions : List Nat := []
  repeats : Bool := false
  /-- Whether something looks back that has no single width. -/
  uneven : Bool := false

/-- A step of reading a pattern. -/
abbrev Parse := StateT ParseState (Except Fault)

namespace Parse

/-- The text is no pattern. -/
def refuse {α : Type} : Parse α :=
  throw .malformed

/-- The next token without going on: a character, or a backslash with the character behind it. -/
def peek : Parse (List Char) := do
  match (← get).rest with
  | [] => return []
  | ['\\'] => refuse
  | '\\' :: c :: _ => return ['\\', c]
  | c :: _ => return [c]

/-- The next token. Empty at the end. -/
def next : Parse (List Char) := do
  let token ← peek
  modify fun state => { state with rest := state.rest.drop token.length }
  return token

/-- Goes on after a character if it comes next. -/
def take (c : Char) : Parse Bool := do
  if (← peek) = [c] then
    let _ ← next
    return true
  else return false

/-- Goes on after a character, which must come next. -/
def need (c : Char) : Parse Unit := do
  if !(← take c) then refuse

def someToken : Parse (List Char) := do
  let token ← next
  if token.isEmpty then refuse else return token

/-- The characters of a class that come next, at most `count` of them. -/
def upTo (among : Char → Bool) : Nat → Parse (List Char)
  | 0 => return []
  | count + 1 => do
    match ← peek with
    | [c] =>
      if among c then
        let _ ← next
        return c :: (← upTo among count)
      else return []
    | _ => return []

/-- The characters of a class that come next. -/
def all (among : Char → Bool) : Parse (List Char) := do
  upTo among (← get).rest.length

/-- The text up to a character, which is passed over. It must not be empty. -/
def textUntil (stop : Char) : Nat → List Char → Parse String
  | 0, _ => refuse
  | fuel + 1, read => do
    let token ← someToken
    if token = [stop] then
      if read.isEmpty then refuse else return String.ofList read
    else textUntil stop fuel (read ++ token)

/-- The text up to a character. -/
def name (stop : Char) : Parse String := do
  textUntil stop ((← get).rest.length + 1) []

def isIdentifier (s : String) : Bool :=
  match s.toList with
  | [] => false
  | c :: rest => Text.isWord c && !Text.isDecimalDigit c && rest.all Text.isWord

def hexDigit? (c : Char) : Option Nat :=
  if '0' ≤ c && c ≤ '9' then some (c.toNat - 48)
  else if 'a' ≤ c && c ≤ 'f' then some (c.toNat - 87)
  else if 'A' ≤ c && c ≤ 'F' then some (c.toNat - 55)
  else none

def isOctal (c : Char) : Bool := '0' ≤ c && c ≤ '7'

/-- The number of digits in a base. -/
def inBase (base : Nat) (digits : List Char) : Nat :=
  digits.foldl (fun number c => number * base + (hexDigit? c).getD 0) 0

/-- A character by exactly `width` hexadecimal digits. -/
def byHex (width : Nat) : Parse Nat := do
  let digits ← upTo (fun c => (hexDigit? c).isSome) width
  if digits.length < width then refuse
  let code := inBase 16 digits
  if 0x10ffff < code then refuse
  return code

/-- A character by octal digits, of which one is read. -/
def byOctal (first : Char) : Parse Nat := do
  let more ← upTo isOctal 2
  let code := inBase 8 (first :: more)
  if 255 < code then refuse
  return code

/-- The character of an escape that is the same everywhere. -/
def controlCode? (c : Char) : Option Nat :=
  match c with
  | 'a' => some 7
  | 'b' => some 8
  | 'f' => some 12
  | 'n' => some 10
  | 'r' => some 13
  | 't' => some 9
  | 'v' => some 11
  | '\\' => some 92
  | _ => none

/-- The class that an escape stands for. -/
def classOf? (ascii : Bool) (c : Char) : Option Member :=
  match c with
  | 'd' => some (.named .digit false ascii)
  | 'D' => some (.named .digit true ascii)
  | 's' => some (.named .blank false ascii)
  | 'S' => some (.named .blank true ascii)
  | 'w' => some (.named .word false ascii)
  | 'W' => some (.named .word true ascii)
  | _ => none

/-- The place that an escape stands for. -/
def placeOf? (ascii : Bool) (c : Char) : Option Place :=
  match c with
  | 'A' => some .textStart
  | 'Z' => some .textEnd
  | 'b' => some (.wordEdge false ascii)
  | 'B' => some (.wordEdge true ascii)
  | _ => none

/-- The character of an escape by number, or of one that stands for itself. -/
def plainEscape (c : Char) : Parse Nat := do
  if c == 'x' then byHex 2
  else if c == 'u' then byHex 4
  else if c == 'U' then byHex 8
  else if c.isAlpha || c.isDigit then refuse
  else return c.toNat

/-- A member of a set from an escape. -/
def memberEscape (flags : Flags) (c : Char) : Parse Member := do
  match controlCode? c, classOf? flags.ascii c with
  | some code, _ => return .point code
  | none, some member => return member
  | none, none =>
    if isOctal c then return .point (← byOctal c) else return .point (← plainEscape c)

/-- Whether a group is closed. -/
def closedWidth? (number : Nat) : Parse (Option (Nat × Nat)) := do
  if number = 0 then return none
  return ((← get).groups[number - 1]?).join

/-- Refuses a group that a look back may not refer to. -/
def checkLookBehind (number : Nat) : Parse Unit := do
  match (← get).lookBehind with
  | none => return ()
  | some groups =>
    if (← closedWidth? number).isNone || groups < number then refuse

/-- A reference to the text of a group, which must be closed. -/
def reference (flags : Flags) (number : Nat) : Parse Piece := do
  match ← closedWidth? number with
  | none => refuse
  | some (low, high) =>
    checkLookBehind number
    return { pattern := .again number flags.folding, low := low, high := high }

def single (flags : Flags) (member : Member) : Piece :=
  { pattern := .char (.among false [member] flags.folding) }

/-- A reference by number, or a character by three octal digits. -/
def numbered (flags : Flags) (first : Char) : Parse Piece := do
  let second ← upTo Char.isDigit 1
  match second with
  | [d] =>
    if isOctal first && isOctal d then
      match ← upTo isOctal 1 with
      | [e] =>
        let code := inBase 8 [first, d, e]
        if 255 < code then refuse
        return single flags (.point code)
      | _ => reference flags (inBase 10 [first, d])
    else reference flags (inBase 10 [first, d])
  | _ => reference flags (inBase 10 [first])

/-- The piece of an escape outside a set. -/
def escape (flags : Flags) (c : Char) : Parse Piece := do
  match placeOf? flags.ascii c, classOf? flags.ascii c with
  | some found, _ => return { pattern := .place found, kind := .place, low := 0, high := 0 }
  | none, some member =>
    return { pattern := .char (.among false [member] .exact) }
  | none, none =>
    match controlCode? c with
    | some code => return single flags (.point code)
    | none =>
      if c == '0' then return single flags (.point (← byOctal c))
      else if c.isDigit then numbered flags c
      else return single flags (.point (← plainEscape c))

/-- A member of a set that begins with a token. -/
def member (flags : Flags) (token : List Char) : Parse Member := do
  match token with
  | ['\\', c] => memberEscape flags c
  | [c] => return .point c.toNat
  | _ => refuse

/-- The members of a set up to its closing bracket. -/
def members (flags : Flags) : Nat → List Member → Parse (List Member)
  | 0, _ => refuse
  | fuel + 1, read => do
    let token ← someToken
    if token = [']'] && !read.isEmpty then return read
    let first ← member flags token
    if ← take '-' then
      let token ← someToken
      if token = [']'] then return read ++ [first, .point '-'.toNat]
      match first, ← member flags token with
      | .point low, .point high =>
        if high < low then refuse
        members flags fuel (read ++ [.range low high])
      | _, _ => refuse
    else members flags fuel (read ++ [first])

/-- A set whose opening bracket is read. -/
def charSet (flags : Flags) : Parse Piece := do
  let negated ← take '^'
  let read ← members flags ((← get).rest.length + 1) []
  return { pattern := .char (.among negated read flags.folding) }

/-- A number of repetitions. -/
def bound (digits : List Char) : Parse Nat := do
  if 4300 < digits.length then throw .impossible
  let number := inBase 10 digits
  if repeatLimit ≤ number then throw .tooMany
  return number

/-- The bounds of a repetition behind an opening brace, none if it is no repetition. -/
def braces : Parse (Option (Nat × Option Nat)) := do
  let start ← get
  if (← peek) = ['\x7d'] then return none
  let low ← all Char.isDigit
  let comma ← take ','
  let high ← if comma then all Char.isDigit else pure low
  if !(← take '\x7d') then
    set start
    return none
  let least ← if low.isEmpty then pure 0 else bound low
  if high.isEmpty then return some (least, none)
  let most ← bound high
  if most < least then refuse
  return some (least, some most)

/-- The last piece repeated. -/
def repetition (least : Nat) (most : Option Nat) (pieces : List Piece) : Parse (List Piece) := do
  match pieces with
  | [] => refuse
  | last :: before =>
    if last.kind != .other then refuse
    let order ←
      if ← take '?' then pure Repetition.lazy
      else if ← take '+' then pure Repetition.possessive
      else pure Repetition.greedy
    modify fun state => { state with repeats := true }
    return {
      pattern := .repeated least most order last.pattern
      kind := .repeated
      low := last.low * least
      high := last.high * most.getD repeatLimit } :: before

/-- Letters of options up to one of some characters, with that character. They are given behind
those that are read. -/
def flagRun (stops : List Char) : Nat → Char → List Char → Parse (List Char × Char)
  | 0, _, _ => refuse
  | fuel + 1, letter, read => do
    if letter == 'L' then refuse
    let read := read ++ [letter]
    if (read.filter scriptLetters.contains).any (· != letter) && scriptLetters.contains letter then
      refuse
    match ← someToken with
    | [c] =>
      if stops.contains c then return (read, c)
      else if flagLetters.contains c then flagRun stops fuel c read
      else refuse
    | _ => refuse

/-- The options of a group that begin with a letter or a hyphen: none if they are for the whole
pattern, else what is added and what is removed. -/
def flagGroup (first : Char) : Parse (Option (List Char × List Char)) := do
  let fuel := (← get).rest.length + 1
  let (added, stop) ←
    if first == '-' then pure ([], '-') else flagRun [')', '-', ':'] fuel first []
  if stop == ')' then
    modify fun state => { state with
      flags := added.foldl (fun flags c => (flags.set? c true).getD flags) state.flags }
    return none
  if added.contains 't' then refuse
  if stop == ':' then return some (added, [])
  match ← someToken with
  | [c] =>
    if !flagLetters.contains c then refuse
    let (removed, _) ← flagRun [':'] fuel c []
    if removed.any scriptLetters.contains || removed.contains 't'
        || removed.any added.contains then refuse
    return some (added, removed)
  | _ => refuse

def comment : Nat → Parse Unit
  | 0 => refuse
  | fuel + 1 => do if (← someToken) != [')'] then comment fuel

def restOfLine : Nat → Parse Unit
  | 0 => return ()
  | fuel + 1 => do
    let token ← next
    if token != [] && token != ['\n'] then restOfLine fuel

def openGroup (name : Option String) : Parse Nat := do
  let state ← get
  let number := state.groups.length + 1
  let names ←
    match name with
    | none => pure state.names
    | some name =>
      if state.names.any fun known => known.1 == name then refuse
      pure ((name, number) :: state.names)
  set { state with groups := state.groups ++ [none], names := names }
  return number

def closeGroup (number : Nat) (body : Piece) : Parse Unit :=
  modify fun state =>
    { state with groups := state.groups.set (number - 1) (some (body.low, body.high)) }

def namedGroup (name : String) : Parse Nat := do
  if !isIdentifier name then refuse
  match (← get).names.find? fun known => known.1 == name with
  | some known => return known.2
  | none => refuse

def conditionGroup (given : String) : Parse Nat := do
  if isIdentifier given then namedGroup given
  else
    match Decimal.intLiteral? given with
    | some number =>
      if number ≤ 0 || groupLimit ≤ number then refuse
      modify fun state => { state with conditions := number.toNat :: state.conditions }
      return number.toNat
    | none => refuse

/-- What looks around: the kinds of characters after the question mark that begin it. -/
def lookKind (first : Char) : Parse (Bool × Char) := do
  if first == '<' then
    match ← someToken with
    | [c] => if c == '=' || c == '!' then return (true, c) else refuse
    | _ => refuse
  else return (false, first)

/-- The piece that looks around. What looks back should have one width. -/
def lookPiece (back : Bool) (mark : Char) (body : Piece) : Parse Piece := do
  if back && body.low != body.high then
    modify fun state => { state with uneven := true }
  return {
    pattern := .look (if back then some body.low else none) (mark == '!') body.pattern
    low := 0
    high := 0 }

mutual

/-- Alternatives up to a closing bracket or the end. -/
def alternatives (flags : Flags) (whole : Bool) (isFirst : Bool) : Nat → Parse Piece
  | 0 => refuse
  | fuel + 1 => do
    let first ← sequence flags (whole && isFirst) fuel []
    if ← take '|' then
      let state ← get
      let others ← alternatives (if whole then state.flags else flags) whole false fuel
      return first.or others
    else return first

/-- Items in a row, the last one read first, up to a bar, a closing bracket or the end. -/
def sequence (flags : Flags) (atStart : Bool) : Nat → List Piece → Parse Piece
  | 0, _ => refuse
  | fuel + 1, pieces => do
    let push := fun (piece : Piece) => sequence flags atStart fuel (piece :: pieces)
    let literal := fun (c : Char) => push (single flags (.point c.toNat))
    match ← peek with
    | [] => return Piece.row pieces.reverse
    | ['\\', c] =>
      let _ ← next
      push (← escape flags c)
    | [c] =>
      if c == '|' || c == ')' then return Piece.row pieces.reverse
      let _ ← next
      if flags.verbose && " \t\n\r\x0b\x0c".toList.contains c then
        sequence flags atStart fuel pieces
      else if flags.verbose && c == '#' then
        restOfLine ((← get).rest.length + 1)
        sequence flags atStart fuel pieces
      else if c == '[' then push (← charSet flags)
      else if c == '.' then push { pattern := .char (.any flags.dotAll) }
      else if c == '^' then
        push {
          pattern := .place (if flags.multiline then .lineStart else .textStart)
          kind := .place, low := 0, high := 0 }
      else if c == '$' then
        push {
          pattern := .place (if flags.multiline then .lineEnd else .lastLineEnd)
          kind := .place, low := 0, high := 0 }
      else if c == '?' then
        sequence flags atStart fuel (← repetition 0 (some 1) pieces)
      else if c == '*' then
        sequence flags atStart fuel (← repetition 0 none pieces)
      else if c == '+' then
        sequence flags atStart fuel (← repetition 1 none pieces)
      else if c == '\x7b' then
        match ← braces with
        | some (least, most) =>
          sequence flags atStart fuel (← repetition least most pieces)
        | none => literal c
      else if c == '(' then
        if ← take '?' then
          match ← someToken with
          | [kind] => extension flags atStart kind fuel pieces
          | _ => refuse
        else push (← capture flags none fuel)
      else literal c
    | _ => refuse

/-- A group that captures, whose opening is read. -/
def capture (flags : Flags) (name : Option String) : Nat → Parse Piece
  | 0 => refuse
  | fuel + 1 => do
    let number ← openGroup name
    let body ← alternatives flags false true fuel
    need ')'
    closeGroup number body
    return { body with pattern := .group number body.pattern, kind := .other }

/-- What a bracket with a question mark and one more character begins, and all items behind it. -/
def extension (flags : Flags) (atStart : Bool) (kind : Char) : Nat → List Piece → Parse Piece
  | 0, _ => refuse
  | fuel + 1, pieces => do
    let push := fun (piece : Piece) => sequence flags atStart fuel (piece :: pieces)
    if kind == 'P' then
      if ← take '<' then
        let name ← name '>'
        if !isIdentifier name then refuse
        push (← capture flags (some name) fuel)
      else if ← take '=' then
        let number ← namedGroup (← name ')')
        push (← reference flags number)
      else refuse
    else if kind == '#' then
      comment ((← get).rest.length + 1)
      sequence flags atStart fuel pieces
    else if kind == '=' || kind == '!' || kind == '<' then
      let (back, mark) ← lookKind kind
      let outer := (← get).lookBehind
      if back && outer.isNone then
        modify fun state => { state with lookBehind := some state.groups.length }
      let body ← alternatives flags false true fuel
      if back && outer.isNone then
        modify fun state => { state with lookBehind := none }
      need ')'
      push (← lookPiece back mark body)
    else if kind == '(' then
      let number ← conditionGroup (← name ')')
      checkLookBehind number
      let yes ← sequence flags false fuel []
      let no ←
        if ← take '|' then
          let no ← sequence flags false fuel []
          if (← peek) = ['|'] then refuse
          pure no
        else pure { pattern := .empty, low := 0, high := 0 }
      need ')'
      push {
        pattern := .ifGroup number yes.pattern no.pattern
        low := min yes.low no.low
        high := max yes.high no.high }
    else if kind == '>' || kind == ':' then
      let body ← alternatives flags false true fuel
      need ')'
      push { body with
        pattern := if kind == '>' then .atomic body.pattern else body.pattern
        kind := .other }
    else if flagLetters.contains kind || kind == '-' then
      match ← flagGroup kind with
      | none =>
        if !atStart || !pieces.isEmpty then refuse
        let state ← get
        sequence state.flags atStart fuel pieces
      | some (added, removed) =>
        let body ← alternatives (flags.scoped added removed) false true fuel
        need ')'
        push { body with kind := .other }
    else refuse

end

end Parse

/-- The pattern that a text writes. Every level of reading takes a character at least, or follows
one that does. -/
def ofText (s : String) : Except Fault Pattern := do
  let chars := s.toList
  let (piece, state) ← (Parse.alternatives {} true true (4 * chars.length + 8)).run { rest := chars }
  if state.flags.ascii && state.flags.unicode then throw .impossible
  if !state.rest.isEmpty then throw .malformed
  if state.conditions.any fun number => state.groups.length < number then throw .malformed
  if state.uneven || (state.flags.template && state.repeats) then throw .malformed
  return piece.pattern

end PipelineOverride.Pattern
