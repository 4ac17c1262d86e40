import PipelineOverride.Yaml.Scalars
import PipelineOverride.Yaml.Token

/-!
# Reading tokens of YAML

The text is read from left to right with the stack of indentations and, for each bracket level, the
place that may still turn out to begin a key. Such a place must be followed by its colon on the same
line and within 1024 characters; at the indentation of a block mapping it must be followed by one at
all.
-/

set_option autoImplicit false

namespace PipelineOverride.Yaml

/-- A place that may begin a key. -/
structure OpenPlace where
  level : Nat
  number : Nat
  required : Bool
  index : Nat
  line : Nat
  column : Nat

/-- How far the text is read. -/
structure LexState where
  cursor : Cursor
  /-- How many brackets are open. -/
  level : Nat := 0
  indent : Int := -1
  /-- The indentations around the current one. -/
  outer : List Int := []
  /-- Whether a key may begin here. -/
  allowKey : Bool := true
  openPlaces : List OpenPlace := []
  placeCount : Nat := 0
  keyPlaces : List KeyPlace := []
  /-- The tokens, the last one first. -/
  tokens : List Token := []

/-- A step of reading. -/
abbrev Lexer := StateT LexState (Except Failure)

namespace Lexer

/-- The text is no YAML. -/
def refuse {α : Type} : Lexer α :=
  throw .badYaml

def emit (token : Token) : Lexer Unit :=
  modify fun state => { state with tokens := token :: state.tokens }

def goTo (cursor : Cursor) : Lexer Unit :=
  modify fun state => { state with cursor := cursor }

/-- Goes on after some characters. -/
def forward (count : Nat) : Lexer Unit :=
  modify fun state => { state with cursor := state.cursor.advance count }

/-- Lets a key begin here, or not. -/
def setAllowKey (allow : Bool) : Lexer Unit :=
  modify fun state => { state with allowKey := allow }

/-- A bound on the number of steps that reading the rest can take. -/
def remaining : Lexer Nat :=
  return (← get).cursor.rest.length + 1

/-- Drops the places that are too far behind. -/
def dropStalePlaces : Lexer Unit := do
  let state ← get
  let (kept, stale) := state.openPlaces.partition fun place =>
    place.line == state.cursor.line && state.cursor.index ≤ place.index + 1024
  if stale.any OpenPlace.required then refuse
  set { state with openPlaces := kept }

/-- Drops the place of the current bracket level. -/
def dropPlace : Lexer Unit := do
  let state ← get
  let (here, kept) := state.openPlaces.partition fun place => place.level == state.level
  if here.any OpenPlace.required then refuse
  set { state with openPlaces := kept }

/-- Marks a place that may begin a key. -/
def markPlace : Lexer Unit := do
  let state ← get
  if state.allowKey then
    dropPlace
    modify fun state =>
      let cursor := state.cursor
      let place : OpenPlace := {
        level := state.level
        number := state.placeCount
        required := state.level == 0 && state.indent == cursor.column
        index := cursor.index
        line := cursor.line
        column := cursor.column }
      { state with
        openPlaces := place :: state.openPlaces
        placeCount := state.placeCount + 1
        tokens := .place state.placeCount :: state.tokens }

/-- Closes the block collections that are indented further than a column. -/
def closeBlocks (column : Int) : Lexer Unit := do
  let state ← get
  if state.level == 0 then
    let closed := (state.indent :: state.outer).takeWhile fun indent => column < indent
    let left := (state.indent :: state.outer).drop closed.length
    set { state with
      indent := left.headD (-1)
      outer := left.tail
      tokens := closed.map (fun _ => Token.blockEnd) ++ state.tokens }

/-- Opens a block collection at a column, unless the current one is there already. -/
def openBlock (column : Nat) : Lexer Bool := do
  let state ← get
  if state.indent < column then
    set { state with indent := (column : Int), outer := state.indent :: state.outer }
    return true
  else return false

/-- Closes everything before a directive, a mark between documents or the end. -/
def closeDocument : Lexer Unit := do
  closeBlocks (-1)
  dropPlace
  setAllowKey false

/-- The position of the next token, and whether a line break comes before it. -/
def gapEnd : Nat → Bool → Cursor → Bool × Cursor
  | 0, broken, cursor => (broken, cursor)
  | fuel + 1, broken, cursor =>
    let cursor := cursor.skip (· == ' ')
    let cursor := if cursor.peek == '#' then cursor.skip fun c => !isLineEnd c else cursor
    match cursor.lineBreak? with
    | some (_, cursor) => gapEnd fuel true cursor
    | none => (broken, cursor)

/-- Goes to the next token. Outside brackets a key may begin after a line break. -/
def skipGap : Lexer Unit := do
  let state ← get
  let start :=
    if state.cursor.index == 0 && state.cursor.peek == '\ufeff' then state.cursor.step
    else state.cursor
  let (broken, cursor) := gapEnd (← remaining) false start
  set { state with
    cursor := cursor
    allowKey := state.allowKey || (broken && state.level == 0) }

/-- Whether a character may stand in the name of an anchor or a directive. -/
def isNameChar (c : Char) : Bool :=
  c.isAlphanum || c == '-' || c == '_'

/-- Whether a character may stand in a tag. -/
def isTagChar (c : Char) : Bool :=
  isNameChar c || ";/?:@&=+$,.!~*'()[]".toList.contains c

/-- The bytes that come next as percent signs with two hexadecimal digits each. -/
def percentBytes : Nat → Cursor → Except Failure (List UInt8 × Cursor)
  | 0, cursor => .ok ([], cursor)
  | fuel + 1, cursor =>
    if cursor.peek == '%' then
      match hexDigitValue? (cursor.peek 1), hexDigitValue? (cursor.peek 2) with
      | some high, some low =>
        (percentBytes fuel (cursor.advance 3)).map fun (bytes, cursor) =>
          (UInt8.ofNat (high * 16 + low) :: bytes, cursor)
      | _, _ => .error .badYaml
    else .ok ([], cursor)

/-- The characters of a tag, bytes that are given by number included. -/
def tagChars : Nat → Cursor → Except Failure (List Char × Cursor)
  | 0, cursor => .ok ([], cursor)
  | fuel + 1, cursor =>
    let c := cursor.peek
    if c == '%' then do
      let (bytes, cursor) ← percentBytes (fuel + 1) cursor
      match String.fromUTF8? ⟨bytes.toArray⟩ with
      | some s => withFront s.toList (tagChars fuel cursor)
      | none => throw .badYaml
    else if isTagChar c then withFront [c] (tagChars fuel cursor.step)
    else .ok ([], cursor)

/-- The text of a tag, which is not empty. -/
def tagText : Lexer String := do
  let (chars, cursor) ← tagChars (← remaining) (← get).cursor
  if chars.isEmpty then refuse
  goTo cursor
  return String.ofList chars

/-- The handle of a tag: an exclamation mark, or a name between two of them. -/
def tagHandle : Lexer String := do
  let cursor := (← get).cursor
  if cursor.peek != '!' then refuse
  let (name, after) := cursor.step.span isNameChar
  if cursor.peek 1 == ' ' then
    goTo cursor.step
    return "!"
  else if after.peek == '!' then
    goTo after.step
    return String.ofList ('!' :: name ++ ['!'])
  else refuse

def skipSpaces : Lexer Unit := do
  goTo ((← get).cursor.skip (· == ' '))

def versionNumber : Lexer Nat := do
  let (digits, cursor) := (← get).cursor.span Char.isDigit
  if digits.isEmpty then refuse
  goTo cursor
  return digits.foldl (fun number c => number * 10 + (c.toNat - 48)) 0

/-- Refuses the text unless a gap comes next. -/
def needGap : Lexer Unit := do
  if !isGap (← get).cursor.peek then refuse

def directive : Lexer Unit := do
  closeDocument
  forward 1
  let (name, cursor) := (← get).cursor.span isNameChar
  if name.isEmpty || !isGap cursor.peek then refuse
  goTo cursor
  let directive ←
    if name == "YAML".toList then
      skipSpaces
      let major ← versionNumber
      if (← get).cursor.peek != '.' then refuse
      forward 1
      let _ ← versionNumber
      needGap
      pure (Directive.version major)
    else if name == "TAG".toList then
      skipSpaces
      let handle ← tagHandle
      if (← get).cursor.peek != ' ' then refuse
      skipSpaces
      let meaning ← tagText
      needGap
      pure (Directive.tag handle meaning)
    else
      goTo ((← get).cursor.skip fun c => !isLineEnd c)
      pure Directive.other
  goTo (← afterEmptyLine (← get).cursor)
  emit (.directive directive)

/-- Reads a mark between documents. -/
def documentMark (token : Token) : Lexer Unit := do
  closeDocument
  forward 3
  emit token

def openBracket (token : Token) : Lexer Unit := do
  markPlace
  modify fun state => { state with level := state.level + 1 }
  setAllowKey true
  forward 1
  emit token

/-- Reads a closing bracket, which needs an open one. -/
def closeBracket (token : Token) : Lexer Unit := do
  dropPlace
  if (← get).level == 0 then refuse
  modify fun state => { state with level := state.level - 1 }
  setAllowKey false
  forward 1
  emit token

def comma : Lexer Unit := do
  setAllowKey true
  dropPlace
  forward 1
  emit .entry

/-- Opens a block collection where an indicator stands, if it is not open there. -/
def openIndicated (token : Token) : Lexer Unit := do
  let state ← get
  if state.level == 0 then
    if !state.allowKey then refuse
    if ← openBlock state.cursor.column then emit token

def dash : Lexer Unit := do
  openIndicated .blockSequenceStart
  setAllowKey true
  dropPlace
  forward 1
  emit .item

def questionMark : Lexer Unit := do
  openIndicated .blockMappingStart
  setAllowKey ((← get).level == 0)
  dropPlace
  forward 1
  emit .key

/-- Reads the indicator of a value. The open place of the bracket level turns out to begin the key
of it. -/
def colon : Lexer Unit := do
  let state ← get
  match state.openPlaces.find? fun place => place.level == state.level with
  | some place =>
    set { state with
      openPlaces := state.openPlaces.filter fun other => other.level != state.level }
    let opens ← if state.level == 0 then openBlock place.column else pure false
    modify fun state =>
      { state with keyPlaces := ⟨place.number, opens⟩ :: state.keyPlaces }
    setAllowKey false
  | none =>
    openIndicated .blockMappingStart
    setAllowKey (state.level == 0)
    dropPlace
  forward 1
  emit .value

def reference (token : String → Token) : Lexer Unit := do
  markPlace
  setAllowKey false
  let (name, cursor) := (← get).cursor.step.span isNameChar
  let c := cursor.peek
  if name.isEmpty || !(isWideGap c || "?:,]\x7d%@\x60".toList.contains c) then refuse
  goTo cursor
  emit (token (String.ofList name))

/-- Whether a tag that begins at a character has a handle of its own. -/
def hasHandle : List Char → Bool
  | [] => false
  | c :: rest => !isGap c && (c == '!' || hasHandle rest)

def tag : Lexer Unit := do
  markPlace
  setAllowKey false
  let cursor := (← get).cursor
  let second := cursor.peek 1
  let name ←
    if second == '<' then
      forward 2
      let suffix ← tagText
      if (← get).cursor.peek != '>' then refuse
      forward 1
      pure ⟨none, suffix⟩
    else if isWideGap second then
      forward 1
      pure ⟨none, "!"⟩
    else if hasHandle (cursor.rest.drop 1) then
      let handle ← tagHandle
      pure ⟨some handle, ← tagText⟩
    else
      forward 1
      pure ⟨some "!", ← tagText⟩
  needGap
  emit (.tag name)

def block (folded : Bool) : Lexer Unit := do
  setAllowKey true
  dropPlace
  let state ← get
  let (text, cursor) ← blockText folded state.indent (← remaining) state.cursor.step
  goTo cursor
  emit (.scalar (String.ofList text) false)

def quoted (double : Bool) : Lexer Unit := do
  markPlace
  setAllowKey false
  let (text, cursor) ← quotedText double (← remaining) (← get).cursor.step
  goTo cursor
  emit (.scalar (String.ofList text) false)

def beginsPlain (inFlow : Bool) (cursor : Cursor) : Bool :=
  let c := cursor.peek
  !(isWideGap c || isFlowMark c || "-?:#&*!|>'\"%@\x60".toList.contains c)
    || (!isWideGap (cursor.peek 1) && (c == '-' || (!inFlow && (c == '?' || c == ':'))))

def plain : Lexer Unit := do
  markPlace
  let state ← get
  let (text, broken, cursor) :=
    plainText (state.level != 0) (state.indent + 1) (← remaining) state.cursor
  setAllowKey broken
  goTo cursor
  emit (.scalar (String.ofList text) true)

/-- Reads the next token. False at the end of the text. -/
def token : Lexer Bool := do
  skipGap
  dropStalePlaces
  closeBlocks (← get).cursor.column
  let state ← get
  let cursor := state.cursor
  let inFlow := state.level != 0
  let c := cursor.peek
  let beforeGap := isWideGap (cursor.peek 1)
  if c == '\x00' then
    closeDocument
    return false
  if cursor.column == 0 && c == '%' then directive
  else if cursor.column == 0 && cursor.atTriple '-' then documentMark .documentStart
  else if cursor.column == 0 && cursor.atTriple '.' then documentMark .documentEnd
  else if c == '[' then openBracket .sequenceOpen
  else if c == '\x7b' then openBracket .mappingOpen
  else if c == ']' then closeBracket .sequenceClose
  else if c == '\x7d' then closeBracket .mappingClose
  else if c == ',' then comma
  else if c == '-' && beforeGap then dash
  else if c == '?' && (inFlow || beforeGap) then questionMark
  else if c == ':' && (inFlow || beforeGap) then colon
  else if c == '*' then reference .alias
  else if c == '&' then reference .anchor
  else if c == '!' then tag
  else if c == '|' && !inFlow then block false
  else if c == '>' && !inFlow then block true
  else if c == '\'' then quoted false
  else if c == '"' then quoted true
  else if beginsPlain inFlow cursor then plain
  else refuse
  return true

/-- Reads tokens up to the end of the text, `fuel` of them at most. -/
def tokens : Nat → Lexer Unit
  | 0 => refuse
  | fuel + 1 => do if ← token then tokens fuel

end Lexer

/-- The tokens of a text. Each takes a character at least, so the length of the text bounds their
number. -/
def Token.ofText (s : String) : Except Failure (List Token) := do
  let chars := s.toList
  if !chars.all isReadable then throw .badYaml
  let start : LexState := { cursor := { rest := chars } }
  let (_, state) ← (Lexer.tokens (chars.length + 2)).run start
  return Token.settle state.keyPlaces state.tokens.reverse

end PipelineOverride.Yaml
