import PipelineOverride.Failure
import PipelineOverride.Yaml.Cursor

/-!
# Scalars of YAML

How the text of a scalar is read in the three styles: quoted, plain, and as a block under a
header. A line break inside a scalar is folded into a space, except in a literal block.
-/

set_option autoImplicit false

namespace PipelineOverride.Yaml

/-- Puts characters in front of what a function reads. -/
def withFront (front : List Char) (read : Except Failure (List Char × Cursor)) :
    Except Failure (List Char × Cursor) :=
  read.map fun (chars, cursor) => (front ++ chars, cursor)

/-- The line breaks of the blank lines that come next inside a quoted scalar. A mark between
documents is not allowed there. -/
def quotedBreaks : Nat → Cursor → Except Failure (List Char × Cursor)
  | 0, _ => .error .badYaml
  | fuel + 1, cursor =>
    if cursor.atDocumentMark then .error .badYaml
    else
      let cursor := cursor.skip fun c => c == ' ' || c == '\t'
      match cursor.lineBreak? with
      | some (lineBreak, cursor) => withFront [lineBreak] (quotedBreaks fuel cursor)
      | none => .ok ([], cursor)

/-- What a line break and the blank lines after it stand for: one break alone is a space, and of
several the first one is dropped. -/
def foldBreaks (lineBreak : Char) (more : List Char) : List Char :=
  if lineBreak != '\n' then lineBreak :: more
  else if more.isEmpty then [' ']
  else more

/-- The white space that comes next inside a quoted scalar. -/
def quotedSpaces (fuel : Nat) (cursor : Cursor) : Except Failure (List Char × Cursor) := do
  let (blanks, cursor) := cursor.span fun c => c == ' ' || c == '\t'
  match cursor.lineBreak? with
  | some (lineBreak, cursor) =>
    let (more, cursor) ← quotedBreaks fuel cursor
    return (foldBreaks lineBreak more, cursor)
  | none => if cursor.peek == '\x00' then throw .badYaml else return (blanks, cursor)

/-- The character that an escape of one letter stands for. -/
def escapedChar? (c : Char) : Option Char :=
  match c with
  | '0' => some '\x00'
  | 'a' => some '\x07'
  | 'b' => some '\x08'
  | 't' => some '\t'
  | '\t' => some '\t'
  | 'n' => some '\n'
  | 'v' => some '\x0b'
  | 'f' => some '\x0c'
  | 'r' => some '\r'
  | 'e' => some '\x1b'
  | ' ' => some ' '
  | '"' => some '"'
  | '\\' => some '\\'
  | '/' => some '/'
  | 'N' => some '\u0085'
  | '_' => some '\u00a0'
  | 'L' => some '\u2028'
  | 'P' => some '\u2029'
  | _ => none

/-- The number of hexadecimal digits of an escape by number. -/
def escapeWidth? (c : Char) : Option Nat :=
  match c with
  | 'x' => some 2
  | 'u' => some 4
  | 'U' => some 8
  | _ => none

def hexDigitValue? (c : Char) : Option Nat :=
  if '0' ≤ c && c ≤ '9' then some (c.toNat - 48)
  else if 'a' ≤ c && c ≤ 'f' then some (c.toNat - 87)
  else if 'A' ≤ c && c ≤ 'F' then some (c.toNat - 55)
  else none

def hexNumber? (digits : List Char) : Option Nat :=
  digits.foldl (fun number c => do
    let number ← number
    let digit ← hexDigitValue? c
    pure (number * 16 + digit)) (some 0)

/-- The character of a number. A number beyond all characters is a failure, and the half of a pair
has the replacement character. -/
def numberedChar (number : Nat) : Except Failure Char :=
  if Nat.pow 2 31 ≤ number then .error .tooLarge
  else if 0x10ffff < number then .error .badValue
  else if 0xd800 ≤ number && number < 0xe000 then .ok '\ufffd'
  else .ok (Char.ofNat number)

/-- An escape whose backslash is read. -/
def escape (fuel : Nat) (cursor : Cursor) : Except Failure (List Char × Cursor) :=
  let c := cursor.peek
  match escapedChar? c with
  | some d => .ok ([d], cursor.step)
  | none =>
    match escapeWidth? c with
    | some width => do
      let cursor := cursor.step
      let digits := cursor.next width
      match hexNumber? digits with
      | some number =>
        if digits.length < width then throw .badYaml
        return ([← numberedChar number], cursor.advance width)
      | none => throw .badYaml
    | none =>
      match cursor.lineBreak? with
      | some (_, cursor) => quotedBreaks fuel cursor
      | none => .error .badYaml

/-- A quoted scalar whose opening mark is read, up to the closing mark. -/
def quotedText (double : Bool) : Nat → Cursor → Except Failure (List Char × Cursor)
  | 0, _ => .error .badYaml
  | fuel + 1, cursor =>
    let c := cursor.peek
    if c == (if double then '"' else '\'') then
      if !double && cursor.peek 1 == '\'' then
        withFront ['\''] (quotedText double fuel (cursor.advance 2))
      else .ok ([], cursor.step)
    else if double && c == '\\' then do
      let (chars, cursor) ← escape fuel cursor.step
      withFront chars (quotedText double fuel cursor)
    else if isWideGap c then do
      let (chars, cursor) ← quotedSpaces fuel cursor
      withFront chars (quotedText double fuel cursor)
    else withFront [c] (quotedText double fuel cursor.step)

/-- Whether a character has a meaning of its own inside brackets. -/
def isFlowMark (c : Char) : Bool :=
  c == ',' || c == '[' || c == ']' || c == '\x7b' || c == '\x7d'

/-- The part of a plain scalar up to the next gap or mark. -/
def plainChunk (inFlow : Bool) : List Char → List Char
  | [] => []
  | c :: rest =>
    let next := rest.headD '\x00'
    if isWideGap c || (c == ':' && (isWideGap next || (inFlow && isFlowMark next)))
        || (inFlow && (isFlowMark c || c == '?')) then []
    else c :: plainChunk inFlow rest

/-- The line breaks of the blank lines that come next inside a plain scalar, none if a mark
between documents is met. -/
def plainBreaks : Nat → Cursor → Option (List Char) × Cursor
  | 0, cursor => (none, cursor)
  | fuel + 1, cursor =>
    if cursor.atDocumentMark then (none, cursor)
    else
      let cursor := cursor.skip (· == ' ')
      match cursor.lineBreak? with
      | some (lineBreak, cursor) =>
        let (more, cursor) := plainBreaks fuel cursor
        (more.map (lineBreak :: ·), cursor)
      | none => (some [], cursor)

/-- The white space that comes next inside a plain scalar, and whether it holds a line break. -/
def plainSpaces (fuel : Nat) (cursor : Cursor) : List Char × Bool × Cursor :=
  let (blanks, cursor) := cursor.span (· == ' ')
  match cursor.lineBreak? with
  | some (lineBreak, cursor) =>
    let (more, cursor) := plainBreaks fuel cursor
    ((more.map (foldBreaks lineBreak)).getD [], true, cursor)
  | none => (blanks, false, cursor)

/-- A plain scalar, whether a line break follows it, and the position after the white space behind
it. A line that is indented less than `indent` does not belong to it. -/
def plainText (inFlow : Bool) (indent : Int) : Nat → Cursor → List Char × Bool × Cursor
  | 0, cursor => ([], false, cursor)
  | fuel + 1, cursor =>
    let chunk := if cursor.peek == '#' then [] else plainChunk inFlow cursor.rest
    if chunk.isEmpty then ([], false, cursor)
    else
      let (spaces, broken, after) := plainSpaces fuel (cursor.advance chunk.length)
      if spaces.isEmpty || after.peek == '#' || (!inFlow && (after.column : Int) < indent) then
        (chunk, broken, after)
      else
        match plainText inFlow indent fuel after with
        | ([], _, _) => (chunk, broken, after)
        | (more, brokenLater, last) => (chunk ++ spaces ++ more, brokenLater, last)

/-- The header of a block scalar: whether the breaks at its end are kept or all dropped, and the
indentation that it asks for. -/
structure BlockHeader where
  keep : Option Bool
  indentation : Option Nat

def headerDigit? (c : Char) : Option Nat :=
  if '0' ≤ c && c ≤ '9' then some (c.toNat - 48) else none

/-- The end mark of a header. -/
def headerKeep? (c : Char) : Option Bool :=
  if c == '+' then some true else if c == '-' then some false else none

/-- The position after the rest of a line that may hold nothing but a comment. -/
def afterEmptyLine (cursor : Cursor) : Except Failure Cursor :=
  let cursor := cursor.skip (· == ' ')
  let cursor := if cursor.peek == '#' then cursor.skip fun c => !isLineEnd c else cursor
  if isLineEnd cursor.peek then .ok ((cursor.lineBreak?.map Prod.snd).getD cursor)
  else .error .badYaml

/-- The header of a block scalar, its two parts in either order. -/
def blockHeader (cursor : Cursor) : Except Failure (BlockHeader × Cursor) := do
  let (keep, cursor) :=
    match headerKeep? cursor.peek with
    | some keep => (some keep, cursor.step)
    | none => (none, cursor)
  let (digit, cursor) :=
    match headerDigit? cursor.peek with
    | some digit => (some digit, cursor.step)
    | none => (none, cursor)
  let (keep, cursor) :=
    match keep, digit, headerKeep? cursor.peek with
    | none, some _, some keep => (some keep, cursor.step)
    | keep, _, _ => (keep, cursor)
  if digit = some 0 || !isGap cursor.peek then throw .badYaml
  return (⟨keep, digit⟩, ← afterEmptyLine cursor)

/-- The breaks of the blank lines at the start of a block and the widest indentation there. -/
def leadingBreaks : Nat → Cursor → Nat → List Char × Nat × Cursor
  | 0, cursor, widest => ([], widest, cursor)
  | fuel + 1, cursor, widest =>
    if cursor.peek == ' ' then
      let cursor := cursor.step
      leadingBreaks fuel cursor (max widest cursor.column)
    else
      match cursor.lineBreak? with
      | some (lineBreak, cursor) =>
        let (more, widest, cursor) := leadingBreaks fuel cursor widest
        (lineBreak :: more, widest, cursor)
      | none => ([], widest, cursor)

/-- The position after as many spaces as an indentation asks for. -/
def indented (indent : Nat) : Nat → Cursor → Cursor
  | 0, cursor => cursor
  | fuel + 1, cursor =>
    if cursor.column < indent && cursor.peek == ' ' then indented indent fuel cursor.step
    else cursor

/-- The breaks of the blank lines that come next in a block, and the position after the
indentation of the line that follows. -/
def blockBreaks (indent : Nat) : Nat → Cursor → List Char × Cursor
  | 0, cursor => ([], cursor)
  | fuel + 1, cursor =>
    let cursor := indented indent (fuel + 1) cursor
    match cursor.lineBreak? with
    | some (lineBreak, cursor) =>
      let (more, cursor) := blockBreaks indent fuel cursor
      (lineBreak :: more, cursor)
    | none => ([], cursor)

/-- The lines of a block from one that belongs to it: their text, the break after the last one,
and the breaks behind that. -/
def blockLines (folded : Bool) (indent : Nat) :
    Nat → Cursor → List Char × List Char × List Char × Cursor
  | 0, cursor => ([], [], [], cursor)
  | fuel + 1, cursor =>
    let isInset := fun c => c == ' ' || c == '\t'
    let inset := isInset cursor.peek
    let (line, cursor) := cursor.span fun c => !isLineEnd c
    let (lineBreak, cursor) :=
      match cursor.lineBreak? with
      | some (lineBreak, cursor) => ([lineBreak], cursor)
      | none => ([], cursor)
    let (breaks, cursor) := blockBreaks indent (fuel + 1) cursor
    if cursor.column = indent && cursor.peek != '\x00' then
      let joint :=
        if folded && lineBreak == ['\n'] && !inset && !isInset cursor.peek then
          if breaks.isEmpty then [' '] else []
        else lineBreak
      let (text, lastBreak, lastBreaks, cursor) := blockLines folded indent fuel cursor
      (line ++ joint ++ breaks ++ text, lastBreak, lastBreaks, cursor)
    else (line, lineBreak, breaks, cursor)

/-- A block scalar whose indicator is read, inside a collection that is indented by `indent`. -/
def blockText (folded : Bool) (indent : Int) (fuel : Nat) (cursor : Cursor) :
    Except Failure (List Char × Cursor) := do
  let (header, cursor) ← blockHeader cursor
  let least := max 1 (indent + 1).toNat
  let (breaks, width, cursor) :=
    match header.indentation with
    | some digit =>
      let width := least + digit - 1
      let (breaks, cursor) := blockBreaks width fuel cursor
      (breaks, width, cursor)
    | none =>
      let (breaks, widest, cursor) := leadingBreaks fuel cursor 0
      (breaks, max least widest, cursor)
  let (text, lastBreak, lastBreaks, cursor) :=
    if cursor.column = width && cursor.peek != '\x00' then
      let (text, lastBreak, lastBreaks, cursor) := blockLines folded width fuel cursor
      (breaks ++ text, lastBreak, lastBreaks, cursor)
    else ([], [], breaks, cursor)
  return (text
    ++ (if header.keep = some false then [] else lastBreak)
    ++ (if header.keep = some true then lastBreaks else []), cursor)

end PipelineOverride.Yaml
