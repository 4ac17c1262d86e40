/-!
# Positions in a text

The rest of a text with the line and column at which it begins. Beyond the end a text goes on with
null characters, which no readable text holds.
-/

set_option autoImplicit false

namespace PipelineOverride.Yaml

def isBreak (c : Char) : Bool :=
  c == '\n' || c == '\r' || c.toNat == 0x85 || c.toNat == 0x2028 || c.toNat == 0x2029

/-- Whether a character is the end of the text or of a line. -/
def isLineEnd (c : Char) : Bool :=
  c == '\x00' || isBreak c

/-- Whether a character is the end of the text or of a line, or a space. -/
def isGap (c : Char) : Bool :=
  c == ' ' || isLineEnd c

/-- Whether a character is the end of the text or of a line, a space or a tab. -/
def isWideGap (c : Char) : Bool :=
  c == '\t' || isGap c

/-- Whether a character may stand in a text at all. -/
def isReadable (c : Char) : Bool :=
  let n := c.toNat
  n == 9 || n == 10 || n == 13 || (0x20 ≤ n && n ≤ 0x7e) || n == 0x85
    || (0xa0 ≤ n && n ≤ 0xd7ff) || (0xe000 ≤ n && n ≤ 0xfffd) || 0x10000 ≤ n

/-- The rest of a text and where it begins. -/
structure Cursor where
  rest : List Char
  index : Nat := 0
  line : Nat := 0
  column : Nat := 0

namespace Cursor

def peek (cursor : Cursor) (distance : Nat := 0) : Char :=
  cursor.rest.getD distance '\x00'

/-- The next characters, fewer at the end of the text. -/
def next (cursor : Cursor) (count : Nat) : List Char :=
  cursor.rest.take count

/-- The position after one character. A carriage return before a line feed ends no line, and a
byte order mark takes no column. -/
def step (cursor : Cursor) : Cursor :=
  match cursor.rest with
  | [] => cursor
  | c :: rest =>
    if isBreak c && !(c == '\r' && rest.head? == some '\n') then
      ⟨rest, cursor.index + 1, cursor.line + 1, 0⟩
    else
      ⟨rest, cursor.index + 1, cursor.line,
        if c.toNat = 0xfeff then cursor.column else cursor.column + 1⟩

/-- The position after some characters. -/
def advance (cursor : Cursor) : Nat → Cursor
  | 0 => cursor
  | count + 1 => cursor.step.advance count

/-- The characters of a class that come next, and the position after them. -/
def span (cursor : Cursor) (among : Char → Bool) : List Char × Cursor :=
  let chars := cursor.rest.takeWhile among
  (chars, cursor.advance chars.length)

/-- The position after the characters of a class. -/
def skip (cursor : Cursor) (among : Char → Bool) : Cursor :=
  (cursor.span among).2

/-- The line break that comes next, as one character, and the position after it. -/
def lineBreak? (cursor : Cursor) : Option (Char × Cursor) :=
  let c := cursor.peek
  if c == '\r' && cursor.peek 1 == '\n' then some ('\n', cursor.advance 2)
  else if c.toNat = 0x2028 || c.toNat = 0x2029 then some (c, cursor.step)
  else if isBreak c then some ('\n', cursor.step)
  else none

/-- Whether three equal characters come next, alone or before a gap, as the marks between
documents are written. -/
def atTriple (cursor : Cursor) (c : Char) : Bool :=
  cursor.next 3 == [c, c, c] && isWideGap (cursor.peek 3)

/-- Whether a mark between documents comes next, in whatever column. -/
def atDocumentMark (cursor : Cursor) : Bool :=
  cursor.atTriple '-' || cursor.atTriple '.'

end Cursor

end PipelineOverride.Yaml
