import PipelineOverride.Document.Basic
import PipelineOverride.Text.Quoted

/-!
# Writing JSON

The JSON text of a document, without blanks or with one field to a line. A key that is no text is
written as the text of its value. Moments, byte strings and sets have no JSON text, and neither
has a document that holds one.
-/

set_option autoImplicit false

namespace PipelineOverride.Json

open Text (hexDigits)

/-- The numbers without digits in JSON texts. -/
def specialNames : Decimal.SpecialNames := ⟨"NaN", "Infinity"⟩

/-- One character inside a string that may hold every character but the controls. -/
def escapeChar (c : Char) : List Char :=
  if c = '"' || c = '\\' then ['\\', c]
  else if c = '\n' then ['\\', 'n']
  else if c = '\r' then ['\\', 'r']
  else if c = '\t' then ['\\', 't']
  else if c.toNat = 8 then ['\\', 'b']
  else if c.toNat = 12 then ['\\', 'f']
  else if c.toNat < 0x20 then '\\' :: 'u' :: hexDigits 4 c.toNat
  else [c]

/-- One character inside a string of ASCII alone. Beyond the basic plane it takes two units. -/
def escapeAscii (c : Char) : List Char :=
  if c.toNat < 0x7f then escapeChar c
  else if c.toNat < 0x10000 then '\\' :: 'u' :: hexDigits 4 c.toNat
  else
    let offset := c.toNat - 0x10000
    '\\' :: 'u' :: hexDigits 4 (0xd800 + offset / 0x400)
      ++ '\\' :: 'u' :: hexDigits 4 (0xdc00 + offset % 0x400)

/-- A string with its marks, each character written by `escape`. -/
def stringChars (escape : Char → List Char) (s : String) : List Char :=
  '"' :: s.toList.flatMap escape ++ ['"']

def scalarChars? (escape : Char → List Char) : Scalar → Option (List Char)
  | .null => some "null".toList
  | .bool value => some (if value then "true".toList else "false".toList)
  | .int value => some (Decimal.intText value).toList
  | .float value => some (value.text specialNames).toList
  | .text value => some (stringChars escape value)
  | .moment _ => none
  | .bytes _ => none

/-- The JSON text of a key, which is always a string. -/
def keyChars? (escape : Char → List Char) : Scalar → Option (List Char)
  | .text value => some (stringChars escape value)
  | other => (scalarChars? escape other).map fun inner => '"' :: inner ++ ['"']

mutual

/-- The JSON text of a document without blanks. -/
def compactChars? (escape : Char → List Char) : Document → Option (List Char)
  | .scalar value => scalarChars? escape value
  | .list [] => some ['[', ']']
  | .list (item :: rest) => do
    let first ← compactChars? escape item
    let others ← compactItems? escape rest
    pure ('[' :: first ++ others ++ [']'])
  | .set _ => none
  | .mapping [] => some ['\x7b', '\x7d']
  | .mapping ((key, value) :: rest) => do
    let name ← keyChars? escape key
    let first ← compactChars? escape value
    let others ← compactFields? escape rest
    pure ('\x7b' :: name ++ ':' :: first ++ others ++ ['\x7d'])

/-- The items after the first one, each behind a comma. -/
def compactItems? (escape : Char → List Char) : List Document → Option (List Char)
  | [] => some []
  | item :: rest => do
    let first ← compactChars? escape item
    let others ← compactItems? escape rest
    pure (',' :: first ++ others)

/-- The fields after the first one, each behind a comma. -/
def compactFields? (escape : Char → List Char) :
    List (Scalar × Document) → Option (List Char)
  | [] => some []
  | (key, value) :: rest => do
    let name ← keyChars? escape key
    let first ← compactChars? escape value
    let others ← compactFields? escape rest
    pure (',' :: name ++ ':' :: first ++ others)

end

def lineBreak (depth : Nat) : List Char :=
  '\n' :: List.replicate (2 * depth) ' '

mutual

/-- The JSON text of a document with one item or field to a line, at a depth. -/
def indentedChars? (escape : Char → List Char) (depth : Nat) : Document → Option (List Char)
  | .scalar value => scalarChars? escape value
  | .list [] => some ['[', ']']
  | .list (item :: rest) => do
    let first ← indentedChars? escape (depth + 1) item
    let others ← indentedItems? escape (depth + 1) rest
    pure ('[' :: lineBreak (depth + 1) ++ first ++ others ++ lineBreak depth ++ [']'])
  | .set _ => none
  | .mapping [] => some ['\x7b', '\x7d']
  | .mapping ((key, value) :: rest) => do
    let name ← keyChars? escape key
    let first ← indentedChars? escape (depth + 1) value
    let others ← indentedFields? escape (depth + 1) rest
    pure ('\x7b' :: lineBreak (depth + 1) ++ name ++ ':' :: ' ' :: first ++ others
      ++ lineBreak depth ++ ['\x7d'])

/-- The items after the first one, each on a line of its own. -/
def indentedItems? (escape : Char → List Char) (depth : Nat) :
    List Document → Option (List Char)
  | [] => some []
  | item :: rest => do
    let first ← indentedChars? escape depth item
    let others ← indentedItems? escape depth rest
    pure (',' :: lineBreak depth ++ first ++ others)

/-- The fields after the first one, each on a line of its own. -/
def indentedFields? (escape : Char → List Char) (depth : Nat) :
    List (Scalar × Document) → Option (List Char)
  | [] => some []
  | (key, value) :: rest => do
    let name ← keyChars? escape key
    let first ← indentedChars? escape depth value
    let others ← indentedFields? escape depth rest
    pure (',' :: lineBreak depth ++ name ++ ':' :: ' ' :: first ++ others)

end

/-- The JSON text of a document without blanks. -/
def compact? (document : Document) : Option String :=
  (compactChars? escapeChar document).map String.ofList

/-- The JSON text of a document without blanks and in ASCII alone. -/
def ascii? (document : Document) : Option String :=
  (compactChars? escapeAscii document).map String.ofList

/-- The JSON text of a document with one item or field to a line. -/
def indented? (document : Document) : Option String :=
  (indentedChars? escapeChar 0 document).map String.ofList

end PipelineOverride.Json
