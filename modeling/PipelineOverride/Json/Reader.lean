import PipelineOverride.Document.Basic
import PipelineOverride.Text.Digit

/-!
# Reading JSON

One reader for strict JSON and for JSON with comments. Each function takes the rest of the text and
gives what it read with what follows. The later of two equal keys decides the value. An integer of
more than 4300 digits is refused.
-/

set_option autoImplicit false

namespace PipelineOverride.Json

open Text (isAsciiDigit digitsValue)

/-- What a reader accepts beyond strict JSON. -/
structure Dialect where
  /-- Comments from a number sign or two slashes to the end of the line, and form feeds as
  blanks. -/
  comments : Bool
  /-- A comma before a closing bracket. -/
  trailingComma : Bool
  /-- The names of the numbers without digits. -/
  specialNumbers : Bool

/-- JSON as programs exchange it. -/
def strict : Dialect := ⟨false, false, true⟩

/-- JSON as people write it. -/
def commented : Dialect := ⟨true, true, false⟩

def maxDigits : Nat := 4300

def Dialect.isBlank (dialect : Dialect) (c : Char) : Bool :=
  c == ' ' || c == '\t' || c == '\n' || c == '\r' || (dialect.comments && c.toNat == 12)

/-- The text after blanks and comments, of which the first may be open already. -/
def Dialect.skip (dialect : Dialect) (insideComment : Bool) : List Char → List Char
  | [] => []
  | c :: rest =>
    if insideComment then dialect.skip (c != '\n') rest
    else if dialect.isBlank c then dialect.skip false rest
    else if dialect.comments && c == '#' then dialect.skip true rest
    else if dialect.comments && c == '/' && rest.head? == some '/' then dialect.skip true rest
    else c :: rest

/-- The text after blanks and comments. -/
def Dialect.next (dialect : Dialect) (cs : List Char) : List Char :=
  dialect.skip false cs

def hexValue? (c : Char) : Option Nat :=
  if '0' ≤ c && c ≤ '9' then some (c.toNat - 48)
  else if 'a' ≤ c && c ≤ 'f' then some (c.toNat - 87)
  else if 'A' ≤ c && c ≤ 'F' then some (c.toNat - 55)
  else none

def hexFour? : List Char → Option (Nat × List Char)
  | a :: b :: c :: d :: rest => do
    let a ← hexValue? a
    let b ← hexValue? b
    let c ← hexValue? c
    let d ← hexValue? d
    pure (((a * 16 + b) * 16 + c) * 16 + d, rest)
  | _ => none

/-- The character of an escape whose first unit is read. Two units that form a pair give one
character; a unit without its partner gives the replacement character. -/
def pairUnits (unit : Nat) (rest : List Char) : Char × List Char :=
  if 0xd800 ≤ unit && unit < 0xdc00 then
    match rest with
    | '\\' :: 'u' :: more =>
      match hexFour? more with
      | some (second, after) =>
        if 0xdc00 ≤ second && second < 0xe000 then
          (Char.ofNat (0x10000 + (unit - 0xd800) * 0x400 + (second - 0xdc00)), after)
        else ('\ufffd', rest)
      | none => ('\ufffd', rest)
    | _ => ('\ufffd', rest)
  else if 0xdc00 ≤ unit && unit < 0xe000 then ('\ufffd', rest)
  else (Char.ofNat unit, rest)

/-- The characters of a string up to its closing mark, `fuel` of them at most. -/
def stringBody? : Nat → List Char → Option (List Char × List Char)
  | 0, _ => none
  | _, [] => none
  | fuel + 1, c :: rest =>
    if c = '"' then some ([], rest)
    else if c = '\\' then
      match rest with
      | [] => none
      | e :: more =>
        let simple := fun (d : Char) =>
          (stringBody? fuel more).map fun (body, after) => (d :: body, after)
        if e = '"' || e = '\\' || e = '/' then simple e
        else if e = 'n' then simple '\n'
        else if e = 'r' then simple '\r'
        else if e = 't' then simple '\t'
        else if e = 'b' then simple '\x08'
        else if e = 'f' then simple '\x0c'
        else if e = 'u' then do
          let (unit, more) ← hexFour? more
          let (d, more) := pairUnits unit more
          let (body, after) ← stringBody? fuel more
          pure (d :: body, after)
        else none
    else if c.toNat < 0x20 then none
    else (stringBody? fuel rest).map fun (body, after) => (c :: body, after)

/-- A string whose opening mark is read. -/
def string? (cs : List Char) : Option (String × List Char) :=
  (stringBody? (cs.length + 1) cs).map fun (body, after) => (String.ofList body, after)

/-- The digits at the start of a text, and what follows. -/
def spanDigits (cs : List Char) : List Char × List Char :=
  (cs.takeWhile isAsciiDigit, cs.dropWhile isAsciiDigit)

/-- The whole part of a number: one zero, or digits that start with another one. -/
def wholePart? (cs : List Char) : Option (List Char × List Char) :=
  match cs with
  | '0' :: rest => some (['0'], rest)
  | _ =>
    let (digits, rest) := spanDigits cs
    if digits.isEmpty then none else some (digits, rest)

/-- The decimal places of a number, none where there is no point with a digit after it. -/
def decimalPlaces (cs : List Char) : List Char × List Char :=
  match cs with
  | '.' :: rest =>
    let (digits, after) := spanDigits rest
    if digits.isEmpty then ([], cs) else (digits, after)
  | _ => ([], cs)

def exponentPart (cs : List Char) : Option Int × List Char :=
  match cs with
  | e :: rest =>
    if e = 'e' || e = 'E' then
      let (negative, rest) :=
        match rest with
        | '-' :: more => (true, more)
        | '+' :: more => (false, more)
        | _ => (false, rest)
      let (digits, after) := spanDigits rest
      if digits.isEmpty then (none, cs)
      else
        let value : Int := digitsValue digits
        (some (if negative then -value else value), after)
    else (none, cs)
  | [] => (none, cs)

/-- A number after its sign. Without decimal places and exponent it is an integer. -/
def unsigned? (negative : Bool) (cs : List Char) : Option (Scalar × List Char) := do
  let (whole, cs) ← wholePart? cs
  let (places, cs) := decimalPlaces cs
  let (exponent, cs) := exponentPart cs
  if places.isEmpty && exponent.isNone then
    if maxDigits < whole.length then none
    else
      let value : Int := digitsValue whole
      pure (.int (if negative then -value else value), cs)
  else
    let power : Int := exponent.getD 0 - places.length
    pure (.float (.ofDecimal negative (digitsValue (whole ++ places)) power), cs)

def number? : List Char → Option (Scalar × List Char)
  | '-' :: rest => unsigned? true rest
  | cs => unsigned? false cs

/-- The text after a word, if it starts with it. -/
def after? : List Char → List Char → Option (List Char)
  | [], cs => some cs
  | w :: ws, c :: cs => if w = c then after? ws cs else none
  | _ :: _, [] => none

/-- The words that stand for values. -/
def words (dialect : Dialect) : List (List Char × Scalar) :=
  [("null".toList, .null), ("true".toList, .bool true), ("false".toList, .bool false)]
    ++ if dialect.specialNumbers then
      [("NaN".toList, .float .nan), ("Infinity".toList, .float (.infinite false)),
        ("-Infinity".toList, .float (.infinite true))]
    else []

/-- A value that is neither a string nor a container. -/
def atom? (dialect : Dialect) (cs : List Char) : Option (Scalar × List Char) :=
  match (words dialect).findSome? fun (word, value) =>
      (after? word cs).map fun rest => (value, rest) with
  | some found => some found
  | none => number? cs

/-- Whether a container may close here: at once, or after a comma where the dialect lets it. -/
def closes? (dialect : Dialect) (bracket : Char) (cs : List Char) : Option (List Char) :=
  match cs with
  | c :: rest =>
    if c = bracket then some rest
    else if dialect.trailingComma && c == ',' then
      match dialect.next rest with
      | d :: after => if d = bracket then some after else none
      | [] => none
    else none
  | [] => none

mutual

/-- A value with no blanks before it. -/
def value? (dialect : Dialect) : Nat → List Char → Option (Document × List Char)
  | 0, _ => none
  | _, [] => none
  | fuel + 1, c :: rest =>
    if c = '"' then (string? rest).map fun (s, after) => (.text s, after)
    else if c = '[' then
      let rest := dialect.next rest
      match closes? dialect ']' rest with
      | some after => some (.list [], after)
      | none => (items? dialect fuel rest).map fun (items, after) => (.list items, after)
    else if c = '\x7b' then
      let rest := dialect.next rest
      match closes? dialect '\x7d' rest with
      | some after => some (.mapping [], after)
      | none =>
        (fields? dialect fuel rest).map fun (fields, after) =>
          (.mapping (Table.ofEntries fields), after)
    else (atom? dialect (c :: rest)).map fun (s, after) => (.scalar s, after)

/-- The items of a list up to its closing bracket. -/
def items? (dialect : Dialect) : Nat → List Char → Option (List Document × List Char)
  | 0, _ => none
  | fuel + 1, cs => do
    let (item, cs) ← value? dialect fuel cs
    let cs := dialect.next cs
    match closes? dialect ']' cs with
    | some after => pure ([item], after)
    | none =>
      match cs with
      | ',' :: rest =>
        let (items, after) ← items? dialect fuel (dialect.next rest)
        pure (item :: items, after)
      | _ => none

/-- The fields of a mapping up to its closing brace, repeated keys included. -/
def fields? (dialect : Dialect) :
    Nat → List Char → Option (List (Scalar × Document) × List Char)
  | 0, _ => none
  | fuel + 1, cs =>
    match cs with
    | '"' :: rest => do
      let (name, cs) ← string? rest
      match dialect.next cs with
      | ':' :: rest =>
        let (value, cs) ← value? dialect fuel (dialect.next rest)
        let cs := dialect.next cs
        match closes? dialect '\x7d' cs with
        | some after => pure ([(.text name, value)], after)
        | none =>
          match cs with
          | ',' :: rest =>
            let (fields, after) ← fields? dialect fuel (dialect.next rest)
            pure ((.text name, value) :: fields, after)
          | _ => none
      | _ => none
    | _ => none

end

/-- The document that a whole text writes. Every step of the reader takes at least one character,
so the length of the text bounds their number. -/
def readChars? (dialect : Dialect) (cs : List Char) : Option Document :=
  match value? dialect (cs.length + 1) (dialect.next cs) with
  | some (document, rest) => if (dialect.next rest).isEmpty then some document else none
  | none => none

/-- The document that a text writes. An escaped half of a surrogate pair, which is no character,
becomes the replacement character, and nesting is not limited. -/
def read? (dialect : Dialect) (s : String) : Option Document :=
  readChars? dialect s.toList

end PipelineOverride.Json
