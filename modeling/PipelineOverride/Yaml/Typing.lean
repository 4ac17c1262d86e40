import PipelineOverride.Text.Digit
import PipelineOverride.Yaml.Node
import PipelineOverride.Yaml.Scalars

/-!
# The types of plain scalars

A plain scalar is a truth value, a number, a date, null or a merge key if it is written like one,
and a text otherwise. `implicitTag` gives the tag; the functions below it decide one type each.
-/

set_option autoImplicit false

namespace PipelineOverride.Yaml

open Text (isAsciiDigit)

/-- The spellings of truth values, with what they stand for. -/
def truthSpellings : List (String × Bool) := [
  ("yes", true), ("Yes", true), ("YES", true), ("no", false), ("No", false), ("NO", false),
  ("true", true), ("True", true), ("TRUE", true), ("false", false), ("False", false),
  ("FALSE", false), ("on", true), ("On", true), ("ON", true), ("off", false), ("Off", false),
  ("OFF", false)]

def nullSpellings : List String := ["~", "null", "Null", "NULL", ""]

/-- The spellings of infinity without a sign. -/
def infinitySpellings : List String := [".inf", ".Inf", ".INF"]

def undefinedSpellings : List String := [".nan", ".NaN", ".NAN"]

/-- The characters after a sign, if there is one. -/
def unsigned : List Char → List Char
  | '-' :: rest => rest
  | '+' :: rest => rest
  | cs => cs

/-- Whether all characters are digits of a class or underscores, and there are some. -/
def allDigits (digit : Char → Bool) (cs : List Char) : Bool :=
  !cs.isEmpty && cs.all fun c => digit c || c == '_'

def isBinaryDigit (c : Char) : Bool := c == '0' || c == '1'

def isOctalDigit (c : Char) : Bool := '0' ≤ c && c ≤ '7'

def isHexDigit (c : Char) : Bool := (hexDigitValue? c).isSome

/-- The parts of a text between colons. -/
def colonParts : List Char → List (List Char)
  | [] => [[]]
  | c :: rest =>
    if c == ':' then [] :: colonParts rest
    else
      match colonParts rest with
      | [] => [[c]]
      | part :: others => (c :: part) :: others

/-- Whether a part of a number in base sixty is one or two digits below sixty. -/
def isSixtieth : List Char → Bool
  | [a] => isAsciiDigit a
  | [a, b] => '0' ≤ a && a ≤ '5' && isAsciiDigit b
  | _ => false

/-- Whether a part begins with a digit of a class and goes on with digits and underscores. -/
def beginsWithDigit (first : Char → Bool) : List Char → Bool
  | [] => false
  | c :: rest => first c && rest.all fun d => isAsciiDigit d || d == '_'

/-- Whether a character is a digit but no zero. -/
def isPositiveDigit (c : Char) : Bool := '1' ≤ c && c ≤ '9'

/-- Whether a scalar is written like an integer: in base two, eight, ten, sixteen or sixty. -/
def looksInteger (cs : List Char) : Bool :=
  match unsigned cs with
  | ['0'] => true
  | '0' :: 'b' :: digits => allDigits isBinaryDigit digits
  | '0' :: 'x' :: digits => allDigits isHexDigit digits
  | '0' :: digits => allDigits isOctalDigit digits
  | rest =>
    match colonParts rest with
    | [whole] => beginsWithDigit isPositiveDigit whole
    | first :: others => beginsWithDigit isPositiveDigit first && others.all isSixtieth
    | [] => false

def looksExponent : List Char → Bool
  | e :: sign :: digits =>
    (e == 'e' || e == 'E') && (sign == '+' || sign == '-') && !digits.isEmpty
      && digits.all isAsciiDigit
  | _ => false

/-- Whether a text is decimal places with an exponent or without. -/
def looksPlaces (cs : List Char) : Bool :=
  let rest := cs.dropWhile fun c => isAsciiDigit c || c == '_'
  rest.isEmpty || looksExponent rest

/-- The text before the first point and the text after it. -/
def splitPoint (cs : List Char) : Option (List Char × List Char) :=
  match cs.dropWhile (· != '.') with
  | _ :: rest => some (cs.takeWhile (· != '.'), rest)
  | [] => none

/-- Whether a scalar is written like a number with a decimal point, or is one without digits. -/
def looksFloat (cs : List Char) : Bool :=
  let s := String.ofList cs
  infinitySpellings.contains (String.ofList (unsigned cs)) || undefinedSpellings.contains s
    || match cs with
      | '.' :: c :: rest => isAsciiDigit c && looksPlaces rest
      | _ =>
        match splitPoint (unsigned cs) with
        | none => false
        | some (whole, places) =>
          match colonParts whole with
          | [whole] => beginsWithDigit isAsciiDigit whole && looksPlaces places
          | first :: others =>
            beginsWithDigit isAsciiDigit first && others.all isSixtieth
              && places.all fun c => isAsciiDigit c || c == '_'
          | [] => false

/-!
## Dates and times
-/

/-- Between `least` and `most` digits as a number, as many as there are. -/
def number? (least most : Nat) (cs : List Char) : Option (Nat × List Char) :=
  let digits := (cs.take most).takeWhile isAsciiDigit
  if digits.length < least then none
  else some (Text.digitsValue digits, cs.drop digits.length)

/-- The rest of a text after one character. -/
def after? (c : Char) : List Char → Option (List Char)
  | d :: rest => if c == d then some rest else none
  | [] => none

/-- The first six decimal places of a second, as a number of millionths. -/
def millionths (places : List Char) : Nat :=
  let kept := places.take 6
  Text.digitsValue (kept ++ List.replicate (6 - kept.length) '0')

/-- The offset at the end of a time in minutes, none if there is none. -/
def offset? (cs : List Char) : Option (Option Int) :=
  match cs.dropWhile fun c => c == ' ' || c == '\t' with
  | [] => if cs.isEmpty then some none else none
  | ['Z'] => some (some 0)
  | sign :: rest =>
    if sign == '+' || sign == '-' then do
      let (hours, rest) ← number? 1 2 rest
      let minutes ←
        match rest with
        | [] => pure 0
        | ':' :: rest => do
          let (minutes, rest) ← number? 2 2 rest
          if rest.isEmpty then pure minutes else none
        | _ => none
      let total : Int := hours * 60 + minutes
      pure (some (if sign == '-' then -total else total))
    else none

def clockTime? (cs : List Char) : Option ClockTime := do
  let (hour, rest) ← number? 1 2 cs
  let rest ← after? ':' rest
  let (minute, rest) ← number? 2 2 rest
  let rest ← after? ':' rest
  let (second, rest) ← number? 2 2 rest
  let (places, rest) :=
    match rest with
    | '.' :: more => (more.takeWhile isAsciiDigit, more.dropWhile isAsciiDigit)
    | _ => ([], rest)
  let offset ← offset? rest
  pure ⟨hour, minute, second, millionths places, offset⟩

/-- The text after what separates a date from a time. -/
def afterJoint? : List Char → Option (List Char)
  | 'T' :: rest => some rest
  | 't' :: rest => some rest
  | c :: rest =>
    if c == ' ' || c == '\t' then some (rest.dropWhile fun d => d == ' ' || d == '\t') else none
  | [] => none

/-- The date that a text writes, with a time of day or without. A date without one has two digits
for the month and the day. Whether there is such a day is not decided here. -/
def moment? (cs : List Char) (loose : Bool) : Option Moment := do
  let (year, rest) ← number? 4 4 cs
  let rest ← after? '-' rest
  let (month, afterMonth) ← number? 1 2 rest
  let afterDash ← after? '-' afterMonth
  let (day, afterDay) ← number? 1 2 afterDash
  if afterDay.isEmpty then
    if loose || (rest.length == 5 && afterDash.length == 2) then pure ⟨year, month, day, none⟩
    else none
  else
    let time ← clockTime? (← afterJoint? afterDay)
    pure ⟨year, month, day, some time⟩

/-- The tag that an untagged plain scalar gets. -/
def implicitTag (s : String) : String :=
  let cs := s.toList
  standardTag
    (if truthSpellings.any fun spelling => spelling.1 == s then "bool"
    else if looksFloat cs then "float"
    else if looksInteger cs then "int"
    else if s == "<<" then "merge"
    else if nullSpellings.contains s then "null"
    else if (moment? cs false).isSome then "timestamp"
    else if s == "=" then "value"
    else "str")

end PipelineOverride.Yaml
