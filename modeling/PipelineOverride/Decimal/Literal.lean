import PipelineOverride.Decimal.Binary64
import PipelineOverride.Text.Blank
import PipelineOverride.Text.Digit

/-!
# Number literals

Numbers as free text writes them: blanks around them, a sign, and digits. Integers have at most 4300
digits in base ten.
-/

set_option autoImplicit false

namespace PipelineOverride.Decimal

open Text (isAsciiDigit digitsValue)

/-- The sign of a literal, and what follows it. -/
def signOf : List Char → Bool × List Char
  | '-' :: rest => (true, rest)
  | '+' :: rest => (false, rest)
  | cs => (false, cs)

def intLiteral? (s : String) : Option Int :=
  let (negative, digits) := signOf (Text.trim s).toList
  if digits.isEmpty || !digits.all isAsciiDigit || 4300 < digits.length then none
  else
    let value : Int := digitsValue digits
    some (if negative then -value else value)

/-- The exponent at the end of a literal, zero if there is nothing. -/
def exponentLiteral? : List Char → Option Int
  | [] => some 0
  | e :: rest =>
    let (negative, digits) := signOf rest
    if (e == 'e' || e == 'E') && !digits.isEmpty && digits.all isAsciiDigit then
      let value : Int := digitsValue digits
      some (if negative then -value else value)
    else none

def floatLiteral? (s : String) : Option Binary64 :=
  let (negative, cs) := signOf (Text.trim s).toList
  let word := String.ofList (cs.map Char.toLower)
  if word == "inf" || word == "infinity" then some (.infinite negative)
  else if word == "nan" then some .nan
  else
    let whole := cs.takeWhile isAsciiDigit
    let rest := cs.dropWhile isAsciiDigit
    let (places, rest) :=
      match rest with
      | '.' :: more => (more.takeWhile isAsciiDigit, more.dropWhile isAsciiDigit)
      | _ => ([], rest)
    if whole.isEmpty && places.isEmpty then none
    else
      (exponentLiteral? rest).map fun exponent =>
        .ofDecimal negative (digitsValue (whole ++ places)) (exponent - places.length)

end PipelineOverride.Decimal
