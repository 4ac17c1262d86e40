/-!
# Binary floating-point numbers

The numbers of the 64-bit binary format, by sign, mantissa and exponent instead of by machine
words. All arithmetic on them here is exact arithmetic on naturals followed by one rounding, so
that statements about them need no property of machine operations.
-/

set_option autoImplicit false

namespace PipelineOverride.Decimal

/-- A number of the 64-bit binary format. A finite one is `mantissa * 2 ^ exponent`, and the
functions below keep `mantissa < 2 ^ 53` and `-1074 ≤ exponent ≤ 971`. -/
inductive Binary64 where
  | nan
  | infinite (negative : Bool)
  | finite (negative : Bool) (mantissa : Nat) (exponent : Int)
  deriving DecidableEq, Repr, Inhabited

namespace Binary64

/-- The zero with a sign. -/
def zero (negative : Bool) : Binary64 :=
  .finite negative 0 (-1074)

/-- The quotient of two naturals, a half going to the even neighbour. -/
def divideToEven (num den : Nat) : Nat :=
  let quotient := num / den
  let twice := 2 * (num % den)
  if twice < den then quotient
  else if den < twice then quotient + 1
  else quotient + quotient % 2

/-- `num / (den * 2 ^ exponent)` as a numerator and a denominator. -/
def scaledRatio (num den : Nat) (exponent : Int) : Nat × Nat :=
  if 0 ≤ exponent then (num, den * Nat.pow 2 exponent.toNat)
  else (num * Nat.pow 2 (-exponent).toNat, den)

/-- The exponent for which the quotient has 53 binary digits, but at least the lowest one. -/
def quotientExponent (num den : Nat) : Int :=
  let guess : Int := (Nat.log2 num : Int) - (Nat.log2 den : Int) - 52
  let scaled := scaledRatio num den guess
  max (-1074) (if scaled.1 < scaled.2 * Nat.pow 2 52 then guess - 1 else guess)

/-- The number nearest to a quotient of naturals, a half going to the even mantissa. -/
def ofRatio (negative : Bool) (num den : Nat) : Binary64 :=
  if num = 0 then zero negative
  else
    let exponent := quotientExponent num den
    let scaled := scaledRatio num den exponent
    let mantissa := divideToEven scaled.1 scaled.2
    let carried := mantissa = Nat.pow 2 53
    let exponent := if carried then exponent + 1 else exponent
    if 971 < exponent then .infinite negative
    else .finite negative (if carried then Nat.pow 2 52 else mantissa) exponent

/-- The number nearest to `digits * 10 ^ power`. Powers far outside the range of the format are
decided without computing them. -/
def ofDecimal (negative : Bool) (digits : Nat) (power : Int) : Binary64 :=
  if digits = 0 then zero negative
  else if 400 < power then .infinite negative
  else if power + (Nat.log2 digits : Int) / 3 + 1 < -400 then zero negative
  else if 0 ≤ power then ofRatio negative (digits * Nat.pow 10 power.toNat) 1
  else ofRatio negative digits (Nat.pow 10 (-power).toNat)

def isFinite : Binary64 → Bool
  | .finite .. => true
  | _ => false

def isZero : Binary64 → Bool
  | .finite _ mantissa _ => mantissa == 0
  | _ => false

/-- The integer that a number denotes, if it denotes one. -/
def toInt? : Binary64 → Option Int
  | .finite negative mantissa exponent =>
    let sign : Int := if negative then -1 else 1
    if 0 ≤ exponent then some (sign * (mantissa * Nat.pow 2 exponent.toNat : Nat))
    else
      let unit := Nat.pow 2 (-exponent).toNat
      if mantissa % unit = 0 then some (sign * (mantissa / unit : Nat)) else none
  | _ => none

def negate : Binary64 → Binary64
  | .nan => .nan
  | .infinite negative => .infinite !negative
  | .finite negative mantissa exponent => .finite (!negative) mantissa exponent

def ofInt (n : Int) : Binary64 :=
  ofRatio (n < 0) n.natAbs 1

/-- A finite number as an integer divided by a power of two. -/
def toRatio? : Binary64 → Option (Int × Nat)
  | .finite negative mantissa exponent =>
    let n : Int := if negative then -mantissa else mantissa
    some (n * (Nat.pow 2 exponent.toNat : Nat), Nat.pow 2 (-exponent).toNat)
  | _ => none

/-- The number nearest to the sum of two finite numbers. -/
def add (a b : Binary64) : Binary64 :=
  match a.toRatio?, b.toRatio? with
  | some (m, d), some (n, e) =>
    let sum := m * e + n * d
    ofRatio (sum < 0) sum.natAbs (d * e)
  | none, _ => a
  | _, none => b

/-- The number nearest to the product of two finite numbers. -/
def mul (a b : Binary64) : Binary64 :=
  match a.toRatio?, b.toRatio? with
  | some (m, d), some (n, e) =>
    let product := m * n
    ofRatio (product < 0) product.natAbs (d * e)
  | none, _ => a
  | _, none => b

/-- Whether an integer is too large to be rounded to a finite number. The bound is halfway between
the largest finite number and the next power of two, and the half goes up. -/
def overflows (n : Int) : Bool :=
  Nat.pow 2 1024 - Nat.pow 2 970 ≤ n.natAbs

end Binary64

end PipelineOverride.Decimal
