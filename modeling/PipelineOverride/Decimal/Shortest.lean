import PipelineOverride.Decimal.Binary64

/-!
# Shortest decimals

The decimal text of a binary floating-point number: the fewest digits that read back as the same
number, and of these the ones nearest to it. A grid of decimals with a given number of digits can
only hit the interval of reals that round to the number at one of the two neighbours of the number
on that grid, so two exact comparisons decide each grid.
-/

set_option autoImplicit false

namespace PipelineOverride.Decimal

/-- A positive decimal `digits * 10 ^ power`. -/
structure Digits where
  digits : Nat
  power : Int
  deriving DecidableEq, Repr

def natText (n : Nat) : String :=
  String.ofList (Nat.toDigits 10 n)

def intText : Int → String
  | .ofNat n => natText n
  | .negSucc n => "-" ++ natText (n + 1)

/-- The reals that round to a number, all over one denominator: the number itself, the two ends,
and whether the ends belong to it. -/
structure RoundingInterval where
  value : Nat
  low : Nat
  high : Nat
  den : Nat
  closed : Bool

/-- The interval of a positive number. Below a power of two the gap is half as wide. -/
def roundingInterval (mantissa : Nat) (exponent : Int) : RoundingInterval :=
  let up := Nat.pow 2 (exponent - 2).toNat
  let below := if mantissa = Nat.pow 2 52 && -1074 < exponent then 1 else 2
  { value := 4 * mantissa * up
    low := (4 * mantissa - below) * up
    high := (4 * mantissa + 2) * up
    den := Nat.pow 2 (2 - exponent).toNat
    closed := mantissa % 2 = 0 }

/-- The interval in units of `10 ^ power`. -/
def RoundingInterval.inUnits (interval : RoundingInterval) (power : Int) : RoundingInterval :=
  let up := Nat.pow 10 (-power).toNat
  { value := interval.value * up
    low := interval.low * up
    high := interval.high * up
    den := interval.den * Nat.pow 10 power.toNat
    closed := interval.closed }

def RoundingInterval.holds (interval : RoundingInterval) (n : Nat) : Bool :=
  let scaled := n * interval.den
  if interval.closed then interval.low ≤ scaled && scaled ≤ interval.high
  else interval.low < scaled && scaled < interval.high

/-- The natural in the interval that is nearest to its value, a tie going to the even one. -/
def RoundingInterval.nearest? (interval : RoundingInterval) : Option Nat :=
  let below := interval.value / interval.den
  let above := below + 1
  let twice := 2 * (interval.value % interval.den)
  let first :=
    if twice < interval.den then below
    else if interval.den < twice then above
    else below + below % 2
  let second := if first = below then above else below
  if interval.holds first then some first
  else if interval.holds second then some second
  else none

/-- The power of ten of the leading digit of a positive quotient. -/
def leadingPower (num den : Nat) : Int :=
  let guess : Int := ((Nat.toDigits 10 num).length : Int) - ((Nat.toDigits 10 den).length : Int)
  let scaled :=
    if 0 ≤ guess then (num, den * Nat.pow 10 guess.toNat)
    else (num * Nat.pow 10 (-guess).toNat, den)
  if scaled.1 < scaled.2 then guess - 1 else guess

/-- Tries grids of ever finer decimals, `fuel` of them at most. -/
def searchGrids (interval : RoundingInterval) : Nat → Int → Digits
  | 0, power => ⟨interval.value / interval.den, power⟩
  | fuel + 1, power =>
    match (interval.inUnits power).nearest? with
    | some digits => ⟨digits, power⟩
    | none => searchGrids interval fuel (power - 1)

/-- The shortest decimal of a positive number. Seventeen digits are always enough. -/
def shortest (mantissa : Nat) (exponent : Int) : Digits :=
  let interval := roundingInterval mantissa exponent
  searchGrids interval 17 (leadingPower interval.value interval.den)

/-- How a finite number is written from its digits: between the two bounds on the place of the
decimal point it is positional and keeps at least one decimal place, outside them it has an
exponent of at least two digits with its sign. -/
structure Notation64 where
  lowestPoint : Int := -3
  highestPoint : Int := 16

/-- Exponents have at least two digits and always a sign. -/
def exponentText (n : Int) : String :=
  let digits := natText n.natAbs
  (if n < 0 then "-" else "+") ++ (if digits.length < 2 then "0" ++ digits else digits)

/-- The text of a positive decimal under a notation. -/
def Digits.text (style : Notation64) (d : Digits) : String :=
  let all := (Nat.toDigits 10 d.digits)
  let kept := (all.reverse.dropWhile (· == '0')).reverse
  let point : Int := (all.length : Int) + d.power
  if style.lowestPoint ≤ point && point ≤ style.highestPoint then
    if point ≤ 0 then
      String.ofList ('0' :: '.' :: List.replicate (-point).toNat '0' ++ kept)
    else
      let whole := kept.take point.toNat
      let padded := whole ++ List.replicate (point.toNat - whole.length) '0'
      let fraction := kept.drop point.toNat
      String.ofList (padded ++ '.' :: (if fraction.isEmpty then ['0'] else fraction))
  else
    let tail := kept.drop 1
    String.ofList (kept.take 1 ++ (if tail.isEmpty then [] else '.' :: tail)) ++ "e"
      ++ exponentText (point - 1)

/-- The names of the numbers that have no digits. -/
structure SpecialNames where
  undefined : String
  infinity : String

def Binary64.text (names : SpecialNames) : Binary64 → String
  | .nan => names.undefined
  | .infinite negative => (if negative then "-" else "") ++ names.infinity
  | .finite negative mantissa exponent =>
    (if negative then "-" else "")
      ++ (if mantissa = 0 then "0.0" else (shortest mantissa exponent).text {})

end PipelineOverride.Decimal
