/-!
Numbers of double precision. A decimal is rounded to the nearest one, and each is written with the
fewest digits that are rounded to it again.
-/

namespace TitleLint

/-- A number of double precision. A finite one has less than 54 bits in its mantissa, and 53 unless
its exponent is the least. -/
inductive Double where
  | nan
  | infinite (negative : Bool)
  | finite (negative : Bool) (mantissa : Nat) (exponent : Int)
  deriving DecidableEq, Repr

namespace Double

def leastExponent : Int := -1074

def greatestExponent : Int := 971

/-- A fraction times a power. -/
def scale (base : Nat) (exponent : Int) (num den : Nat) : Nat × Nat :=
  (num * Nat.pow base exponent.toNat, den * Nat.pow base (-exponent).toNat)

/-- The nearest integer to a fraction, the even one of two. -/
def roundHalfEven (num den : Nat) : Nat :=
  let whole := num / den
  let twice := 2 * (num % den)
  if twice < den ∨ (twice = den ∧ whole % 2 = 0) then whole else whole + 1

/-- The exponent with which the whole part of a fraction has 53 bits, unless it is below the least. -/
def exponentOf (num den : Nat) : Int :=
  let e : Int := max leastExponent (Nat.log2 num - Nat.log2 den - 53)
  let (n, d) := scale 2 (-e) num den
  if n / d < Nat.pow 2 53 then e else e + 1

/-- The double that is nearest to a fraction. -/
def ofFraction (negative : Bool) (num den : Nat) : Double :=
  if num = 0 then finite negative 0 leastExponent
  else
    let e := exponentOf num den
    let (n, d) := scale 2 (-e) num den
    let m := roundHalfEven n d
    let (m, e) := if m < Nat.pow 2 53 then (m, e) else (m / 2, e + 1)
    if greatestExponent < e then infinite negative else finite negative m e

/-- The double that is nearest to digits times a power of ten. -/
def ofDecimal (negative : Bool) (digits : Nat) (exponent : Int) : Double :=
  let size : Int := (Nat.repr digits).length + exponent
  if digits = 0 ∨ size < -330 then finite negative 0 leastExponent
  else if 310 < size then infinite negative
  else
    let (num, den) := scale 10 exponent digits 1
    ofFraction negative num den

/-- Whether two doubles are the same number. Both zeros are, and a value that is no number is the
same as itself. -/
def isSame : Double → Double → Bool
  | finite _ 0 _, finite _ 0 _ => true
  | a, b => a == b

/-- The power of ten of a fraction's first digit. -/
def magnitude (num den : Nat) : Int :=
  let e : Int := (Nat.repr num).length - (Nat.repr den).length
  let (n, d) := scale 10 (-e) num den
  if d ≤ n then e else e - 1

/-- Bounds around four times the mantissa, between which all is rounded to the double. -/
def bounds (mantissa : Nat) (exponent : Int) : Nat × Nat :=
  (if mantissa = Nat.pow 2 52 ∧ leastExponent < exponent then 4 * mantissa - 1 else 4 * mantissa - 2,
    4 * mantissa + 2)

/-- Whether digits times a power of ten are rounded to a double. -/
def isRoundedTo (mantissa : Nat) (exponent : Int) (digits : Nat) (power : Int) : Bool :=
  let (low, high) := bounds mantissa exponent
  let (n, d) := scale 10 power digits 1
  let (n, d) := scale 2 (2 - exponent) n d
  if mantissa % 2 = 0 then low * d ≤ n && n ≤ high * d else low * d < n && n < high * d

/-- The nearest number with digits down to a power of ten that is rounded to a double. A half goes
up. -/
def nearest? (mantissa : Nat) (exponent power : Int) : Option Nat :=
  let (n, d) := scale 2 exponent mantissa 1
  let (n, d) := scale 10 (-power) n d
  let below := n / d
  let fits := fun digits => isRoundedTo mantissa exponent digits power
  if fits below && (2 * (n % d) < d || !fits (below + 1)) then some below
  else if fits (below + 1) then some (below + 1)
  else none

/-- The fewest digits that are rounded to a double, and the power of ten of the last one. -/
def shortestFrom (mantissa : Nat) (exponent : Int) : Nat → Int → Nat × Int
  | 0, power => (0, power)
  | places + 1, power =>
    match nearest? mantissa exponent power with
    | some digits => (digits, power)
    | none => shortestFrom mantissa exponent places (power - 1)

/-- Seventeen digits are enough. -/
def shortest (mantissa : Nat) (exponent : Int) : Nat × Int :=
  let (n, d) := scale 2 exponent mantissa 1
  shortestFrom mantissa exponent 18 (magnitude n d)

/-- Digits with a point and at least one place behind it. -/
def positional (digits : Nat) (power : Int) : String :=
  let ds := (Nat.repr digits).toList ++ List.replicate power.toNat '0'
  let places := (-power).toNat
  let ds := List.replicate (places + 1 - ds.length) '0' ++ ds
  let whole := ds.take (ds.length - places)
  let fraction := ((ds.drop (ds.length - places)).reverse.dropWhile (· = '0')).reverse
  String.ofList (whole ++ '.' :: (if fraction.isEmpty then ['0'] else fraction))

/-- How a double is written: without an exponent, and with a point if it is finite. -/
def text : Double → String
  | nan => "NaN"
  | infinite negative => if negative then "-inf" else "inf"
  | finite negative mantissa exponent =>
    let (digits, power) := if mantissa = 0 then (0, 0) else shortest mantissa exponent
    (if negative then "-" else "") ++ positional digits power

end Double

end TitleLint
