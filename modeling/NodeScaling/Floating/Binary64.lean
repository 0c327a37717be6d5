/-!
Finite binary floating point numbers of 64 bits, in exact arithmetic. A number is a sign and a
magnitude: the 63 low bits of its word. Every magnitude is a whole number of units of 2 to the
power -1074, and `nearest` rounds an exact quotient to the nearest magnitude, ties to even. Decimal
digits are read in the quick way: they are kept as a whole number below two to the power 64, which
is rounded once, and the power of ten is then applied by one multiplication or division, itself
rounded. So the answer can differ from the nearest number in its last place; a number beyond the
finite ones is refused.
-/
namespace NodeScaling.Floating

def fractionCount : Nat := 0x10000000000000

/-- The least magnitude that no finite number has. -/
def magnitudeLimit : Nat := 2047 * fractionCount

/-- A finite floating point number: a sign and the 63 low bits of its word. -/
structure Binary64 where
  negative : Bool
  magnitude : Nat
  finite : magnitude < magnitudeLimit
  deriving DecidableEq

/-- A magnitude in units of 2 to the power -1074. -/
def unitsOf (magnitude : Nat) : Nat :=
  let field := magnitude / fractionCount
  let fraction := magnitude % fractionCount
  if field = 0 then fraction else (fractionCount + fraction) * Nat.pow 2 (field - 1)

def unitsPerOne : Nat := Nat.pow 2 1074

/-- The magnitude nearest to `numerator / denominator` units; of two, the even one. The answer
may be beyond the finite ones. -/
def nearestUnits (numerator denominator : Nat) : Nat :=
  let shift := Nat.log2 (numerator / denominator) - 52
  let step := denominator * Nat.pow 2 shift
  let low := numerator / step
  let rest := numerator % step
  let rounded := if step < 2 * rest || (step == 2 * rest && low % 2 == 1) then low + 1 else low
  shift * fractionCount + rounded

def nearest (numerator denominator : Nat) : Nat :=
  nearestUnits (numerator * unitsPerOne) denominator

def mulMagnitude (a b : Nat) : Nat :=
  nearest (unitsOf a * unitsOf b) (unitsPerOne * unitsPerOne)

def divMagnitude (a b : Nat) : Nat :=
  nearest (unitsOf a) (unitsOf b)

def Binary64.ofMagnitude? (negative : Bool) (magnitude : Nat) : Option Binary64 :=
  if h : magnitude < magnitudeLimit then some ⟨negative, magnitude, h⟩ else none

def Binary64.zero (negative : Bool) : Binary64 :=
  ⟨negative, 0, by decide⟩

def greatestPower : Nat := 308

def powerMagnitude (exponent : Nat) : Nat :=
  nearest (Nat.pow 10 exponent) 1

/-- Applies a power of ten to a magnitude. Very small powers are applied in steps of the greatest
power, and a very great one is refused unless the magnitude is zero. -/
def applyPower (magnitude : Nat) (exponent : Int) : Option Nat :=
  if exponent.natAbs ≤ greatestPower then
    let power := powerMagnitude exponent.natAbs
    if 0 ≤ exponent then
      let product := mulMagnitude magnitude power
      if product < magnitudeLimit then some product else none
    else some (divMagnitude magnitude power)
  else if magnitude = 0 then some 0
  else if 0 ≤ exponent then none
  else applyPower (divMagnitude magnitude (powerMagnitude greatestPower)) (exponent + greatestPower)
termination_by exponent.natAbs
decreasing_by simp only [greatestPower] at *; omega

def ofDecimal? (negative : Bool) (significand : Nat) (exponent : Int) : Option Binary64 :=
  (applyPower (nearest significand 1) exponent).bind (Binary64.ofMagnitude? negative)

def extend? (significand digit : Nat) : Option Nat :=
  let next := significand * 10 + digit
  if next < UInt64.size then some next else none

def takeDigits : Nat → List Nat → Nat × List Nat
  | significand, [] => (significand, [])
  | significand, d :: ds =>
    match extend? significand d with
    | some next => takeDigits next ds
    | none => (significand, d :: ds)

/-- The decimal number with digits before the point, digits after it and an exponent. A digit
before the point that does not fit raises the exponent; one after it and all later ones are
dropped. -/
def readDecimal? (negative : Bool) (whole fraction : List Nat) (exponent : Int) :
    Option Binary64 :=
  let (significand, left) := takeDigits 0 whole
  let (significand', dropped) := takeDigits significand fraction
  let taken : Int := fraction.length - dropped.length
  ofDecimal? negative significand' (left.length - taken + exponent)

end NodeScaling.Floating
