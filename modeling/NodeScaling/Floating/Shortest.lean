import NodeScaling.Floating.Binary64

/-!
The shortest decimal form of a floating point number: the fewest digits that read back as the
number, and among equally short forms the one nearest to it. All comparisons are exact.
-/
namespace NodeScaling.Floating

/-- A positive decimal number: `digits` read as a natural number, times ten to the `exponent`. -/
structure Decimal where
  digits : Nat
  exponent : Int
  deriving DecidableEq, Repr

def powerOfTen (exponent : Int) : Nat × Nat :=
  if 0 ≤ exponent then (Nat.pow 10 exponent.toNat, 1) else (1, Nat.pow 10 (-exponent).toNat)

/-- The exponent of the leading digit of `numerator / denominator` below one. Each step makes the
quotient ten times larger, until it reaches one. -/
def leadingBelowOne : Nat → Nat → Nat → Int
  | 0, _, _ => 0
  | fuel + 1, numerator, denominator =>
    if denominator ≤ numerator then 0
    else leadingBelowOne fuel (numerator * 10) denominator - 1

def leadingExponent (numerator denominator : Nat) : Int :=
  if denominator ≤ numerator then ((Nat.toDigits 10 (numerator / denominator)).length : Int) - 1
  else leadingBelowOne 400 numerator denominator

/-- The reals that round to a magnitude, in half units: the two midpoints to its neighbours,
which belong to the interval when the magnitude is even. -/
structure Interval where
  low : Nat
  high : Nat
  closed : Bool

def Interval.ofMagnitude (m : Nat) : Interval :=
  { low := unitsOf (m - 1) + unitsOf m
    high := unitsOf m + unitsOf (m + 1)
    closed := m % 2 == 0 }

def Interval.contains (i : Interval) (numerator denominator : Nat) : Bool :=
  let below := i.low * denominator
  let above := i.high * denominator
  if i.closed then below ≤ numerator && numerator ≤ above
  else below < numerator && numerator < above

/-- The form of a magnitude on the grid of multiples of ten to the `exponent`, if one of its two
neighbours there reads back. The nearer neighbour is preferred, then the even one. -/
def onGrid (m : Nat) (exponent : Int) : Option Decimal :=
  let (up, down) := powerOfTen exponent
  -- a digit count `d` stands for `d * up * unitsPerOne / down` units
  let grid := up * unitsPerOne
  let scaled := unitsOf m * down
  let d := scaled / grid
  let rest := scaled % grid
  let interval := Interval.ofMagnitude m
  let fits (k : Nat) : Bool := interval.contains (2 * k * grid) down
  let lower := decide (0 < d) && fits d
  let upper := fits (d + 1)
  let preferUpper := grid < 2 * rest || (2 * rest == grid && d % 2 == 1)
  if lower && upper then some ⟨if preferUpper then d + 1 else d, exponent⟩
  else if lower then some ⟨d, exponent⟩
  else if upper then some ⟨d + 1, exponent⟩
  else none

def firstGrid (m : Nat) (leading : Int) : Nat → Nat → Decimal
  | 0, _ => ⟨0, 0⟩
  | fuel + 1, places =>
    match onGrid m (leading - places) with
    | some form => form
    | none => firstGrid m leading fuel (places + 1)

def dropZeros : Nat → Nat → Nat × Nat
  | 0, n => (n, 0)
  | fuel + 1, n =>
    if n ≠ 0 ∧ n % 10 = 0 then
      let (rest, dropped) := dropZeros fuel (n / 10)
      (rest, dropped + 1)
    else (n, 0)

def shortest (m : Nat) : Decimal :=
  let form := firstGrid m (leadingExponent (unitsOf m) unitsPerOne) 18 0
  let (digits, dropped) := dropZeros 20 form.digits
  ⟨digits, form.exponent + dropped⟩

structure Layout where
  /-- The least exponent of the leading digit written without an exponent part. -/
  leastPositional : Int
  greatestPositional : Int
  wholeSuffix : String
  positiveMark : String
  negativeMark : String

def Layout.text (layout : Layout) (d : Decimal) : String :=
  let digits := Nat.toDigits 10 d.digits
  let leading : Int := d.exponent + digits.length - 1
  if layout.leastPositional ≤ leading ∧ leading ≤ layout.greatestPositional then
    if 0 ≤ d.exponent then
      String.ofList (digits ++ List.replicate d.exponent.toNat '0') ++ layout.wholeSuffix
    else if 0 ≤ leading then
      let whole := leading.toNat + 1
      String.ofList (digits.take whole ++ '.' :: digits.drop whole)
    else
      String.ofList ('0' :: '.' :: List.replicate ((-leading).toNat - 1) '0' ++ digits)
  else
    let head := String.ofList (digits.take 1)
    let tail := digits.drop 1
    let fraction := if tail.isEmpty then "" else String.ofList ('.' :: tail)
    let power := toString leading.natAbs
    head ++ fraction ++ (if leading < 0 then layout.negativeMark else layout.positiveMark) ++ power

def Binary64.text (layout : Layout) (x : Binary64) : String :=
  let sign := if x.negative then "-" else ""
  if x.magnitude = 0 then sign ++ "0" ++ layout.wholeSuffix
  else sign ++ layout.text (shortest x.magnitude)

end NodeScaling.Floating
