import SqlBuilder.Number.Binary

/-!
# Shortest decimal digits

The fewest decimal digits that read back as the same number. A finite number stands for the whole
interval of reals that round to it, ends included iff its mantissa is even. On the grid of decimals
with one, two, … digits the two neighbours of the number are tried; the first grid with a hit wins,
and of two hits the nearer.
-/

namespace SqlBuilder.Number

/-- Which neighbour is taken when a number lies half way between two shortest decimals. -/
inductive Tie where
  | even
  | up
  deriving DecidableEq, Repr

/-- A positive decimal `0.d₁d₂… * 10 ^ point`, with `digits` the text of the digits. -/
structure Decimal where
  digits : List Char
  point : Int
  deriving DecidableEq, Repr

/-- A positive number with the interval of reals that round to it, over one denominator. -/
structure RoundingInterval where
  lower : Nat
  value : Nat
  upper : Nat
  denominator : Nat
  closed : Bool

namespace RoundingInterval

/--
The interval of `mantissa * 2 ^ exponent`. Half a unit lies on either side, a quarter below a power
of two that has numbers twice as dense below it.
-/
def ofDouble (mantissa : Nat) (exponent : Int) : RoundingInterval :=
  let format := BinaryFormat.double
  let narrow := mantissa == 1 <<< format.fractionBits && exponent > format.leastExponent
  let scale := if 0 ≤ exponent then 1 <<< exponent.toNat else 1
  { lower := (4 * mantissa - (if narrow then 1 else 2)) * scale
    value := 4 * mantissa * scale
    upper := (4 * mantissa + 2) * scale
    denominator := 4 * (if 0 ≤ exponent then 1 else 1 <<< (-exponent).toNat)
    closed := mantissa % 2 == 0 }

/-- The least power of ten above the value: `value < 10 ^ point` and `10 ^ (point - 1) ≤ value`. -/
def point (interval : RoundingInterval) : Int :=
  let below (power : Int) : Bool :=
    if 0 ≤ power then interval.value < interval.denominator * tenTo power.toNat
    else interval.value * tenTo (-power).toNat < interval.denominator
  let guess := log2Ratio interval.value interval.denominator * 30103 / 100000
  if below guess then guess else if below (guess + 1) then guess + 1 else guess + 2

/-- Whether the decimal `count * 10 ^ power` lies in the interval. -/
def contains (interval : RoundingInterval) (count : Nat) (power : Int) : Bool :=
  let scaled := if 0 ≤ power then count * tenTo power.toNat * interval.denominator
    else count * interval.denominator
  let unit := if 0 ≤ power then 1 else tenTo (-power).toNat
  if interval.closed then interval.lower * unit ≤ scaled && scaled ≤ interval.upper * unit
  else interval.lower * unit < scaled && scaled < interval.upper * unit

/-- The hit on the grid of decimals with `places` digits, if there is one. -/
def onGrid? (interval : RoundingInterval) (tie : Tie) (point : Int) (places : Nat) : Option Nat :=
  let power := point - places
  let numerator := if 0 ≤ power then interval.value else interval.value * tenTo (-power).toNat
  let denominator :=
    if 0 ≤ power then interval.denominator * tenTo power.toNat else interval.denominator
  let below := numerator / denominator
  let twice := 2 * (numerator % denominator)
  match interval.contains below power, interval.contains (below + 1) power with
  | true, true =>
    if twice < denominator then some below
    else if denominator < twice then some (below + 1)
    else match tie with
      | .even => some (if below % 2 = 0 then below else below + 1)
      | .up => some (below + 1)
  | true, false => some below
  | false, true => some (below + 1)
  | false, false => none

end RoundingInterval

/-- Drops the zeros at the end of a list of digits. -/
def dropEndZeros (digits : List Char) : List Char :=
  (digits.reverse.dropWhile (· == '0')).reverse

/-- The shortest digits of a positive finite number. Seventeen digits always suffice. -/
def shortest (tie : Tie) (mantissa : Nat) (exponent : Int) : Decimal :=
  let interval := RoundingInterval.ofDouble mantissa exponent
  let point := interval.point
  let hit := (List.range 17).findSome? fun fewer =>
    (interval.onGrid? tie point (fewer + 1)).map fun count => (fewer + 1, count)
  match hit with
  | some (places, count) =>
    let digits := Nat.toDigits 10 count
    { digits := dropEndZeros digits, point := point + ((digits.length : Int) - places) }
  | none => { digits := ['0'], point := 1 }

end SqlBuilder.Number
