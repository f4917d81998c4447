/-!
# Binary floating-point numbers

A number of a binary interchange format is kept as its pattern of bits, so signed zeros, infinities
and the payloads of NaNs survive. Arithmetic is exact on numerators and denominators and is rounded
once, to the nearest pattern with ties to the even one.
-/

namespace SqlBuilder.Number

/-- The quotient rounded to the nearest integer, a half to the even one. -/
def roundDiv (numerator denominator : Nat) : Nat :=
  let quotient := numerator / denominator
  let twice := 2 * (numerator % denominator)
  if denominator < twice ∨ (twice = denominator ∧ quotient % 2 = 1) then quotient + 1 else quotient

/-- A power of ten. -/
def tenTo (places : Nat) : Nat := Nat.pow 10 places

/-- The integer part of the base-two logarithm of a positive quotient. -/
def log2Ratio (numerator denominator : Nat) : Int :=
  let guess : Int := numerator.log2 - denominator.log2
  let reached :=
    if 0 ≤ guess then denominator <<< guess.toNat ≤ numerator
    else denominator ≤ numerator <<< (-guess).toNat
  if reached then guess else guess - 1

/-- A binary interchange format: the widths of the fraction and of the exponent field. -/
structure BinaryFormat where
  fractionBits : Nat
  exponentBits : Nat
  deriving DecidableEq, Repr

/-- The magnitude of a floating-point number; a finite one is `mantissa * 2 ^ exponent`. -/
inductive Magnitude where
  | finite (mantissa : Nat) (exponent : Int)
  | infinite
  | undefined (payload : Nat)
  deriving DecidableEq, Repr

namespace BinaryFormat

/-- Double precision. -/
def double : BinaryFormat := ⟨52, 11⟩

/-- Single precision. -/
def single : BinaryFormat := ⟨23, 8⟩

variable (format : BinaryFormat)

/-- The exponent field of infinities and NaNs. -/
def topField : Nat := (1 <<< format.exponentBits) - 1

/-- The exponent of the last fraction bit of the smallest numbers. -/
def leastExponent : Int :=
  2 - (1 <<< (format.exponentBits - 1) : Nat) - format.fractionBits

/-- The pattern of positive infinity. -/
def infinity : Nat := format.topField <<< format.fractionBits

/-- The fraction bit that marks a quiet NaN. -/
def quietBit : Nat := 1 <<< (format.fractionBits - 1)

/-- The sign bit of a pattern. -/
def isNegative (bits : Nat) : Bool :=
  (bits >>> (format.fractionBits + format.exponentBits)) % 2 == 1

/-- Puts the sign bit on a pattern without one. -/
def withSign (negative : Bool) (bits : Nat) : Nat :=
  if negative then (1 <<< (format.fractionBits + format.exponentBits)) + bits else bits

/-- What a pattern stands for, its sign apart. -/
def magnitude (bits : Nat) : Magnitude :=
  let fraction := bits % (1 <<< format.fractionBits)
  let field := (bits >>> format.fractionBits) % (1 <<< format.exponentBits)
  if field = format.topField then
    if fraction = 0 then .infinite else .undefined fraction
  else if field = 0 then .finite fraction format.leastExponent
  else .finite ((1 <<< format.fractionBits) + fraction) (format.leastExponent + field - 1)

/--
The pattern nearest to a quotient. A mantissa that rounds up to the next power of two carries into
the exponent field by plain addition, and what lies beyond the largest number is infinity.
-/
def ofRatio (numerator denominator : Nat) : Nat :=
  if numerator = 0 then 0
  else
    let exponent :=
      max format.leastExponent (log2Ratio numerator denominator - format.fractionBits)
    let mantissa :=
      if 0 ≤ exponent then roundDiv numerator (denominator <<< exponent.toNat)
      else roundDiv (numerator <<< (-exponent).toNat) denominator
    min format.infinity
      (((exponent - format.leastExponent).toNat <<< format.fractionBits) + mantissa)

/-- The pattern nearest to `mantissa * 2 ^ exponent`. -/
def ofScaled (mantissa : Nat) (exponent : Int) : Nat :=
  if 0 ≤ exponent then format.ofRatio (mantissa <<< exponent.toNat) 1
  else format.ofRatio mantissa (1 <<< (-exponent).toNat)

/-- Moves a pattern to another format: finite numbers are rounded, NaNs keep the leading bits of
their payload and become quiet. -/
def convert (source target : BinaryFormat) (bits : Nat) : Nat :=
  target.withSign (source.isNegative bits) <|
    match source.magnitude bits with
    | .finite mantissa exponent => target.ofScaled mantissa exponent
    | .infinite => target.infinity
    | .undefined payload =>
      let kept := (payload <<< target.fractionBits) >>> source.fractionBits
      target.infinity + (if kept / target.quietBit % 2 = 1 then kept else kept + target.quietBit)

end BinaryFormat

/-- A double-precision number, as its pattern of bits. -/
structure Double where
  bits : UInt64
  deriving DecidableEq, Repr

namespace Double

/-- The number of a pattern given as a natural number. -/
def ofPattern (pattern : Nat) : Double := ⟨UInt64.ofNat pattern⟩

/-- Whether the sign bit is set. -/
def isNegative (number : Double) : Bool := BinaryFormat.double.isNegative number.bits.toNat

/-- What the number is, its sign apart. -/
def magnitude (number : Double) : Magnitude := BinaryFormat.double.magnitude number.bits.toNat

/-- Neither an infinity nor a NaN. -/
def isFinite (number : Double) : Bool :=
  match number.magnitude with
  | .finite _ _ => true
  | _ => false

/-- Either of the two zeros. -/
def isZero (number : Double) : Bool :=
  match number.magnitude with
  | .finite mantissa _ => mantissa == 0
  | _ => false

/-- The number nearest to a quotient with a sign. -/
def ofRatio (negative : Bool) (numerator denominator : Nat) : Double :=
  ofPattern (BinaryFormat.double.withSign negative
    (BinaryFormat.double.ofRatio numerator denominator))

/-- The number nearest to an integer. -/
def ofInt (number : Int) : Double := ofRatio (number < 0) number.natAbs 1

/-- An infinity. -/
def infinity (negative : Bool) : Double :=
  ofPattern (BinaryFormat.double.withSign negative BinaryFormat.double.infinity)

/-- The quiet NaN without further payload. -/
def undefined (negative : Bool) : Double :=
  ofPattern (BinaryFormat.double.withSign negative
    (BinaryFormat.double.infinity + BinaryFormat.double.quietBit))

/-- The same number with its sign bit cleared or set. -/
def withSign (negative : Bool) (number : Double) : Double :=
  ofPattern (BinaryFormat.double.withSign negative (number.bits.toNat % (1 <<< 63)))

/-- The product of two finite numbers. -/
def mul (left right : Double) : Double :=
  let negative := left.isNegative != right.isNegative
  match left.magnitude, right.magnitude with
  | .finite m e, .finite n f =>
    ofPattern (BinaryFormat.double.withSign negative
      (BinaryFormat.double.ofScaled (m * n) (e + f)))
  | _, _ => undefined negative

/-- The quotient of two finite numbers, the second not zero. -/
def div (left right : Double) : Double :=
  let negative := left.isNegative != right.isNegative
  match left.magnitude, right.magnitude with
  | .finite m e, .finite n f =>
    let shift := e - f
    ofRatio negative (m <<< shift.toNat) (n <<< (-shift).toNat)
  | _, _ => undefined negative

/-- The nearest single-precision pattern. -/
def toSingle (number : Double) : UInt32 :=
  UInt32.ofNat (BinaryFormat.double.convert .single number.bits.toNat)

/-- The number of a single-precision pattern. -/
def ofSingle (bits : UInt32) : Double :=
  ofPattern (BinaryFormat.single.convert .double bits.toNat)

/-- The single-precision pattern nearest to an integer. -/
def singleOfInt (number : Int) : UInt32 :=
  UInt32.ofNat (BinaryFormat.single.withSign (number < 0)
    (BinaryFormat.single.ofRatio number.natAbs 1))

end Double

end SqlBuilder.Number
