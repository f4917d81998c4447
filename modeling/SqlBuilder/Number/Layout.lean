import SqlBuilder.Number.Shortest

/-!
# Layouts of decimal numbers

The text of a floating-point number: its shortest digits, laid out by a record that says where
positional notation ends and how exponents, whole numbers and non-finite numbers are written.
-/

namespace SqlBuilder.Number

/-- How the digits of a number become a text. -/
structure Layout where
  /-- Decimal exponents written positionally, both ends included; all of them if absent. -/
  positional : Option (Int × Int)
  /-- Whether a whole number in positional notation ends in `.0`. -/
  marksWhole : Bool
  /-- Whether a positive exponent carries a plus sign. -/
  plusSign : Bool
  tie : Tie
  infinity : String
  negativeInfinity : String
  undefined : String

/-- Numbers in JSON texts; those that JSON cannot write are `null`. -/
def Layout.json : Layout :=
  { positional := some (-5, 15), marksWhole := true, plusSign := true, tie := .even,
    infinity := "null", negativeInfinity := "null", undefined := "null" }

/-- Numbers in texts for developers. -/
def Layout.debug : Layout :=
  { positional := some (-4, 15), marksWhole := true, plusSign := false, tie := .up,
    infinity := "inf", negativeInfinity := "-inf", undefined := "NaN" }

/-- Numbers as SQL literals: never an exponent. -/
def Layout.plain : Layout :=
  { positional := none, marksWhole := false, plusSign := false, tie := .up,
    infinity := "inf", negativeInfinity := "-inf", undefined := "NaN" }

namespace Decimal

/-- The decimal in positional notation. -/
def positionalText (marksWhole : Bool) (decimal : Decimal) : List Char :=
  let count : Int := decimal.digits.length
  if decimal.point ≤ 0 then
    '0' :: '.' :: List.replicate (-decimal.point).toNat '0' ++ decimal.digits
  else if count ≤ decimal.point then
    decimal.digits ++ List.replicate (decimal.point - count).toNat '0' ++
      (if marksWhole then ['.', '0'] else [])
  else
    decimal.digits.take decimal.point.toNat ++ '.' :: decimal.digits.drop decimal.point.toNat

/-- The decimal with one digit before the point and an exponent. -/
def exponentText (plusSign : Bool) (decimal : Decimal) : List Char :=
  let exponent := decimal.point - 1
  let fraction := decimal.digits.drop 1
  decimal.digits.take 1 ++ (if fraction.isEmpty then [] else '.' :: fraction) ++ ['e'] ++
    (if exponent < 0 then ['-'] else if plusSign then ['+'] else []) ++
    Nat.toDigits 10 exponent.natAbs

end Decimal

namespace Layout

/-- The text of a decimal without its sign. -/
def ofDecimal (layout : Layout) (decimal : Decimal) : List Char :=
  let exponent := decimal.point - 1
  match layout.positional with
  | none => decimal.positionalText layout.marksWhole
  | some (least, greatest) =>
    if least ≤ exponent ∧ exponent ≤ greatest then decimal.positionalText layout.marksWhole
    else decimal.exponentText layout.plusSign

/-- The text of a number. -/
def text (layout : Layout) (number : Double) : String :=
  let sign := if number.isNegative then ['-'] else []
  match number.magnitude with
  | .finite 0 _ => String.ofList (sign ++ '0' :: (if layout.marksWhole then ['.', '0'] else []))
  | .finite mantissa exponent =>
    String.ofList (sign ++ layout.ofDecimal (shortest layout.tie mantissa exponent))
  | .infinite => if number.isNegative then layout.negativeInfinity else layout.infinity
  | .undefined _ => layout.undefined

end Layout

end SqlBuilder.Number
