import SqlBuilder.Number.Binary
import SqlBuilder.Text.Digits

/-!
# Reading decimal numbers

A decimal text stands for the nearest double-precision number, ties to the even one. Infinities and
NaNs are read by name, in any case of letters.
-/

namespace SqlBuilder.Number

/-- The digits at the start of a text, and what follows them. -/
def spanDigits (chars : List Char) : List Char × List Char :=
  (chars.takeWhile (·.isDigit), chars.dropWhile (·.isDigit))

/-- A sign, or none, before a text. -/
def spanSign : List Char → Bool × List Char
  | '-' :: rest => (true, rest)
  | '+' :: rest => (false, rest)
  | chars => (false, chars)

/--
The number nearest to `digits * 10 ^ power`. A number whose leading digit stands more than four
hundred places from the point is out of range either way, whatever its digits are.
-/
def ofDecimal (negative : Bool) (digits : List Char) (power : Int) : Double :=
  let digits := digits.dropWhile (· == '0')
  let reach := (digits.length : Int) + power
  if digits.isEmpty ∨ reach < -400 then .ofRatio negative 0 1
  else if 400 < reach then .infinity negative
  else
    let count := Text.digitsValue digits
    if 0 ≤ power then .ofRatio negative (count * tenTo power.toNat) 1
    else .ofRatio negative count (tenTo (-power).toNat)

/-- The exponent after the digits, zero if there is none; absent if the text goes on otherwise. -/
def readExponent? : List Char → Option Int
  | [] => some 0
  | c :: rest =>
    if c == 'e' || c == 'E' then
      let (negative, rest) := spanSign rest
      let (digits, rest) := spanDigits rest
      if digits.isEmpty || !rest.isEmpty then none
      else
        let power : Int := Text.digitsValue digits
        some (if negative then -power else power)
    else none

/-- The number that a decimal text stands for. -/
def read? (text : String) : Option Double :=
  let (negative, rest) := spanSign text.toList
  let name := String.ofList (rest.map Char.toLower)
  if name == "inf" || name == "infinity" then some (.infinity negative)
  else if name == "nan" then some (.undefined negative)
  else
    let (whole, rest) := spanDigits rest
    let (fraction, rest) := match rest with
      | '.' :: rest => spanDigits rest
      | rest => ([], rest)
    if whole.isEmpty && fraction.isEmpty then none
    else
      (readExponent? rest).map fun power =>
        ofDecimal negative (whole ++ fraction) (power - fraction.length)

end SqlBuilder.Number
