import SqlBuilder.Json.Basic
import SqlBuilder.Number.Reader

/-!
# Reading JSON

A strict reader of JSON texts. Blanks are spaces, tabs and line ends; nesting is limited; a number
beyond the largest double is refused.

A number with a fraction or an exponent is read in two roundings: as many leading digits as fit into
64 bits are rounded to a double, which is then multiplied or divided by a power of ten.
-/

namespace SqlBuilder.Json

/-- Arrays and objects may be nested less deeply than this. -/
def depthLimit : Nat := 128

/-- Drops the blanks of JSON. -/
def skipBlanks (chars : List Char) : List Char :=
  chars.dropWhile fun c => c == ' ' || c == '\n' || c == '\t' || c == '\r'

/-- The greatest significand that is read exactly. -/
def greatestSignificand : Nat := UInt64.size - 1

/-- Adds digits to a significand until the next one would not fit; gives the digits left over. -/
def gather (significand : Nat) : List Char → Nat × List Char
  | [] => (significand, [])
  | c :: rest =>
    let next := significand * 10 + (c.toNat - 48)
    if next ≤ greatestSignificand then gather next rest else (significand, c :: rest)

/-- `significand * 10 ^ power` in two roundings; absent beyond the largest double. -/
def scale? (negative : Bool) (significand : Nat) (power : Int) : Option Number.Double :=
  let start := Number.Double.ofInt significand
  let tenTo (places : Nat) := Number.Double.ofInt (Number.tenTo places)
  if significand = 0 then some (start.withSign negative)
  else if 308 < power then none
  else if 0 ≤ power then
    let product := start.mul (tenTo power.toNat)
    if product.isFinite then some (product.withSign negative) else none
  else if -308 ≤ power then some ((start.div (tenTo (-power).toNat)).withSign negative)
  else if -616 ≤ power then
    some (((start.div (tenTo 308)).div (tenTo (-power - 308).toNat)).withSign negative)
  else some ((Number.Double.ofInt 0).withSign negative)

/-- The parts of a number as written. -/
structure NumberText where
  negative : Bool
  whole : List Char
  /-- The digits after the point, at least one, if there is a point. -/
  fraction : Option (List Char)
  /-- Whether the exponent is negative, and its digits, at least one. -/
  exponent : Option (Bool × List Char)

/-- Splits a number off a text. A leading zero stands alone. -/
def NumberText.read? (chars : List Char) : Option (NumberText × List Char) := do
  let (negative, rest) := match chars with
    | '-' :: rest => (true, rest)
    | rest => (false, rest)
  let (whole, rest) := Number.spanDigits rest
  guard (whole == ['0'] || (!whole.isEmpty && whole.head? != some '0'))
  let (fraction, rest) ← match rest with
    | '.' :: rest =>
      let (digits, rest) := Number.spanDigits rest
      if digits.isEmpty then none else some (some digits, rest)
    | rest => some (none, rest)
  let (exponent, rest) ← match rest with
    | c :: rest =>
      if c == 'e' || c == 'E' then
        let (negative, rest) := Number.spanSign rest
        let (digits, rest) := Number.spanDigits rest
        if digits.isEmpty then none else some (some (negative, digits), rest)
      else some (none, c :: rest)
    | [] => some (none, [])
  return ({ negative, whole, fraction, exponent }, rest)

/--
The value of a number. Integers that fit into 64 bits stay integers, negative zero apart. An
exponent beyond 31 bits makes the number zero or puts it out of range.
-/
def NumberText.value? (number : NumberText) : Option Json :=
  let (significand, left) := gather 0 number.whole
  if number.fraction.isNone && number.exponent.isNone && left.isEmpty &&
      (!number.negative || (0 < significand && Int64.minValue.toInt ≤ -(significand : Int))) then
    some (.integer (if number.negative then -(significand : Int) else significand))
  else
    let fraction := number.fraction.getD []
    let (significand, ignored) := gather significand fraction
    let shift : Int := (left.length + ignored.length : Nat) - (fraction.length : Int)
    let float := match number.exponent with
      | none => scale? number.negative significand shift
      | some (down, digits) =>
        let exponent := Text.digitsValue digits
        if Int32.maxValue.toInt < exponent then
          if significand ≠ 0 ∧ !down then none
          else scale? number.negative 0 0
        else
          scale? number.negative significand
            (if down then shift - exponent else shift + exponent)
    float.map .float

/-- Four hexadecimal digits. -/
def readUnit? : List Char → Option (Nat × List Char)
  | a :: b :: c :: d :: rest => do
    let a ← Text.hexValue? a
    let b ← Text.hexValue? b
    let c ← Text.hexValue? c
    let d ← Text.hexValue? d
    return (((a * 16 + b) * 16 + c) * 16 + d, rest)
  | _ => none

/--
The character of an escape, after its backslash. A leading surrogate has to be followed by the
escape of a trailing one.
-/
def readEscape? : List Char → Option (Char × List Char)
  | '"' :: rest => some ('"', rest)
  | '\\' :: rest => some ('\\', rest)
  | '/' :: rest => some ('/', rest)
  | 'b' :: rest => some (Char.ofNat 8, rest)
  | 'f' :: rest => some (Char.ofNat 12, rest)
  | 'n' :: rest => some ('\n', rest)
  | 'r' :: rest => some ('\r', rest)
  | 't' :: rest => some ('\t', rest)
  | 'u' :: rest => do
    let (unit, rest) ← readUnit? rest
    if 0xDC00 ≤ unit ∧ unit ≤ 0xDFFF then none
    else if 0xD800 ≤ unit ∧ unit ≤ 0xDBFF then
      match rest with
      | '\\' :: 'u' :: rest =>
        let (trail, rest) ← readUnit? rest
        if 0xDC00 ≤ trail ∧ trail ≤ 0xDFFF then
          some (Char.ofNat (0x10000 + (unit - 0xD800) * 1024 + (trail - 0xDC00)), rest)
        else none
      | _ => none
    else some (Char.ofNat unit, rest)
  | _ => none

/-- The rest of a string after its opening quote, in at most `fuel` characters. -/
def readString? : Nat → List Char → Option (List Char × List Char)
  | 0, _ => none
  | _ + 1, [] => none
  | fuel + 1, c :: rest =>
    if c == '"' then some ([], rest)
    else if c == '\\' then do
      let (escaped, rest) ← readEscape? rest
      let (body, rest) ← readString? fuel rest
      return (escaped :: body, rest)
    else if c.toNat < 32 then none
    else do
      let (body, rest) ← readString? fuel rest
      return (c :: body, rest)

/-- A word that has to stand at the start of a text. -/
def readWord? (word : List Char) (chars : List Char) : Option (List Char) :=
  if word.isPrefixOf chars then some (chars.drop word.length) else none

mutual

/-- A document at the start of a text, nested at most `depth` deep. -/
def readValue? (depth : Nat) : Nat → List Char → Option (Json × List Char)
  | 0, _ => none
  | fuel + 1, chars =>
    match skipBlanks chars with
    | 'n' :: rest => (readWord? ['u', 'l', 'l'] rest).map (Json.null, ·)
    | 't' :: rest => (readWord? ['r', 'u', 'e'] rest).map (Json.bool true, ·)
    | 'f' :: rest => (readWord? ['a', 'l', 's', 'e'] rest).map (Json.bool false, ·)
    | '"' :: rest => do
      let (text, rest) ← readString? fuel rest
      return (.string (String.ofList text), rest)
    | '[' :: rest =>
      if depth = 0 then none
      else
        match skipBlanks rest with
        | ']' :: rest => some (.array [], rest)
        | rest => do
          let (items, rest) ← readItems? (depth - 1) fuel rest
          return (.array items, rest)
    | '\x7b' :: rest =>
      if depth = 0 then none
      else
        match skipBlanks rest with
        | '\x7d' :: rest => some (.object [], rest)
        | rest => do
          let (members, rest) ← readMembers? (depth - 1) fuel [] rest
          return (.object members, rest)
    | rest => do
      let (number, rest) ← NumberText.read? rest
      return (← number.value?, rest)

/-- The items of an array up to its end, at least one. -/
def readItems? (depth : Nat) : Nat → List Char → Option (List Json × List Char)
  | 0, _ => none
  | fuel + 1, chars => do
    let (item, rest) ← readValue? depth fuel chars
    match skipBlanks rest with
    | ']' :: rest => return ([item], rest)
    | ',' :: rest =>
      let (items, rest) ← readItems? depth fuel rest
      return (item :: items, rest)
    | _ => none

/-- The members of an object up to its end, at least one, added to those before them. -/
def readMembers? (depth : Nat) :
    Nat → List (String × Json) → List Char → Option (List (String × Json) × List Char)
  | 0, _, _ => none
  | fuel + 1, members, chars =>
    match skipBlanks chars with
    | '"' :: rest => do
      let (key, rest) ← readString? fuel rest
      match skipBlanks rest with
      | ':' :: rest =>
        let (value, rest) ← readValue? depth fuel rest
        let members := insertMember (String.ofList key) value members
        match skipBlanks rest with
        | '\x7d' :: rest => return (members, rest)
        | ',' :: rest => readMembers? depth fuel members rest
        | _ => none
      | _ => none
    | _ => none

end

/-- The document that a text holds, blanks around it allowed. -/
def read? (text : String) : Option Json :=
  let chars := text.toList
  match readValue? (depthLimit - 1) (2 * chars.length + 2) chars with
  | some (document, rest) => if (skipBlanks rest).isEmpty then some document else none
  | none => none

end SqlBuilder.Json
