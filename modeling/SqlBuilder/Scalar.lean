import SqlBuilder.Json.Debug
import SqlBuilder.Timestamp
import SqlBuilder.Uuid

/-!
# Scalars

The values that can be bound to a parameter or written as a literal, and the backing values of
enumerations.
-/

namespace SqlBuilder

/-- A value of a parameter or of a result column. -/
inductive Scalar where
  | null
  | bool (value : Bool)
  | int (value : Int64)
  | float (value : Number.Double)
  | text (value : String)
  | bytes (value : List UInt8)
  | timestamp (value : Timestamp)
  | uuid (value : Uuid)
  | json (value : Json)

/-- The value behind a variant of an enumeration. -/
inductive Backing where
  | text (value : String)
  | int (value : Int64)
  deriving DecidableEq

namespace Scalar

/-- The number of a decimal text with an optional sign, if it fits into 64 bits. -/
def readInt? (text : String) : Option Int64 :=
  let (negative, digits) := match text.toList with
    | '-' :: rest => (true, rest)
    | '+' :: rest => (false, rest)
    | chars => (false, chars)
  if digits.isEmpty || !digits.all Char.isDigit then none
  else
    let magnitude : Int := Text.digitsValue digits
    let value := if negative then -magnitude else magnitude
    if Int64.minValue.toInt ≤ value ∧ value ≤ Int64.maxValue.toInt then some (Int64.ofInt value)
    else none

/-- Whether there is no value. -/
def isNull : Scalar → Bool
  | .null => true
  | _ => false

/-- The scalar read as the answer of an existence check. -/
def isTruthy : Scalar → Bool
  | .null => false
  | .bool value => value
  | .int value => value != 0
  | .float value => !value.isZero
  | .text value => value != "" && value != "0"
  | _ => true

/-- The scalar read as a count. -/
def toInt? : Scalar → Option Int64
  | .int value => some value
  | .bool value => some (if value then 1 else 0)
  | .text value => readInt? value
  | _ => none

/-- The scalar as a document: octets are an array of numbers, points in time and identifiers are
texts. -/
def toJson : Scalar → Json
  | .null => .null
  | .bool value => .bool value
  | .int value => .integer value.toInt
  | .float value => .float value
  | .text value => .string value
  | .bytes value => .array (value.map fun octet => .integer octet.toNat)
  | .timestamp value => .string value.isoText
  | .uuid value => .string value.text
  | .json value => value

/-- The scalar for developers: its kind, then its value. -/
def debug : Scalar → String
  | .null => "Null"
  | .bool value => "Bool(" ++ (if value then "true" else "false") ++ ")"
  | .int value => "Int(" ++ toString value.toInt ++ ")"
  | .float value => "Float(" ++ Number.Layout.debug.text value ++ ")"
  | .text value => "Text(" ++ Text.debug value ++ ")"
  | .bytes value =>
    "Bytes([" ++ String.intercalate ", " (value.map fun octet => toString octet.toNat) ++ "])"
  | .timestamp value => "Timestamp(" ++ value.isoText ++ ")"
  | .uuid value => "Uuid(" ++ value.text ++ ")"
  | .json value => "Json(" ++ value.debug ++ ")"

end Scalar

end SqlBuilder
