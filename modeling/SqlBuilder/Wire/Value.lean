import SqlBuilder.Json.Reader
import SqlBuilder.Scalar
import SqlBuilder.Text.Utf8
import SqlBuilder.Wire.ColumnType
import SqlBuilder.Wire.Octets

/-!
# Values on the wire

The binary form of parameters and result columns. An integer takes the form of the type that it is
sent for, with the range checked; any other value has one form, whatever the type.
-/

namespace SqlBuilder

/-- Why a value cannot be sent. -/
inductive Wire.EncodeError where
  /-- The integer does not fit into the type. -/
  | integerRange
  /-- The point in time is too far away. -/
  | timestampRange
  deriving DecidableEq, Repr

/-- The error in words. -/
def Wire.EncodeError.message : EncodeError → String
  | .integerRange => "out of range integral type conversion attempted"
  | .timestampRange => "value too large to transmit"

/-- Why octets are no value of a type. -/
inductive Wire.DecodeError where
  /-- A number ends early. -/
  | short
  /-- A number goes on too long, or a truth value has another size than one octet. -/
  | size
  /-- A point in time goes on too long. -/
  | timestampSize
  | timestampRange
  /-- An identifier has another size than sixteen octets. -/
  | uuidSize
  | text (error : Text.Utf8.DecodeError)
  | json
  | jsonVersion
  /-- Nothing is known about the form of the type. -/
  | unsupported (type : ColumnType)
  deriving DecidableEq, Repr

/-- The error in words. -/
def Wire.DecodeError.message : DecodeError → String
  | .short => "failed to fill whole buffer"
  | .size => "invalid buffer size"
  | .timestampSize => "invalid message length: timestamp not drained"
  | .timestampRange => "value too large to decode"
  | .uuidSize => "invalid message length: uuid size mismatch"
  | .text error => error.message
  | .json => "invalid json document"
  | .jsonVersion => "unsupported json encoding version"
  | .unsupported type => "unsupported scalar column type: " ++ type.typeName

namespace Scalar

open Wire

/-- An integer of so many octets, if it fits. -/
def encodeFitting (count : Nat) (value : Int) : Except EncodeError (List UInt8) :=
  if -(capacity count : Int) ≤ 2 * value ∧ 2 * value < capacity count then
    .ok (octetsOfInt count value)
  else .error .integerRange

/-- An integer in the form of a type. -/
def encodeInt (value : Int64) : ColumnType → Except EncodeError (List UInt8)
  | .int2 => encodeFitting 2 value.toInt
  | .int4 => encodeFitting 4 value.toInt
  | .float4 => .ok (octetsOfNat 4 (Number.Double.singleOfInt value.toInt).toNat)
  | .float8 => .ok (octetsOfNat 8 (Number.Double.ofInt value.toInt).bits.toNat)
  | .text => .ok (Text.Utf8.encode (toString value.toInt))
  | .varchar => .ok (Text.Utf8.encode (toString value.toInt))
  | _ => .ok (octetsOfInt 8 value.toInt)

/-- The binary form of a value for a type; the absence of a value has none. -/
def encode (type : ColumnType) : Scalar → Except EncodeError (Option (List UInt8))
  | .null => .ok none
  | .bool value => .ok (some [if value then 1 else 0])
  | .int value => (encodeInt value type).map some
  | .float value =>
    match type with
    | .float4 => .ok (some (octetsOfNat 4 value.toSingle.toNat))
    | _ => .ok (some (octetsOfNat 8 value.bits.toNat))
  | .text value => .ok (some (Text.Utf8.encode value))
  | .bytes value => .ok (some value)
  | .timestamp value =>
    match encodeFitting 8 value.microseconds with
    | .ok octets => .ok (some octets)
    | .error _ => .error .timestampRange
  | .uuid value => .ok (some value.octets)
  | .json value =>
    let document := Text.Utf8.encode value.compact
    .ok (some (if type = .jsonb then 1 :: document else document))

/-- Refuses octets unless there are so many; `long` is the error if there are more. -/
def ensureSize (count : Nat) (long : DecodeError) (octets : List UInt8) :
    Except DecodeError (List UInt8) :=
  if octets.length < count then .error .short
  else if count < octets.length then .error long
  else .ok octets

/-- An integer of so many octets. -/
def decodeInt (count : Nat) (octets : List UInt8) : Except DecodeError Scalar := do
  let octets ← ensureSize count .size octets
  return .int (Int64.ofInt (intOfOctets octets))

/-- A text. -/
def decodeText (octets : List UInt8) : Except DecodeError String :=
  match Text.Utf8.decode octets with
  | .ok content => .ok content
  | .error error => .error (.text error)

/-- A point in time. -/
def decodeTimestamp (octets : List UInt8) : Except DecodeError Scalar := do
  let octets ← ensureSize 8 .timestampSize octets
  match Timestamp.ofMicroseconds? (intOfOctets octets) with
  | some time => return .timestamp time
  | none => throw .timestampRange

/-- A document. -/
def decodeJson (octets : List UInt8) : Except DecodeError Scalar :=
  match Text.Utf8.decode octets with
  | .error _ => .error .json
  | .ok content =>
    match Json.read? content with
    | some document => .ok (.json document)
    | none => .error .json

/-- The value of a binary form of a type. -/
def decode (type : ColumnType) (octets : List UInt8) : Except DecodeError Scalar :=
  match type with
  | .bool =>
    match octets with
    | [octet] => .ok (.bool (octet != 0))
    | _ => .error .size
  | .int2 => decodeInt 2 octets
  | .int4 => decodeInt 4 octets
  | .int8 => decodeInt 8 octets
  | .float4 => do
    let octets ← ensureSize 4 .size octets
    return .float (.ofSingle (UInt32.ofNat (natOfOctets octets)))
  | .float8 => do
    let octets ← ensureSize 8 .size octets
    return .float (.ofPattern (natOfOctets octets))
  | .text | .varchar | .bpchar | .name | .unknown => (decodeText octets).map .text
  | .bytea => .ok (.bytes octets)
  | .timestamp | .timestamptz => decodeTimestamp octets
  | .uuid =>
    match Uuid.ofOctets? octets with
    | some identifier => .ok (.uuid identifier)
    | none => .error .uuidSize
  | .json => decodeJson octets
  | .jsonb =>
    match octets with
    | 1 :: document => decodeJson document
    | _ => .error .jsonVersion
  | .other _ => .error (.unsupported type)

/-- The value of a column that may have none. -/
def decode? (type : ColumnType) : Option (List UInt8) → Except DecodeError Scalar
  | none => .ok .null
  | some octets => decode type octets

end Scalar

end SqlBuilder
