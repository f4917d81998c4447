/-!
# Column types

The types of columns and parameters that have a binary form of their own.
-/

namespace SqlBuilder.Wire

/-- The type of a column or of a parameter. -/
inductive ColumnType where
  | bool
  | int2
  | int4
  | int8
  | float4
  | float8
  | text
  | varchar
  /-- Text padded with blanks. -/
  | bpchar
  /-- The type of identifiers. -/
  | name
  /-- The type of literals before they are given one. -/
  | unknown
  | bytea
  | timestamp
  | timestamptz
  | uuid
  | json
  | jsonb
  /-- A type without a form of its own here, by its name. -/
  | other (label : String)
  deriving DecidableEq, Repr

namespace ColumnType

/-- The types with a form of their own. -/
def known : List ColumnType :=
  [.bool, .int2, .int4, .int8, .float4, .float8, .text, .varchar, .bpchar, .name, .unknown, .bytea,
    .timestamp, .timestamptz, .uuid, .json, .jsonb]

/-- The name of the type. -/
def typeName : ColumnType → String
  | .bool => "bool"
  | .int2 => "int2"
  | .int4 => "int4"
  | .int8 => "int8"
  | .float4 => "float4"
  | .float8 => "float8"
  | .text => "text"
  | .varchar => "varchar"
  | .bpchar => "bpchar"
  | .name => "name"
  | .unknown => "unknown"
  | .bytea => "bytea"
  | .timestamp => "timestamp"
  | .timestamptz => "timestamptz"
  | .uuid => "uuid"
  | .json => "json"
  | .jsonb => "jsonb"
  | .other label => label

/-- The type of a name. -/
def ofName (name : String) : ColumnType :=
  (known.find? fun type => type.typeName == name).getD (.other name)

end ColumnType

end SqlBuilder.Wire
