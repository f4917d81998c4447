import SqlBuilder.Config
import SqlBuilder.Error
import SqlBuilder.Scalar

/-!
# Connections

A connection gives queries their grammar and configuration, and writes values as literals.
-/

namespace SqlBuilder

/-- What a query needs to know about its database. -/
structure Connection where
  grammar : Grammar
  config : Config
  /-- A connection may refuse to write any value inline; this is its reason. -/
  refusal : Option String := none
  deriving DecidableEq

namespace Connection

/-- The connection to a dialect under a configuration. -/
def ofConfig (config : Config) : Connection :=
  { grammar := config.dialect.grammar, config }

variable (connection : Connection)

/-- A text between single quotes. No literal holds a NUL character. -/
def quoteText (text : String) : Except QueryError String :=
  if text.toList.contains (Char.ofNat 0) then
    .error (.quoteRefused "string literal cannot contain NUL character")
  else .ok ("'" ++ connection.grammar.escapeString text ++ "'")

/-- A value as a literal, by the rules of the grammar. -/
def literal : Scalar → Except QueryError String
  | .null => .ok "null"
  | .bool value => .ok (connection.grammar.booleanLiteral value)
  | .int value => .ok (toString value.toInt)
  | .float value =>
    let text := Number.Layout.plain.text value
    if value.isFinite then .ok text
    else .error (.quoteRefused ("non-finite float " ++ text ++ " has no SQL literal"))
  | .text value => connection.quoteText value
  | .bytes value => .ok (connection.grammar.bytesLiteral value)
  | .timestamp value => connection.quoteText value.sqlText
  | .uuid value => connection.quoteText value.text
  | .json value => connection.quoteText value.compact

/-- A value as a literal, unless the connection refuses. -/
def quote (value : Scalar) : Except QueryError String :=
  match connection.refusal with
  | some reason => .error (.invalidExpression reason)
  | none => connection.literal value

end Connection

end SqlBuilder
