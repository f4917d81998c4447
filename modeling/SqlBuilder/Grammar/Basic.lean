import SqlBuilder.Grammar.Feature
import SqlBuilder.Grammar.Identifier
import SqlBuilder.Text.Digits

/-!
# Grammars

What the renderer has to know about a database engine: how identifiers are quoted and joined, how
literals are escaped, and which constructs there are.
-/

namespace SqlBuilder

/-- How octets are written as a literal. -/
inductive OctetStyle where
  /-- Written as X'DEAD'. -/
  | hexString
  /-- Written as '\xdead'::bytea. -/
  | byteaCast
  deriving DecidableEq, Repr

/-- The rules of a database engine. -/
structure Grammar where
  /-- The engine's name in messages. -/
  name : String
  quotes : Quotes
  /-- Between the items of a list. -/
  columnSeparator : String := ", "
  /-- Between a qualifier and a name. -/
  tableSeparator : String := "."
  features : List Feature := []
  /-- Whether a backslash inside a string literal has to be doubled. -/
  escapesBackslash : Bool := false
  /-- Whether truth values are the words `true` and `false` rather than `1` and `0`. -/
  hasBooleans : Bool := false
  octets : OctetStyle := .hexString
  deriving DecidableEq, Repr

namespace Grammar

/-- The grammar of MySQL and MariaDB. -/
def mysql : Grammar :=
  { name := "mysql"
    quotes := ⟨'\x60', '\x60'⟩
    features := [.matchAgainst, .variables, .groupConcat, .ifFunctions, .onDuplicateKey,
      .replaceInto, .lockForUpdate]
    escapesBackslash := true }

/-- The grammar of PostgreSQL. -/
def postgres : Grammar :=
  { name := "postgres"
    quotes := ⟨'"', '"'⟩
    features := [.returning, .onConflict, .lockForUpdate]
    hasBooleans := true
    octets := .byteaCast }

/-- The grammar of SQLite. -/
def sqlite : Grammar :=
  { name := "sqlite"
    quotes := ⟨'"', '"'⟩
    features := [.groupConcat, .returning, .onConflict, .replaceInto] }

variable (grammar : Grammar)

/-- Whether the engine has a construct. -/
def supports (feature : Feature) : Bool := feature ∈ grammar.features

/-- A name, possibly qualified and with an alias, as SQL text. -/
def escapeIdentifier (name : String) : String :=
  String.ofList
    (Identifier.escape grammar.quotes grammar.tableSeparator.toList name.toList)

/-- A single name as SQL text. -/
def escapePart (name : String) : String :=
  String.ofList (Identifier.escapePart grammar.quotes name.toList)

/-- A character inside a string literal. -/
def escapeLiteralChar (c : Char) : List Char :=
  if c = '\'' then ['\'', '\'']
  else if grammar.escapesBackslash ∧ c = '\\' then ['\\', '\\']
  else [c]

/-- The body of a string literal. -/
def escapeString (text : String) : String :=
  String.ofList (text.toList.flatMap grammar.escapeLiteralChar)

/-- A truth value as a literal. -/
def booleanLiteral (value : Bool) : String :=
  if grammar.hasBooleans then (if value then "true" else "false")
  else (if value then "1" else "0")

/-- Octets as a literal. -/
def bytesLiteral (octets : List UInt8) : String :=
  match grammar.octets with
  | .hexString => "X'" ++ String.ofList (Text.upperHex octets) ++ "'"
  | .byteaCast => "'\\x" ++ String.ofList (Text.hex octets) ++ "'::bytea"

end Grammar

end SqlBuilder
