import SqlBuilder.Grammar.Dialect
import SqlBuilder.Text.Utf8

/-!
# Configuration

What all queries of a connection share: whether values are bound or written inline, and how
statements are logged.
-/

namespace SqlBuilder

/-- The severity of a log event. -/
inductive LogLevel where
  | error
  | warn
  | info
  | debug
  | trace
  deriving DecidableEq, Repr

namespace LogLevel

/-- The level in upper case. -/
def name : LogLevel → String
  | .error => "ERROR"
  | .warn => "WARN"
  | .info => "INFO"
  | .debug => "DEBUG"
  | .trace => "TRACE"

/-- The level of a name in any case. -/
def ofName? (name : String) : Option LogLevel :=
  [.error, .warn, .info, .debug, .trace].find? fun level =>
    level.name.toList == name.toList.map Char.toUpper

end LogLevel

/-- The settings of a connection. -/
structure Config where
  /-- Whether values become named parameters rather than literals. -/
  prepared : Bool := true
  dialect : Dialect := .postgres
  /-- Whether statements are logged before they run. -/
  logsSql : Bool := true
  /-- The most octets of a statement that are logged; all of them if absent. -/
  logLimit : Option Nat := some 200
  logLevel : LogLevel := .debug
  deriving DecidableEq, Repr

namespace Config

/-- The text of a statement as it is logged: cut at the limit, with dots to show it. -/
def loggedSql (config : Config) (sql : String) : String :=
  match config.logLimit with
  | none => sql
  | some limit =>
    if limit < sql.utf8ByteSize then Text.Utf8.truncate limit sql ++ "..." else sql

end Config

end SqlBuilder
