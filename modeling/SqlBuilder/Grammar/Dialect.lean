import SqlBuilder.Grammar.Basic
import SqlBuilder.Text.Debug

/-!
# Dialects

The engines with a grammar of their own, and the names that they go by.
-/

namespace SqlBuilder

/-- A supported engine. -/
inductive Dialect where
  | mysql
  | postgres
  | sqlite
  deriving DecidableEq, Repr

namespace Dialect

/-- The dialect's name. -/
def name : Dialect → String
  | .mysql => "mysql"
  | .postgres => "postgres"
  | .sqlite => "sqlite"

/-- The dialect's grammar. -/
def grammar : Dialect → Grammar
  | .mysql => .mysql
  | .postgres => .postgres
  | .sqlite => .sqlite

/-- A name that no dialect goes by. -/
structure Unknown where
  name : String
  deriving DecidableEq, Repr

/-- The error in words. -/
def Unknown.message (unknown : Unknown) : String :=
  "unknown SQL dialect: " ++ Text.debug unknown.name

/-- The dialect of a name; blanks around it and the case of ASCII letters do not matter. -/
def ofName (name : String) : Except Unknown Dialect :=
  let key := String.ofList ((Text.trim name.toList).map Char.toLower)
  if key == "mysql" || key == "mariadb" then .ok .mysql
  else if key == "postgres" || key == "postgresql" || key == "pg" then .ok .postgres
  else if key == "sqlite" || key == "sqlite3" then .ok .sqlite
  else .error ⟨key⟩

end Dialect

end SqlBuilder
