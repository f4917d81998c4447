import SqlBuilder.Param
import SqlBuilder.Statement.Placeholder

/-!
# Statements

SQL text with its parameters, its form with numbered placeholders, and its forms for developers.
-/

namespace SqlBuilder

/-- How values travel. -/
inductive StatementKind where
  /-- As bound parameters. -/
  | prepared
  /-- Inside the text. -/
  | raw
  deriving DecidableEq, Repr

/-- The kind in upper case. -/
def StatementKind.name : StatementKind → String
  | .prepared => "PREPARED"
  | .raw => "RAW"

/-- SQL text with the parameters that it refers to. -/
structure Statement where
  sql : String
  params : List Param
  kind : StatementKind

namespace Statement

variable (statement : Statement)

/-- The value of a name; of two parameters with one name the later counts. -/
def value? (name : List Char) : Option Scalar :=
  (statement.params.reverse.find? (·.name.toList == name)).map (·.value)

/--
The text with `$1`, `$2`, … in place of names, and the values in that order. A name that occurs
again keeps its number, and names without a value stay as they are.
-/
def positional : String × List Scalar :=
  let parts := Placeholder.scan none false statement.sql.toList
  let names := Placeholder.names (fun name => (statement.value? name).isSome) parts
  (String.ofList (parts.flatMap (·.numbered names)), names.filterMap statement.value?)

/-- The statement as a document. -/
def toJson : Json :=
  .object
    [("sql", .string statement.sql),
      ("type", .string statement.kind.name),
      ("params", .array (statement.params.map fun param =>
        .array [.string param.name, param.value.toJson]))]

/-- The statement on one line, with its kind in front and its parameters behind. -/
def display : String :=
  let line := "[" ++ statement.kind.name ++ "] " ++ statement.sql
  if statement.params.isEmpty then line
  else
    line ++ " -- " ++
      String.intercalate ", " (statement.params.map fun param =>
        param.name ++ "=" ++ param.value.debug)

end Statement

end SqlBuilder
