import SqlBuilder.Expr.Compile
import SqlBuilder.Query.Placement

/-!
# Mutations

Insertions, updates and deletions. A call that fails leaves the query as it was.
-/

namespace SqlBuilder

namespace Query

variable (query : Query)

/-- Names as a list. -/
def nameList (names : List String) : String :=
  String.intercalate query.columnSeparator (names.map query.escape)

/-- The start of an insertion, with the columns that rows give. -/
def insertHead (keyword table : String) (columns : List String) : Except QueryError Query :=
  if columns.isEmpty then
    .error (.incompleteExpression (keyword ++ " " ++ table ++ " requires at least one column"))
  else .ok (query.addText keyword (query.escape table ++ " (" ++ query.nameList columns ++ ")"))

/-- Starts an insertion. -/
def insertInto (table : String) (columns : List String) : Except QueryError Query :=
  query.insertHead "insert into" table columns

/-- Starts an insertion that replaces rows with the same key. -/
def replaceInto (table : String) (columns : List String) : Except QueryError Query := do
  query.ensure .replaceInto
  query.insertHead "replace into" table columns

/-- Starts an update. -/
def update (table : String) : Query := query.addText "update" (query.escape table)

/-- Starts a deletion. -/
def deleteFrom (table : String) : Query := query.addText "delete from" (query.escape table)

/-- Assigns SQL text to a column. -/
def setRaw (column sql : String) : Query :=
  query.addTerm "set" (query.escape column ++ " = " ++ sql)

/-- On a key conflict, writes the new values of columns over the old ones. -/
def onConflictUpdate (conflict columns : List String) : Except QueryError Query :=
  let assignments (value : String → String) : String :=
    String.intercalate query.columnSeparator
      (columns.map fun column =>
        let name := query.escape column
        name ++ " = " ++ value name)
  if columns.isEmpty then
    .error (.incompleteExpression "upsert requires at least one column to update")
  else if query.supports .onDuplicateKey then
    .ok (query.addText "on duplicate key update"
      (assignments fun name => "values(" ++ name ++ ")"))
  else do
    query.ensure .onConflict
    if conflict.isEmpty then
      .error (.incompleteExpression "on conflict requires at least one conflict column")
    else
      .ok (query.addText "on conflict"
        ("(" ++ query.nameList conflict ++ ") do update set " ++
          assignments fun name => "excluded." ++ name))

/-- On a key conflict, keeps the old row. -/
def onConflictDoNothing (conflict : List String) : Except QueryError Query := do
  query.ensure .onConflict
  return query.addText "on conflict"
    (if conflict.isEmpty then "do nothing"
      else "(" ++ query.nameList conflict ++ ") do nothing")

end Query

namespace Edit

/-- Replaces the query by the result of a call, if the call succeeds. -/
def attempt (call : Query → Except QueryError Query) : Edit (Except QueryError Unit) := do
  match call (← get) with
  | .ok query =>
    set query
    return .ok ()
  | .error error => return .error error

/-- Adds a row of values. -/
def values (row : List Value) : Edit (Except QueryError Unit) := do
  if row.isEmpty then
    return .error (.incompleteExpression "values requires at least one field")
  let texts ← resolveAll row
  modify fun query =>
    query.addTerm "values" ("(" ++ String.intercalate query.columnSeparator texts ++ ")")
  return .ok ()

/-- Assigns a value to a column. -/
def assign (column value : Value) : Edit Unit := do
  let lhs ← resolve column
  let rhs ← resolve value
  modify (·.addTerm "set" (lhs ++ " = " ++ rhs))

/-- Asks for columns of the rows that were written. -/
def returning (columns : List Value) : Edit (Except QueryError Unit) := do
  match (← get).ensure .returning with
  | .error error => return .error error
  | .ok () =>
    let texts ← resolveAll columns
    let texts := if texts.isEmpty then ["*"] else texts
    modify (·.insert { keyword := "returning", payload := some (.items texts) })
    return .ok ()

end Edit

end SqlBuilder
