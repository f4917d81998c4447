import SqlBuilder.Expr.Compile
import SqlBuilder.Query.Placement

/-!
# Selections

The select list, its source, grouping, order and limits, unions and common table expressions.
-/

namespace SqlBuilder

/-- A clause whose terms are added one by one. -/
inductive ListClause where
  | groupBy
  | orderBy
  deriving DecidableEq, Repr

/-- The keyword of the first term. -/
def ListClause.keyword : ListClause → String
  | .groupBy => "group by"
  | .orderBy => "order by"

/-- The greatest number of rows on a page. -/
def greatestPerPage : Nat := 1000

/-- The greatest row number that is written. -/
def greatestRow : Nat := UInt64.size - 1

/-- A page of a result. -/
structure PageRequest where
  page : Nat
  perPage : Nat
  deriving DecidableEq, Repr

namespace PageRequest

/-- Pages are counted from one and hold between one and a thousand rows. -/
def clamp (request : PageRequest) : PageRequest :=
  { page := max request.page 1, perPage := max 1 (min request.perPage greatestPerPage) }

/-- The number of rows in front of a page, as far as it can be written. -/
def offset (request : PageRequest) : Nat :=
  min ((request.page - 1) * request.perPage) greatestRow

end PageRequest

namespace Query

variable (query : Query)

/-- Sets the greatest number of rows. -/
def limit (count : Nat) : Query := query.setText "limit" (Nat.repr count)

/-- Sets the number of rows that are skipped. -/
def offset (count : Nat) : Query := query.setText "offset" (Nat.repr count)

/-- Restricts the result to one page. -/
def paginate (request : PageRequest) : Query :=
  (query.limit request.clamp.perPage).offset request.clamp.offset

/-- Sets the source to a table. -/
def source (table : String) (label : Option String) : Query :=
  query.setText "from" (query.escapeAs table label)

/-- Adds SQL text to the select list. -/
def selectRaw (sql : String) : Query :=
  query.add { keyword := "select", payload := some (.items [sql]) }

/-- Adds all columns to the select list. -/
def selectAll : Query := query.selectRaw "*"

/-- Adds the rows of another query. -/
def union (keepsDuplicates : Bool) (other : Query) : Query :=
  (query.insertToken (if keepsDuplicates then "union all" else "union")).merge other

/-- A query of all columns of a table. -/
def table (connection : Connection) (name : String) : Session Query := do
  return ((← new connection).selectAll).source name none

end Query

namespace Edit

/-- Compiles the items of a list; no items stand for all columns. -/
def items (columns : List Value) : Edit (List String) := do
  let texts ← resolveAll columns
  return if texts.isEmpty then ["*"] else texts

/-- Adds columns to the select list. -/
def select (distinct : Bool) (columns : List Value) : Edit Unit := do
  let texts ← items columns
  let keyword := if distinct then "select distinct" else "select"
  modify (·.add { keyword, payload := some (.items texts) })

/-- Adds a column under an alias to the select list. -/
def selectAs (column : Value) (label : String) : Edit Unit := do
  let text ← resolve column
  modify fun query => query.selectRaw (text ++ " as " ++ query.escapePart label)

/-- Sets the source to a nested query. -/
def sourceQuery (nested : Query) (label : String) : Edit Unit := do
  let sql ← embed nested
  modify fun query =>
    query.setText "from" (callText "" sql ++ " as " ++ query.escapePart label)

/-- Adds terms to a list clause. -/
def addTerms (clause : ListClause) : List Value → Edit Unit
  | [] => return
  | column :: rest => do
    let term ← resolve column
    modify (·.addTerm clause.keyword term)
    addTerms clause rest

/-- Adds a term with a direction to the order. -/
def addOrder (column : Value) (descends : Bool) : Edit Unit := do
  let term ← resolve column
  modify (·.addTerm "order by" (term ++ (if descends then " desc" else " asc")))

/-- Adds a common table expression. -/
def addCommonTable (isRecursive : Bool) (name : String) (nested : Query) : Edit Unit := do
  let sql ← embed nested
  modify fun query =>
    query.addCommonTable isRecursive (query.escapePart name ++ callText " as " sql)

/-- Locks the rows that are read. -/
def lockForUpdate : Edit Unit := do
  if ← compiling fun connection => modifyGet (Ledger.require connection .lockForUpdate) then
    modify (·.insertToken "for update")

end Edit

end SqlBuilder
