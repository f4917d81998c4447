import SqlBuilder.Query.Selection

/-!
# Derived queries

Queries made from a query without changing it: how many rows it returns, and how it would be run.
-/

namespace SqlBuilder.Query

variable (query : Query)

/-- The keyword of the select list. -/
def selectKeyword : Except QueryError String :=
  match query.fragments.find? (isSelectKeyword ·.keyword) with
  | some fragment => .ok fragment.keyword
  | none => .error (.missingClause "select")

/-- Whether there is more than one select list. -/
def isCompound : Bool :=
  query.hasClause "union" || query.hasClause "union all" ||
    1 < (query.fragments.filter (isSelectKeyword ·.keyword)).length

/-- The query without order, limit and offset. -/
def withoutPaging : Query :=
  ((query.removeClause "limit").removeClause "order by").removeClause "offset"

/-- Replaces the select list by one item. -/
def withSelectList (item : String) : Except QueryError Query :=
  query.replaceClause "select" fun fragment =>
    { keyword := fragment.keyword, payload := some (.items [item]) }

/--
The number of rows, by way of a nested query. The select list inside is kept where the number of
rows, or the shape of a union, depends on it.
-/
def totalCountQuery : Session (Except QueryError Query) := do
  match query.selectKeyword with
  | .error error => return .error error
  | .ok keyword =>
    let inner := (← query.clone).withoutPaging
    let stripped :=
      if keyword == "select" && !query.isCompound then
        inner.withSelectList (if inner.hasClause "having" then "*" else "1")
      else .ok inner
    match stripped with
    | .error error => return .error error
    | .ok inner =>
      let count := (← query.fresh).selectRaw "count(*)"
      let (sql, ledger) := count.ledger.embed inner
      let count := { count with ledger }
      return .ok (count.addText "from"
        ("(" ++ sql ++ ") as " ++ count.escapePart "__count"))

/--
The number of rows. A plain selection counts in place; one that is distinct, grouped or compound is
nested.
-/
def resultCountQuery : Session (Except QueryError Query) := do
  match query.selectKeyword with
  | .error error => return .error error
  | .ok keyword =>
    let isPlain := keyword == "select" && !query.isCompound && !query.hasClause "group by" &&
      !query.hasClause "having"
    if isPlain then
      return (← query.clone).withoutPaging.withSelectList "count(*)"
    else query.totalCountQuery

/-- The query that shows how this one would be run. -/
def explain : Session Query := do
  let copy ← query.clone
  return { copy with
    fragments := .token "explain" :: copy.fragments
    cursor := copy.cursor.map (· + 1) }

end SqlBuilder.Query
