import SqlBuilder.Query.Count

/-!
# Execution

Runs queries on an executor. A query with a fault is refused before anything is logged or sent; any
other is logged, sent once, and its answer read.
-/

namespace SqlBuilder

/-- A row of a result. -/
abbrev Row := List Scalar

/-- What runs statements. -/
structure Executor where
  /-- All rows of a result. -/
  rows : Statement → Except QueryError (List Row)
  /-- The first column of the first row, null without rows. -/
  scalar : Statement → Except QueryError Scalar
  /-- The number of rows that were changed. -/
  affected : Statement → Except QueryError Nat

/-- The source of log events about statements. -/
def logTarget : String := "piecesql.sql"

/-- A log event about a statement that is going to run. -/
structure LogEvent where
  level : LogLevel
  kind : StatementKind
  paramCount : Nat
  sql : String
  deriving DecidableEq, Repr

/-- What was sent to an executor, and what was logged. -/
structure Trace where
  statements : List Statement := []
  log : List LogEvent := []

/-- Steps that run queries. -/
abbrev Execution := ExceptT QueryError (StateT Trace Session)

/-- The event that announces a statement, if statements are logged. -/
def Config.announce (config : Config) (statement : Statement) : List LogEvent :=
  if config.logsSql then
    [{ level := config.logLevel, kind := statement.kind, paramCount := statement.params.length,
       sql := config.loggedSql statement.sql }]
  else []

/-- The rows of one page, and what is needed to find the others. -/
structure Page where
  items : List Row
  total : Nat
  request : PageRequest
  lastPage : Nat

/-- Whether there are pages behind this one. -/
def Page.hasMore (page : Page) : Bool := page.request.page < page.lastPage

/-- The number of the last page; the first one exists even without rows. -/
def PageRequest.lastPage (request : PageRequest) (total : Nat) : Nat :=
  max 1 ((total + request.perPage - 1) / request.perPage)

/-- A scalar as a number of rows. -/
def Scalar.toCount (scalar : Scalar) : Except QueryError Nat :=
  let failure : QueryError := .decode "count" ("expected a count, got " ++ scalar.debug)
  match scalar with
  | .null => .ok 0
  | scalar =>
    match scalar.toInt? with
    | some count => if 0 ≤ count.toInt then .ok count.toInt.toNat else .error failure
    | none => .error failure

namespace Execution

variable {α : Type}

/-- A result that is there already. -/
def ofExcept : Except QueryError α → Execution α
  | .ok result => return result
  | .error error => throw error

/-- Runs a step that cannot fail. -/
def ofSession (step : Session α) : Execution α :=
  ExceptT.lift (StateT.lift step)

/-- Logs a statement and sends it. -/
def send (config : Config) (statement : Statement) (answer : Except QueryError α) :
    Execution α := do
  modify fun trace =>
    { statements := trace.statements ++ [statement]
      log := trace.log ++ config.announce statement }
  ofExcept answer

end Execution

namespace Query

variable (executor : Executor) (query : Query)

/-- Builds the query, logs it and sends it. -/
def run {α : Type} (ask : Statement → Except QueryError α) (query : Query) : Execution α := do
  let statement ← Execution.ofExcept query.build
  Execution.send query.connection.config statement (ask statement)

/-- All rows. -/
def fetchAll : Execution (List Row) := query.run executor.rows

/-- The first row. -/
def fetchOne : Execution Row := do
  match ← query.fetchAll executor with
  | row :: _ => return row
  | [] => throw (.notFound "Expected 1 row, got 0")

/-- The first column of the first row. -/
def fetchScalar : Execution Scalar := query.run executor.scalar

/-- The number of rows that were changed. -/
def execute : Execution Nat := query.run executor.affected

/-- Whether there are rows. -/
def hasRows : Execution Bool := do
  let probe ← Execution.ofSession query.fresh
  let (sql, ledger) := probe.ledger.embed query
  let probe := { probe with ledger }.selectRaw ("exists (" ++ sql ++ ")")
  return (← probe.fetchScalar executor).isTruthy

/-- The answer of a count. -/
def fetchCount (count : Session (Except QueryError Query)) : Execution Nat := do
  let count ← Execution.ofExcept (← Execution.ofSession count)
  Execution.ofExcept (← count.fetchScalar executor).toCount

/-- The number of rows, counted in place if possible. -/
def resultCount : Execution Nat := fetchCount executor query.resultCountQuery

/-- The number of rows, counted by way of a nested query. -/
def totalCount : Execution Nat := fetchCount executor query.totalCountQuery

/-- One page of rows. -/
def fetchPage (request : PageRequest) : Execution Page := do
  let request := request.clamp
  let total ← query.totalCount executor
  let paged := (← Execution.ofSession query.clone).paginate request
  let items ← paged.fetchAll executor
  return { items, total, request, lastPage := request.lastPage total }

end Query

end SqlBuilder
