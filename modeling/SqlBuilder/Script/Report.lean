import SqlBuilder.Script.Syntax

/-!
# Reports

What a script tells about its run: after every step a glance at the query, and what the step
returned.
-/

namespace SqlBuilder.Script

/-- A short view of a query. -/
structure Glance where
  sql : String := ""
  currentClause : Option String := none
  paramCount : Nat := 0
  deriving DecidableEq, Repr

/-- The short view of a query. -/
def Glance.ofQuery (query : Query) : Glance :=
  { sql := query.sql, currentClause := query.currentClause, paramCount := query.params.length }

/-- A value that a step returns. -/
inductive Answer where
  | text (value : String)
  | truth (value : Bool)
  | number (value : Nat)
  | fragment (fragment : Fragment)
  | relation (relation : Option Relation)
  | state (query : Query)
  | statement (statement : Statement)
  | debug (statement : Statement)
  | positional (sql : String) (values : List Scalar)
  | rows (rows : List Row)
  | row (row : Row)
  | scalar (value : Scalar)
  | page (page : Page)

/-- The steps of a callback. -/
inductive BodyReport (Report : Type) where
  /-- The step has no callback. -/
  | absent
  /-- The callback was not run. -/
  | skipped
  | ran (reports : List Report)

/-- What a step did. -/
inductive Report where
  | mk (glance : Glance) (error : Option QueryError) (answer : Option Answer)
      (body : BodyReport Report) (made : Option Glance) (trace : Option Trace)

namespace Report

/-- A step that returned nothing. -/
def done : Report := .mk {} none none .absent none none

/-- A step that failed. -/
def failed (error : QueryError) : Report := .mk {} (some error) none .absent none none

/-- A step that returned a value. -/
def answered (answer : Answer) : Report := .mk {} none (some answer) .absent none none

/-- A step that made another query. -/
def made (query : Query) : Report := .mk {} none none .absent (some (.ofQuery query)) none

/-- A step that ran a callback. -/
def withBody (reports : List Report) : Report := .mk {} none none (.ran reports) none none

/-- A step that did not run its callback. -/
def skipped : Report := .mk {} none none .skipped none none

/-- A step that returned nothing or failed. -/
def ofExcept : Except QueryError Unit → Report
  | .ok () => done
  | .error error => failed error

/-- A step that returned a value or failed. -/
def ofAnswer : Except QueryError Answer → Report
  | .ok answer => answered answer
  | .error error => failed error

/-- A step that ran a callback or failed before. -/
def ofBody : Except QueryError (List Report) → Report
  | .ok reports => withBody reports
  | .error error => .mk {} (some error) none .skipped none none

/-- A step that ran statements. -/
def ofRun (result : Except QueryError Answer) (trace : Trace) : Report :=
  match ofAnswer result with
  | .mk glance error answer body made _ => .mk glance error answer body made (some trace)

/-- The report with a look at the query after the step. -/
def seen (query : Query) : Report → Report
  | .mk _ error answer body made trace => .mk (.ofQuery query) error answer body made trace

end Report

end SqlBuilder.Script
