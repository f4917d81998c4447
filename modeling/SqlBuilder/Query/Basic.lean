import SqlBuilder.Connection
import SqlBuilder.Fragment
import SqlBuilder.Model
import SqlBuilder.Statement.Basic

/-!
# Queries

A query is a list of fragments with the parameters that they refer to, and what the next call has to
know: where fragments go, which clause was added last, whether the join being built has a condition.

Compiling an operand touches the `Ledger` of a query only, that is its parameters and the first
fault. Queries that are built together share a `Workspace`, which hands out the namespaces of
parameters and knows whether a call had no result, which ends the run.
-/

namespace SqlBuilder

/-- What stands between two conditions. -/
inductive Connective where
  | and
  | or
  deriving DecidableEq, Repr

/-- The connective as a keyword. -/
def Connective.keyword : Connective → String
  | .and => "and"
  | .or => "or"

/-- What compiling operands adds to: the parameters, and the first fault. -/
structure Ledger where
  params : ParamList
  fault : Option Fault := none

namespace Ledger

/-- Records a fault unless there is one already. -/
def record (fault : Fault) (ledger : Ledger) : Ledger :=
  { ledger with fault := ledger.fault.or (some fault) }

/-- Takes over the parameters and the fault of another query. -/
def adopt (ledger other : Ledger) : Ledger :=
  { params := ledger.params.extend other.params, fault := ledger.fault.or other.fault }

end Ledger

/-- A query under construction. -/
structure Query where
  connection : Connection
  ledger : Ledger
  fragments : List Fragment := []
  /-- The keyword that was added last, marks of one octet apart. -/
  currentClause : Option String := none
  /-- Whether the join being built has a condition. -/
  onDefined : Bool := false
  /-- The place of the next fragment; the end if absent or out of reach. -/
  cursor : Option Nat := none
  /-- The connective that the next condition has to take. -/
  pending : Option Connective := none
  model : Option Model := none

/-- Named queries, the namespaces that are still free, and whether the run was aborted. -/
structure Workspace where
  nextNamespace : Nat := 1
  queries : List (String × Query) := []
  /-- Whether some call had no result. The run ends there: what the calls behind it would do is no
  part of its outcome. -/
  aborted : Bool := false

/-- Steps that take namespaces and name queries. -/
abbrev Session := StateM Workspace

/-- Steps that compile operands of one query. -/
abbrev Compile := StateT Ledger Session

/-- Steps that change one query. -/
abbrev Edit := StateT Query Session

namespace Workspace

/-- Takes the next free namespace. -/
def takeNamespace : Session Nat :=
  modifyGet fun workspace =>
    (workspace.nextNamespace, { workspace with nextNamespace := workspace.nextNamespace + 1 })

/-- Ends the run if a call has no result. -/
def abortIf (lacksResult : Bool) (workspace : Workspace) : Workspace :=
  { workspace with aborted := lacksResult || workspace.aborted }

@[simp] theorem abortIf_false (workspace : Workspace) : workspace.abortIf false = workspace := rfl

/-- The query of a name. -/
def get? (workspace : Workspace) (name : String) : Option Query :=
  (workspace.queries.find? (·.1 == name)).map (·.2)

/-- The workspace without the query of a name. -/
def erase (workspace : Workspace) (name : String) : Workspace :=
  { workspace with queries := workspace.queries.filter (·.1 != name) }

/-- Gives a query a name; the query that had it is dropped. -/
def insert (workspace : Workspace) (name : String) (query : Query) : Workspace :=
  { workspace with
    queries := workspace.queries.filter (·.1 != name) ++ [(name, query)] }

@[simp] theorem abortIf_get? (lacksResult : Bool) (workspace : Workspace) (name : String) :
    (workspace.abortIf lacksResult).get? name = workspace.get? name := rfl

end Workspace

namespace Query

/-- An empty query with its own namespace. -/
def new (connection : Connection) : Session Query := do
  return { connection, ledger := { params := { namespaceId := ← Workspace.takeNamespace } } }

/-- An empty query of a model. -/
def forModel (connection : Connection) (model : Model) : Session Query := do
  return { (← new connection) with model := some model }

/-- An empty query on the same connection. -/
def fresh (query : Query) : Session Query := new query.connection

/-- A copy that names further parameters in a namespace of its own. -/
def clone (query : Query) : Session Query := do
  let params := query.ledger.params.fork (← Workspace.takeNamespace)
  return { query with ledger := { query.ledger with params } }

variable (query : Query)

/-- The parameters in the order in which they were added. -/
def params : List Param := query.ledger.params.entries

/-- Whether values are bound rather than written inline. -/
def isPrepared : Bool := query.connection.config.prepared

/-- The separator between the items of a list. -/
def columnSeparator : String := query.connection.grammar.columnSeparator

/-- The SQL text. -/
def sql : String := renderFragments query.columnSeparator query.fragments

/-- The kind of the query's statement. -/
def kind : StatementKind := if query.isPrepared then .prepared else .raw

/-- The first fault that was recorded, as an error. -/
def validate : Except QueryError Unit :=
  match query.ledger.fault with
  | some fault => .error fault.toError
  | none => .ok ()

/-- The statement, whether or not there was a fault. -/
def statement : Statement :=
  { sql := query.sql, params := query.params, kind := query.kind }

/-- The statement, unless there was a fault. -/
def build : Except QueryError Statement := do
  query.validate
  return query.statement

/-- Whether the dialect has a construct. -/
def supports (feature : Feature) : Bool := query.connection.grammar.supports feature

/-- Fails unless the dialect has a construct. -/
def ensure (feature : Feature) : Except QueryError Unit :=
  if query.supports feature then .ok ()
  else .error (.unsupported query.connection.grammar.name feature.text)

/-- A name as SQL text. -/
def escape (name : String) : String := query.connection.grammar.escapeIdentifier name

/-- A single name, such as an alias, as SQL text. -/
def escapePart (name : String) : String := query.connection.grammar.escapePart name

/-- A name with an alias as SQL text. -/
def escapeAs (name : String) : Option String → String
  | none => query.escape name
  | some label => query.escape name ++ " as " ++ query.escapePart label

end Query

end SqlBuilder
