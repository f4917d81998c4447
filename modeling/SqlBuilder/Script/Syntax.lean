import SqlBuilder.Execution
import SqlBuilder.Query.Condition
import SqlBuilder.Query.Join

/-!
# Scripts

A script is a program of builder calls as data. Its steps name the queries that they work on, and
the operands of a step are drafts: trees whose leaves tell how a nested query or a user-defined
expression is made.
-/

namespace SqlBuilder.Script

/-- A look at a query that leaves it as it is. -/
inductive View where
  | hasClause (keyword : String)
  | relation (name : String)
  | state
  | validate
  | build
  | debug
  | positional
  | quote (value : Scalar)
  | escape (name : String)

/-- A query that is made from another. -/
inductive CopyKind where
  | clone
  | fresh
  | explain
  | resultCount
  | totalCount
  deriving DecidableEq, Repr

/-- A way to run a query. -/
inductive FetchKind where
  | all
  | one
  | scalar
  | execute
  | hasRows
  | resultCount
  | totalCount
  | page (request : PageRequest)
  deriving DecidableEq, Repr

/-- The answers of an executor that are settled beforehand. -/
structure Responses where
  rows : List Row := []
  scalar : Scalar := .null
  affected : Nat := 0
  /-- With a reason, every statement fails. -/
  failure : Option String := none

/-- The executor that gives these answers. -/
def Responses.toExecutor (responses : Responses) : Executor :=
  let answer {α : Type} (value : α) : Except QueryError α :=
    match responses.failure with
    | some reason => .error (.notFound reason)
    | none => .ok value
  { rows := fun _ => answer responses.rows
    scalar := fun _ => answer responses.scalar
    affected := fun _ => answer responses.affected }

mutual

/-- A builder call on the query at hand. -/
inductive Step where
  | add (fragment : Fragment)
  | removeClause (keyword : String)
  | replaceClause (keyword : String) (replacement : Fragment)
  | merge (other : QueryDraft)
  | parenthesis (pull : Bool) (body : List Step)
  | raw (sql : String)
  | bindModel (model : Model)
  | view (view : View)
  | compileOperand (operand : Operand QueryDraft CustomDraft)
  | bindScalar (value : Scalar)
  | compileExpr (expr : Expr QueryDraft CustomDraft)
  | copy (kind : CopyKind) (name : String)
  | select (distinct : Bool) (columns : List (Operand QueryDraft CustomDraft))
  | selectAs (column : Operand QueryDraft CustomDraft) (label : String)
  | selectRaw (sql : String)
  | source (table : String) (label : Option String)
  | sourceQuery (nested : QueryDraft) (label : String)
  /-- A join; without a body its conditions are not reported. -/
  | join (kind : JoinKind) (table : String) (label : Option String) (body : Option (List Step))
  | addTerms (clause : ListClause) (columns : List (Operand QueryDraft CustomDraft))
  | addOrder (column : Operand QueryDraft CustomDraft) (descends : Bool)
  | addOrderRaw (sql : String)
  | limit (count : Nat)
  | offset (count : Nat)
  | paginate (request : PageRequest)
  | union (keepsDuplicates : Bool) (other : QueryDraft)
  | addCommonTable (isRecursive : Bool) (name : String) (nested : QueryDraft)
  | lockForUpdate
  | condition (clause : ConditionClause) (connective : Connective)
      (predicate : Predicate QueryDraft CustomDraft)
  | filterIn (negated : Bool) (lhs : Operand QueryDraft CustomDraft)
      (values : List (Operand QueryDraft CustomDraft))
  | conditionGroup (connective : Connective) (body : List Step)
  | addExpression (keyword : String) (lhs : Option (Operand QueryDraft CustomDraft))
      (comparator : Option String) (rhs : Option (Operand QueryDraft CustomDraft))
  | addPredicate (keyword : String) (predicate : Predicate QueryDraft CustomDraft)
  | filterByKey (values : List (Operand QueryDraft CustomDraft))
  | filterByKeys (rows : List (List (Operand QueryDraft CustomDraft)))
  | filterHas (relation : String) (body : List Step)
  | insertInto (replaces : Bool) (table : String) (columns : List String)
  | values (row : List (Operand QueryDraft CustomDraft))
  | update (table : String)
  | assign (column value : Operand QueryDraft CustomDraft)
  | assignRaw (column sql : String)
  | deleteFrom (table : String)
  | onConflictUpdate (conflict columns : List String)
  | onConflictDoNothing (conflict : List String)
  | returning (columns : List (Operand QueryDraft CustomDraft))
  | fetch (kind : FetchKind) (responses : Responses)

/-- How a nested query is made. -/
inductive QueryDraft where
  /-- A new query, changed by steps. -/
  | recipe (connection : Option Connection) (model : Option Model) (table : Option String)
      (steps : List Step)
  /-- A named query, which loses its name. -/
  | take (name : String)
  /-- A copy of a named query. -/
  | clone (name : String)

/-- How a user-defined expression is made. -/
inductive CustomDraft where
  | mk (parts : List TextPart) (suppliesComparator : Bool) (before after : List Step)

/-- A part of the text of a user-defined expression. -/
inductive TextPart where
  | text (sql : String)
  | operand (operand : Operand QueryDraft CustomDraft)
  | bind (value : Scalar)

end

/-- An operand that is not built yet. -/
abbrev Draft := Operand QueryDraft CustomDraft

/-- An expression that is not built yet. -/
abbrev ExprDraft := Expr QueryDraft CustomDraft

/-- A predicate that is not built yet. -/
abbrev PredicateDraft := Predicate QueryDraft CustomDraft

/-- What a query of its own starts from. -/
structure Origin where
  connection : Option Connection := none
  model : Option Model := none
  table : Option String := none

/-- A step of a program. -/
inductive Command where
  /-- Makes a query and names it. -/
  | create (name : String) (origin : Origin)
  /-- Runs a builder call on a named query. -/
  | on (name : String) (step : Step)

/-- A program: commands on named queries, the first of which is there from the start. -/
structure Program where
  connection : Connection
  model : Option Model := none
  commands : List Command

/-- The name of the query that is there from the start. -/
def firstName : String := "q"

end SqlBuilder.Script
