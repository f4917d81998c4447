import SqlBuilder.Expr.Compile
import SqlBuilder.Query.Group

/-!
# Conditions

Conditions of `where`, `having` and `on`. The first one takes the keyword of its clause, later ones
a connective. Whether a join has a condition already is a flag of the query, since every join starts
an `on` of its own.
-/

namespace SqlBuilder

/-- A clause of conditions. -/
inductive ConditionClause where
  | filter
  | groupFilter
  | join
  deriving DecidableEq, Repr

/-- The keyword of the first condition. -/
def ConditionClause.keyword : ConditionClause → String
  | .filter => "where"
  | .groupFilter => "having"
  | .join => "on"

namespace Query

variable (query : Query)

/-- Whether a clause has a condition. -/
def hasCondition : ConditionClause → Bool
  | .join => query.onDefined
  | clause => query.hasClause clause.keyword

/-- The keyword of the next condition of a clause; what was pending is used up. -/
def nextKeyword (clause : ConditionClause) (connective : Connective) : String × Query :=
  (if query.hasCondition clause then (query.pending.getD connective).keyword else clause.keyword,
    { query with pending := none, onDefined := query.onDefined || clause == .join })

end Query

namespace Edit

variable {α : Type}

/-- Runs the steps of user-defined expressions in order. -/
def runAll : List (Edit Unit) → Edit Unit
  | [] => return
  | step :: rest => do
    step
    runAll rest

/-- Adds a predicate under a keyword, between the steps of its user-defined expressions. -/
def addPredicate (keyword : String) (predicate : Predicate Query CustomExpr) : Edit Unit := do
  runAll (predicate.customs.map (·.before))
  let text ← compiling fun connection => predicate.compile connection
  modify (·.addText keyword text)
  runAll (predicate.customs.map (·.after))

/-- Adds a condition to a clause. -/
def condition (clause : ConditionClause) (connective : Connective)
    (predicate : Predicate Query CustomExpr) : Edit Unit := do
  let keyword ← modifyGet (·.nextKeyword clause connective)
  addPredicate keyword predicate

/-- Adds a condition on the rows. -/
def filter (predicate : Predicate Query CustomExpr) : Edit Unit :=
  condition .filter .and predicate

/-- Adds membership in a list, or its opposite. No value is in the empty list. -/
def filterIn (negated : Bool) (lhs : Value) (values : List Value) : Edit Unit :=
  if values.isEmpty then filter (.raw (if negated then "1 = 1" else "1 = 0"))
  else filter (.inList negated lhs values)

/-- Adds a predicate given by its parts, if they make one. -/
def addExpression (keyword : String) (lhs : Option Value) (comparator : Option String)
    (rhs : Option Value) : Edit (Except QueryError Unit) :=
  match lhs, comparator, rhs with
  | some lhs, none, none => .ok <$> addPredicate keyword (.single lhs)
  | some lhs, none, some rhs => .ok <$> addPredicate keyword (.pair lhs rhs)
  | some lhs, some comparator, some rhs =>
    .ok <$> addPredicate keyword (.compare lhs comparator rhs)
  | some _, some comparator, none =>
    return .error (.invalidExpression
      ("comparator \x60" ++ comparator ++ "\x60 has no right-hand side"))
  | none, _, _ => return .error (.invalidExpression "expression has no left-hand side")

end Edit

end SqlBuilder
