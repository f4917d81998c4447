import SqlBuilder.Expr.Basic

/-!
# Predicates

The shapes of a condition: one operand, two operands that are equal, or two operands with a
comparator between them. A comparator never stands alone.
-/

namespace SqlBuilder

/-- A condition. -/
inductive Predicate (Nested Custom : Type) where
  | single (operand : Operand Nested Custom)
  /-- Equality, unless the right operand brings its own comparator. -/
  | pair (lhs rhs : Operand Nested Custom)
  | compare (lhs : Operand Nested Custom) (comparator : String) (rhs : Operand Nested Custom)

namespace Predicate

variable {Nested Custom : Type}

/-- SQL text as a condition. -/
def raw (sql : String) : Predicate Nested Custom := .single (.raw sql)

/-- Membership in the rows of a query. -/
def inQuery (lhs : Operand Nested Custom) (nested : Nested) : Predicate Nested Custom :=
  .pair lhs (.expr (.inQuery nested))

/-- Membership in a list, or its opposite. -/
def inList (negated : Bool) (lhs : Operand Nested Custom)
    (values : List (Operand Nested Custom)) : Predicate Nested Custom :=
  .pair lhs (.expr (if negated then .not (.inList values) else .inList values))

/-- The absence of a value. -/
def null (lhs : Operand Nested Custom) : Predicate Nested Custom := .pair lhs (.expr .isNull)

/-- The presence of a value. -/
def notNull (lhs : Operand Nested Custom) : Predicate Nested Custom :=
  .pair lhs (.expr (.not .isNull))

/-- A value within bounds. -/
def between (lhs lower upper : Operand Nested Custom) : Predicate Nested Custom :=
  .pair lhs (.expr (.between lower upper))

/-- A value outside bounds. -/
def notBetween (lhs lower upper : Operand Nested Custom) : Predicate Nested Custom :=
  .pair lhs (.expr (.not (.between lower upper)))

/-- A query with rows. -/
def hasRows (nested : Nested) : Predicate Nested Custom := .single (.expr (.exists nested))

/-- A query without rows. -/
def hasNoRows (nested : Nested) : Predicate Nested Custom :=
  .single (.expr (.not (.exists nested)))

/-- A full-text search. -/
def matchAgainst (fields : List (Operand Nested Custom)) (search : Operand Nested Custom)
    (booleanMode queryExpansion : Bool) : Predicate Nested Custom :=
  .single (.expr (.matchAgainst fields search booleanMode queryExpansion))

/-- The operands in order. -/
def operands : Predicate Nested Custom → List (Operand Nested Custom)
  | .single operand => [operand]
  | .pair lhs rhs => [lhs, rhs]
  | .compare lhs _ rhs => [lhs, rhs]

end Predicate

end SqlBuilder
