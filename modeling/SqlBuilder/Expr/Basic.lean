import SqlBuilder.Scalar

/-!
# Operands and expressions

The operands of a clause and the expressions that they are made of. Both are trees whose leaves
include nested queries and user-defined expressions; the types of these leaves are parameters, so
one definition serves what is to be built and what has been built.
-/

namespace SqlBuilder

mutual

/-- An operand of a clause. -/
inductive Operand (Nested Custom : Type) where
  /-- A column by its name. -/
  | column (name : String)
  /-- SQL text that is left as it is. -/
  | raw (sql : String)
  | scalar (value : Scalar)
  /-- The value behind a variant of an enumeration, written as a literal. -/
  | backing (value : Backing)
  | expr (expr : Expr Nested Custom)
  /-- A nested query in parentheses. -/
  | query (nested : Nested)
  /-- A user-defined expression. -/
  | custom (custom : Custom)

/-- An expression. -/
inductive Expr (Nested Custom : Type) where
  | between (lower upper : Operand Nested Custom)
  | inList (values : List (Operand Nested Custom))
  | isNull
  | exists (nested : Nested)
  | not (inner : Expr Nested Custom)
  | call (name : String) (arguments : List (Operand Nested Custom))
  | aggregate (name : String) (arguments : List (Operand Nested Custom)) (distinct : Bool)
  /-- Values joined to one text; terms of the order carry whether they descend. -/
  | groupConcat (value : Operand Nested Custom) (distinct : Bool)
      (order : List (Operand Nested Custom × Bool)) (separator : Option String)
      (limit offset : Option Nat)
  | ifElse (condition yes no : Operand Nested Custom)
  | ifNull (value fallback : Operand Nested Custom)
  | nullIf (value other : Operand Nested Custom)
  /-- A full-text search. -/
  | matchAgainst (fields : List (Operand Nested Custom)) (search : Operand Nested Custom)
      (booleanMode queryExpansion : Bool)
  /-- An operator between two operands, in parentheses. -/
  | operation (lhs : Operand Nested Custom) (operator : String) (rhs : Operand Nested Custom)
  /-- A nested query in parentheses. -/
  | nested (nested : Nested)
  /-- A nested query whose value goes to a session variable. -/
  | assign (name : String) (nested : Nested)
  | cast (value : Operand Nested Custom) (type : String)

end

namespace Expr

variable {Nested Custom : Type}

/-- Whether the text of the expression brings its own comparator. -/
def suppliesComparator : Expr Nested Custom → Bool
  | .between _ _ | .inList _ | .isNull => true
  | .not inner => inner.suppliesComparator
  | _ => false

/-- Membership in the rows of a query. -/
def inQuery (nested : Nested) : Expr Nested Custom := .inList [.query nested]

/-- A call with one argument. -/
def call1 (name : String) (argument : Operand Nested Custom) : Expr Nested Custom :=
  .call name [argument]

/-- Rounding to a number of places. -/
def round (value : Operand Nested Custom) (places : Int) : Expr Nested Custom :=
  .call "round" [value, .raw (toString places)]

/-- The remainder of a division. -/
def modulo (value divisor : Operand Nested Custom) : Expr Nested Custom :=
  .call "mod" [value, divisor]

/-- A part of a text. -/
def substring (value : Operand Nested Custom) (start count : Int) : Expr Nested Custom :=
  .call "substr" [value, .raw (toString start), .raw (toString count)]

/-- A text with a part replaced. -/
def replace (value search replacement : Operand Nested Custom) : Expr Nested Custom :=
  .call "replace" [value, search, replacement]

/-- The current date and time. -/
def now : Expr Nested Custom := .call "now" []

/-- A date under a format. -/
def dateFormat (value : Operand Nested Custom) (format : String) : Expr Nested Custom :=
  .call "date_format" [value, .scalar (.text format)]

/-- The number of rows with a value. -/
def count (value : Operand Nested Custom) : Expr Nested Custom := .aggregate "count" [value] false

/-- The number of different values. -/
def countDistinct (value : Operand Nested Custom) : Expr Nested Custom :=
  .aggregate "count" [value] true

/-- The functions of one column that are called by their own name. -/
def columnFunctions : List String :=
  ["abs", "ceil", "floor", "lower", "upper", "length", "trim", "date", "year", "month", "day",
    "hour", "minute", "second"]

/-- The aggregates of one column that are called by their own name. -/
def columnAggregates : List String := ["sum", "avg", "min", "max"]

/-- The function or aggregate of one column with a name. -/
def ofColumn? (name : String) (column : Operand Nested Custom) : Option (Expr Nested Custom) :=
  if name == "count" then some (count column)
  else if name == "count_distinct" then some (countDistinct column)
  else if columnAggregates.contains name then some (.aggregate name [column] false)
  else if columnFunctions.contains name then some (call1 name column)
  else none

/-- Both conditions. -/
def conjunction (lhs rhs : Operand Nested Custom) : Expr Nested Custom :=
  .operation lhs "and" rhs

/-- Either condition. -/
def disjunction (lhs rhs : Operand Nested Custom) : Expr Nested Custom :=
  .operation lhs "or" rhs

end Expr

end SqlBuilder
