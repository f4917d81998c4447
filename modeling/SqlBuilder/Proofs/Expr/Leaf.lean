import SqlBuilder.Expr.Predicate

/-!
# Leaves of operands

What the text of an operand depends on besides names and words of the grammar: verbatim SQL, values
that are bound or written as literals, nested queries and user-defined expressions. Inside an
expression, texts, truth values and null are literals.

Drafts, built operands and pairs of built operands are trees of one kind, so the leaves of all of
them are listed by the same functions.
-/

namespace SqlBuilder

/-- A leaf of an operand. -/
inductive Leaf (Nested Custom : Type) where
  | verbatim (text : String)
  | bound (value : Scalar)
  | literal (value : Scalar)
  | nested (nested : Nested)
  | custom (custom : Custom)

/-- The value of a leaf that is one. -/
def Leaf.scalar? {Nested Custom : Type} : Leaf Nested Custom → Option Scalar
  | .bound value | .literal value => some value
  | _ => none

/-- The leaves of a value inside an expression, where texts, truth values and null are literals. -/
def Scalar.leaves {Nested Custom : Type} : Scalar → List (Leaf Nested Custom)
  | .text content => [.literal (.text content)]
  | .bool value => [.literal (.bool value)]
  | .null => [.literal .null]
  | value => [.bound value]

theorem Scalar.leaves_eq (value : Scalar) :
    (∀ Nested Custom : Type, (value.leaves : List (Leaf Nested Custom)) = [.literal value]) ∨
      ∀ Nested Custom : Type, (value.leaves : List (Leaf Nested Custom)) = [.bound value] := by
  cases value <;> simp [leaves]

variable {Nested Custom : Type}

mutual

/-- The leaves of an operand. -/
def Operand.leaves : Operand Nested Custom → List (Leaf Nested Custom)
  | .column _ => []
  | .raw sql => [.verbatim sql]
  | .scalar value => value.leaves
  | .backing _ => []
  | .expr expr => expr.leaves
  | .query nested => [.nested nested]
  | .custom custom => [.custom custom]

/-- The leaves of operands. -/
def Operand.leavesAll : List (Operand Nested Custom) → List (Leaf Nested Custom)
  | [] => []
  | operand :: rest => operand.leaves ++ Operand.leavesAll rest

/-- The leaves of the terms of an order. -/
def Operand.leavesOrder : List (Operand Nested Custom × Bool) → List (Leaf Nested Custom)
  | [] => []
  | (operand, _) :: rest => operand.leaves ++ Operand.leavesOrder rest

/-- The leaves of an expression. -/
def Expr.leaves : Expr Nested Custom → List (Leaf Nested Custom)
  | .between lower upper => lower.leaves ++ upper.leaves
  | .inList values => Operand.leavesAll values
  | .isNull => []
  | .exists nested => [.nested nested]
  | .not inner => inner.leaves
  | .call name arguments => .verbatim name :: Operand.leavesAll arguments
  | .aggregate name arguments _ => .verbatim name :: Operand.leavesAll arguments
  | .groupConcat value _ order _ _ _ => value.leaves ++ Operand.leavesOrder order
  | .ifElse condition yes no => condition.leaves ++ (yes.leaves ++ no.leaves)
  | .ifNull value fallback => value.leaves ++ fallback.leaves
  | .nullIf value other => value.leaves ++ other.leaves
  | .matchAgainst fields search _ _ => Operand.leavesAll fields ++ search.leaves
  | .operation lhs operator rhs => .verbatim operator :: (lhs.leaves ++ rhs.leaves)
  | .nested nested => [.nested nested]
  | .assign name nested => [.verbatim name, .nested nested]
  | .cast value type => .verbatim type :: value.leaves

end

/-- The leaves of an item, a term or a part of a predicate, where every value is bound. -/
def Operand.resolvedLeaves : Operand Nested Custom → List (Leaf Nested Custom)
  | .scalar value => [.bound value]
  | operand => operand.leaves

/-- The leaves of a predicate. Equality with null binds nothing on its right. -/
def Predicate.leaves : Predicate Nested Custom → List (Leaf Nested Custom)
  | .single operand => operand.resolvedLeaves
  | .pair lhs (.scalar .null) => lhs.resolvedLeaves ++ [.literal .null]
  | .pair lhs rhs => lhs.resolvedLeaves ++ rhs.resolvedLeaves
  | .compare lhs comparator rhs =>
    .verbatim comparator :: (lhs.resolvedLeaves ++ rhs.resolvedLeaves)

end SqlBuilder
